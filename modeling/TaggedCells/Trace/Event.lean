import TaggedCells.Failure.Code

/-!
# Events

What a trace can tell of: a step in the life of a cell, an algorithm that ran over an array, or
an operation that failed. A record is an event with an identifier, the step of the program it
belongs to, and the time at which it was made.
-/

set_option autoImplicit false

namespace TaggedCells.Trace

/-- Something that happened. -/
inductive Event where
  /-- A cell of the kind came to be. -/
  | create (kind : Kind)
  /-- A cell of the kind was copied. -/
  | copy (kind : Kind)
  /-- Contents of the kind were moved out of a cell. -/
  | move (kind : Kind)
  /-- A cell of the kind was erased. -/
  | erase (kind : Kind)
  /-- An operation ran over an array of elements of the kind. -/
  | algorithm (operation : String) (kind : Kind) (before after : Nat)
  /-- An operation failed. -/
  | failure (operation : String) (code : Code) (message : String)
  deriving DecidableEq, Repr

/-- What events are counted and muted by. -/
inductive Category where
  | lifecycle
  | algorithm
  | failure
  deriving DecidableEq, Repr

namespace Category

/-- Every category, in declaration order. -/
def all : List Category := [.lifecycle, .algorithm, .failure]

/-- The lowercase name. -/
def name : Category → String
  | .lifecycle => "lifecycle"
  | .algorithm => "algorithm"
  | .failure => "failure"

end Category

namespace Event

/-- The event of an operation that failed. -/
def ofFailure (operation : String) (failure : Failure) : Event :=
  .failure operation failure.code failure.message

/-- The lowercase name. -/
def name : Event → String
  | .create _ => "create"
  | .copy _ => "copy"
  | .move _ => "move"
  | .erase _ => "erase"
  | .algorithm .. => "algorithm"
  | .failure .. => "failure"

/-- The category that the event belongs to. -/
def category : Event → Category
  | .create _ | .copy _ | .move _ | .erase _ => .lifecycle
  | .algorithm .. => .algorithm
  | .failure .. => .failure

end Event

/-- An event as it was recorded. -/
structure Record where
  id : Nat
  step : Nat
  /-- Nanoseconds since the tracer was started. -/
  timestamp : Nat
  event : Event
  deriving DecidableEq, Repr

end TaggedCells.Trace

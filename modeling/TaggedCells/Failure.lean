import TaggedCells.Kind

/-!
# Failures

An operation that cannot be done says why. A failure has a cause, one of nine, and possibly a
context that says where it arose: the operation that was running, the position of the element
that was being handled, or both. The cause decides the message; the context is written apart
from it.

Attaching a context replaces an earlier one. A failure that passes through several layers
therefore reports the outermost layer that attached a context.
-/

set_option autoImplicit false

namespace TaggedCells

/-- Why an operation could not be done. -/
inductive Cause where
  /-- A required cell was erased or moved from, or a required sequence was empty. -/
  | nullInput (operation : String)
  /-- Two kinds had to agree and did not. -/
  | typeMismatch (expected actual : Kind)
  /-- An index or a count was outside its bounds. -/
  | badRange (index length : Nat)
  /-- A number did not fit the bounds of its kind. -/
  | overflow (kind : Kind)
  /-- More storage was asked for than there can be. -/
  | allocation
  /-- A search came to its end. -/
  | notFound
  /-- The operation has no meaning for the kind. -/
  | invalidOperation (operation : String) (kind : Kind)
  /-- The operation handles scalars only. -/
  | unsupported (operation : String) (kind : Kind)
  /-- A kind that cannot be interpreted. -/
  | unknown (kind : Kind)
  deriving DecidableEq, Repr

/-- Where a failure arose. -/
structure Context where
  operation : Option String := none
  index : Option Nat := none
  deriving DecidableEq, Repr

/-- A cause, and a context if one was attached. -/
structure Failure where
  cause : Cause
  context : Option Context := none
  deriving DecidableEq, Repr

/-! ## Wording -/

/-- The one-line message of a cause. -/
def Cause.message : Cause → String
  | .nullInput operation => "null input to " ++ operation
  | .typeMismatch expected actual =>
      "type mismatch: expected " ++ expected.name ++ ", got " ++ actual.name
  | .badRange index length =>
      "index out of range: " ++ toString index ++ " (length " ++ toString length ++ ")"
  | .overflow kind => "value out of range for " ++ kind.name
  | .allocation =>
      "allocation failure: memory allocation failed because the computed capacity exceeded "
        ++ "the collection's maximum"
  | .notFound => "element not found"
  | .invalidOperation operation kind => operation ++ " is not defined for " ++ kind.name
  | .unsupported operation kind => operation ++ " does not support " ++ kind.name
  | .unknown kind => "unknown kind: " ++ kind.name

/-- The context in words: the operation, the element, both with a space between, or nothing. -/
def Context.text (context : Context) : String :=
  let operation := context.operation.map ("in " ++ ·)
  let element := context.index.map fun index => "at element " ++ toString index
  " ".intercalate (operation.toList ++ element.toList)

namespace Failure

/-- The message is that of the cause. -/
def message (failure : Failure) : String := failure.cause.message

/-- A failure without a context. -/
def ofCause (cause : Cause) : Failure := ⟨cause, none⟩

/-- Attaches a context in place of any earlier one. -/
def within (failure : Failure) (context : Context) : Failure :=
  { failure with context := some context }

/-- Names the operation in the context and keeps the position that stands there. -/
def during (failure : Failure) (operation : String) : Failure :=
  failure.within { failure.context.getD {} with operation := some operation }

end Failure

instance : Coe Cause Failure := ⟨Failure.ofCause⟩

/-- Gives up because of a cause, without a context. -/
def Cause.raise {α : Type} (cause : Cause) : Except Failure α := .error (.ofCause cause)

/-- Gives up because of a cause, in a context. -/
def Cause.raiseIn {α : Type} (cause : Cause) (context : Context) : Except Failure α :=
  .error ⟨cause, some context⟩

/-- The outcome, with the context attached to it if it is a failure. -/
def located {α : Type} (outcome : Except Failure α) (context : Context) : Except Failure α :=
  outcome.mapError (·.within context)

end TaggedCells

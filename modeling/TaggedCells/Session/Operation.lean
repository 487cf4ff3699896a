import TaggedCells.Cell.Life
import TaggedCells.Cell.Compare
import TaggedCells.CellArray.Builder
import TaggedCells.CellArray.Bulk
import TaggedCells.CellArray.Rearrangement
import TaggedCells.Search
import TaggedCells.Sorting
import TaggedCells.Stamped
import TaggedCells.Trace.Event

/-!
# Operations of a session

A session offers the operations on cells under one roof. Each acts on a cell, and some take
further cells or functions of the caller. Here an operation is a value: it can be acted out on
a cell, which is no more than calling what it stands for, and it says which event is to be
recorded of it afterwards.
-/

set_option autoImplicit false

namespace TaggedCells

open Randomness (Generator)
open Trace (Event)

/-- An operation on a cell, with functions of the caller that run in `m`. -/
inductive Operation (m : Type → Type) where
  /-- Makes a cell of a kind out of a given one; the cell acted on plays no part. -/
  | create (kind : Kind) (source : Cell)
  /-- Makes the zero of a kind; the cell acted on plays no part. -/
  | createZero (kind : Kind)
  /-- Makes an array of given cells; the cell acted on plays no part. -/
  | createArray (kind : Kind) (count : Nat) (sources : List Cell)
  | copy
  | move
  | erase
  /-- Sorts with the algorithm that the session is set to. -/
  | sort
  | sortWith (algorithm : SortAlgorithm)
  | searchLinear (key : Cell)
  | searchBinary (key : Cell)
  | transform (f : Int → m Int)
  | filter (keep : Cell → m Bool)
  | reduce (combine : Cell → Cell → m Cell)
  | accumulate
  | split (wanted : Cell → m Bool)
  | visit (visitor : Cell → m Unit)
  | reverse
  | shuffle
  /-- Compares the cell acted on with another. -/
  | compare (other : Cell)

/-- What an operation answers. -/
inductive Reply where
  | done
  | cell (cell : Cell)
  | stamped (stamped : Stamped)
  | halves (matching others : Cell)
  | position (index : Nat)
  | order (order : Ordering)
  deriving DecidableEq

namespace Operation

variable {m : Type → Type} [Monad m]

/-- The name that a failure of the operation is recorded under. -/
def name : Operation m → String
  | .create .. | .createZero _ => "create"
  | .createArray .. => "create_array"
  | .copy => "copy"
  | .move => "move"
  | .erase => "erase"
  | .sort | .sortWith _ => "sort"
  | .searchLinear _ => "search_linear"
  | .searchBinary _ => "search_binary"
  | .transform _ => "transform"
  | .filter _ => "filter"
  | .reduce _ => "reduce"
  | .accumulate => "accumulate"
  | .split _ => "partition"
  | .visit _ => "for_each"
  | .reverse => "reverse"
  | .shuffle => "shuffle"
  | .compare _ => "compare"

/-- Acts the operation out. Sorting means the given algorithm, and shuffling draws from the
generator. -/
def act (algorithm : SortAlgorithm) :
    Operation m → Edit Cell (StateT Generator m) Reply
  | .create kind source => do return .cell (← Cell.create kind source)
  | .createZero kind => return .cell (Cell.zero kind)
  | .createArray kind count sources => do return .cell (← Cell.createArray kind count sources)
  | .copy => do return .cell (← (← get).copy)
  | .move => do return .cell (← Cell.move)
  | .erase => do
      Cell.erase
      return .done
  | .sort => do
      Cell.sort algorithm
      return .done
  | .sortWith chosen => do
      Cell.sort chosen
      return .done
  | .searchLinear key => do return .position (← Search.linear.find (← get) key)
  | .searchBinary key => do return .position (← Search.binary.find (← get) key)
  | .transform f => do
      Cell.transform fun number => (f number : StateT Generator m Int)
      return .done
  | .filter keep => do
      Cell.filter fun element => (keep element : StateT Generator m Bool)
      return .done
  | .reduce combine => do
      Cell.reduce fun held element => (combine held element : StateT Generator m Cell)
      return .done
  | .accumulate => do
      Cell.accumulate
      return .stamped (.ofCell (← get))
  | .split wanted => do
      let parts ← (((← get).split wanted).run : m _)
      let (matching, others) ← parts
      return .halves matching others
  | .visit visitor => do
      let visited ← (((← get).visit visitor).run : m _)
      visited
      return .done
  | .reverse => do
      Cell.reverse
      return .done
  | .shuffle => do
      Cell.shuffle (chooseFrom Generator)
      return .done
  | .compare other => do return .order (← (← get).order other)

/-- The kind of the elements and the length of an array, and for any other cell its own kind
and no length. -/
def shape : Cell → Kind × Nat
  | .array kind elements => (kind, elements.length)
  | cell => (cell.kind, 0)

/-- The event of an operation that succeeded, from the cell before and after it. -/
def event (operation : Operation m) (before after : Cell) : Event :=
  match operation with
  | .create kind _ => .create kind
  | .createZero kind => .create (Cell.zero kind).kind
  | .createArray .. => .create .array
  | .copy => .copy before.kind
  | .move => .move before.kind
  | .erase => .erase before.kind
  | other => .algorithm other.name (shape before).1 (shape before).2 (shape after).2

/-- The event that is recorded of an operation, whatever its outcome. -/
def outcomeEvent {α : Type} (operation : Operation m) (before after : Cell)
    (outcome : Except Failure α) : Event :=
  match outcome with
  | .ok _ => operation.event before after
  | .error failure => .ofFailure operation.name failure

end Operation
end TaggedCells

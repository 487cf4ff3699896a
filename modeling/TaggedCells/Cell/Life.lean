import TaggedCells.Cell
import TaggedCells.Edit

/-!
# The life of a cell

A copy is a cell of its own with the same contents, nested cells included. An erased cell and a
cell that cannot be interpreted have no contents to copy, and a compound cell that has one of
them inside cannot be copied either. The cells are visited depth first, the elements of an
array by position and the entries of a map in order with the key before its value, so the first
such cell on the way decides the failure.

A failure inside an array says at which element it arose. An array around that array replaces
this with its own position, so the position reported is that of the outermost array.

A clone is made of every cell, erased and uninterpretable ones included, so it cannot fail.

A cell is created from a payload of the kind that is asked for, or with the zero of a kind. Only
constructible kinds can be created from a payload. The contents of a cell can be moved out or given
up. Either leaves an erased cell behind, and neither can be done to a cell that is erased already.
-/

set_option autoImplicit false

namespace TaggedCells.Cell

/-! ## Copying -/

mutual

/-- A copy of the cell. -/
def copy : Cell → Except Failure Cell
  | .invalid => (Cause.nullInput "copy").raise
  | .unknown => (Cause.unknown .unknown).raise
  | .array kind elements => do return .array kind (← copyFrom 0 elements)
  | .map entries => do return .map (← copyEntries entries)
  | scalar => .ok scalar

/-- Copies of the elements of an array, the first of them at position `first`. -/
def copyFrom (first : Nat) : List Cell → Except Failure (List Cell)
  | [] => .ok []
  | cell :: rest => do
      let copied ← located (copy cell) { operation := "copy", index := first }
      return copied :: (← copyFrom (first + 1) rest)

/-- Copies of the entries of a map. -/
def copyEntries : List (Cell × Cell) → Except Failure (List (Cell × Cell))
  | [] => .ok []
  | (key, value) :: rest => do
      let entry := (← copy key, ← copy value)
      return entry :: (← copyEntries rest)

end

mutual

/-- The cell once more. -/
def clone : Cell → Cell
  | .array kind elements => .array kind (cloneAll elements)
  | .map entries => .map (cloneEntries entries)
  | scalar => scalar

/-- Clones of the elements of an array. -/
def cloneAll : List Cell → List Cell
  | [] => []
  | cell :: rest => clone cell :: cloneAll rest

/-- Clones of the entries of a map. -/
def cloneEntries : List (Cell × Cell) → List (Cell × Cell)
  | [] => []
  | (key, value) :: rest => (clone key, clone value) :: cloneEntries rest

end

/-! ## Creating -/

/-- A cell of a constructible kind with the contents of a cell of that kind. -/
def create (kind : Kind) (source : Cell) : Except Failure Cell :=
  if kind.isConstructible && source.kind == kind then source.copy
  else (Cause.typeMismatch kind source.kind).raiseIn { operation := "create" }

/-- The zero of a kind: the number zero, the empty text, sequence or map, the null character,
false. An array declares the native integers. The two markers have no zero, so the cell for
them is an erased one. -/
def zero : Kind → Cell
  | .integer kind => ofWord kind 0
  | .float => .float 0
  | .double => .double 0
  | .string => .string ""
  | .char => .char '\x00'
  | .bool => .bool false
  | .qbit => .qbit 0
  | .array => .array (.integer (.native true)) []
  | .map => .map []
  | .null => .null
  | .invalid | .unknown => .invalid

/-! ## Moving and erasing -/

section Transfer

variable {m : Type → Type} [Monad m]

/-- Moves the contents out and leaves an erased cell. -/
def move : Edit Cell m Cell := do
  let cell ← get
  if cell.isInvalid then (Cause.nullInput "move").raise
  else
    set Cell.invalid
    return cell

/-- Gives up the contents and leaves an erased cell. -/
def erase : Edit Cell m Unit := do
  if (← get).isInvalid then (Cause.nullInput "erase").raise
  else set Cell.invalid

end Transfer

end TaggedCells.Cell

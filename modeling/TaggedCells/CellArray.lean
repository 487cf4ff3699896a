import TaggedCells.Cell.Equality
import TaggedCells.Edit

/-!
# Arrays

An array is a sequence of cells under one declared element kind. It is homogeneous when every
element carries that kind. What builds or extends an array checks the cells it is given and
refuses those of another kind; only a write to a position goes unchecked, so an operation that
depends on homogeneity checks it again.

Compound kinds and the two markers cannot be declared.
-/

set_option autoImplicit false

namespace TaggedCells

/-- A sequence of cells under a declared element kind. -/
structure CellArray where
  kind : Kind
  elements : List Cell
  deriving DecidableEq

/-- The array that the cell holds; an erased cell and a cell of another kind fail under the
name of the operation that wanted the array. -/
def Cell.array? (operation : String) : Cell → Except Failure CellArray
  | .array kind elements => .ok ⟨kind, elements⟩
  | .invalid => (Cause.nullInput operation).raise
  | other => (Cause.invalidOperation operation other.kind).raise

/-- The kind is one that an array can declare. -/
def Kind.checkStorable (kind : Kind) : Except Failure Unit :=
  if kind.isConstructible then .ok ()
  else (Cause.typeMismatch .array kind).raiseIn { operation := "array element kind" }

/-- The position and the kind of the first cell that is not of the given kind, counting
positions from `first`. -/
def strayFrom (kind : Kind) (first : Nat) : List Cell → Option (Nat × Kind)
  | [] => none
  | cell :: rest =>
      if cell.kind = kind then strayFrom kind (first + 1) rest else some (first, cell.kind)

/-- Every cell is of the given kind. -/
def Kind.checkAll (kind : Kind) (elements : List Cell) : Except Failure Unit :=
  match strayFrom kind 0 elements with
  | none => .ok ()
  | some (index, found) => (Cause.typeMismatch kind found).raiseIn { index := index }

namespace CellArray

/-- The cell that holds the array. -/
def toCell (array : CellArray) : Cell := .array array.kind array.elements

/-- The number of elements. -/
def length (array : CellArray) : Nat := array.elements.length

/-- The array with other elements under the same declaration. -/
def withElements (array : CellArray) (elements : List Cell) : CellArray :=
  { array with elements := elements }

/-- The position and the kind of the first element that is not of the declared kind. -/
def stray? (array : CellArray) : Option (Nat × Kind) := strayFrom array.kind 0 array.elements

/-- Every element is of the declared kind. -/
def checkHomogeneous (array : CellArray) : Except Failure Unit :=
  array.kind.checkAll array.elements

/-! ## Construction -/

/-- The bytes that one element takes up. -/
def elementBytes : Nat := 48

/-- The most bytes that one block of storage can have. -/
def storageBytes : Nat := 2 ^ (63 : Nat) - 1

/-- An empty array with room for `capacity` elements. -/
def withCapacity (kind : Kind) (capacity : Nat) : Except Failure CellArray := do
  kind.checkStorable
  if storageBytes < capacity * elementBytes then Cause.allocation.raise else .ok ⟨kind, []⟩

/-- An empty array. -/
def empty (kind : Kind) : Except Failure CellArray := withCapacity kind 0

/-- An array of the given cells, all of which have to be of the given kind. -/
def ofList (kind : Kind) (elements : List Cell) : Except Failure CellArray := do
  kind.checkStorable
  kind.checkAll elements
  return ⟨kind, elements⟩

/-! ## Changes in place -/

section Changes

variable {m : Type → Type} [Monad m]

/-- Appends a cell of the declared kind. -/
def push (cell : Cell) : Edit CellArray m Unit := do
  let array ← get
  let last ← located (array.kind.checkCell cell) { operation := "push", index := array.length }
  set (array.withElements (array.elements ++ [last]))

/-- Puts other elements in place of all there are, if every one is of the declared kind. -/
def replace (elements : List Cell) : Edit CellArray m Unit := do
  let array ← get
  array.kind.checkAll elements
  set (array.withElements elements)

/-- Keeps the elements that the predicate wants, asking it once for each in order. -/
def retain (keep : Cell → m Bool) : Edit CellArray m Unit := do
  let array ← get
  let kept ← (array.elements.filterM keep : m (List Cell))
  set (array.withElements kept)

/-- Keeps the first `length` elements. -/
def truncate (length : Nat) : Edit CellArray m Unit :=
  modify fun array => array.withElements (array.elements.take length)

/-- Writes a cell to a position, whatever its kind; a position past the end stays without. -/
def write (index : Nat) (cell : Cell) : Edit CellArray m Unit :=
  modify fun array => array.withElements (array.elements.set index cell)

end Changes

/-! ## What the changes do to an array

Each change, run on an array: what comes of it, and the array it leaves.
-/

section Laws

open Edit

variable {m : Type → Type} [Monad m] [LawfulMonad m]

theorem apply_push (cell : Cell) (array : CellArray) :
    (push cell : Edit CellArray m Unit).apply array
      = pure (match located (array.kind.checkCell cell)
            { operation := "push", index := array.length } with
          | .ok last => (.ok (), array.withElements (array.elements ++ [last]))
          | .error failure => (.error failure, array)) := by
  unfold push
  simp only [apply_bind, apply_get, pure_bind, apply_lift_outcome]
  cases located (array.kind.checkCell cell) { operation := "push", index := array.length } <;> simp

theorem apply_replace (elements : List Cell) (array : CellArray) :
    (replace elements : Edit CellArray m Unit).apply array
      = pure (match array.kind.checkAll elements with
          | .ok () => (.ok (), array.withElements elements)
          | .error failure => (.error failure, array)) := by
  unfold replace
  simp only [apply_bind, apply_get, pure_bind, apply_lift_outcome]
  cases array.kind.checkAll elements <;> simp

theorem apply_retain (keep : Cell → m Bool) (array : CellArray) :
    (retain keep).apply array = (do
      return (.ok (), array.withElements (← array.elements.filterM keep))) := by
  simp [retain]

theorem apply_truncate (length : Nat) (array : CellArray) :
    (truncate length : Edit CellArray m Unit).apply array
      = pure (.ok (), array.withElements (array.elements.take length)) := by
  simp [truncate]

end Laws

end CellArray

/-- Edits the array that a cell holds, in the name of an operation. The cell afterwards holds
what the edit left of the array. -/
def Cell.editArray {m : Type → Type} [Monad m] {α : Type} (operation : String)
    (edit : Edit CellArray m α) : Edit Cell m α := do
  let array ← (← get).array? operation
  let (outcome, after) ← (edit.apply array : m _)
  set after.toCell
  outcome

/-- An edit of the array in a cell is that edit on the array: the cell stays as it is when it
holds none, and holds what the edit leaves otherwise. -/
theorem Cell.apply_editArray {m : Type → Type} [Monad m] [LawfulMonad m] {α : Type}
    (operation : String) (edit : Edit CellArray m α) (cell : Cell) :
    (Cell.editArray operation edit).apply cell
      = match cell.array? operation with
        | .ok held => do
            let (outcome, after) ← edit.apply held
            return (outcome, after.toCell)
        | .error failure => pure (.error failure, cell) := by
  unfold Cell.editArray
  simp only [Edit.apply_bind, Edit.apply_get, pure_bind, Edit.apply_lift_outcome]
  cases cell.array? operation <;> simp

end TaggedCells

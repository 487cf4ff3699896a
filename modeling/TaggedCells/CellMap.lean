import TaggedCells.Cell.Equality
import TaggedCells.Edit

/-!
# Maps

A map lists entries of a key cell and a value cell. Keys are told apart by sameness of cells,
so a NaN is a key like any other and the two zeros are different keys. Inserting under a key
that is there replaces the value where it stands; a new key goes to the end. The entries
therefore stand in the order in which their keys were last inserted as new ones.

An erased cell cannot be a key.
-/

set_option autoImplicit false

namespace TaggedCells

/-- Entries of a key and a value. -/
structure CellMap where
  entries : List (Cell × Cell) := []
  deriving DecidableEq

namespace CellMap

/-- The cell that holds the map. -/
def toCell (map : CellMap) : Cell := .map map.entries

/-- The number of entries. -/
def length (map : CellMap) : Nat := map.entries.length

/-- The keys, in the order of the entries. -/
def keys (map : CellMap) : List Cell := map.entries.map Prod.fst

/-- The values, in the order of the entries. -/
def values (map : CellMap) : List Cell := map.entries.map Prod.snd

/-- The value under a key. -/
def get? (map : CellMap) (key : Cell) : Option Cell := map.entries.lookup key

/-- The entries with a value under a key: in place of the value there was, or at the end. -/
def assign (key value : Cell) : List (Cell × Cell) → List (Cell × Cell)
  | [] => [(key, value)]
  | (present, held) :: rest =>
      if present = key then (present, value) :: rest else (present, held) :: assign key value rest

section Changes

variable {m : Type → Type} [Monad m]

/-- Puts a value under a key and returns the value that was there. -/
def insert (key value : Cell) : Edit CellMap m (Option Cell) := do
  if key.isInvalid then (Cause.nullInput "map insert").raise
  else
    let map ← get
    set ({ entries := assign key value map.entries } : CellMap)
    return map.get? key

/-- Takes the entry of a key out and returns its value. -/
def remove (key : Cell) : Edit CellMap m (Option Cell) := do
  let map ← get
  set ({ entries := map.entries.eraseP fun entry => entry.1 == key } : CellMap)
  return map.get? key

end Changes

/-! ## What the changes do to a map -/

section Laws

open Edit

variable {m : Type → Type} [Monad m] [LawfulMonad m]

theorem apply_insert (key value : Cell) (map : CellMap) :
    (insert key value : Edit CellMap m (Option Cell)).apply map
      = pure (if key.isInvalid then (Cause.raise (.nullInput "map insert"), map)
          else (.ok (map.get? key), ⟨assign key value map.entries⟩)) := by
  unfold insert
  cases key.isInvalid with
  | true => rfl
  | false =>
      simp only [Bool.false_eq_true, if_false, apply_bind, apply_get, pure_bind, apply_set,
        apply_pure]

theorem apply_remove (key : Cell) (map : CellMap) :
    (remove key : Edit CellMap m (Option Cell)).apply map
      = pure (.ok (map.get? key), ⟨map.entries.eraseP fun entry => entry.1 == key⟩) := by
  unfold remove
  simp only [apply_bind, apply_get, pure_bind, apply_set, apply_pure]

end Laws

/-- The map that inserting the pairs one after the other builds. -/
def ofPairs (pairs : List (Cell × Cell)) : Except Failure CellMap :=
  let building : Edit CellMap Id Unit := pairs.forM fun (key, value) => discard (insert key value)
  let (outcome, built) := building.applyPure {}
  outcome.map fun _ => built

end CellMap

/-- The map that the cell holds, if it holds one. -/
def Cell.map? : Cell → Option CellMap
  | .map entries => some ⟨entries⟩
  | _ => none

end TaggedCells

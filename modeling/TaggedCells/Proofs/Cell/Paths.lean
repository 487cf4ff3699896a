import TaggedCells.Cell

/-!
# Paths into cells

A compound cell holds other cells directly, and a step leads to one of them: to an element of an
array, or to the key or the value of an entry of a map. Cells are nested to any depth, so a cell
that stands somewhere inside another is found by a path of such steps (`at?`), and what holds of a
cell if it holds of all that the cell holds directly holds of every cell (`induction_on_parts`).

A walk that goes into each cell before it goes on to the next meets two cells in the order of the
first step in which their paths part (`Precedes`).
-/

set_option autoImplicit false

namespace TaggedCells.Cell

/-- A way from a compound cell to one that it holds directly. -/
inductive Step where
  | element (index : Nat)
  | key (index : Nat)
  | value (index : Nat)
  deriving DecidableEq, Repr

/-- The place of the step among those from one cell: elements by position, entries in order with
the key before its value. -/
def Step.place : Step → Nat
  | .element index => index
  | .key index => 2 * index
  | .value index => 2 * index + 1

/-- The cell that a step leads to. -/
def part? : Cell → Step → Option Cell
  | .array _ elements, .element index => elements[index]?
  | .map entries, .key index => entries[index]?.map Prod.fst
  | .map entries, .value index => entries[index]?.map Prod.snd
  | _, _ => none

/-- The cell at the end of a path. -/
def at? : Cell → List Step → Option Cell
  | cell, [] => some cell
  | cell, step :: path => (cell.part? step).bind fun part => part.at? path

/-- The first path is met before the second, cell by cell from the outside in. -/
def Precedes : List Step → List Step → Prop :=
  List.Lex fun step other => step.place < other.place

/-! ## Steps from one cell -/

section Parts

variable {cell part other : Cell} {step another : Step} {path : List Step}

theorem at?_of_part (held : cell.part? step = some part) :
    cell.at? (step :: path) = part.at? path := by
  rw [at?, held, Option.bind_some]

theorem at?_cons_eq_some_iff :
    cell.at? (step :: path) = some other
      ↔ ∃ part, cell.part? step = some part ∧ part.at? path = some other :=
  Option.bind_eq_some_iff

/-- Steps from one cell at the same place are the same step. -/
theorem step_eq_of_place (held : cell.part? step = some part)
    (heldToo : cell.part? another = some other) (same : step.place = another.place) :
    step = another := by
  cases cell <;> cases step <;> cases another <;> simp [part?, Step.place] at held heldToo same ⊢
  all_goals omega

theorem sizeOf_part_lt (held : cell.part? step = some part) : sizeOf part < sizeOf cell := by
  cases cell with
  | array kind elements =>
      cases step with
      | element index =>
          have smaller := List.sizeOf_lt_of_mem (List.mem_of_getElem? held)
          simp only [array.sizeOf_spec]
          omega
      | key index | value index => cases held
  | map entries =>
      cases step with
      | element index => cases held
      | key index | value index =>
          obtain ⟨⟨key, value⟩, found, rfl⟩ := Option.map_eq_some_iff.mp held
          have smaller := List.sizeOf_lt_of_mem (List.mem_of_getElem? found)
          simp only [map.sizeOf_spec, Prod.mk.sizeOf_spec] at smaller ⊢
          omega
  | _ => cases held

end Parts

/-- What passes from the cells that a cell holds to the cell itself holds of every cell. -/
theorem induction_on_parts {holds : Cell → Prop}
    (pass : ∀ cell : Cell, (∀ step part, cell.part? step = some part → holds part) → holds cell)
    (cell : Cell) : holds cell :=
  pass cell fun _ part _ => induction_on_parts pass part
termination_by sizeOf cell
decreasing_by exact sizeOf_part_lt ‹_›

/-! ## The order of paths -/

namespace Precedes

variable {first second : List Step}

theorem asymm (before : Precedes first second) : ¬ Precedes second first := by
  induction before with
  | nil => nofun
  | rel earlier =>
      rintro (_ | later | _)
      · exact Nat.lt_asymm earlier later
      · exact Nat.lt_irrefl _ earlier
  | cons _ ih =>
      rintro (_ | same | within)
      · exact Nat.lt_irrefl _ same
      · exact ih within

end Precedes

end TaggedCells.Cell

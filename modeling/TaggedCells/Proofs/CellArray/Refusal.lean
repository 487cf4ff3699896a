import TaggedCells.Proofs.CellArray.Plans
import TaggedCells.Proofs.CellArray.Precondition

/-!
# Refusals

An operation asks for something before it does anything: that there is an array in the cell, and
then that the array is what it can work on. What is refused ends there, with the failure of the
first thing that was missing. The cell stays as it is and no function of the caller is called
(`Alteration.apply_of_refused`).
-/

set_option autoImplicit false

namespace TaggedCells

/-! ## Cells without an array -/

/-- The failure of an operation on arrays on a cell that holds none: an erased cell counts as no
input at all, and any other cell is named by its kind. -/
inductive Cell.Arrayless (operation : String) : Cell → Failure → Prop where
  | erased : Arrayless operation .invalid (.ofCause (.nullInput operation))
  | other {cell : Cell} (kept : cell ≠ .invalid) (apart : cell.kind ≠ .array) :
      Arrayless operation cell (.ofCause (.invalidOperation operation cell.kind))

theorem Cell.array?_eq_error_iff {operation : String} {cell : Cell} {failure : Failure} :
    cell.array? operation = .error failure ↔ cell.Arrayless operation failure := by
  constructor
  · intro refused
    cases cell with
    | invalid =>
        obtain rfl := Except.error.inj refused
        exact .erased
    | array kind elements => cases refused
    | _ =>
        obtain rfl := Except.error.inj refused
        exact .other nofun nofun
  · intro arrayless
    cases arrayless with
    | erased => rfl
    | other kept apart =>
        cases cell with
        | invalid => exact absurd rfl kept
        | array kind elements => exact absurd rfl apart
        | _ => rfl

/-- The array that a cell holds, if there is one and the check lets it pass. -/
def Cell.checked (operation : String) (check : CellArray → Except Failure Unit) (cell : Cell) :
    Except Failure CellArray := do
  let array ← cell.array? operation
  check array
  return array

section Checked

variable {operation : String} {check : CellArray → Except Failure Unit} {cell : Cell}

theorem Cell.checked_eq_error_iff {failure : Failure} :
    cell.checked operation check = .error failure
      ↔ cell.Arrayless operation failure
        ∨ ∃ array, cell = array.toCell ∧ check array = .error failure := by
  constructor
  · intro refused
    rcases bind_eq_error_iff.mp refused with lacking | ⟨array, held, rest⟩
    · exact .inl (Cell.array?_eq_error_iff.mp lacking)
    · rcases bind_eq_error_iff.mp rest with unfit | ⟨_, _, returned⟩
      · exact .inr ⟨array, Cell.array?_eq_ok_iff.mp held, unfit⟩
      · cases returned
  · rintro (lacking | ⟨array, rfl, unfit⟩)
    · exact bind_eq_error_iff.mpr (.inl (Cell.array?_eq_error_iff.mpr lacking))
    · exact bind_eq_error_iff.mpr (.inr ⟨array, rfl, bind_eq_error_iff.mpr (.inl unfit)⟩)

theorem Cell.checked_eq_ok_iff {array : CellArray} :
    cell.checked operation check = .ok array ↔ cell = array.toCell ∧ check array = .ok () := by
  constructor
  · intro accepted
    obtain ⟨held, found, rest⟩ := bind_eq_ok_iff.mp accepted
    obtain ⟨_, passed, returned⟩ := bind_eq_ok_iff.mp rest
    obtain rfl := Except.ok.inj returned
    exact ⟨Cell.array?_eq_ok_iff.mp found, passed⟩
  · rintro ⟨rfl, passed⟩
    exact bind_eq_ok_iff.mpr ⟨array, rfl, bind_eq_ok_iff.mpr ⟨(), passed, rfl⟩⟩

end Checked

/-! ## Elements of another kind -/

theorem strayFrom_of_split {kind : Kind} {before after : List Cell} {stray : Cell} (first : Nat)
    (uniform : ∀ element ∈ before, element.kind = kind) (differs : stray.kind ≠ kind) :
    strayFrom kind first (before ++ stray :: after) = some (first + before.length, stray.kind) := by
  induction before generalizing first with
  | nil => simp [strayFrom, differs]
  | cons cell rest ih =>
      obtain ⟨same, further⟩ := List.forall_mem_cons.mp uniform
      rw [List.cons_append, strayFrom, if_pos same, ih (first + 1) further, List.length_cons]
      simp [Nat.add_assoc, Nat.add_comm 1]

/-- A first stray cell is found where all cells before it are of the kind. -/
theorem strayFrom_eq_some_iff {kind found : Kind} {index : Nat} {elements : List Cell} :
    strayFrom kind 0 elements = some (index, found)
      ↔ ∃ before stray after, elements = before ++ stray :: after
        ∧ (∀ element ∈ before, element.kind = kind) ∧ stray.kind ≠ kind
        ∧ index = before.length ∧ found = stray.kind := by
  constructor
  · intro found
    obtain ⟨before, stray, after, parted, uniform, differs, place, kind⟩ :=
      exists_of_strayFrom_eq_some found
    exact ⟨before, stray, after, parted, uniform, differs, place.trans (Nat.zero_add _), kind⟩
  · rintro ⟨before, stray, after, rfl, uniform, differs, rfl, rfl⟩
    rw [strayFrom_of_split 0 uniform differs, Nat.zero_add]

/-- A check for strays names the first of them. -/
theorem CellArray.requireHomogeneous_eq_error_iff {array : CellArray} {operation : String}
    {failure : Failure} :
    array.requireHomogeneous operation = .error failure
      ↔ ∃ before stray after, array.elements = before ++ stray :: after
        ∧ (∀ element ∈ before, element.kind = array.kind) ∧ stray.kind ≠ array.kind
        ∧ failure = ⟨.typeMismatch array.kind stray.kind,
            some { operation := operation, index := before.length }⟩ := by
  unfold requireHomogeneous checkHomogeneous Kind.checkAll
  constructor
  · intro refused
    cases found : strayFrom array.kind 0 array.elements with
    | none =>
        rw [found] at refused
        cases refused
    | some place =>
        rw [found] at refused
        obtain rfl := Except.error.inj refused
        obtain ⟨before, stray, after, parted, uniform, differs, index, kind⟩ :=
          strayFrom_eq_some_iff.mp found
        exact ⟨before, stray, after, parted, uniform, differs, by rw [index, kind]; rfl⟩
  · rintro ⟨before, stray, after, parted, uniform, differs, rfl⟩
    rw [strayFrom_eq_some_iff.mpr ⟨before, stray, after, parted, uniform, differs, rfl, rfl⟩]
    rfl

/-! ## Operations -/

section Checks

variable {m : Type → Type} [Monad m] [LawfulMonad m] {α β : Type}

/-- A check that fails is all there is. -/
theorem lift_bind_of_error {outcome : Except Failure α} {failure : Failure}
    (refused : outcome = .error failure) (next : α → ExceptT Failure m β) :
    (liftM outcome : ExceptT Failure m α) >>= next
      = liftM (Except.error failure : Except Failure β) := by
  subst refused
  refine ExceptT.ext ?_
  rw [ExceptT.run_bind]
  exact pure_bind _ _

/-- A check that holds adds nothing. -/
theorem lift_bind_of_ok {outcome : Except Failure α} {value : α} (accepted : outcome = .ok value)
    (next : α → ExceptT Failure m β) :
    (liftM outcome : ExceptT Failure m α) >>= next = next value := by
  subst accepted
  refine ExceptT.ext ?_
  rw [ExceptT.run_bind]
  exact pure_bind _ _

end Checks

namespace Alteration

variable {m : Type → Type} [Monad m]

/-- What the operation asks of the array. -/
def check (array : CellArray) (change : Alteration m) : Except Failure Unit :=
  match change with
  | .sort _ => array.requireIntegers change.operation
  | .transform _ | .filter _ | .reduce _ | .accumulate =>
      array.requireSomeIntegers change.operation
  | .reverse | .shuffle _ => array.requireHomogeneous change.operation
  | .reverseRange start stop | .shuffleRange start stop _ => do
      array.requireHomogeneous change.operation
      array.requireRange start stop change.operation

/-- The array that the operation is going to work on. -/
def admitted (change : Alteration m) (cell : Cell) : Except Failure CellArray :=
  cell.checked change.operation fun array => change.check array

variable [LawfulMonad m]

/-- A plan starts with what the operation asks for and ends there if it is refused. -/
theorem plan_of_refused {change : Alteration m} {array : CellArray} {failure : Failure}
    (refused : change.check array = .error failure) :
    change.plan array = liftM (Except.error failure : Except Failure (List Cell)) := by
  cases change with
  | sort algorithm => exact lift_bind_of_error refused _
  | transform f => exact lift_bind_of_error refused _
  | filter keep => exact lift_bind_of_error refused _
  | reduce combine => exact lift_bind_of_error refused _
  | accumulate => exact lift_bind_of_error refused _
  | reverse => exact lift_bind_of_error refused _
  | reverseRange start stop =>
      rcases bind_eq_error_iff.mp refused with stray | ⟨_, uniform, outside⟩
      · exact lift_bind_of_error stray _
      · exact (lift_bind_of_ok uniform _).trans (lift_bind_of_error outside _)
  | shuffle choose => exact lift_bind_of_error refused _
  | shuffleRange start stop choose =>
      rcases bind_eq_error_iff.mp refused with stray | ⟨_, uniform, outside⟩
      · exact lift_bind_of_error stray _
      · exact (lift_bind_of_ok uniform _).trans (lift_bind_of_error outside _)

/-- **An operation that is refused does nothing**: it fails, leaves the cell as it is and calls no
function of the caller. -/
theorem apply_of_refused (change : Alteration m) {cell : Cell} {failure : Failure}
    (refused : change.admitted cell = .error failure) :
    change.edit.apply cell = pure (.error failure, cell) := by
  rw [change.apply_edit]
  rcases Cell.checked_eq_error_iff.mp refused with lacking | ⟨array, rfl, unfit⟩
  · rw [Cell.array?_eq_error_iff.mpr lacking]
  · have held : array.toCell.array? change.operation = .ok array :=
      Cell.array?_eq_ok_iff.mpr rfl
    rw [held]
    dsimp only
    rw [plan_of_refused unfit]
    exact map_pure _ _

end Alteration
end TaggedCells

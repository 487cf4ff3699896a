import TaggedCells.CellArray.Precondition
import Mathlib.Data.List.Basic

/-!
# When a precondition holds

The checks of the operations, as statements about the array. An array is homogeneous when every
element carries the declared kind; that is what every check for strays asks for, whatever the
failure it gives.
-/

set_option autoImplicit false

namespace TaggedCells

/-- Every element carries the declared kind. -/
def CellArray.Homogeneous (array : CellArray) : Prop :=
  ∀ element ∈ array.elements, element.kind = array.kind

theorem bind_eq_ok_iff {α β : Type} {outcome : Except Failure α} {next : α → Except Failure β}
    {value : β} :
    (outcome >>= next) = .ok value
      ↔ ∃ reached, outcome = .ok reached ∧ next reached = .ok value := by
  cases outcome <;> simp [Bind.bind, Except.bind]

theorem bind_eq_error_iff {α β : Type} {outcome : Except Failure α} {next : α → Except Failure β}
    {failure : Failure} :
    (outcome >>= next) = .error failure
      ↔ outcome = .error failure
        ∨ ∃ reached, outcome = .ok reached ∧ next reached = .error failure := by
  cases outcome <;> simp [Bind.bind, Except.bind]

theorem located_eq_ok_iff {α : Type} {outcome : Except Failure α} {context : Context} {value : α} :
    located outcome context = .ok value ↔ outcome = .ok value := by
  cases outcome <;> simp [located, Except.mapError]

theorem located_eq_error_iff {α : Type} {outcome : Except Failure α} {context : Context}
    {failure : Failure} :
    located outcome context = .error failure
      ↔ ∃ inner, outcome = .error inner ∧ inner.within context = failure := by
  cases outcome <;> simp [located, Except.mapError]

theorem Kind.isInteger_iff {kind : Kind} :
    kind.isInteger = true ↔ ∃ integer : IntKind, kind = .integer integer := by
  cases kind <;> simp [Kind.isInteger, Kind.integer?]

theorem strayFrom_eq_none_iff (kind : Kind) (first : Nat) (elements : List Cell) :
    strayFrom kind first elements = none ↔ ∀ element ∈ elements, element.kind = kind := by
  induction elements generalizing first with
  | nil => simp [strayFrom]
  | cons cell rest ih =>
      by_cases same : cell.kind = kind
      · simp [strayFrom, same, ih]
      · simp [strayFrom, same]

/-- The first stray cell stands after cells of the kind only. -/
theorem exists_of_strayFrom_eq_some {kind found : Kind} {first index : Nat} {elements : List Cell}
    (stray : strayFrom kind first elements = some (index, found)) :
    ∃ before cell after, elements = before ++ cell :: after
      ∧ (∀ element ∈ before, element.kind = kind) ∧ cell.kind ≠ kind
      ∧ index = first + before.length ∧ found = cell.kind := by
  induction elements generalizing first with
  | nil => cases stray
  | cons cell rest ih =>
      by_cases same : cell.kind = kind
      · rw [strayFrom, if_pos same] at stray
        obtain ⟨before, other, after, rfl, uniform, apart, rfl, rfl⟩ := ih stray
        refine ⟨cell :: before, other, after, rfl, ?_, apart, ?_, rfl⟩
        · exact List.forall_mem_cons.mpr ⟨same, uniform⟩
        · rw [List.length_cons]
          omega
      · rw [strayFrom, if_neg same] at stray
        obtain ⟨rfl, rfl⟩ := Prod.mk.inj (Option.some.inj stray)
        exact ⟨[], cell, rest, rfl, fun _ absent => absurd absent List.not_mem_nil, same, rfl, rfl⟩

theorem Kind.checkAll_eq_ok_iff {kind : Kind} {elements : List Cell} :
    kind.checkAll elements = .ok () ↔ ∀ element ∈ elements, element.kind = kind := by
  rw [← strayFrom_eq_none_iff kind 0]
  unfold Kind.checkAll
  cases strayFrom kind 0 elements with
  | none => simp
  | some found => simp [Cause.raiseIn]

theorem Cell.array?_eq_ok_iff {operation : String} {cell : Cell} {array : CellArray} :
    cell.array? operation = .ok array ↔ cell = array.toCell := by
  cases cell <;> simp [Cell.array?, Cause.raise, CellArray.toCell]
  case array kind elements =>
    constructor
    · rintro rfl
      exact ⟨rfl, rfl⟩
    · rintro ⟨rfl, rfl⟩
      rfl

namespace CellArray

variable {array : CellArray} {operation : String}

theorem requireHomogeneous_eq_ok_iff :
    array.requireHomogeneous operation = .ok () ↔ array.Homogeneous := by
  rw [Homogeneous, ← Kind.checkAll_eq_ok_iff]
  unfold requireHomogeneous checkHomogeneous
  cases array.kind.checkAll array.elements <;> simp [Except.mapError]

theorem requireIntegers_eq_ok_iff :
    array.requireIntegers operation = .ok () ↔ array.kind.isInteger = true ∧ array.Homogeneous := by
  rw [Homogeneous, ← strayFrom_eq_none_iff array.kind 0]
  unfold requireIntegers stray?
  cases array.kind.isInteger with
  | false => simp [Cause.raise]
  | true =>
      cases strayFrom array.kind 0 array.elements with
      | none => simp
      | some found => simp [Cause.raiseIn]

theorem requireElement_eq_ok_iff :
    array.requireElement operation = .ok () ↔ array.elements ≠ [] := by
  unfold requireElement
  cases array.elements <;> simp [Cause.raise]

theorem requireSomeIntegers_eq_ok_iff :
    array.requireSomeIntegers operation = .ok ()
      ↔ array.elements ≠ [] ∧ array.kind.isInteger = true ∧ array.Homogeneous := by
  unfold requireSomeIntegers
  rw [bind_eq_ok_iff]
  constructor
  · rintro ⟨_, occupied, integers⟩
    exact ⟨requireElement_eq_ok_iff.mp occupied, requireIntegers_eq_ok_iff.mp integers⟩
  · rintro ⟨occupied, integers⟩
    exact ⟨(), requireElement_eq_ok_iff.mpr occupied, requireIntegers_eq_ok_iff.mpr integers⟩

theorem requireSomeIntegers_of_uniform {kind : IntKind} {elements : List Cell}
    (occupied : elements ≠ []) (uniform : ∀ element ∈ elements, element.kind = .integer kind) :
    requireSomeIntegers ⟨.integer kind, elements⟩ operation = .ok () := by
  have integers : Homogeneous ⟨.integer kind, elements⟩ := uniform
  exact requireSomeIntegers_eq_ok_iff.mpr ⟨occupied, rfl, integers⟩

theorem requireRange_eq_ok_iff {start stop : Nat} :
    array.requireRange start stop operation = .ok () ↔ start ≤ stop ∧ stop ≤ array.length := by
  unfold requireRange
  split
  · simp [Cause.raiseIn]
    omega
  · split
    · simp [Cause.raiseIn]
      omega
    · simp
      omega

end CellArray
end TaggedCells

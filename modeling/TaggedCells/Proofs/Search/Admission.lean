import TaggedCells.Search
import TaggedCells.Proofs.CellArray.Refusal

/-!
# What a search asks for

Every search asks for the same things and in the same order: an array, a key that was not erased,
elements of the declared kind only, and a key of that kind. It is refused with the first thing that
is missing (`admitted_eq_error_iff`), and only what is admitted is looked through (`find_eq`).
-/

set_option autoImplicit false

namespace TaggedCells
namespace Search

/-- The failure that a search is refused with. -/
inductive Refuses (search : Search) : Cell → Cell → Failure → Prop where
  | arrayless {cell : Cell} (key : Cell) {failure : Failure}
      (lacking : cell.Arrayless search.operation failure) : Refuses search cell key failure
  /-- An erased key counts as no input, whatever the elements are. -/
  | erased (array : CellArray) :
      Refuses search array.toCell .invalid (.ofCause (.nullInput search.operation))
  /-- The first stray element is named, whatever the kind of the key is. -/
  | stray {kind : Kind} {before after : List Cell} {stray key : Cell} (present : key ≠ .invalid)
      (uniform : ∀ element ∈ before, element.kind = kind) (differs : stray.kind ≠ kind) :
      Refuses search (.array kind (before ++ stray :: after)) key
        ⟨.typeMismatch kind stray.kind,
          some { operation := search.operation, index := before.length }⟩
  /-- A key of another kind is reported without a context. -/
  | apart {array : CellArray} {key : Cell} (present : key ≠ .invalid)
      (uniform : array.Homogeneous) (differs : key.kind ≠ array.kind) :
      Refuses search array.toCell key (.ofCause (.typeMismatch array.kind key.kind))

/-- The array and the key are what a search asks for. -/
structure Accepts (array : CellArray) (key : Cell) : Prop where
  present : key ≠ .invalid
  uniform : array.Homogeneous
  same : key.kind = array.kind

variable (search : Search) (cell key : Cell)

/-- What the search asks of the array and the key. -/
def check (array : CellArray) : Except Failure Unit :=
  if key.isInvalid then (Cause.nullInput search.operation).raise
  else do
    array.requireHomogeneous search.operation
    if key.kind = array.kind then return
    else (Cause.typeMismatch array.kind key.kind).raise

/-- The array that the search is going to look through. -/
def admitted : Except Failure CellArray := cell.checked search.operation (search.check key)

theorem searchable_eq :
    search.searchable cell key = CellArray.elements <$> search.admitted cell key := by
  unfold searchable admitted Cell.checked check
  cases cell.array? search.operation with
  | error failure => rfl
  | ok array =>
      cases key.isInvalid with
      | true => rfl
      | false =>
          cases passed : array.requireHomogeneous search.operation with
          | error failure => simp [passed, bind, Except.bind, Functor.map, Except.map]
          | ok _ =>
              by_cases same : key.kind = array.kind
              · simp [same, passed, bind, Except.bind, pure, Except.pure, Functor.map, Except.map]
              · simp [same, passed, bind, Except.bind, Functor.map, Except.map, Cause.raise]

/-- A search looks through what is admitted. -/
theorem find_eq :
    search.find cell key = (do
      let array ← search.admitted cell key
      match ← search.look array.elements key with
      | some position => return position
      | none => Cause.notFound.raise) := by
  rw [find, searchable_eq]
  exact bind_map_left _ _ _

variable {search cell key} {array : CellArray} {failure : Failure}

theorem isInvalid_eq_true_iff : key.isInvalid = true ↔ key = .invalid := by
  cases key <;> simp [Cell.isInvalid]

theorem check_of_erased (erased : key = .invalid) :
    search.check key array = .error (.ofCause (.nullInput search.operation)) :=
  if_pos (isInvalid_eq_true_iff.mpr erased)

theorem check_of_present (present : key ≠ .invalid) :
    search.check key array = (do
      array.requireHomogeneous search.operation
      if key.kind = array.kind then return
      else (Cause.typeMismatch array.kind key.kind).raise) :=
  if_neg (mt isInvalid_eq_true_iff.mp present)

theorem check_of_strays (present : key ≠ .invalid)
    (strays : array.requireHomogeneous search.operation = .error failure) :
    search.check key array = .error failure := by
  rw [check_of_present present]
  exact bind_eq_error_iff.mpr (.inl strays)

theorem check_of_apart (present : key ≠ .invalid) (uniform : array.Homogeneous)
    (differs : key.kind ≠ array.kind) :
    search.check key array = .error (.ofCause (.typeMismatch array.kind key.kind)) := by
  rw [check_of_present present]
  exact bind_eq_error_iff.mpr
    (.inr ⟨(), CellArray.requireHomogeneous_eq_ok_iff.mpr uniform, if_neg differs⟩)

theorem check_eq_ok_iff : search.check key array = .ok () ↔ Accepts array key := by
  constructor
  · intro accepted
    by_cases erased : key = .invalid
    · rw [check_of_erased erased] at accepted
      cases accepted
    · rw [check_of_present erased] at accepted
      obtain ⟨_, uniform, rest⟩ := bind_eq_ok_iff.mp accepted
      refine ⟨erased, CellArray.requireHomogeneous_eq_ok_iff.mp uniform, ?_⟩
      by_contra differs
      rw [if_neg differs] at rest
      cases rest
  · rintro ⟨present, uniform, same⟩
    rw [check_of_present present]
    exact bind_eq_ok_iff.mpr
      ⟨(), CellArray.requireHomogeneous_eq_ok_iff.mpr uniform, if_pos same⟩

/-- What stands in the way is named. -/
theorem refuses_of_check (refused : search.check key array = .error failure) :
    search.Refuses array.toCell key failure := by
  by_cases erased : key = .invalid
  · rw [check_of_erased erased] at refused
    obtain rfl := Except.error.inj refused
    subst erased
    exact .erased array
  rw [check_of_present erased] at refused
  rcases bind_eq_error_iff.mp refused with strays | ⟨_, uniform, rest⟩
  · obtain ⟨before, stray, after, parted, uniform, differs, rfl⟩ :=
      CellArray.requireHomogeneous_eq_error_iff.mp strays
    obtain ⟨kind, elements⟩ := array
    obtain rfl : elements = before ++ stray :: after := parted
    exact .stray erased uniform differs
  · by_cases same : key.kind = array.kind
    · rw [if_pos same] at rest
      cases rest
    · rw [if_neg same] at rest
      obtain rfl := Except.error.inj rest
      exact .apart erased (CellArray.requireHomogeneous_eq_ok_iff.mp uniform) same

theorem admitted_of_check (refused : search.check key array = .error failure) :
    search.admitted array.toCell key = .error failure :=
  Cell.checked_eq_error_iff.mpr (.inr ⟨array, rfl, refused⟩)

/-- **A search is refused with the first thing that it lacks.** -/
theorem admitted_eq_error_iff :
    search.admitted cell key = .error failure ↔ search.Refuses cell key failure := by
  constructor
  · intro refused
    rcases Cell.checked_eq_error_iff.mp refused with lacking | ⟨array, rfl, unfit⟩
    · exact .arrayless key lacking
    · exact refuses_of_check unfit
  · intro refuses
    cases refuses with
    | arrayless _ lacking => exact Cell.checked_eq_error_iff.mpr (.inl lacking)
    | erased array => exact admitted_of_check (check_of_erased rfl)
    | @stray kind before after stray _ present uniform differs =>
        have strays : CellArray.requireHomogeneous ⟨kind, before ++ stray :: after⟩
            search.operation = .error ⟨.typeMismatch kind stray.kind,
              some { operation := search.operation, index := before.length }⟩ :=
          CellArray.requireHomogeneous_eq_error_iff.mpr
            ⟨before, stray, after, rfl, uniform, differs, rfl⟩
        exact admitted_of_check (check_of_strays present strays)
    | apart present uniform differs =>
        exact admitted_of_check (check_of_apart present uniform differs)

theorem admitted_eq_ok_iff :
    search.admitted cell key = .ok array ↔ cell = array.toCell ∧ Accepts array key := by
  rw [admitted, Cell.checked_eq_ok_iff, check_eq_ok_iff]

/-! ## What is looked through -/

theorem find_of_refused (refused : search.admitted cell key = .error failure) :
    search.find cell key = .error failure := by
  rw [find_eq]
  exact bind_eq_error_iff.mpr (.inl refused)

theorem find_of_hit {position : Nat} (admitted : search.admitted cell key = .ok array)
    (looked : search.look array.elements key = .ok (some position)) :
    search.find cell key = .ok position := by
  rw [find_eq]
  exact bind_eq_ok_iff.mpr ⟨array, admitted, bind_eq_ok_iff.mpr ⟨some position, looked, rfl⟩⟩

theorem find_of_miss (admitted : search.admitted cell key = .ok array)
    (looked : search.look array.elements key = .ok none) :
    search.find cell key = .error (.ofCause .notFound) := by
  rw [find_eq]
  exact bind_eq_error_iff.mpr
    (.inr ⟨array, admitted, bind_eq_error_iff.mpr (.inr ⟨none, looked, rfl⟩)⟩)

/-- What a search finds, it has found by looking. -/
theorem look_of_find {kind : Kind} {elements : List Cell} {position : Nat}
    (found : search.find (.array kind elements) key = .ok position) :
    search.look elements key = .ok (some position) := by
  rw [find_eq] at found
  obtain ⟨array, admitted, rest⟩ := bind_eq_ok_iff.mp found
  obtain ⟨held, -⟩ := admitted_eq_ok_iff.mp admitted
  obtain ⟨rfl, rfl⟩ : kind = array.kind ∧ elements = array.elements := Cell.array.inj held
  obtain ⟨place?, looked, answered⟩ := bind_eq_ok_iff.mp rest
  cases place? with
  | none => cases answered
  | some place =>
      obtain rfl := Except.ok.inj answered
      exact looked

end Search
end TaggedCells

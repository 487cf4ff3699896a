import TaggedCells.Failure.Code
import TaggedCells.Proofs.Search.Halving

/-!
# How a search ends

A search is refused with the first thing that it lacks, or it looks through the elements. Then no
comparison can fail, since a declared kind is constructible and the key and all elements carry it.
What is left is a position whose element is equal to the key, or that the search comes to its end
(`searches_end_one_way`). A search one by one comes to its end only if there is no such element.
-/

set_option autoImplicit false

namespace TaggedCells
namespace Search

/-- Whether the search looks at the elements one by one. -/
def scans : Search → Bool
  | .linear | .linearFirst | .linearLast => true
  | .binary | .binaryFirst | .binaryLast => false

/-- The answer of a search that looks through the elements. -/
inductive Answers (search : Search) (elements : List Cell) (key : Cell) :
    Except Failure Nat → Prop where
  | found {position : Nat} (meets : MeetsAt elements key position) :
      Answers search elements key (.ok position)
  /-- A search by halving may miss an equal element where the elements are in no order. -/
  | absent (passed : search.scans = true → ∀ element ∈ elements, element.order key ≠ .ok .eq) :
      Answers search elements key (.error (.ofCause .notFound))

/-- What a search has found when it has looked. -/
structure Looked (search : Search) (elements : List Cell) (key : Cell) (found : Option Nat) :
    Prop where
  meets : ∀ position ∈ found, MeetsAt elements key position
  passed : found = none → search.scans = true → ∀ element ∈ elements, element.order key ≠ .ok .eq

section Compared

variable {elements : List Cell} {key : Cell}

theorem equal_eq_ok {element : Cell} (compared : ∃ verdict, element.order key = .ok verdict) :
    ∃ equal, element.equal key = .ok equal := by
  obtain ⟨verdict, answered⟩ := compared
  exact ⟨_, equal_of_order answered⟩

/-- Looking at listed elements in turn ends at one that is equal to the key, or passes all. -/
theorem firstEqual_cases {placed : List (Cell × Nat)}
    (compared : ∀ entry ∈ placed, ∃ verdict, entry.1.order key = .ok verdict) :
    (∃ entry ∈ placed, entry.1.equal key = .ok true ∧ firstEqual key placed = .ok (some entry.2))
      ∨ (∀ entry ∈ placed, entry.1.equal key = .ok false) ∧ firstEqual key placed = .ok none := by
  induction placed with
  | nil => exact .inr ⟨fun _ absent => absurd absent List.not_mem_nil, rfl⟩
  | cons entry rest ih =>
      obtain ⟨here, further⟩ := List.forall_mem_cons.mp compared
      obtain ⟨equal, answered⟩ := equal_eq_ok here
      cases equal with
      | true =>
          exact .inl ⟨entry, List.mem_cons_self, answered, firstEqual_cons rest answered⟩
      | false =>
          have unequal : ∀ other ∈ [entry], other.1.equal key = .ok false :=
            List.forall_mem_singleton.mpr answered
          have skipped : firstEqual key (entry :: rest) = firstEqual key rest :=
            firstEqual_append unequal
          rw [skipped]
          rcases ih further with ⟨found, present, meets, ended⟩ | ⟨unequal, ended⟩
          · exact .inl ⟨found, List.mem_cons_of_mem _ present, meets, ended⟩
          · exact .inr ⟨List.forall_mem_cons.mpr ⟨answered, unequal⟩, ended⟩

/-- Looking through the elements in any order that keeps their positions. -/
theorem looked_of_placed (search : Search) {placed : List (Cell × Nat)}
    (same : ∀ entry, entry ∈ placed ↔ entry ∈ elements.zipIdx)
    (compared : ∀ element ∈ elements, ∃ verdict, element.order key = .ok verdict) :
    ∃ found, firstEqual key placed = .ok found ∧ search.Looked elements key found := by
  have held : ∀ entry ∈ placed, elements[entry.2]? = some entry.1 := fun entry present =>
    List.mem_zipIdx_iff_getElem?.mp ((same entry).mp present)
  rcases firstEqual_cases fun entry present =>
      compared entry.1 (List.mem_of_getElem? (held entry present)) with
    ⟨entry, present, equal, ended⟩ | ⟨unequal, ended⟩
  · refine ⟨some entry.2, ended, ?_, nofun⟩
    rintro position ⟨⟩
    exact ⟨entry.1, held entry present, order_eq_of_equal equal⟩
  · refine ⟨none, ended, nofun, ?_⟩
    intro _ _ element inside equal
    obtain ⟨position, holds⟩ := List.mem_iff_getElem?.mp inside
    have passed := unequal (element, position)
      ((same _).mpr (List.mem_zipIdx_iff_getElem?.mpr holds))
    rw [equal_of_order equal] at passed
    cases passed

theorem exists_confirm (compared : ∀ element ∈ elements, ∃ verdict, element.order key = .ok verdict)
    (position : Nat) : ∃ found, confirm elements key position = .ok found := by
  unfold confirm
  cases holds : elements[position]? with
  | none => exact ⟨none, rfl⟩
  | some element =>
      obtain ⟨equal, answered⟩ := equal_eq_ok (compared element (List.mem_of_getElem? holds))
      dsimp only
      rw [answered]
      exact ⟨_, rfl⟩

theorem exists_firstByHalving
    (compared : ∀ element ∈ elements, ∃ verdict, element.order key = .ok verdict) :
    ∃ found, firstByHalving elements key = .ok found := by
  obtain ⟨position, bounded⟩ := exists_bound compared Ordering.isLT
  obtain ⟨found, confirmed⟩ := exists_confirm compared position
  exact ⟨found, bind_eq_ok_iff.mpr ⟨position, bounded, confirmed⟩⟩

theorem exists_lastByHalving
    (compared : ∀ element ∈ elements, ∃ verdict, element.order key = .ok verdict) :
    ∃ found, lastByHalving elements key = .ok found := by
  obtain ⟨position, bounded⟩ := exists_bound compared Ordering.isLE
  cases position with
  | zero => exact ⟨none, bind_eq_ok_iff.mpr ⟨0, bounded, rfl⟩⟩
  | succ position =>
      obtain ⟨found, confirmed⟩ := exists_confirm compared position
      exact ⟨found, bind_eq_ok_iff.mpr ⟨position + 1, bounded, confirmed⟩⟩

/-- **Where every comparison succeeds, every search does its looking without a failure.** -/
theorem exists_looked (search : Search)
    (compared : ∀ element ∈ elements, ∃ verdict, element.order key = .ok verdict) :
    ∃ found, search.look elements key = .ok found ∧ search.Looked elements key found := by
  cases search with
  | linear => exact looked_of_placed _ (fun _ => .rfl) compared
  | linearFirst => exact looked_of_placed _ (fun _ => .rfl) compared
  | linearLast => exact looked_of_placed _ (fun _ => List.mem_reverse) compared
  | binary =>
      obtain ⟨found, ended⟩ := exists_byHalving compared
      refine ⟨found, ended, ?_, nofun⟩
      rintro position ⟨⟩
      exact meetsAt_of_byHalving ended
  | binaryFirst =>
      obtain ⟨found, ended⟩ := exists_firstByHalving compared
      refine ⟨found, ended, ?_, nofun⟩
      rintro position ⟨⟩
      exact (first_of_firstByHalving ended).1
  | binaryLast =>
      obtain ⟨found, ended⟩ := exists_lastByHalving compared
      refine ⟨found, ended, ?_, nofun⟩
      rintro position ⟨⟩
      exact (last_of_lastByHalving ended).1

end Compared

variable {search : Search} {cell key : Cell} {failure : Failure}

theorem answers_of_admitted {array : CellArray} (admitted : search.admitted cell key = .ok array)
    (compared : ∀ element ∈ array.elements, ∃ verdict, element.order key = .ok verdict) :
    search.Answers array.elements key (search.find cell key) := by
  obtain ⟨found, ended, looked⟩ := exists_looked search compared
  cases found with
  | some position =>
      rw [find_of_hit admitted ended]
      exact .found (looked.meets position rfl)
  | none =>
      rw [find_of_miss admitted ended]
      exact .absent (looked.passed rfl)

/-- What is refused is not filed under what cannot be interpreted. -/
theorem Refuses.code_ne_unknown (refuses : search.Refuses cell key failure) :
    failure.code ≠ .unknown := by
  cases refuses with
  | arrayless _ lacking => cases lacking <;> nofun
  | erased array => nofun
  | stray present uniform differs => nofun
  | apart present uniform differs => nofun

end Search

/-! ## Main statement -/

/-- **A search ends in one way**: it is refused with the first thing that it lacks, or no comparison
that it can make fails, and then it finds a position whose element is equal to the key, or comes to
its end. -/
theorem searches_end_one_way (search : Search) (cell key : Cell)
    (storable : ∀ array : CellArray, cell = array.toCell → array.kind.isConstructible = true) :
    ((∃ failure, (∀ other, search.Refuses cell key other ↔ other = failure)
          ∧ search.find cell key = .error failure)
        ∨ ∃ array : CellArray, cell = array.toCell ∧ Search.Accepts array key
          ∧ (∀ failure, ¬ search.Refuses cell key failure)
          ∧ (∀ element ∈ array.elements, ∃ verdict, element.order key = .ok verdict)
          ∧ search.Answers array.elements key (search.find cell key))
      ∧ ∀ failure, search.find cell key = .error failure → failure.code ≠ .unknown := by
  cases judged : search.admitted cell key with
  | error failure =>
      have found := Search.find_of_refused judged
      refine ⟨.inl ⟨failure, ?_, found⟩, ?_⟩
      · intro other
        rw [← Search.admitted_eq_error_iff, judged, Except.error.injEq]
        exact eq_comm
      · intro other failed
        obtain rfl := Except.error.inj (found.symm.trans failed)
        exact (Search.admitted_eq_error_iff.mp judged).code_ne_unknown
  | ok array =>
      obtain ⟨rfl, accepts⟩ := Search.admitted_eq_ok_iff.mp judged
      have compared := Search.exists_order (storable array rfl) accepts.uniform accepts.same
      have answers := Search.answers_of_admitted judged compared
      refine ⟨.inr ⟨array, rfl, accepts, ?_, compared, answers⟩, ?_⟩
      · intro failure refuses
        rw [Search.admitted_eq_error_iff.mpr refuses] at judged
        cases judged
      · intro failure failed
        rw [failed] at answers
        cases answers
        nofun

/-- A stray element counts before a key that cannot be interpreted. -/
theorem searches_end_one_way_stray :
    let mixed : CellArray := ⟨.string, [.string "b", .bool true, .unknown]⟩
    (∀ array : CellArray, mixed.toCell = array.toCell → array.kind.isConstructible = true)
      ∧ Search.binary.find mixed.toCell .unknown
        = .error ⟨.typeMismatch .string .bool,
            some { operation := "search_binary", index := some 1 }⟩ := by
  intro mixed
  have storable : ∀ array : CellArray, mixed.toCell = array.toCell →
      array.kind.isConstructible = true := by
    intro array same
    obtain ⟨declared, -⟩ := Cell.array.inj same
    rw [← declared]
    rfl
  have plain : ∀ element ∈ [Cell.string "b"], element.kind = .string :=
    List.forall_mem_singleton.mpr rfl
  have kept : Cell.unknown ≠ .invalid := nofun
  have differs : (Cell.bool true).kind ≠ .string := nofun
  have refuses : Search.binary.Refuses mixed.toCell .unknown ⟨.typeMismatch .string .bool,
      some { operation := "search_binary", index := some 1 }⟩ := .stray kept plain differs
  refine ⟨storable, ?_⟩
  rcases (searches_end_one_way .binary mixed.toCell .unknown storable).1 with
    ⟨failure, decided, refused⟩ | ⟨_, _, _, none, _⟩
  · rw [refused, ← (decided _).mp refuses]
  · exact absurd refuses (none _)

end TaggedCells

import TaggedCells.Proofs.Search.Stretches
import TaggedCells.Proofs.Sorting.IntegerArrays

/-!
# Searches that agree

On a homogeneous array in nondecreasing order the searches by halving find what the searches one
by one find. The first and the last equal position are the same either way, any equal position
lies between them, and as many elements are equal to the key as there are positions from the
first to the last (`searches_agree`).

The order has to be known. Sorting an array of integers provides it, with any algorithm.
-/

set_option autoImplicit false

namespace TaggedCells
namespace Search

/-- A search of a homogeneous array for a key of its kind passes every check. -/
theorem find_eq_look {kind : Kind} {elements : List Cell} {key : Cell}
    (constructible : kind.isConstructible = true)
    (uniform : ∀ element ∈ elements, element.kind = kind) (keyKind : key.kind = kind)
    (search : Search) :
    search.find (.array kind elements) key = (do
      match ← search.look elements key with
      | some position => return position
      | none => Cause.notFound.raise) := by
  have valid : key.isInvalid = false := by
    cases key <;> first | rfl | (subst keyKind; cases constructible)
  have accepted : CellArray.requireHomogeneous ⟨kind, elements⟩ search.operation = .ok () :=
    CellArray.requireHomogeneous_eq_ok_iff.mpr uniform
  have passed : search.searchable (.array kind elements) key = .ok elements := by
    simp only [searchable, Cell.array?, valid, keyKind]
    show (do
      CellArray.requireHomogeneous ⟨kind, elements⟩ search.operation
      if kind ≠ kind then (Cause.typeMismatch kind kind).raise
      return elements) = _
    rw [accepted, if_neg (not_not.mpr rfl)]
    rfl
  rw [find, passed]
  rfl

/-- The searches by halving agree with those one by one. -/
structure Agree (cell key : Cell) (elements : List Cell) : Prop where
  first : binaryFirst.find cell key = linearFirst.find cell key
  last : binaryLast.find cell key = linearLast.find cell key
  any : (∃ position, binary.find cell key = .ok position)
    ↔ ∃ position, linear.find cell key = .ok position
  between : ∀ position, binary.find cell key = .ok position →
    ∃ first last, linearFirst.find cell key = .ok first ∧ linearLast.find cell key = .ok last
      ∧ first ≤ position ∧ position ≤ last
      ∧ ∃ element, elements[position]? = some element ∧ element.equal key = .ok true
  counted : (∃ element ∈ elements, element.equal key = .ok true) →
    ∃ first last, linearFirst.find cell key = .ok first ∧ linearLast.find cell key = .ok last
      ∧ first ≤ last
      ∧ last - first + 1
        = elements.countP fun element => decide (element.equal key = .ok true)

namespace Stretches

variable {elements before alike after : List Cell} {key : Cell}

theorem equal_at (split : Stretches elements key before alike after) {position : Nat}
    (low : before.length ≤ position) (high : position < before.length + alike.length) :
    ∃ element, elements[position]? = some element ∧ element.equal key = .ok true := by
  have inside : position < elements.length := by
    have := split.length_eq
    omega
  have holds := List.getElem?_eq_getElem inside
  have answered := split.order_at holds
  rw [if_neg (by omega), if_pos high] at answered
  exact ⟨elements[position], holds, equal_of_order answered⟩

theorem alike_ne_nil_of_mem (split : Stretches elements key before alike after) {element : Cell}
    (present : element ∈ elements) (equal : element.equal key = .ok true) : alike ≠ [] := by
  rintro rfl
  rw [split.whole, List.append_nil] at present
  rcases List.mem_append.mp present with early | late
  · rw [equal_of_order (split.before_lt element early)] at equal
    cases equal
  · rw [equal_of_order (split.after_gt element late)] at equal
    cases equal

/-- Where no element equals the key, every search ends without a find. -/
theorem find_absent {kind : Kind} (constructible : kind.isConstructible = true)
    (split : Stretches elements key before [] after)
    (uniform : ∀ element ∈ elements, element.kind = kind) (keyKind : key.kind = kind)
    (search : Search) : search.find (.array kind elements) key = Cause.notFound.raise := by
  have looked : search.look elements key = .ok none := by
    cases search with
    | linear => exact split.fromFront_eq
    | linearFirst => exact split.fromFront_eq
    | linearLast => exact split.fromBack_eq
    | binary =>
        obtain ⟨found, probed, missed, -⟩ :=
          split.probe_eq (Nat.le_refl _) (Nat.zero_le _) (by have := split.length_eq; omega)
        exact probed.trans (congrArg Except.ok (missed.mpr rfl))
    | binaryFirst => exact split.firstByHalving_eq.trans split.fromFront_eq
    | binaryLast => exact split.lastByHalving_eq.trans split.fromBack_eq
  rw [find_eq_look constructible uniform keyKind, looked]
  rfl

/-- Where an element equals the key, each search finds its own of the equal ones. -/
theorem find_present {kind : Kind} (constructible : kind.isConstructible = true)
    (split : Stretches elements key before alike after) (occupied : alike ≠ [])
    (uniform : ∀ element ∈ elements, element.kind = kind) (keyKind : key.kind = kind) :
    linear.find (.array kind elements) key = .ok before.length
      ∧ linearFirst.find (.array kind elements) key = .ok before.length
      ∧ linearLast.find (.array kind elements) key = .ok (before.length + alike.length - 1)
      ∧ ∃ position, binary.find (.array kind elements) key = .ok position
          ∧ before.length ≤ position ∧ position < before.length + alike.length := by
  have reduced := find_eq_look constructible uniform keyKind
  have front : fromFront elements key = .ok (some before.length) := by
    rw [split.fromFront_eq, if_neg occupied]
  have back : fromBack elements key = .ok (some (before.length + alike.length - 1)) := by
    rw [split.fromBack_eq, if_neg occupied]
  obtain ⟨found, probed, missed, within⟩ :=
    split.probe_eq (Nat.le_refl _) (Nat.zero_le _) (by have := split.length_eq; omega)
  obtain ⟨position, rfl⟩ := Option.ne_none_iff_exists'.mp (mt missed.mp occupied)
  have halved : byHalving elements key = .ok (some position) := probed
  refine ⟨?_, ?_, ?_, position, ?_, within position rfl⟩
  · rw [reduced, look, front]
    rfl
  · rw [reduced, look, front]
    rfl
  · rw [reduced, look, back]
    rfl
  · rw [reduced, look, halved]
    rfl

theorem agree {kind : Kind} (constructible : kind.isConstructible = true)
    (split : Stretches elements key before alike after)
    (uniform : ∀ element ∈ elements, element.kind = kind) (keyKind : key.kind = kind) :
    Agree (.array kind elements) key elements := by
  have reduced := find_eq_look constructible uniform keyKind
  have first : binaryFirst.find (.array kind elements) key
      = linearFirst.find (.array kind elements) key := by
    rw [reduced, reduced, look, look, split.firstByHalving_eq]
  have last : binaryLast.find (.array kind elements) key
      = linearLast.find (.array kind elements) key := by
    rw [reduced, reduced, look, look, split.lastByHalving_eq]
  by_cases occupied : alike = []
  · subst occupied
    have absent := split.find_absent constructible uniform keyKind
    refine ⟨first, last, ?_, ?_, ?_⟩
    · rw [absent, absent]
    · intro position found
      rw [absent] at found
      cases found
    · rintro ⟨element, present, equal⟩
      exact absurd rfl (split.alike_ne_nil_of_mem present equal)
  · obtain ⟨linearFind, firstFind, lastFind, position, binaryFind, low, high⟩ :=
      split.find_present constructible occupied uniform keyKind
    refine ⟨first, last, ⟨fun _ => ⟨_, linearFind⟩, fun _ => ⟨_, binaryFind⟩⟩, ?_, ?_⟩
    · intro found answered
      obtain rfl := Except.ok.inj (binaryFind.symm.trans answered)
      exact ⟨_, _, firstFind, lastFind, low, by omega, split.equal_at low high⟩
    · intro _
      have positive := List.length_pos_iff.mpr occupied
      refine ⟨_, _, firstFind, lastFind, by omega, ?_⟩
      rw [split.countP_equal]
      omega

end Stretches
end Search

/-- **On a homogeneous array in nondecreasing order the searches agree, and sorting an array of
integers puts it in such an order.** -/
theorem searches_agree {kind : Kind} (constructible : kind.isConstructible = true)
    {elements : List Cell} (uniform : ∀ element ∈ elements, element.kind = kind)
    {key : Cell} (keyKind : key.kind = kind) :
    (Cell.Nondecreasing elements → Search.Agree (.array kind elements) key elements)
      ∧ ∀ integerKind : IntKind, kind = .integer integerKind →
          ∀ algorithm : SortAlgorithm, ∃ sorted : List Cell,
            (Cell.sort algorithm).applyPure (.array kind elements) = (.ok (), .array kind sorted)
              ∧ Search.Agree (.array kind sorted) key sorted := by
  constructor
  · intro ordered
    obtain ⟨before, alike, after, split⟩ :=
      Search.exists_stretches constructible uniform keyKind ordered
    exact split.agree constructible uniform keyKind
  · rintro integerKind rfl algorithm
    have kept := (SortAlgorithm.standard.arrange_arranges Cell.number elements).perm
    have sortedUniform : ∀ element ∈ SortAlgorithm.standard.arrange Cell.number elements,
        element.kind = .integer integerKind :=
      fun element present => uniform element (kept.mem_iff.mp present)
    obtain ⟨before, alike, after, split⟩ :=
      Search.exists_stretches constructible sortedUniform keyKind
        (Cell.pairwise_arrange uniform .standard).isChain
    exact ⟨_, Cell.apply_sort_integers uniform algorithm,
      split.agree constructible sortedUniform keyKind⟩

/-- Doubles in nondecreasing order: the two zeros, which are equal, and a number that is not
one after them. -/
def zerosAndNaN : List Cell :=
  [.double 0x8000000000000000, .double 0, .double 0x7FF8000000000000]

theorem searches_agree_zeros :
    (Kind.double.isConstructible = true ∧ (∀ element ∈ zerosAndNaN, element.kind = .double)
        ∧ Cell.Nondecreasing zerosAndNaN)
      ∧ Search.Agree (.array .double zerosAndNaN) (.double 0) zerosAndNaN := by
  have uniform : ∀ element ∈ zerosAndNaN, element.kind = .double := by decide
  have ordered : Cell.Nondecreasing zerosAndNaN := by
    unfold Cell.Nondecreasing
    decide
  exact ⟨⟨rfl, uniform, ordered⟩, (searches_agree rfl uniform rfl).1 ordered⟩

end TaggedCells

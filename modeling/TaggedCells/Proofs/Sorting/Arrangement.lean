import TaggedCells.Sorting
import Mathlib.Data.List.Sort

/-!
# Ascending arrangements

A sort arranges its elements: what it gives back holds the same elements, and no key in it is
smaller than an earlier one. Each of the five algorithms arranges any elements under any key
(`arrange_arranges`). The induction is that of the algorithm itself, so what carries it differs:
a pass of exchanges takes a largest key to the end, an insertion keeps the settled elements
falling, a selection puts a least key in front, a merge keeps both halves rising, and a
partition leaves the pivot between the smaller keys and the others.

Under a key that tells the elements apart there is one arrangement only, so the choice of the
algorithm does not show in the result (`Arranges.unique`).
-/

set_option autoImplicit false

namespace TaggedCells
namespace Sorting

variable {α : Type}

/-- No key is smaller than an earlier one. -/
def Ascending (key : α → Int) (elements : List α) : Prop :=
  elements.Pairwise fun left right => key left ≤ key right

/-- The result holds the given elements, with ascending keys. -/
structure Arranges (key : α → Int) (elements result : List α) : Prop where
  perm : result.Perm elements
  ascending : Ascending key result

/-- **Elements that their keys tell apart have one arrangement.** -/
theorem Arranges.unique {key : α → Int} {elements first second : List α}
    (injective : ∀ left ∈ elements, ∀ right ∈ elements, key left = key right → left = right)
    (one : Arranges key elements first) (other : Arranges key elements second) :
    first = second := by
  refine List.Perm.eq_of_pairwise ?_ one.ascending other.ascending
    (one.perm.trans other.perm.symm)
  intro left right inFirst inSecond le ge
  exact injective left (one.perm.mem_iff.mp inFirst) right (other.perm.mem_iff.mp inSecond)
    (Int.le_antisymm le ge)

variable (key : α → Int)

/-- Ascending sides with a key between them make an ascending whole. -/
theorem ascending_between {before after : List α} {middle : α}
    (rising : Ascending key before) (risingAfter : Ascending key after)
    (below : ∀ element ∈ before, key element ≤ key middle)
    (above : ∀ element ∈ after, key middle ≤ key element) :
    Ascending key (before ++ middle :: after) := by
  refine List.pairwise_append.mpr ⟨rising, List.pairwise_cons.mpr ⟨above, risingAfter⟩, ?_⟩
  intro left inBefore right inRest
  rcases List.mem_cons.mp inRest with rfl | inAfter
  · exact below left inBefore
  · exact (below left inBefore).trans (above right inAfter)

/-! ## Adjacent exchanges -/

/-- A pass keeps the elements. -/
theorem carry_perm (held : α) (elements : List α) :
    ((carry key held elements).passed ++ [(carry key held elements).carried]).Perm
      (held :: elements) := by
  induction elements generalizing held with
  | nil => simp [carry]
  | cons next rest ih =>
      by_cases smaller : key next < key held
      · simp only [carry, if_pos smaller, List.cons_append]
        exact ((ih held).cons next).trans (List.Perm.swap held next rest)
      · simp only [carry, if_neg smaller, List.cons_append]
        exact (ih next).cons held

/-- A pass carries a largest key to the end. -/
theorem le_carried (held : α) (elements : List α) :
    ∀ element ∈ held :: elements, key element ≤ key (carry key held elements).carried := by
  induction elements generalizing held with
  | nil => simp [carry]
  | cons next rest ih =>
      by_cases smaller : key next < key held
      · simp only [carry, if_pos smaller]
        intro element present
        have heldBelow := ih held held List.mem_cons_self
        rcases List.mem_cons.mp present with rfl | inRest
        · exact heldBelow
        · rcases List.mem_cons.mp inRest with rfl | further
          · exact smaller.le.trans heldBelow
          · exact ih held element (List.mem_cons_of_mem held further)
      · simp only [carry, if_neg smaller]
        intro element present
        rcases List.mem_cons.mp present with rfl | inRest
        · exact (not_lt.mp smaller).trans (ih next next List.mem_cons_self)
        · exact ih next element inRest

/-- A pass that exchanges nothing leaves the elements as they were, and they ascend. -/
theorem carry_unexchanged (held : α) (elements : List α)
    (still : (carry key held elements).exchanged = false) :
    (carry key held elements).passed ++ [(carry key held elements).carried] = held :: elements
      ∧ Ascending key (held :: elements) := by
  induction elements generalizing held with
  | nil => exact ⟨rfl, List.pairwise_singleton _ _⟩
  | cons next rest ih =>
      by_cases smaller : key next < key held
      · simp [carry, smaller] at still
      · simp only [carry, if_neg smaller, List.cons_append] at still ⊢
        obtain ⟨same, rising⟩ := ih next still
        refine ⟨by rw [same], List.pairwise_cons.mpr ⟨?_, rising⟩⟩
        intro element present
        rcases List.mem_cons.mp present with rfl | further
        · exact not_lt.mp smaller
        · exact (not_lt.mp smaller).trans (List.rel_of_pairwise_cons rising further)

theorem bubble_arranges (elements : List α) : Arranges key elements (bubble key elements) := by
  fun_induction bubble key elements with
  | case1 => exact ⟨.refl _, .nil⟩
  | case2 first rest pass exchanged ih =>
      have kept : (pass.passed ++ [pass.carried]).Perm (first :: rest) := carry_perm key first rest
      refine ⟨(ih.perm.append_right _).trans kept, ?_⟩
      refine ascending_between key ih.ascending .nil ?_ (by simp)
      intro element present
      have among : element ∈ pass.passed ++ [pass.carried] :=
        List.mem_append_left _ (ih.perm.mem_iff.mp present)
      exact le_carried key first rest element (kept.mem_iff.mp among)
  | case3 first rest pass still =>
      obtain ⟨same, rising⟩ := carry_unexchanged key first rest (by simpa using still)
      rw [same]
      exact ⟨.refl _, rising⟩

/-! ## Insertion -/

theorem settle_perm (item : α) (settled : List α) :
    (settle key item settled).Perm (item :: settled) := by
  induction settled with
  | nil => exact .refl _
  | cons nearest further ih =>
      by_cases smaller : key item < key nearest
      · simp only [settle, if_pos smaller]
        exact (ih.cons nearest).trans (List.Perm.swap item nearest further)
      · simp only [settle, if_neg smaller]
        exact .refl _

/-- Settling an element among falling keys leaves falling keys. -/
theorem settle_falling (item : α) (settled : List α)
    (falling : settled.Pairwise fun left right => key right ≤ key left) :
    (settle key item settled).Pairwise fun left right => key right ≤ key left := by
  induction settled with
  | nil => exact List.pairwise_singleton _ _
  | cons nearest further ih =>
      obtain ⟨below, fallingFurther⟩ := List.pairwise_cons.mp falling
      by_cases smaller : key item < key nearest
      · simp only [settle, if_pos smaller]
        refine List.pairwise_cons.mpr ⟨?_, ih fallingFurther⟩
        intro element present
        rcases List.mem_cons.mp ((settle_perm key item further).mem_iff.mp present) with rfl | old
        · exact smaller.le
        · exact below element old
      · simp only [settle, if_neg smaller]
        refine List.pairwise_cons.mpr ⟨?_, falling⟩
        intro element present
        rcases List.mem_cons.mp present with rfl | old
        · exact not_lt.mp smaller
        · exact (below element old).trans (not_lt.mp smaller)

/-- Settling elements one after the other, among falling ones that are settled already. -/
theorem foldl_settle (elements settled : List α)
    (falling : settled.Pairwise fun left right => key right ≤ key left) :
    (elements.foldl (fun held item => settle key item held) settled).Perm (settled ++ elements)
      ∧ (elements.foldl (fun held item => settle key item held) settled).Pairwise
          fun left right => key right ≤ key left := by
  induction elements generalizing settled with
  | nil => simpa using falling
  | cons item rest ih =>
      obtain ⟨kept, fallen⟩ :=
        ih (settle key item settled) (settle_falling key item settled falling)
      refine ⟨kept.trans ?_, fallen⟩
      exact ((settle_perm key item settled).append_right rest).trans List.perm_middle.symm

theorem insertion_arranges (elements : List α) :
    Arranges key elements (insertion key elements) := by
  obtain ⟨kept, falling⟩ := foldl_settle key elements [] .nil
  exact ⟨(List.reverse_perm _).trans kept, List.pairwise_reverse.mpr falling⟩

/-! ## Selection -/

/-- Without a place, the held element has a least key; the place of an element has one with a
least key of all. -/
theorem leastBelow_spec (held : α) (elements : List α) :
    match leastBelow key held elements with
    | none => ∀ element ∈ elements, key held ≤ key element
    | some place => ∃ least, elements[place]? = some least
        ∧ key least < key held ∧ ∀ element ∈ elements, key least ≤ key element := by
  induction elements generalizing held with
  | nil => simp [leastBelow]
  | cons next rest ih =>
      by_cases smaller : key next < key held
      · have further := ih next
        simp only [leastBelow, if_pos smaller]
        cases found : leastBelow key next rest with
        | none =>
            rw [found] at further
            exact ⟨next, rfl, smaller, List.forall_mem_cons.mpr ⟨le_refl _, further⟩⟩
        | some place =>
            rw [found] at further
            obtain ⟨least, atPlace, below, minimal⟩ := further
            exact ⟨least, atPlace, below.trans smaller,
              List.forall_mem_cons.mpr ⟨below.le, minimal⟩⟩
      · have further := ih held
        simp only [leastBelow, if_neg smaller]
        cases found : leastBelow key held rest with
        | none =>
            rw [found] at further
            exact List.forall_mem_cons.mpr ⟨not_lt.mp smaller, further⟩
        | some place =>
            rw [found] at further
            obtain ⟨least, atPlace, below, minimal⟩ := further
            exact ⟨least, atPlace, below,
              List.forall_mem_cons.mpr ⟨below.le.trans (not_lt.mp smaller), minimal⟩⟩

/-- Exchanging an element in front with one at a place keeps the elements. -/
theorem cons_set_perm {elements : List α} {place : Nat} {chosen : α} (first : α)
    (atPlace : elements[place]? = some chosen) :
    (chosen :: elements.set place first).Perm (first :: elements) := by
  induction elements generalizing place with
  | nil => simp at atPlace
  | cons next rest ih =>
      cases place with
      | zero =>
          obtain rfl : next = chosen := by simpa using atPlace
          exact List.Perm.swap first next rest
      | succ lower =>
          have further : rest[lower]? = some chosen := by simpa using atPlace
          have deeper := ih further
          refine (List.Perm.swap next chosen _).trans ?_
          exact (deeper.cons next).trans (List.Perm.swap first next rest)

theorem selection_arranges (elements : List α) :
    Arranges key elements (selection key elements) := by
  fun_induction selection key elements with
  | case1 => exact ⟨.refl _, .nil⟩
  | case2 first rest none ih =>
      have least := leastBelow_spec key first rest
      rw [none] at least
      refine ⟨ih.perm.cons first, List.pairwise_cons.mpr ⟨?_, ih.ascending⟩⟩
      exact fun element present => least element (ih.perm.mem_iff.mp present)
  | case3 first rest place found ih =>
      have chosen := leastBelow_spec key first rest
      rw [found] at chosen
      obtain ⟨least, atPlace, below, minimal⟩ := chosen
      have front : rest.getD place first = least := by simp [List.getD, atPlace]
      rw [front]
      refine ⟨(ih.perm.cons least).trans (cons_set_perm first atPlace),
        List.pairwise_cons.mpr ⟨?_, ih.ascending⟩⟩
      intro element present
      rcases List.mem_or_eq_of_mem_set (ih.perm.mem_iff.mp present) with old | rfl
      · exact minimal element old
      · exact below.le

/-! ## Merging -/

/-- Merging keeps ascending lists ascending. -/
theorem merge_ascending {left right : List α} (leftAscending : Ascending key left)
    (rightAscending : Ascending key right) :
    Ascending key (left.merge right fun first second => !(key second < key first)) := by
  have transitive : ∀ first second third : α, (!decide (key second < key first)) = true →
      (!decide (key third < key second)) = true → (!decide (key third < key first)) = true := by
    simpa using fun first second third => le_trans
  have total : ∀ first second : α,
      (!decide (key second < key first) || !decide (key first < key second)) = true := by
    simpa using fun first second => le_total (key first) (key second)
  have merged := List.pairwise_merge transitive total left right
    (by simpa [Ascending] using leftAscending) (by simpa [Ascending] using rightAscending)
  simpa [Ascending] using merged

theorem merging_arranges (elements : List α) : Arranges key elements (merging key elements) := by
  fun_induction merging key elements with
  | case1 elements short =>
      refine ⟨.refl _, ?_⟩
      match elements, short with
      | [], _ => exact .nil
      | [only], _ => exact List.pairwise_singleton _ _
  | case2 elements long middle front back =>
      constructor
      · have halves := front.perm.append back.perm
        rw [List.take_append_drop] at halves
        exact (List.merge_perm_append _).trans halves
      · exact merge_ascending key front.ascending back.ascending

/-! ## Partition -/

theorem turn_perm (elements : List α) : (turn elements).Perm elements := by
  cases elements with
  | nil => exact .refl _
  | cons first rest => exact List.perm_append_singleton first rest

/-- A scan adds each element to one of the sides: smaller keys to the first, others to the
second. -/
theorem scan_spec (pivot : Int) (smaller others elements : List α)
    (below : ∀ element ∈ smaller, key element < pivot)
    (above : ∀ element ∈ others, pivot ≤ key element) :
    ((scan key pivot smaller others elements).1
        ++ (scan key pivot smaller others elements).2).Perm (smaller ++ others ++ elements)
      ∧ (∀ element ∈ (scan key pivot smaller others elements).1, key element < pivot)
      ∧ ∀ element ∈ (scan key pivot smaller others elements).2, pivot ≤ key element := by
  induction elements generalizing smaller others with
  | nil => simpa [scan] using ⟨below, above⟩
  | cons next rest ih =>
      by_cases less : key next < pivot
      · simp only [scan, if_pos less]
        obtain ⟨kept, lows, highs⟩ := ih (smaller ++ [next]) (turn others)
          (by simpa [or_imp, forall_and] using ⟨below, less⟩)
          (fun element present => above element ((turn_perm others).mem_iff.mp present))
        refine ⟨kept.trans ?_, lows, highs⟩
        have turned := ((turn_perm others).append_left (smaller ++ [next])).append_right rest
        refine turned.trans ?_
        have moved : (next :: (others ++ rest)).Perm (others ++ next :: rest) :=
          List.perm_middle.symm
        simpa using moved.append_left smaller
      · simp only [scan, if_neg less]
        obtain ⟨kept, lows, highs⟩ := ih smaller (others ++ [next]) below
          (by simpa [or_imp, forall_and] using ⟨above, not_lt.mp less⟩)
        exact ⟨by simpa using kept, lows, highs⟩

/-- The sides of a pivot hold the elements, smaller keys before it and no smaller ones after. -/
theorem sides_spec (pivot : α) (elements : List α) :
    ((sides key pivot elements).1 ++ (sides key pivot elements).2).Perm elements
      ∧ (∀ element ∈ (sides key pivot elements).1, key element < key pivot)
      ∧ ∀ element ∈ (sides key pivot elements).2, key pivot ≤ key element := by
  obtain ⟨kept, lows, highs⟩ := scan_spec key (key pivot) [] [] elements (by simp) (by simp)
  have all : ((scan key (key pivot) [] [] elements).1
      ++ (scan key (key pivot) [] [] elements).2).Perm elements := by simpa using kept
  refine ⟨((turn_perm _).append_left _).trans all, lows, ?_⟩
  exact fun element present => highs element ((turn_perm _).mem_iff.mp present)

theorem quick_nil : quick key ([] : List α) = [] := by
  unfold quick
  rw [sortBetween]
  rfl

theorem quick_arranges (elements : List α) : Arranges key elements (quick key elements) := by
  induction size : elements.length using Nat.strong_induction_on generalizing elements with
  | h length ih =>
    rcases List.eq_nil_or_concat elements with rfl | ⟨others, pivot, rfl⟩
    · rw [quick_nil]
      exact ⟨.refl _, .nil⟩
    · have counted := length_sides key pivot others
      simp only [List.concat_eq_append, List.length_append, List.length_singleton] at size
      obtain ⟨kept, lows, highs⟩ := sides_spec key pivot others
      have front := ih _ (by omega) (sides key pivot others).1 rfl
      have back := ih _ (by omega) (sides key pivot others).2 rfl
      rw [List.concat_eq_append, quick_concat]
      constructor
      · refine (front.perm.append (back.perm.cons pivot)).trans (List.perm_middle.trans ?_)
        exact (kept.cons pivot).trans (List.perm_append_singleton pivot others).symm
      · refine ascending_between key front.ascending back.ascending ?_ ?_
        · exact fun element present => (lows element (front.perm.mem_iff.mp present)).le
        · exact fun element present => highs element (back.perm.mem_iff.mp present)

end Sorting

/-- **Every algorithm arranges its elements.** -/
theorem SortAlgorithm.arrange_arranges {α : Type} (algorithm : SortAlgorithm) (key : α → Int)
    (elements : List α) : Sorting.Arranges key elements (algorithm.arrange key elements) := by
  cases algorithm with
  | bubble => exact Sorting.bubble_arranges key elements
  | insertion => exact Sorting.insertion_arranges key elements
  | selection => exact Sorting.selection_arranges key elements
  | merge => exact Sorting.merging_arranges key elements
  | quick => exact Sorting.quick_arranges key elements

end TaggedCells

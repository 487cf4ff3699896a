import TaggedCells.Search
import TaggedCells.Proofs.Cell.Order
import Mathlib.Data.List.Chain

/-!
# Stretches around a key

Against a key of their kind, cells in nondecreasing order fall into three stretches: those
before the key, those equal to it, and those after it (`exists_stretches`). The stretches decide
what every search meets. A search one by one passes the first stretch from the front, or the
last from the back. A search by halving keeps the boundary that it looks for inside its
interval.
-/

set_option autoImplicit false

namespace TaggedCells

/-- No element comes after its successor. -/
def Cell.Nondecreasing (elements : List Cell) : Prop :=
  elements.IsChain fun left right => left.lessEqual right = .ok true

namespace Search

/-- The elements are those before the key, those equal to it, and those after it. -/
structure Stretches (elements : List Cell) (key : Cell) (before alike after : List Cell) :
    Prop where
  whole : elements = before ++ alike ++ after
  before_lt : ∀ element ∈ before, element.order key = .ok .lt
  alike_eq : ∀ element ∈ alike, element.order key = .ok .eq
  after_gt : ∀ element ∈ after, element.order key = .ok .gt

/-- Places on a scale fall into stretches when they ascend. -/
theorem exists_stretches_of_scale {scale : Type} [Ord scale] [Std.TransOrd scale]
    (place : Cell → scale) {elements : List Cell} {key : Cell}
    (compared : ∀ element ∈ elements,
      element.order key = .ok (compare (place element) (place key)))
    (rising : elements.Pairwise fun left right => (compare (place left) (place right)).isLE) :
    ∃ before alike after : List Cell, Stretches elements key before alike after := by
  induction elements with
  | nil => exact ⟨[], [], [], rfl, by simp, by simp, by simp⟩
  | cons first rest ih =>
      obtain ⟨below, risingRest⟩ := List.pairwise_cons.mp rising
      obtain ⟨firstCompared, restCompared⟩ := List.forall_mem_cons.mp compared
      obtain ⟨before, alike, after, split⟩ := ih restCompared risingRest
      -- what stands before the key in the rest stands after the first element
      have order_le : ∀ element ∈ rest, ∀ verdict, element.order key = .ok verdict →
          (compare (place first) (place element)).isLE ∧
            compare (place element) (place key) = verdict := by
        intro element inRest verdict answered
        rw [restCompared element inRest] at answered
        exact ⟨below element inRest, Except.ok.inj answered⟩
      cases verdict : compare (place first) (place key) with
      | lt =>
          refine ⟨first :: before, alike, after, by rw [split.whole]; rfl, ?_, split.alike_eq,
            split.after_gt⟩
          exact List.forall_mem_cons.mpr ⟨verdict ▸ firstCompared, split.before_lt⟩
      | eq =>
          obtain rfl : before = [] := by
            refine List.eq_nil_iff_forall_not_mem.mpr fun element present => ?_
            have inRest : element ∈ rest := by
              rw [split.whole]
              exact List.mem_append_left _ (List.mem_append_left _ present)
            obtain ⟨le, lt⟩ := order_le element inRest .lt (split.before_lt element present)
            have less := Std.TransCmp.lt_of_isLE_of_lt le lt
            rw [verdict] at less
            cases less
          refine ⟨[], first :: alike, after, by rw [split.whole]; rfl, by simp, ?_, split.after_gt⟩
          exact List.forall_mem_cons.mpr ⟨verdict ▸ firstCompared, split.alike_eq⟩
      | gt =>
          refine ⟨[], [], first :: rest, rfl, by simp, by simp, ?_⟩
          refine List.forall_mem_cons.mpr ⟨verdict ▸ firstCompared, fun element inRest => ?_⟩
          have greater : compare (place element) (place key) = .gt := by
            rw [Std.OrientedCmp.gt_iff_lt]
            exact Std.TransCmp.lt_of_lt_of_isLE (Std.OrientedCmp.gt_iff_lt.mp verdict)
              (below element inRest)
          rw [restCompared element inRest, greater]

/-- **Cells in nondecreasing order fall into stretches against a key of their kind.** -/
theorem exists_stretches {kind : Kind} (constructible : kind.isConstructible = true)
    {elements : List Cell} {key : Cell} (uniform : ∀ element ∈ elements, element.kind = kind)
    (keyKind : key.kind = kind) (ordered : Cell.Nondecreasing elements) :
    ∃ before alike after : List Cell, Stretches elements key before alike after := by
  obtain ⟨scale, _, _, place, agree⟩ := Cell.exists_scale constructible
  refine exists_stretches_of_scale place
    (fun element present => agree element key (uniform element present) keyKind) ?_
  have rising : elements.IsChain fun left right => (compare (place left) (place right)).isLE := by
    refine List.IsChain.imp_of_mem_imp (fun left right leftIn rightIn le => ?_) ordered
    rw [Cell.lessEqual, agree left right (uniform left leftIn) (uniform right rightIn)] at le
    exact Except.ok.inj le
  have : IsTrans Cell fun left right => (compare (place left) (place right)).isLE = true :=
    ⟨fun _ _ _ => Std.TransCmp.isLE_trans⟩
  exact List.isChain_iff_pairwise.mp rising

/-! ## One by one -/

theorem equal_of_order {element key : Cell} {verdict : Ordering}
    (answered : element.order key = .ok verdict) : element.equal key = .ok verdict.isEq := by
  rw [Cell.equal, answered]
  rfl

/-- Entries that are not equal to the key are passed. -/
theorem firstEqual_append {key : Cell} {skipped placed : List (Cell × Nat)}
    (unequal : ∀ entry ∈ skipped, entry.1.equal key = .ok false) :
    firstEqual key (skipped ++ placed) = firstEqual key placed := by
  induction skipped with
  | nil => rfl
  | cons entry rest ih =>
      obtain ⟨here, further⟩ := List.forall_mem_cons.mp unequal
      have onward := ih further
      simp only [firstEqual, List.cons_append, List.findM?, here] at onward ⊢
      exact onward

theorem firstEqual_cons {key : Cell} {entry : Cell × Nat} (placed : List (Cell × Nat))
    (found : entry.1.equal key = .ok true) :
    firstEqual key (entry :: placed) = .ok (some entry.2) := by
  simp only [firstEqual, List.findM?, found]
  rfl

theorem firstEqual_eq_none {key : Cell} {placed : List (Cell × Nat)}
    (unequal : ∀ entry ∈ placed, entry.1.equal key = .ok false) :
    firstEqual key placed = .ok none := by
  have passed : firstEqual key (placed ++ []) = firstEqual key [] := firstEqual_append unequal
  rw [List.append_nil] at passed
  rw [passed]
  rfl

namespace Stretches

variable {elements before alike after : List Cell} {key : Cell}

theorem before_unequal (split : Stretches elements key before alike after) (first : Nat) :
    ∀ entry ∈ before.zipIdx first, entry.1.equal key = .ok false := by
  intro entry present
  exact equal_of_order (split.before_lt _ (List.fst_mem_of_mem_zipIdx present))

theorem after_unequal (split : Stretches elements key before alike after) (first : Nat) :
    ∀ entry ∈ after.zipIdx first, entry.1.equal key = .ok false := by
  intro entry present
  exact equal_of_order (split.after_gt _ (List.fst_mem_of_mem_zipIdx present))

/-- From the front, the first of the equal elements is found. -/
theorem fromFront_eq (split : Stretches elements key before alike after) :
    fromFront elements key = .ok (if alike = [] then none else some before.length) := by
  rw [fromFront, split.whole, List.append_assoc, List.zipIdx_append,
    firstEqual_append (split.before_unequal 0)]
  cases alike with
  | nil => exact firstEqual_eq_none (split.after_unequal _)
  | cons found further =>
      rw [List.cons_append, List.zipIdx_cons,
        firstEqual_cons _ (equal_of_order (split.alike_eq found List.mem_cons_self))]
      simp

/-- From the back, the last of the equal elements is found. -/
theorem fromBack_eq (split : Stretches elements key before alike after) :
    fromBack elements key
      = .ok (if alike = [] then none else some (before.length + alike.length - 1)) := by
  rw [fromBack, split.whole, List.zipIdx_append, List.reverse_append,
    firstEqual_append fun entry present =>
      split.after_unequal _ entry (List.mem_reverse.mp present)]
  rcases List.eq_nil_or_concat alike with rfl | ⟨others, found, rfl⟩
  · refine firstEqual_eq_none fun entry present => ?_
    rw [List.append_nil] at present
    exact split.before_unequal _ entry (List.mem_reverse.mp present)
  · have equal : found.equal key = .ok true := equal_of_order (split.alike_eq found (by simp))
    rw [List.concat_eq_append, List.zipIdx_append, List.zipIdx_append, List.reverse_append,
      List.reverse_append, List.zipIdx_singleton, List.reverse_singleton, List.append_assoc,
      List.singleton_append, firstEqual_cons _ equal]
    simp

/-! ## By halving -/

/-- What the order says of the element at each position. -/
theorem order_at (split : Stretches elements key before alike after) {position : Nat}
    {element : Cell} (holds : elements[position]? = some element) :
    element.order key = .ok (if position < before.length then .lt
      else if position < before.length + alike.length then .eq else .gt) := by
  rw [split.whole] at holds
  by_cases early : position < before.length
  · rw [List.append_assoc, List.getElem?_append_left early] at holds
    rw [if_pos early]
    exact split.before_lt element (List.mem_of_getElem? holds)
  · rw [if_neg early]
    by_cases middle : position < before.length + alike.length
    · rw [List.getElem?_append_left (by simpa using middle),
        List.getElem?_append_right (not_lt.mp early)] at holds
      rw [if_pos middle]
      exact split.alike_eq element (List.mem_of_getElem? holds)
    · rw [List.getElem?_append_right (by simpa using middle)] at holds
      rw [if_neg middle]
      exact split.after_gt element (List.mem_of_getElem? holds)

end Stretches

/-- Halving finds the boundary of a test that holds before a cut and not from it on. -/
theorem bisect_eq_cut {length cut : Nat} {test : Fin length → Except Failure Bool}
    (answers : ∀ position, test position = .ok (decide (position.val < cut)))
    {low high : Nat} (bounded : high ≤ length) (notBelow : low ≤ cut) (notAbove : cut ≤ high) :
    bisect test low high bounded = .ok cut := by
  induction size : high - low using Nat.strong_induction_on generalizing low high with
  | h measure ih =>
    have center : middle low high = low + (high - low) / 2 := rfl
    rw [bisect]
    by_cases less : low < high
    · rw [dif_pos less, answers]
      by_cases early : middle low high < cut
      · simp only [early, decide_true]
        exact ih (high - (middle low high + 1)) (by omega) bounded early notAbove rfl
      · simp only [early, decide_false]
        exact ih (middle low high - low) (by omega) (by omega) notBelow (by omega) rfl
    · rw [dif_neg less]
      exact congrArg Except.ok (by omega)

namespace Stretches

variable {elements before alike after : List Cell} {key : Cell}

theorem length_eq (split : Stretches elements key before alike after) :
    elements.length = before.length + alike.length + after.length := by
  rw [split.whole, List.length_append, List.length_append]

theorem bound_isLT (split : Stretches elements key before alike after) :
    bound elements key Ordering.isLT = .ok before.length := by
  refine bisect_eq_cut (fun position => ?_) _ (Nat.zero_le _) (by have := split.length_eq; omega)
  rw [List.get_eq_getElem, split.order_at (List.getElem?_eq_getElem position.isLt)]
  refine congrArg Except.ok ?_
  by_cases early : position.val < before.length
  · simp [early]
  · by_cases middle : position.val < before.length + alike.length <;> simp [early, middle]

theorem bound_isLE (split : Stretches elements key before alike after) :
    bound elements key Ordering.isLE = .ok (before.length + alike.length) := by
  refine bisect_eq_cut (fun position => ?_) _ (Nat.zero_le _) (by have := split.length_eq; omega)
  rw [List.get_eq_getElem, split.order_at (List.getElem?_eq_getElem position.isLt)]
  refine congrArg Except.ok ?_
  by_cases middle : position.val < before.length + alike.length
  · by_cases early : position.val < before.length <;> simp [early, middle]
  · have late : ¬position.val < before.length := by omega
    simp [late, middle]

theorem confirm_eq (split : Stretches elements key before alike after) (position : Nat) :
    confirm elements key position
      = .ok (if before.length ≤ position ∧ position < before.length + alike.length
          then some position else none) := by
  unfold confirm
  cases holds : elements[position]? with
  | none =>
      have outside := List.getElem?_eq_none_iff.mp holds
      have := split.length_eq
      rw [if_neg (by omega)]
      rfl
  | some element =>
      dsimp only
      rw [equal_of_order (split.order_at holds)]
      refine congrArg Except.ok ?_
      by_cases early : position < before.length
      · simp [early]
      · by_cases middle : position < before.length + alike.length <;> simp [early, middle]

/-- The first boundary of the equal elements is where the search from the front ends. -/
theorem firstByHalving_eq (split : Stretches elements key before alike after) :
    firstByHalving elements key = fromFront elements key := by
  rw [firstByHalving, split.bound_isLT, split.fromFront_eq]
  refine (split.confirm_eq before.length).trans (congrArg Except.ok ?_)
  cases alike <;> simp

/-- The position before the second boundary is where the search from the back ends. -/
theorem lastByHalving_eq (split : Stretches elements key before alike after) :
    lastByHalving elements key = fromBack elements key := by
  rw [lastByHalving, split.bound_isLE, split.fromBack_eq]
  cases counted : before.length + alike.length with
  | zero =>
      obtain rfl := List.length_eq_zero_iff.mp (show alike.length = 0 by omega)
      rfl
  | succ position =>
      refine (split.confirm_eq position).trans (congrArg Except.ok ?_)
      cases alike with
      | nil => rw [if_neg (by simp at counted; omega), if_pos rfl]
      | cons found further =>
          rw [List.length_cons] at counted
          rw [if_neg (List.cons_ne_nil _ _), List.length_cons, if_pos (by omega)]
          exact congrArg some (by omega)

/-- A search by halving has the equal elements inside its interval until a probe meets one. -/
theorem probe_eq (split : Stretches elements key before alike after) {low high : Nat}
    (bounded : high ≤ elements.length) (lowest : low ≤ before.length)
    (highest : before.length + alike.length ≤ high) :
    ∃ found : Option Nat, probe elements key low high bounded = .ok found
      ∧ (found = none ↔ alike = [])
      ∧ ∀ position ∈ found,
          before.length ≤ position ∧ position < before.length + alike.length := by
  induction size : high - low using Nat.strong_induction_on generalizing low high with
  | h measure ih =>
    have center : middle low high = low + (high - low) / 2 := rfl
    rw [probe]
    by_cases less : low < high
    · have inside : middle low high < elements.length := by omega
      rw [dif_pos less, List.get_eq_getElem,
        split.order_at (List.getElem?_eq_getElem inside)]
      by_cases early : middle low high < before.length
      · simp only [early, if_true]
        exact ih (high - (middle low high + 1)) (by omega) bounded early highest rfl
      · by_cases within : middle low high < before.length + alike.length
        · simp only [early, within, if_true, if_false]
          refine ⟨some (middle low high), rfl, ?_, ?_⟩
          · have occupied : alike ≠ [] := by
              rintro rfl
              simp at within
              omega
            simp [occupied]
          · simpa using ⟨by omega, within⟩
        · simp only [early, within, if_false]
          exact ih (middle low high - low) (by omega) (by omega) lowest (by omega) rfl
    · have empty : alike = [] := List.length_eq_zero_iff.mp (by omega)
      rw [dif_neg less]
      exact ⟨none, rfl, by simp [empty], by simp⟩

/-- As many elements equal the key as stand in the middle stretch. -/
theorem countP_equal (split : Stretches elements key before alike after) :
    elements.countP (fun element => decide (element.equal key = .ok true)) = alike.length := by
  have none : before.countP (fun element => decide (element.equal key = .ok true)) = 0 :=
    List.countP_eq_zero.mpr fun element present => by
      simp [equal_of_order (split.before_lt element present)]
  have all : alike.countP (fun element => decide (element.equal key = .ok true)) = alike.length :=
    List.countP_eq_length.mpr fun element present => by
      simp [equal_of_order (split.alike_eq element present)]
  have neither : after.countP (fun element => decide (element.equal key = .ok true)) = 0 :=
    List.countP_eq_zero.mpr fun element present => by
      simp [equal_of_order (split.after_gt element present)]
  rw [split.whole, List.countP_append, List.countP_append, none, all, neither, Nat.zero_add,
    Nat.add_zero]

end Stretches
end Search
end TaggedCells

import TaggedCells.Cell
import TaggedCells.Proofs.Sorting.InPlace

/-!
# How deep sorting by partition nests

A call that sorts by partition goes on with the longer side of every slice that it parts and nests
a call for the shorter one. The shorter side has less than half of the elements beside the pivot, so
the length of a slice and one more is halved by every nested call, however unevenly the slices are
parted. A sorted, a reversed or a constant slice nests no deeper than any other: never deeper than
the logarithm of its length and one more (`quick_nests_within_the_logarithm`).

One call is the loop alone, with the nested calls as a function that it is given (`quickLoop`).
Calls that nest down to a limit come from it by recursion on the limit (`quickNested`).
-/

set_option autoImplicit false

namespace TaggedCells.Sorting

variable {α : Type} (key : α → Int)

/-! ## One call -/

/-- One call of the sort by partition: it goes on with the longer side of each slice that it has
parted, and has the shorter one sorted by `nested`, which is also told the length of the slice. -/
def quickLoop (nested : Nat → List α → Option (List α)) (items : List α) : Option (List α) :=
  if 1 < items.length then
    match _parted : partition? key items with
    | none => none
    | some (parted, place) => do
        let ⟨(left, rest), _cut⟩ ← split? parted place
        let ⟨(pivot, right), _apart⟩ ← split? rest 1
        if left.length < right.length then
          let left ← nested items.length left
          return left ++ pivot ++ (← quickLoop nested right)
        else
          let right ← nested items.length right
          return (← quickLoop nested left) ++ pivot ++ right
  else return items
  termination_by items.length
  decreasing_by
    all_goals
      have size := length_partition? key _parted
      have counted := congrArg List.length _cut.2
      have parts := congrArg List.length _apart.2
      have single := _apart.1
      simp only [List.length_append] at counted parts single
      omega

theorem quick_of_length_le_one {items : List α} (few : items.length ≤ 1) :
    quick key items = items := by
  match items with
  | [] => exact quick_nil key
  | [item] => simpa [quick_nil, sides, scan, turn] using quick_concat key [] item

theorem quickLoop_of_length_le_one (nested : Nat → List α → Option (List α)) {items : List α}
    (few : items.length ≤ 1) : quickLoop key nested items = some items := by
  rw [quickLoop, if_neg (by omega)]
  rfl

/-- A slice of two elements or more is parted by its last element. -/
theorem quickLoop_concat (nested : Nat → List α → Option (List α)) {elements : List α} (pivot : α)
    (several : elements ≠ []) :
    quickLoop key nested (elements ++ [pivot])
      = (let parts := sides key pivot elements
        if parts.1.length < parts.2.length then do
          let left ← nested (elements.length + 1) parts.1
          return left ++ [pivot] ++ (← quickLoop key nested parts.2)
        else do
          let right ← nested (elements.length + 1) parts.2
          return (← quickLoop key nested parts.1) ++ [pivot] ++ right) := by
  have parted := partition?_concat key elements pivot
  have counted : (elements ++ [pivot]).length = elements.length + 1 := by simp
  have long : 1 < (elements ++ [pivot]).length := by
    have := List.length_pos_iff.mpr several
    omega
  rw [quickLoop, if_pos long, counted]
  split
  · next none => rw [parted] at none; cases none
  · next found =>
    rw [parted] at found
    obtain ⟨rfl, rfl⟩ := Prod.mk.inj (Option.some.inj found)
    have apart := split?_eq_some (show [pivot].length = 1 from rfl)
      (show [pivot] ++ (sides key pivot elements).2
        = pivot :: (sides key pivot elements).2 from rfl)
    simp only [split?_eq_some rfl rfl, apart, Option.bind_eq_bind, Option.bind_some]

/-- **A call asks for the shorter sides only**: it sorts its slice if what it nests sorts every
slice of at most half of the elements beside the pivot. -/
theorem quickLoop_eq_quick {nested : Nat → List α → Option (List α)} {items : List α}
    (sorts : ∀ length side, 1 < length → length ≤ items.length → side.length ≤ (length - 1) / 2 →
      nested length side = some (quick key side)) :
    quickLoop key nested items = some (quick key items) := by
  -- the loop goes on with a shorter slice, of which the same is known
  induction size : items.length using Nat.strong_induction_on generalizing items with
  | h length ih =>
    rcases List.eq_nil_or_concat items with rfl | ⟨elements, pivot, rfl⟩
    · have none : ([] : List α).length ≤ 1 := Nat.zero_le 1
      rw [quickLoop_of_length_le_one key nested none, quick_nil]
    rw [List.concat_eq_append] at size sorts ⊢
    by_cases alone : elements = []
    · subst alone
      have single : ([] ++ [pivot]).length ≤ 1 := Nat.le_refl 1
      rw [quickLoop_of_length_le_one key nested single, quick_of_length_le_one key single]
    have occupied := List.length_pos_iff.mpr alone
    have counted := length_sides key pivot elements
    rw [List.length_append, List.length_singleton] at size sorts
    have onward : ∀ side : List α, side.length ≤ elements.length →
        quickLoop key nested side = some (quick key side) := by
      intro side shorter
      refine ih side.length (by omega) (fun length other several within half => ?_) rfl
      exact sorts length other several (by omega) half
    rw [quickLoop_concat key nested pivot alone, quick_concat]
    dsimp only
    split
    · rw [sorts _ (sides key pivot elements).1 (by omega) (Nat.le_refl _) (by omega),
        onward (sides key pivot elements).2 (by omega)]
      simp
    · rw [sorts _ (sides key pivot elements).2 (by omega) (Nat.le_refl _) (by omega),
        onward (sides key pivot elements).1 (by omega)]
      simp

/-- The sort is a call that nests the sort. -/
theorem quickInPlace_eq_quickLoop (items : List α) :
    quickInPlace key items = quickLoop key (fun _ => quickInPlace key) items := by
  rw [quickInPlace_eq_quick]
  exact (quickLoop_eq_quick key fun _ side _ _ _ => quickInPlace_eq_quick key side).symm

/-! ## Nested calls -/

/-- The sort with calls that nest `depth` deep, where `deeper` stands in for those that would nest
deeper still. -/
def quickNested (deeper : List α → Option (List α)) : Nat → List α → Option (List α)
  | 0 => quickLoop key fun _ => deeper
  | depth + 1 => quickLoop key fun _ => quickNested deeper depth

/-- **Every nested call halves the length and one more.** What stands in for the deepest calls has
to sort the slices that are left for them only, all of which are below the bound. -/
theorem quickNested_eq_quick {deeper : List α → Option (List α)} {bound : Nat}
    (sorts : ∀ side : List α, side.length < bound → deeper side = some (quick key side))
    (depth : Nat) {items : List α} (fits : items.length + 1 < (bound + 1) * 2 ^ (depth + 1)) :
    quickNested key deeper depth items = some (quick key items) := by
  induction depth generalizing items with
  | zero =>
      refine quickLoop_eq_quick key fun length side several within half => sorts side ?_
      omega
  | succ depth ih =>
      refine quickLoop_eq_quick key fun length side several within half => ih ?_
      rw [Nat.pow_succ, ← Nat.mul_assoc] at fits
      omega

/-! ## Main statement -/

/-- **The sort by partition nests no deeper than the logarithm of the length and one more**, on any
slice of cells. The sort is one call that nests the sort (the second part). Calls that would nest
deeper may be left out, one level earlier even, and the same slice is left (the third and the
fourth). None is ever made, since anything may stand in for them (the fifth), and each nested call
is for at most half of the elements beside the pivot (the last: a call for more of them would give
no result). -/
theorem quick_nests_within_the_logarithm (items : List Cell) :
    quickInPlace Cell.number items = some (quick Cell.number items)
      ∧ quickInPlace Cell.number items
        = quickLoop Cell.number (fun _ => quickInPlace Cell.number) items
      ∧ quickNested Cell.number some (Nat.log2 (items.length + 1)) items
        = quickInPlace Cell.number items
      ∧ quickNested Cell.number some (Nat.log2 (items.length + 1) - 1) items
        = quickInPlace Cell.number items
      ∧ (∀ (deeper : List Cell → Option (List Cell)) (further : Nat),
          quickNested Cell.number deeper (Nat.log2 (items.length + 1) + further) items
            = quickInPlace Cell.number items)
      ∧ quickLoop Cell.number (fun length side =>
            if side.length ≤ (length - 1) / 2 then quickInPlace Cell.number side else none) items
          = quickInPlace Cell.number items := by
  have within : items.length + 1 < 2 ^ (Nat.log2 (items.length + 1) + 1) := Nat.lt_log2_self
  have reached : ∀ (deeper : List Cell → Option (List Cell)) (further : Nat),
      quickNested Cell.number deeper (Nat.log2 (items.length + 1) + further) items
        = some (quick Cell.number items) := by
    intro deeper further
    have unused : ∀ side : List Cell, side.length < 0 →
        deeper side = some (quick Cell.number side) :=
      fun _ below => absurd below (Nat.not_lt_zero _)
    refine quickNested_eq_quick Cell.number unused _ (Nat.lt_of_lt_of_le within ?_)
    rw [Nat.zero_add, Nat.one_mul]
    exact Nat.pow_le_pow_right (by decide) (by omega)
  have idle : ∀ side : List Cell, side.length < 1 → some side = some (quick Cell.number side) :=
    fun side none => congrArg some (quick_of_length_le_one Cell.number (Nat.le_of_lt none)).symm
  refine ⟨quickInPlace_eq_quick Cell.number items, quickInPlace_eq_quickLoop Cell.number items, ?_⟩
  rw [quickInPlace_eq_quick]
  refine ⟨reached some 0, ?_, reached, ?_⟩
  · refine quickNested_eq_quick Cell.number idle _ (Nat.lt_of_lt_of_le within ?_)
    rw [← Nat.pow_succ']
    exact Nat.pow_le_pow_right (by decide) (by omega)
  · refine quickLoop_eq_quick Cell.number fun length side _ _ half => ?_
    rw [if_pos half, quickInPlace_eq_quick]

end TaggedCells.Sorting

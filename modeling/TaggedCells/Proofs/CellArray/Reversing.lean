import TaggedCells.Proofs.CellArray.Shuffling
import Mathlib.Data.List.Rotate

/-!
# What reversing does to an array

Reversing puts the positions of a section in one order out of many: the one in which each changes
places with the position opposite to it. So what is known of elements put in an order is known of a
reversed section: which element comes where, and that nothing around the section is touched
(`mirrored_turned`). That determines the elements, and everything else follows from it.

A section reversed twice is as it was, the whole array is a section like any other, and when two
sections side by side have been reversed, reversing the two as one exchanges them
(`reversed_turned_turned`), which rotates the array.
-/

set_option autoImplicit false

namespace TaggedCells

variable {α : Type} {start stop : Nat} {elements : List α}

/-- The elements with a section of them in the opposite order. -/
def turned (start stop : Nat) (elements : List α) : List α :=
  spliced start stop elements (sectionOf start stop elements).reverse

/-- In a section every element stands where the one opposite to it stood, and no other element has
moved. -/
structure Mirrored (start stop : Nat) (before after : List α) : Prop where
  length : after.length = before.length
  within : ∀ place, start ≤ place → place < stop → after[place]? = before[start + stop - 1 - place]?
  elsewhere : ∀ place, place < start ∨ stop ≤ place → after[place]? = before[place]?

/-! ## Reversed sections -/

theorem reverse_eq_inOrder {count : Nat} (elements : List α) (same : elements.length = count) :
    elements.reverse = inOrder Fin.revPerm elements same := by
  refine List.ext_getElem? fun place => ?_
  by_cases inside : place < count
  · rw [List.getElem?_reverse (same.symm ▸ inside)]
    have opposite := getElem?_inOrder Fin.revPerm elements same ⟨place, inside⟩
    rw [opposite, Fin.revPerm_apply, Fin.val_rev, same]
    congr 1
    dsimp only
    omega
  · rw [List.getElem?_eq_none, List.getElem?_eq_none]
    · rw [length_inOrder]
      omega
    · rw [List.length_reverse]
      omega

theorem mirrored_turned (forward : start ≤ stop) (within : stop ≤ elements.length) :
    Mirrored start stop elements (turned start stop elements) := by
  obtain ⟨count, rfl⟩ := Nat.exists_eq_add_of_le forward
  have size : (sectionOf start (start + count) elements).length = count := by
    rw [length_sectionOf within, Nat.add_sub_cancel_left]
  have rearranged := rearranged_spliced Fin.revPerm within size
  rw [← reverse_eq_inOrder] at rearranged
  refine ⟨rearranged.length, ?_, rearranged.elsewhere⟩
  intro place above below
  obtain ⟨offset, rfl⟩ := Nat.exists_eq_add_of_le above
  have opposite := rearranged.within ⟨offset, by omega⟩
  rw [Fin.revPerm_apply, Fin.val_rev] at opposite
  refine opposite.trans (congrArg (elements[·]?) ?_)
  dsimp only
  omega

example : turned 1 4 [1, 2, 3, 4, 5] = [1, 4, 3, 2, 5] := rfl

namespace Mirrored

variable {before after : List α}

/-- The elements before leave no choice. -/
theorem unique {one other : List α} (first : Mirrored start stop before one)
    (second : Mirrored start stop before other) : one = other := by
  refine List.ext_getElem? fun place => ?_
  by_cases inside : start ≤ place ∧ place < stop
  · rw [first.within place inside.1 inside.2, second.within place inside.1 inside.2]
  · have outside : place < start ∨ stop ≤ place := by omega
    rw [first.elsewhere place outside, second.elsewhere place outside]

/-- What is opposite to the opposite of a position is that position. -/
theorem symm (mirrored : Mirrored start stop before after) : Mirrored start stop after before := by
  refine ⟨mirrored.length.symm, ?_, fun place outside => (mirrored.elsewhere place outside).symm⟩
  intro place above below
  rw [mirrored.within (start + stop - 1 - place) (by omega) (by omega)]
  congr 1
  omega

end Mirrored

theorem turned_turned (forward : start ≤ stop) (within : stop ≤ elements.length) :
    turned start stop (turned start stop elements) = elements := by
  have once := mirrored_turned forward within
  have twice := mirrored_turned forward (once.length.symm ▸ within)
  exact twice.unique once.symm

theorem turned_whole : turned 0 elements.length elements = elements.reverse := by
  rw [turned, spliced, sectionOf, List.take_zero, List.drop_length, List.take_length,
    List.drop_zero, List.nil_append, List.append_nil]

section Halves

variable (front back : List α)

theorem turned_front : turned 0 front.length (front ++ back) = front.reverse ++ back := by
  rw [turned, spliced, sectionOf, List.take_zero, List.drop_zero, List.take_left, List.drop_left,
    List.nil_append]

theorem turned_back :
    turned front.length (front ++ back).length (front ++ back) = front ++ back.reverse := by
  rw [turned, spliced, sectionOf, List.take_length, List.take_left, List.drop_left,
    List.drop_length, List.append_nil]

end Halves

/-- Two sections side by side, each in the opposite order, have changed places when the whole is put
in the opposite order. -/
theorem reversed_turned_turned {middle : Nat} (within : middle ≤ elements.length) :
    (turned middle elements.length (turned 0 middle elements)).reverse
      = elements.rotate middle := by
  obtain ⟨front, back, rfl, rfl⟩ : ∃ front back, elements = front ++ back ∧ middle = front.length :=
    ⟨_, _, (List.take_append_drop middle elements).symm, (List.length_take_of_le within).symm⟩
  have frontTurned := turned_front front back
  have backTurned := turned_back front.reverse back
  rw [List.length_append, List.length_reverse, ← List.length_append] at backTurned
  rw [frontTurned, backTurned, List.reverse_append, List.reverse_reverse, List.reverse_reverse,
    List.rotate_append_length_eq]

/-! ## Reversed arrays -/

section Arrays

variable {m : Type → Type} [Monad m] [LawfulMonad m] {array : CellArray}

/-- A homogeneous array that has the section is left with the section in the opposite order. -/
theorem Cell.apply_reverseRange (uniform : array.Homogeneous) (forward : start ≤ stop)
    (within : stop ≤ array.length) :
    (Cell.reverseRange start stop : Edit Cell m Unit).apply array.toCell
      = pure (.ok (), (array.withElements (turned start stop array.elements)).toCell) := by
  have accepted : array.requireHomogeneous "reverse_range" = .ok () :=
    CellArray.requireHomogeneous_eq_ok_iff.mpr uniform
  have bounded : array.requireRange start stop "reverse_range" = .ok () :=
    CellArray.requireRange_eq_ok_iff.mpr ⟨forward, within⟩
  have planned : (Alteration.reverseRange start stop : Alteration m).plan array
      = liftM (Except.ok (turned start stop array.elements) : Except Failure (List Cell)) :=
    (lift_bind_of_ok accepted _).trans (lift_bind_of_ok bounded _)
  exact Alteration.apply_edit_of_outcome planned

theorem Cell.apply_reverse (uniform : array.Homogeneous) :
    (Cell.reverse : Edit Cell m Unit).apply array.toCell
      = pure (.ok (), (array.withElements array.elements.reverse).toCell) := by
  have accepted : array.requireHomogeneous "reverse" = .ok () :=
    CellArray.requireHomogeneous_eq_ok_iff.mpr uniform
  have planned : (Alteration.reverse : Alteration m).plan array
      = liftM (Except.ok array.elements.reverse : Except Failure (List Cell)) :=
    lift_bind_of_ok accepted _
  exact Alteration.apply_edit_of_outcome planned

/-- Why positions are no section of so many elements. -/
def outOfRange (start stop length : Nat) : Cause :=
  if stop < start then .badRange start stop else .badRange stop length

theorem CellArray.requireRange_of_outside {operation : String}
    (outside : ¬ (start ≤ stop ∧ stop ≤ array.length)) :
    array.requireRange start stop operation
      = (outOfRange start stop array.length).raiseIn { operation := operation } := by
  unfold requireRange outOfRange
  split
  case isTrue backward => rfl
  case isFalse forward => exact if_pos (by omega)

/-- A homogeneous array that does not have the section is left as it is. -/
theorem Cell.apply_reverseRange_of_outside (uniform : array.Homogeneous)
    (outside : ¬ (start ≤ stop ∧ stop ≤ array.length)) :
    (Cell.reverseRange start stop : Edit Cell m Unit).apply array.toCell
      = pure ((outOfRange start stop array.length).raiseIn { operation := "reverse_range" },
          array.toCell) := by
  have accepted : array.requireHomogeneous "reverse_range" = .ok () :=
    CellArray.requireHomogeneous_eq_ok_iff.mpr uniform
  have refused : (Alteration.reverseRange start stop : Alteration m).check array
      = (outOfRange start stop array.length).raiseIn { operation := "reverse_range" } :=
    bind_eq_error_iff.mpr (.inr ⟨(), accepted, CellArray.requireRange_of_outside outside⟩)
  exact Alteration.apply_of_refused _ (Cell.checked_eq_error_iff.mpr (.inr ⟨array, rfl, refused⟩))

theorem homogeneous_turned (uniform : array.Homogeneous) (forward : start ≤ stop) :
    (array.withElements (turned start stop array.elements)).Homogeneous := fun element there =>
  uniform element ((perm_spliced forward (List.reverse_perm _)).mem_iff.mp there)

/-- Reversing a section and going on is going on with the reversed section. -/
theorem Cell.apply_reverseRange_bind (uniform : array.Homogeneous) (forward : start ≤ stop)
    (within : stop ≤ array.length) (rest : Edit Cell m Unit) :
    (do Cell.reverseRange start stop; rest).apply array.toCell
      = rest.apply (array.withElements (turned start stop array.elements)).toCell :=
  Edit.apply_bind_of_ok (Cell.apply_reverseRange uniform forward within) _

theorem Cell.apply_reverseRange_twice (uniform : array.Homogeneous) (forward : start ≤ stop)
    (within : stop ≤ array.length) :
    (do Cell.reverseRange start stop; Cell.reverseRange start stop : Edit Cell m Unit).apply
        array.toCell = pure (.ok (), array.toCell) := by
  have within' : stop ≤ (array.withElements (turned start stop array.elements)).length :=
    within.trans_eq (mirrored_turned forward within).length.symm
  rw [Cell.apply_reverseRange_bind uniform forward within,
    Cell.apply_reverseRange (homogeneous_turned uniform forward) forward within']
  refine congrArg (fun elements => pure (Except.ok (), (array.withElements elements).toCell)) ?_
  exact turned_turned forward within

theorem Cell.apply_reverse_halves {middle : Nat} (uniform : array.Homogeneous)
    (within : middle ≤ array.length) :
    (do
        Cell.reverseRange 0 middle
        Cell.reverseRange middle array.length
        Cell.reverse : Edit Cell m Unit).apply array.toCell
      = pure (.ok (), (array.withElements (array.elements.rotate middle)).toCell) := by
  have length := (mirrored_turned (Nat.zero_le middle) within).length
  have front := homogeneous_turned uniform (Nat.zero_le middle)
  have both := homogeneous_turned front within
  rw [Cell.apply_reverseRange_bind uniform (Nat.zero_le middle) within,
    Cell.apply_reverseRange_bind front within (Nat.le_of_eq length.symm), Cell.apply_reverse both]
  refine congrArg (fun elements => pure (Except.ok (), (array.withElements elements).toCell)) ?_
  exact reversed_turned_turned within

end Arrays

/-! ## Main statement -/

/-- What comes of reversing the array and its sections. -/
structure Reverses (array : CellArray) : Prop where
  succeeds : ∀ start stop : Nat,
    ((Cell.reverseRange start stop).applyPure array.toCell).1 = .ok ()
      ↔ start ≤ stop ∧ stop ≤ array.length
  refused : ∀ start stop : Nat, ¬ (start ≤ stop ∧ stop ≤ array.length) →
    (Cell.reverseRange start stop).applyPure array.toCell
      = ((outOfRange start stop array.length).raiseIn { operation := "reverse_range" },
          array.toCell)
  mirrored : ∀ start stop : Nat, start ≤ stop → stop ≤ array.length →
    ∃ elements, Mirrored start stop array.elements elements
      ∧ (Cell.reverseRange start stop).applyPure array.toCell
        = (.ok (), (array.withElements elements).toCell)
  restored : ∀ start stop : Nat, start ≤ stop → stop ≤ array.length →
    Edit.applyPure (do
        Cell.reverseRange start stop
        Cell.reverseRange start stop) array.toCell = (.ok (), array.toCell)
  whole : Cell.reverse.applyPure array.toCell
    = (Cell.reverseRange 0 array.length).applyPure array.toCell
  /-- Three reversals rotate the array to the left. -/
  rotated : ∀ middle : Nat, middle ≤ array.length →
    Edit.applyPure (do
        Cell.reverseRange 0 middle
        Cell.reverseRange middle array.length
        Cell.reverse) array.toCell
      = (.ok (), (array.withElements (array.elements.rotate middle)).toCell)

/-- **Reversing a section of a homogeneous array puts every element of it where the one opposite to
it stood**, and it fails and leaves the array as it is exactly if the array has no such section. -/
theorem reversing_mirrors_sections (array : CellArray) (uniform : array.Homogeneous) :
    Reverses array := by
  have inside : ∀ {start stop : Nat}, start ≤ stop → stop ≤ array.length →
      (Cell.reverseRange start stop).applyPure array.toCell
        = (.ok (), (array.withElements (turned start stop array.elements)).toCell) :=
    fun forward within =>
      Edit.applyPure_of_apply (Cell.apply_reverseRange uniform forward within)
  have outside : ∀ {start stop : Nat}, ¬ (start ≤ stop ∧ stop ≤ array.length) →
      (Cell.reverseRange start stop).applyPure array.toCell
        = ((outOfRange start stop array.length).raiseIn { operation := "reverse_range" },
            array.toCell) :=
    fun beyond => Edit.applyPure_of_apply (Cell.apply_reverseRange_of_outside uniform beyond)
  refine ⟨?_, fun start stop => outside, ?_, ?_, ?_, ?_⟩
  · intro start stop
    constructor
    · intro success
      by_contra beyond
      rw [outside beyond] at success
      cases success
    · rintro ⟨forward, within⟩
      rw [inside forward within]
  · intro start stop forward within
    exact ⟨_, mirrored_turned forward within, inside forward within⟩
  · intro start stop forward within
    exact Edit.applyPure_of_apply (Cell.apply_reverseRange_twice uniform forward within)
  · rw [inside (Nat.zero_le _) (Nat.le_refl _)]
    have reversed : Cell.reverse.applyPure array.toCell
        = (.ok (), (array.withElements array.elements.reverse).toCell) :=
      Edit.applyPure_of_apply (Cell.apply_reverse uniform)
    exact reversed.trans (congrArg (fun elements =>
      (Except.ok (), (array.withElements elements).toCell)) turned_whole.symm)
  · intro middle within
    exact Edit.applyPure_of_apply (Cell.apply_reverse_halves uniform within)

theorem reversing_mirrors_sections_letters :
    (∀ element ∈ [Cell.char 'a', .char 'b', .char 'c'], element.kind = .char)
      ∧ Reverses ⟨.char, [.char 'a', .char 'b', .char 'c']⟩ := by
  have uniform : ∀ element ∈ [Cell.char 'a', .char 'b', .char 'c'], element.kind = .char := by
    decide
  exact ⟨uniform, reversing_mirrors_sections _ uniform⟩

end TaggedCells

import TaggedCells.Proofs.CellArray.Lengths
import TaggedCells.Proofs.CellArray.Refusal
import TaggedCells.Proofs.Randomness.Orders
import Mathlib.Data.List.FinRange

/-!
# What shuffling does to an array

Shuffling draws an order of as many positions as are to be shuffled, and puts the elements in it
(`Cell.apply_shuffle`, `Cell.apply_shuffleRange`).
-/

set_option autoImplicit false

namespace TaggedCells

open Equiv (Perm)
open Randomness (drawnOrder fisherYates_eq reordered)

variable {α : Type} {count : Nat}

/-! ## Lists in an order -/

/-- The elements of a list in an order. -/
def inOrder (order : Perm (Fin count)) (elements : List α) (same : elements.length = count) :
    List α :=
  (reordered order ⟨elements.toArray, same⟩).toList

/-- From the position `start` on, as many positions as the order has are put in the order, and
nothing else is touched. -/
structure Rearranged (order : Perm (Fin count)) (start : Nat) (before after : List α) : Prop where
  length : after.length = before.length
  within : ∀ place : Fin count, after[start + place]? = before[start + order place]?
  elsewhere : ∀ place, place < start ∨ start + count ≤ place → after[place]? = before[place]?

theorem length_inOrder (order : Perm (Fin count)) (elements : List α)
    (same : elements.length = count) : (inOrder order elements same).length = count := by
  simp [inOrder]

theorem getElem?_inOrder (order : Perm (Fin count)) (elements : List α)
    (same : elements.length = count) (place : Fin count) :
    (inOrder order elements same)[place.val]? = elements[(order place).val]? := by
  subst same
  simp [inOrder, reordered]

theorem perm_inOrder (order : Perm (Fin count)) (elements : List α)
    (same : elements.length = count) : (inOrder order elements same).Perm elements := by
  subst same
  have placed : List.ofFn (fun place : Fin elements.length => elements[place]) = elements := by
    simp
  have mixed : inOrder order elements rfl
      = List.ofFn ((fun place : Fin elements.length => elements[place]) ∘ order) := by
    rw [inOrder, reordered, Vector.toList_ofFn]
    rfl
  rw [mixed]
  exact (order.ofFn_comp_perm _).trans (.of_eq placed)

namespace Rearranged

variable {order : Perm (Fin count)} {start : Nat} {before : List α}

/-- The order and the elements before leave no choice. -/
theorem unique {one other : List α} (first : Rearranged order start before one)
    (second : Rearranged order start before other) : one = other := by
  refine List.ext_getElem? fun place => ?_
  by_cases inside : start ≤ place ∧ place < start + count
  · obtain ⟨offset, rfl⟩ := Nat.exists_eq_add_of_le inside.1
    have bounded : offset < count := by omega
    exact (first.within ⟨offset, bounded⟩).trans (second.within ⟨offset, bounded⟩).symm
  · have outside : place < start ∨ start + count ≤ place := by omega
    exact (first.elsewhere place outside).trans (second.elsewhere place outside).symm

end Rearranged

theorem length_sectionOf {elements : List α} {start stop : Nat} (within : stop ≤ elements.length) :
    (sectionOf start stop elements).length = stop - start := by
  rw [sectionOf, List.length_drop, List.length_take, Nat.min_eq_left within]

/-- A section put back in an order is rearranged, and what stands around it is not. -/
theorem rearranged_spliced (order : Perm (Fin count)) {elements : List α} {start : Nat}
    (within : start + count ≤ elements.length)
    (same : (sectionOf start (start + count) elements).length = count) :
    Rearranged order start elements (spliced start (start + count) elements
      (inOrder order (sectionOf start (start + count) elements) same)) := by
  have taken : (elements.take start).length = start := List.length_take_of_le (by omega)
  have front : (elements.take start ++ inOrder order _ same).length = start + count := by
    rw [List.length_append, taken, length_inOrder]
  refine ⟨?_, ?_, ?_⟩
  · exact length_spliced ⟨Nat.le_add_right start count, within⟩
      ((length_inOrder order _ same).trans same.symm)
  · intro place
    have inside : start + place.val < (elements.take start ++ inOrder order _ same).length := by
      omega
    rw [spliced, List.getElem?_append_left inside, List.getElem?_append_right (by omega), taken,
      Nat.add_sub_cancel_left, getElem?_inOrder, sectionOf, List.getElem?_drop,
      List.getElem?_take_of_lt (by omega)]
  · rintro place (before | beyond)
    · rw [spliced, List.getElem?_append_left (by omega), List.getElem?_append_left (by omega),
        List.getElem?_take_of_lt before]
    · rw [spliced, List.getElem?_append_right (by omega), front, List.getElem?_drop]
      congr 1
      omega

/-- Putting a section back in another order loses and adds nothing. -/
theorem perm_spliced {elements middle : List α} {start stop : Nat} (forward : start ≤ stop)
    (kept : middle.Perm (sectionOf start stop elements)) :
    (spliced start stop elements middle).Perm elements := by
  have whole : elements.take start ++ sectionOf start stop elements ++ elements.drop stop
      = elements := by
    rw [← Nat.min_eq_left forward, ← List.take_take, Nat.min_eq_left forward, sectionOf,
      List.take_append_drop, List.take_append_drop]
  exact ((kept.append_left _).append_right _).trans (.of_eq whole)

theorem rearranged_inOrder (order : Perm (Fin count)) (elements : List α)
    (same : elements.length = count) :
    Rearranged order 0 elements (inOrder order elements same) := by
  refine ⟨(length_inOrder order elements same).trans same.symm, ?_, ?_⟩
  · intro place
    rw [Nat.zero_add, Nat.zero_add, getElem?_inOrder]
  · rintro place (before | beyond)
    · exact absurd before (Nat.not_lt_zero place)
    · have past : (inOrder order elements same).length ≤ place := by
        rw [length_inOrder]
        omega
      rw [List.getElem?_eq_none past, List.getElem?_eq_none (by omega)]

/-! ## Shuffled arrays -/

section Runs

variable {m : Type → Type} [Monad m] [LawfulMonad m]
  (choose : (greatest : Nat) → m (Fin (greatest + 1)))

/-- Shuffling a list is drawing an order for as many elements as there are. -/
theorem shuffled_eq (elements : List α) (same : elements.length = count) :
    shuffled choose elements = (inOrder · elements same) <$> drawnOrder choose count := by
  subst same
  unfold shuffled
  rw [fisherYates_eq, bind_pure_comp, Functor.map_map]
  rfl

/-- An operation whose plan cannot fail writes what the plan gives. -/
theorem Alteration.apply_of_lifted {change : Alteration m} {array : CellArray}
    {run : m (List Cell)} (planned : change.plan array = liftM run) :
    change.edit.apply array.toCell
      = (fun elements => (.ok (), (array.withElements elements).toCell)) <$> run := by
  have held : array.toCell.array? change.operation = .ok array := Cell.array?_eq_ok_iff.mpr rfl
  rw [change.apply_edit, held]
  dsimp only
  rw [planned]
  show _ <$> (Except.ok <$> run) = _
  rw [Functor.map_map]
  rfl

variable {array : CellArray}

/-- **Shuffling a homogeneous array draws an order for as many elements as it has.** -/
theorem Cell.apply_shuffle (uniform : array.Homogeneous) (same : array.elements.length = count) :
    (Cell.shuffle choose).apply array.toCell
      = (fun order => (.ok (), (array.withElements (inOrder order array.elements same)).toCell))
        <$> drawnOrder choose count := by
  have accepted : array.requireHomogeneous "shuffle" = .ok () :=
    CellArray.requireHomogeneous_eq_ok_iff.mpr uniform
  have planned : (Alteration.shuffle choose).plan array = liftM (shuffled choose array.elements) :=
    lift_bind_of_ok accepted _
  refine (Alteration.apply_of_lifted planned).trans ?_
  rw [shuffled_eq choose array.elements same, Functor.map_map]

/-- **Shuffling a section draws an order for as many elements as the section has.** -/
theorem Cell.apply_shuffleRange (uniform : array.Homogeneous) {start : Nat}
    (within : start + count ≤ array.elements.length)
    (same : (sectionOf start (start + count) array.elements).length = count) :
    (Cell.shuffleRange start (start + count) choose).apply array.toCell
      = (fun order => (.ok (), (array.withElements (spliced start (start + count) array.elements
          (inOrder order _ same))).toCell))
        <$> drawnOrder choose count := by
  have accepted : array.requireHomogeneous "shuffle_range" = .ok () :=
    CellArray.requireHomogeneous_eq_ok_iff.mpr uniform
  have bounded : array.requireRange start (start + count) "shuffle_range" = .ok () :=
    CellArray.requireRange_eq_ok_iff.mpr ⟨Nat.le_add_right start count, within⟩
  have planned : (Alteration.shuffleRange start (start + count) choose).plan array
      = liftM (spliced start (start + count) array.elements
        <$> shuffled choose (sectionOf start (start + count) array.elements)) := by
    refine (lift_bind_of_ok accepted _).trans ((lift_bind_of_ok bounded _).trans ?_)
    rw [bind_pure_comp, liftM_map]
  refine (Alteration.apply_of_lifted planned).trans ?_
  rw [shuffled_eq choose _ same, Functor.map_map, Functor.map_map]

end Runs

/-! ## Arrays that are not shuffled -/

/-- The failure of an operation that asks for a homogeneous array: there is none, or it has a stray
element, and the first one is named. -/
inductive Cell.Nonuniform (operation : String) : Cell → Failure → Prop where
  | arrayless {cell : Cell} {failure : Failure} (lacking : cell.Arrayless operation failure) :
      Nonuniform operation cell failure
  | stray {kind : Kind} {before after : List Cell} {stray : Cell}
      (uniform : ∀ element ∈ before, element.kind = kind) (differs : stray.kind ≠ kind) :
      Nonuniform operation (.array kind (before ++ stray :: after))
        ⟨.typeMismatch kind stray.kind,
          some { operation := operation, index := some before.length }⟩

/-- The failure of an operation that asks for a section of a homogeneous array: the array is not
homogeneous, or the section ends before it starts or after the array ends. -/
inductive Cell.Unsectioned (operation : String) (start stop : Nat) : Cell → Failure → Prop where
  | nonuniform {cell : Cell} {failure : Failure} (unfit : cell.Nonuniform operation failure) :
      Unsectioned operation start stop cell failure
  | backward {array : CellArray} (uniform : array.Homogeneous) (reversed : stop < start) :
      Unsectioned operation start stop array.toCell
        ⟨.badRange start stop, some { operation := operation }⟩
  | beyond {array : CellArray} (uniform : array.Homogeneous) (forward : start ≤ stop)
      (past : array.length < stop) :
      Unsectioned operation start stop array.toCell
        ⟨.badRange stop array.length, some { operation := operation }⟩

namespace CellArray

variable {array : CellArray} {operation : String} {failure : Failure}

theorem nonuniform_of_refused (refused : array.requireHomogeneous operation = .error failure) :
    array.toCell.Nonuniform operation failure := by
  obtain ⟨kind, elements⟩ := array
  obtain ⟨before, stray, after, parted, uniform, differs, rfl⟩ :=
    requireHomogeneous_eq_error_iff.mp refused
  obtain rfl : elements = before ++ stray :: after := parted
  exact .stray uniform differs

theorem unsectioned_of_refused {start stop : Nat} (uniform : array.Homogeneous)
    (refused : array.requireRange start stop operation = .error failure) :
    array.toCell.Unsectioned operation start stop failure := by
  unfold requireRange at refused
  split at refused
  case isTrue reversed =>
      obtain rfl := Except.error.inj refused
      exact .backward uniform reversed
  case isFalse forward =>
      split at refused
      case isTrue past =>
          obtain rfl := Except.error.inj refused
          exact .beyond uniform (Nat.le_of_not_lt forward) past
      case isFalse => cases refused

end CellArray

section Refused

variable {m : Type → Type} [Monad m] [LawfulMonad m]
  (choose : (greatest : Nat) → m (Fin (greatest + 1)))

/-- A cell holds a homogeneous array, or shuffling fails and chooses nothing. -/
theorem Cell.shuffles_or_refuses (cell : Cell) :
    (∃ array : CellArray, cell = array.toCell ∧ array.Homogeneous)
      ∨ ∃ failure, cell.Nonuniform "shuffle" failure
        ∧ (Cell.shuffle choose).apply cell = pure (.error failure, cell) := by
  cases admission : (Alteration.shuffle choose).admitted cell with
  | error failure =>
      refine .inr ⟨failure, ?_, Alteration.apply_of_refused _ admission⟩
      rcases Cell.checked_eq_error_iff.mp admission with lacking | ⟨array, rfl, stray⟩
      · exact .arrayless lacking
      · exact CellArray.nonuniform_of_refused stray
  | ok array =>
      obtain ⟨held, uniform⟩ := Cell.checked_eq_ok_iff.mp admission
      exact .inl ⟨array, held, CellArray.requireHomogeneous_eq_ok_iff.mp uniform⟩

/-- A cell holds a homogeneous array that has the section, or shuffling it fails and chooses
nothing. -/
theorem Cell.shufflesRange_or_refuses (cell : Cell) (start stop : Nat) :
    (∃ array : CellArray, cell = array.toCell ∧ array.Homogeneous
        ∧ start ≤ stop ∧ stop ≤ array.length)
      ∨ ∃ failure, cell.Unsectioned "shuffle_range" start stop failure
        ∧ (Cell.shuffleRange start stop choose).apply cell = pure (.error failure, cell) := by
  cases admission : (Alteration.shuffleRange start stop choose).admitted cell with
  | error failure =>
      refine .inr ⟨failure, ?_, Alteration.apply_of_refused _ admission⟩
      rcases Cell.checked_eq_error_iff.mp admission with lacking | ⟨array, rfl, unfit⟩
      · exact .nonuniform (.arrayless lacking)
      · rcases bind_eq_error_iff.mp unfit with stray | ⟨_, uniform, outside⟩
        · exact .nonuniform (CellArray.nonuniform_of_refused stray)
        · exact CellArray.unsectioned_of_refused
            (CellArray.requireHomogeneous_eq_ok_iff.mp uniform) outside
  | ok array =>
      obtain ⟨held, passed⟩ := Cell.checked_eq_ok_iff.mp admission
      obtain ⟨_, uniform, bounded⟩ := bind_eq_ok_iff.mp passed
      exact .inl ⟨array, held, CellArray.requireHomogeneous_eq_ok_iff.mp uniform,
        CellArray.requireRange_eq_ok_iff.mp bounded⟩

end Refused

/-! ## Shuffling from a source -/

section Sources

variable {σ : Type}

/-- From the source, the edit puts as many positions of the array as the order has, from `start`
on, in the order, and leaves the source as `later`. -/
def Reorders (edit : Edit Cell (StateM σ) Unit) (source later : σ) (order : Perm (Fin count))
    (start : Nat) (array : CellArray) : Prop :=
  ∃ mixed : List Cell, Rearranged order start array.elements mixed ∧ mixed.Perm array.elements
    ∧ (edit.apply array.toCell).run source
      = ((.ok (), (array.withElements mixed).toCell), later)

theorem Reorders.eq {edit other : Edit Cell (StateM σ) Unit} {source later : σ}
    {order : Perm (Fin count)} {start : Nat} {array : CellArray}
    (first : Reorders edit source later order start array)
    (second : Reorders other source later order start array) :
    (edit.apply array.toCell).run source = (other.apply array.toCell).run source := by
  obtain ⟨mixed, rearranged, -, run⟩ := first
  obtain ⟨others, alike, -, further⟩ := second
  rw [run, further, rearranged.unique alike]

variable (choose : (greatest : Nat) → StateM σ (Fin (greatest + 1))) (source : σ)
  {array : CellArray}

/-- The order for as many positions that comes from the source. -/
def orderFrom (count : Nat) : Perm (Fin count) := ((drawnOrder choose count).run source).1

/-- The source after the order for as many positions has been drawn from it. -/
def sourceAfter (count : Nat) : σ := ((drawnOrder choose count).run source).2

theorem shuffle_reorders (uniform : array.Homogeneous) (same : array.length = count) :
    Reorders (Cell.shuffle choose) source (sourceAfter choose source count)
      (orderFrom choose source count) 0 array := by
  refine ⟨inOrder _ array.elements same, rearranged_inOrder _ _ _, perm_inOrder _ _ _, ?_⟩
  rw [Cell.apply_shuffle choose uniform same, StateT.run_map]
  rfl

theorem shuffleRange_reorders (uniform : array.Homogeneous) {start stop : Nat}
    (forward : start ≤ stop) (within : stop ≤ array.length) (same : stop - start = count) :
    Reorders (Cell.shuffleRange start stop choose) source (sourceAfter choose source count)
      (orderFrom choose source count) start array := by
  obtain rfl : stop = start + count := by omega
  have size : (sectionOf start (start + count) array.elements).length = count := by
    rw [length_sectionOf within, same]
  refine ⟨_, rearranged_spliced _ within size,
    perm_spliced forward (perm_inOrder (orderFrom choose source count) _ size), ?_⟩
  rw [Cell.apply_shuffleRange choose uniform within size, StateT.run_map]
  rfl

/-- What shuffling arrays and sections of arrays has in common, from one source. -/
structure ShufflesAlike : Prop where
  /-- There is one order for as many positions, and the source after it, whatever stands there and
  whether the positions are a whole array or a section of one. -/
  reorders : ∀ count : Nat, ∃ (order : Perm (Fin count)) (later : σ),
    (∀ array : CellArray, array.Homogeneous → array.length = count →
        Reorders (Cell.shuffle choose) source later order 0 array)
      ∧ ∀ (array : CellArray) (start stop : Nat), array.Homogeneous → start ≤ stop →
          stop ≤ array.length → stop - start = count →
          Reorders (Cell.shuffleRange start stop choose) source later order start array
  whole : ∀ array : CellArray, array.Homogeneous →
    ((Cell.shuffle choose).apply array.toCell).run source
      = ((Cell.shuffleRange 0 array.length choose).apply array.toCell).run source
  /-- A failure leaves the source as it was. -/
  refused : ∀ cell : Cell,
    (∃ array : CellArray, cell = array.toCell ∧ array.Homogeneous)
      ∨ ∃ failure, cell.Nonuniform "shuffle" failure
        ∧ ((Cell.shuffle choose).apply cell).run source = ((.error failure, cell), source)
  refusedRange : ∀ (cell : Cell) (start stop : Nat),
    (∃ array : CellArray, cell = array.toCell ∧ array.Homogeneous
        ∧ start ≤ stop ∧ stop ≤ array.length)
      ∨ ∃ failure, cell.Unsectioned "shuffle_range" start stop failure
        ∧ ((Cell.shuffleRange start stop choose).apply cell).run source
          = ((.error failure, cell), source)

/-- **A section is shuffled as an array of its length is**, whatever stands in either, and a failure
draws nothing from the source. -/
theorem sections_shuffle_like_arrays : ShufflesAlike choose source := by
  refine ⟨?_, ?_, ?_, ?_⟩
  · intro count
    refine ⟨orderFrom choose source count, sourceAfter choose source count, ?_, ?_⟩
    · intro array uniform same
      exact shuffle_reorders choose source uniform same
    · intro array start stop uniform forward within same
      exact shuffleRange_reorders choose source uniform forward within same
  · intro array uniform
    have ranged := shuffleRange_reorders choose source uniform (Nat.zero_le _) (Nat.le_refl _) rfl
    exact (shuffle_reorders choose source uniform rfl).eq ranged
  · intro cell
    rcases cell.shuffles_or_refuses choose with shufflable | ⟨failure, unfit, refused⟩
    · exact .inl shufflable
    · exact .inr ⟨failure, unfit, by rw [refused]; rfl⟩
  · intro cell start stop
    rcases cell.shufflesRange_or_refuses choose start stop with fits | ⟨failure, unfit, refused⟩
    · exact .inl fits
    · exact .inr ⟨failure, unfit, by rw [refused]; rfl⟩

end Sources

end TaggedCells

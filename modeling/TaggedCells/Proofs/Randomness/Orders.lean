import TaggedCells.Proofs.Always
import TaggedCells.Randomness.Draw
import Mathlib.Algebra.Group.End
import Mathlib.Logic.Equiv.Basic

/-!
# The orders that walks draw

A walk exchanges positions, and which positions it exchanges is up to its choices alone. So the
choices stand for an order of the positions, and walking is no more than drawing that order and
putting the elements in it (`fisherYates_eq`), whatever the elements are and wherever the choices
come from.

A walk down from a position leaves everything above it where it is, and its first choice is what
the order has at that position (`split_iff`). So an order can be taken apart into choices again.
-/

set_option autoImplicit false

namespace TaggedCells.Randomness

open Equiv (Perm swap)

variable {α : Type} {length : Nat}

/-! ## Elements in an order -/

/-- The elements in an order: at each place stands what stood at the place that the order names. -/
def reordered (order : Perm (Fin length)) (elements : Vector α length) : Vector α length :=
  .ofFn fun place => elements[order place]

theorem reordered_one (elements : Vector α length) : reordered 1 elements = elements := by
  ext place inside
  simp [reordered]

/-- Reordering what has been exchanged is reordering once. -/
theorem reordered_swap (order : Perm (Fin length)) (elements : Vector α length)
    {first second : Nat} (inside : first < length) (within : second < length) :
    reordered order (elements.swap first second inside within)
      = reordered (swap ⟨first, inside⟩ ⟨second, within⟩ * order) elements := by
  ext place bounded
  simp only [reordered, Vector.getElem_ofFn, Perm.mul_apply, Equiv.swap_apply_def, Fin.ext_iff,
    Fin.getElem_fin, Vector.getElem_swap]
  split_ifs <;> rfl

/-- Elements that all differ show the order that they are in. -/
theorem reordered_ofFn (order : Perm (Fin length)) :
    reordered order (.ofFn fun place : Fin length => place) = .ofFn order := by
  ext place inside
  simp [reordered]

/-! ## Orders that a walk draws -/

section Drawing

variable {m : Type → Type} [Monad m] (choose : (greatest : Nat) → m (Fin (greatest + 1)))

/-- The exchange of a position above the first with one that is no higher. -/
def exchange {lower : Nat} (inside : lower + 1 < length) (chosen : Fin (lower + 2)) :
    Perm (Fin length) :=
  swap ⟨lower + 1, inside⟩ ⟨chosen, by omega⟩

theorem exchange_of_lt {lower : Nat} (inside : lower + 1 < length) (chosen : Fin (lower + 2))
    {place : Fin length} (beyond : lower + 1 < place.val) :
    exchange inside chosen place = place := by
  refine Equiv.swap_apply_of_ne_of_ne (Fin.ne_of_gt beyond) (Fin.ne_of_gt ?_)
  show chosen.val < place.val
  omega

theorem exchange_exchange {lower : Nat} (inside : lower + 1 < length) (chosen : Fin (lower + 2))
    (order : Perm (Fin length)) :
    exchange inside chosen * (exchange inside chosen * order) = order := by
  rw [← mul_assoc, exchange, Equiv.swap_mul_self, one_mul]

/-- The order that a walk down from a position draws. -/
def orderDown : (position : Nat) → position < length → m (Perm (Fin length))
  | 0, _ => pure 1
  | lower + 1, inside => do
      let chosen ← choose (lower + 1)
      let further ← orderDown lower (Nat.lt_of_succ_lt inside)
      return exchange inside chosen * further

theorem last_lt (length : Nat) (occupied : 0 < length) : length - 1 < length :=
  Nat.sub_lt occupied Nat.one_pos

/-- The order that a walk over all positions draws. -/
def drawnOrder (length : Nat) : m (Perm (Fin length)) :=
  if occupied : 0 < length then orderDown choose (length - 1) (last_lt length occupied) else pure 1

variable [LawfulMonad m]

theorem walkDown_eq (position : Nat) (inside : position < length) (elements : Vector α length) :
    walkDown choose position inside elements
      = (reordered · elements) <$> orderDown choose position inside := by
  induction position generalizing elements with
  | zero => rw [walkDown, orderDown, map_pure, reordered_one]
  | succ lower ih =>
      rw [walkDown, orderDown, map_bind]
      refine bind_congr fun chosen => ?_
      rw [ih, bind_pure_comp, Functor.map_map]
      simp only [reordered_swap, exchange]

/-- **Walking is drawing an order and putting the elements in it.** -/
theorem fisherYates_eq (elements : Vector α length) :
    fisherYates choose elements = (reordered · elements) <$> drawnOrder choose length := by
  unfold fisherYates drawnOrder
  by_cases occupied : 0 < length
  · rw [dif_pos occupied, dif_pos occupied, walkDown_eq]
  · rw [dif_neg occupied, dif_neg occupied, map_pure, reordered_one]

end Drawing

/-! ## What a walk down leaves alone -/

/-- The order leaves every place above the position as it is. -/
def FixesAbove (position : Nat) (order : Perm (Fin length)) : Prop :=
  ∀ place : Fin length, position < place → order place = place

theorem fixesAbove_last (order : Perm (Fin length)) : FixesAbove (length - 1) order := by
  intro place beyond
  omega

namespace FixesAbove

variable {order further : Perm (Fin length)} {lower : Nat} {inside : lower + 1 < length}
  {chosen : Fin (lower + 2)}

/-- No place goes above a position that everything above is fixed for. -/
theorem apply_le {position : Nat} (fixes : FixesAbove position order) {place : Fin length}
    (within : place.val ≤ position) : (order place).val ≤ position := by
  by_contra above
  have fixed : order (order place) = order place := fixes (order place) (by omega)
  rw [order.injective fixed] at above
  exact above within

theorem eq_one (fixes : FixesAbove 0 order) : order = 1 := by
  ext place
  rw [Perm.one_apply]
  by_cases first : place.val ≤ 0
  · have least := fixes.apply_le first
    omega
  · rw [fixes place (by omega)]

/-- The exchanged position may move, and what is above it does not. -/
theorem exchange_mul (fixes : FixesAbove lower further) :
    FixesAbove (lower + 1) (exchange inside chosen * further) := by
  intro place beyond
  rw [Perm.mul_apply, fixes place (Nat.lt_of_succ_lt beyond), exchange_of_lt inside chosen beyond]

/-- The first choice that the order comes of. -/
def choice (fixes : FixesAbove (lower + 1) order) (inside : lower + 1 < length) : Fin (lower + 2) :=
  ⟨order ⟨lower + 1, inside⟩, Nat.lt_succ_of_le (fixes.apply_le (Nat.le_refl _))⟩

/-- **An order that fixes everything above a position is an exchange of that position and then an
order that fixes the position as well, in one way only.** -/
theorem split_iff (fixes : FixesAbove (lower + 1) order) :
    FixesAbove lower further ∧ exchange inside chosen * further = order
      ↔ chosen.val = order ⟨lower + 1, inside⟩ ∧ further = exchange inside chosen * order := by
  constructor
  · rintro ⟨below, rfl⟩
    refine ⟨?_, (exchange_exchange inside chosen further).symm⟩
    rw [Perm.mul_apply, below _ (Nat.lt_succ_self lower), exchange, Equiv.swap_apply_left]
  · rintro ⟨least, rfl⟩
    refine ⟨?_, exchange_exchange inside chosen order⟩
    intro place above
    rw [Perm.mul_apply]
    rcases Nat.eq_or_lt_of_le (Nat.succ_le_of_lt above) with top | beyond
    · obtain rfl : ⟨lower + 1, inside⟩ = place := Fin.ext top
      have moved : order ⟨lower + 1, inside⟩ = ⟨chosen, by omega⟩ := Fin.ext least.symm
      rw [moved, exchange, Equiv.swap_apply_right]
    · rw [fixes place beyond, exchange_of_lt inside chosen beyond]

end FixesAbove

/-- A walk down from a position draws orders that fix everything above it. -/
theorem always_fixesAbove {m : Type → Type} [Monad m] [LawfulMonad m]
    (choose : (greatest : Nat) → m (Fin (greatest + 1))) (position : Nat)
    (inside : position < length) :
    Always (FixesAbove position) (orderDown choose position inside) := by
  induction position with
  | zero => exact .pure fun place _ => rfl
  | succ lower ih =>
      refine (Always.trivial _).bind fun chosen _ => ?_
      exact (ih _).bind fun further fixes => .pure fixes.exchange_mul

end TaggedCells.Randomness

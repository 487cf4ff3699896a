import TaggedCells.Proofs.CellArray.Shuffling
import TaggedCells.Proofs.Sorting.IntegerArrays
import Mathlib.Probability.Distributions.Uniform

/-!
# Every order, once and equally often

A walk over some positions is a choice for each of them, of a place no higher. Every order of the
positions comes of exactly one such sequence of choices (`existsUnique_choices`). So a walk that
chooses evenly and independently leaves every order equally often (`drawnOrder_evenly`).
-/

set_option autoImplicit false

namespace TaggedCells

namespace Randomness

open Equiv (Perm swap)

variable {length : Nat}

/-! ## Choices -/

section Fixed

/-- A walk draws the same order from choices that agree as far as it goes. -/
theorem orderDown_congr {m : Type → Type} [Monad m]
    {first second : (greatest : Nat) → m (Fin (greatest + 1))} {position : Nat}
    (inside : position < length) (agree : ∀ greatest ≤ position, first greatest = second greatest) :
    orderDown first position inside = orderDown second position inside := by
  induction position with
  | zero => rfl
  | succ lower ih =>
      rw [orderDown, orderDown, agree (lower + 1) (Nat.le_refl _),
        ih _ fun greatest below => agree greatest (Nat.le_succ_of_le below)]

variable {position : Nat}

/-- Every order that leaves what is above the position alone comes of some choices. -/
theorem exists_choices (inside : position < length) {order : Perm (Fin length)}
    (fixes : FixesAbove position order) :
    ∃ choose : (greatest : Nat) → Id (Fin (greatest + 1)),
      (orderDown choose position inside).run = order := by
  induction position generalizing order with
  | zero => exact ⟨fun greatest => pure 0, fixes.eq_one.symm⟩
  | succ lower ih =>
      have first : (fixes.choice inside).val = order ⟨lower + 1, inside⟩ := rfl
      obtain ⟨below, parted⟩ := fixes.split_iff.mpr ⟨first, rfl⟩
      obtain ⟨choose, further⟩ := ih (Nat.lt_of_succ_lt inside) below
      let extended := Function.update choose (lower + 1) (pure (fixes.choice inside))
      refine ⟨extended, ?_⟩
      have unchanged : ∀ greatest ≤ lower, extended greatest = choose greatest := by
        intro greatest bounded
        exact Function.update_of_ne (by omega) _ _
      have chosen : extended (lower + 1) = pure (fixes.choice inside) := Function.update_self _ _ _
      rw [orderDown, chosen, orderDown_congr _ unchanged]
      rw [← further] at parted
      exact parted

/-- Choices that draw the same order are the same as far as the walk goes. -/
theorem choices_unique {first second : (greatest : Nat) → Id (Fin (greatest + 1))}
    (inside : position < length)
    (same : (orderDown first position inside).run = (orderDown second position inside).run) :
    ∀ greatest ≤ position, first greatest = second greatest := by
  induction position with
  | zero =>
      rintro greatest least
      obtain rfl := Nat.le_zero.mp least
      exact Subsingleton.elim (α := Fin 1) _ _
  | succ lower ih =>
      have within : lower < length := Nat.lt_of_succ_lt inside
      have fixes := (always_fixesAbove first (lower + 1) inside).from_id
      obtain ⟨firstTop, firstRest⟩ := fixes.split_iff.mp
        ⟨(always_fixesAbove first lower within).from_id, rfl⟩
      obtain ⟨secondTop, secondRest⟩ := fixes.split_iff.mp
        ⟨(always_fixesAbove second lower within).from_id, same.symm⟩
      have top : first (lower + 1) = second (lower + 1) :=
        Fin.ext (firstTop.trans secondTop.symm)
      intro greatest bounded
      rcases Nat.le_succ_iff.mp bounded with below | rfl
      · refine ih within ?_ greatest below
        rw [firstRest, secondRest, top]
      · exact top

end Fixed

/-- A place no higher for each of the positions. The first of them has itself only. -/
abbrev Choices (length : Nat) : Type := (place : Fin length) → Fin (place + 1)

namespace Choices

/-- Chooses for each position what is written down for it. -/
def answer (choices : Choices length) (greatest : Nat) : Id (Fin (greatest + 1)) :=
  if inside : greatest < length then pure (choices ⟨greatest, inside⟩) else pure (Fin.last greatest)

theorem answer_eq (choices : Choices length) (place : Fin length) :
    choices.answer place = pure (choices place) := dif_pos place.isLt

/-- Writes down what is chosen for each position. -/
def ofAnswers (choose : (greatest : Nat) → Id (Fin (greatest + 1))) : Choices length :=
  fun place => (choose place).run

theorem answer_ofAnswers (choose : (greatest : Nat) → Id (Fin (greatest + 1))) {greatest : Nat}
    (inside : greatest < length) :
    (ofAnswers choose : Choices length).answer greatest = choose greatest := dif_pos inside

/-- The walk with the choices puts whatever elements there are in the order. -/
def Leads (choices : Choices length) (order : Perm (Fin length)) : Prop :=
  ∀ (α : Type) (elements : Vector α length),
    fisherYates choices.answer elements = pure (reordered order elements)

theorem leads_iff {choices : Choices length} {order : Perm (Fin length)} :
    choices.Leads order ↔ (drawnOrder choices.answer length).run = order := by
  constructor
  · intro leads
    have walked := leads (Fin length) (.ofFn fun place => place)
    rw [fisherYates_eq] at walked
    have shown : Vector.ofFn (drawnOrder choices.answer length).run = Vector.ofFn order := by
      rw [← reordered_ofFn, ← reordered_ofFn]
      exact walked
    refine Equiv.ext fun place => ?_
    have there := congrArg (fun places : Vector (Fin length) length => places[place]) shown
    simpa using there
  · rintro rfl α elements
    exact fisherYates_eq choices.answer elements

end Choices

/-- **Every order is what exactly one sequence of choices leads to.** -/
theorem existsUnique_choices (order : Perm (Fin length)) :
    ∃! choices : Choices length, choices.Leads order := by
  by_cases occupied : 0 < length
  · have last : length - 1 < length := by omega
    have leads_iff_down : ∀ choices : Choices length,
        choices.Leads order ↔ (orderDown choices.answer (length - 1) last).run = order := by
      intro choices
      rw [Choices.leads_iff, drawnOrder, dif_pos occupied]
    obtain ⟨choose, walked⟩ := exists_choices last (fixesAbove_last order)
    have written : ∀ greatest ≤ length - 1,
        (Choices.ofAnswers choose : Choices length).answer greatest = choose greatest :=
      fun greatest bounded => Choices.answer_ofAnswers choose (by omega)
    refine ⟨.ofAnswers choose, ?_, ?_⟩
    · refine (leads_iff_down _).mpr ?_
      rw [orderDown_congr last written, walked]
    · intro other leads
      have same := ((leads_iff_down other).mp leads).trans walked.symm
      funext place
      have agree := choices_unique last same place (by omega)
      rwa [other.answer_eq place] at agree
  · obtain rfl : length = 0 := by omega
    refine ⟨fun place => place.elim0, ?_, ?_⟩
    · exact Choices.leads_iff.mpr (Subsingleton.elim _ _)
    · intro other _
      exact Subsingleton.elim _ _

/-! ## Even choices -/

section Even

open scoped Nat ENNReal

/-- What a computation never gives has no chance. -/
theorem apply_eq_zero_of_always {α : Type} {holds : α → Prop} {law : PMF α}
    (always : Always holds law) {result : α} (never : ¬ holds result) : law result = 0 := by
  obtain ⟨certified, rfl⟩ := always
  rw [PMF.monad_map_eq_map, PMF.apply_eq_zero_iff, PMF.mem_support_map_iff]
  rintro ⟨⟨value, known⟩, -, rfl⟩
  exact never known

/-- Each choice is as likely as any other, whatever was chosen before. -/
noncomputable def evenly (greatest : Nat) : PMF (Fin (greatest + 1)) :=
  PMF.uniformOfFintype (Fin (greatest + 1))

/-- An order has the chance of what is left of it before a last exchange. -/
theorem bind_mul_apply (law : PMF (Perm (Fin length))) (last order : Perm (Fin length)) :
    (law >>= fun further => pure (last * further)) order = law (last⁻¹ * order) := by
  rw [bind_pure_comp, PMF.monad_map_eq_map, PMF.map_apply, tsum_eq_single (last⁻¹ * order)]
  · rw [if_pos (mul_inv_cancel_left last order).symm]
  · intro other differs
    rw [if_neg]
    rintro rfl
    exact differs (inv_mul_cancel_left last other).symm

theorem orderDown_evenly_succ {lower : Nat} (inside : lower + 1 < length)
    (order : Perm (Fin length)) :
    orderDown evenly (lower + 1) inside order
      = ∑ chosen : Fin (lower + 2), ((lower + 2 : Nat) : ℝ≥0∞)⁻¹
        * orderDown evenly lower (Nat.lt_of_succ_lt inside) (exchange inside chosen * order) := by
  rw [orderDown]
  show (PMF.bind _ _) order = _
  rw [PMF.bind_apply, tsum_fintype]
  refine Finset.sum_congr rfl fun chosen _ => ?_
  rw [bind_mul_apply, exchange, Equiv.swap_inv, evenly, PMF.uniformOfFintype_apply,
    Fintype.card_fin]

/-- **An even walk down draws each order that it can draw with the same chance.** -/
theorem orderDown_evenly {position : Nat} (inside : position < length) {order : Perm (Fin length)}
    (fixes : FixesAbove position order) :
    orderDown evenly position inside order = ((position + 1) ! : ℝ≥0∞)⁻¹ := by
  induction position generalizing order with
  | zero =>
      rw [fixes.eq_one, orderDown]
      simp [Pure.pure]
  | succ lower ih =>
      rw [orderDown_evenly_succ, Fintype.sum_eq_single (fixes.choice inside)]
      · have first : (fixes.choice inside).val = order ⟨lower + 1, inside⟩ := rfl
        rw [ih _ (fixes.split_iff.mpr ⟨first, rfl⟩).1, Nat.factorial_succ (lower + 1), Nat.cast_mul,
          ENNReal.mul_inv]
        · exact .inr (ENNReal.natCast_ne_top _)
        · exact .inl (ENNReal.natCast_ne_top _)
      · -- after any other first choice the position is not where the order has it
        intro other differs
        rw [apply_eq_zero_of_always (always_fixesAbove evenly lower _), mul_zero]
        intro below
        have parted := fixes.split_iff.mp ⟨below, exchange_exchange inside other order⟩
        exact differs (Fin.ext parted.1)

theorem drawnOrder_evenly (length : Nat) :
    drawnOrder evenly length = PMF.uniformOfFintype (Perm (Fin length)) := by
  ext order
  rw [PMF.uniformOfFintype_apply, Fintype.card_perm, Fintype.card_fin]
  by_cases occupied : 0 < length
  · rw [drawnOrder, dif_pos occupied, orderDown_evenly _ (fixesAbove_last order),
      Nat.sub_add_cancel occupied]
  · obtain rfl : length = 0 := by omega
    rw [Subsingleton.elim order 1, drawnOrder, dif_neg occupied]
    simp [Pure.pure]

end Even

end Randomness

/-! ## Main statement -/

open Randomness

/-- **Sequences of choices and orders correspond one to one, so shuffling with even choices leaves
every order of an array equally often.** -/
theorem walks_and_orders_correspond (length : Nat) (array : CellArray)
    (uniform : array.Homogeneous) :
    (∀ choices : Choices length, ∃! order : Equiv.Perm (Fin length), choices.Leads order)
      ∧ (∀ order : Equiv.Perm (Fin length), ∃! choices : Choices length, choices.Leads order)
      ∧ (Cell.shuffle evenly).apply array.toCell
        = (fun order => (.ok (), (array.withElements (inOrder order array.elements rfl)).toCell))
          <$> PMF.uniformOfFintype (Equiv.Perm (Fin array.elements.length)) := by
  refine ⟨?_, existsUnique_choices, ?_⟩
  · intro choices
    refine ⟨(drawnOrder choices.answer length).run, Choices.leads_iff.mpr rfl, ?_⟩
    intro order leads
    exact (Choices.leads_iff.mp leads).symm
  · rw [Cell.apply_shuffle evenly uniform rfl, drawnOrder_evenly]

theorem walks_and_orders_correspond_bytes :
    CellArray.Homogeneous ⟨.integer (.sized .signed .eight), threeBytes⟩
      ∧ (∀ choices : Choices 3, ∃! order : Equiv.Perm (Fin 3), choices.Leads order)
      ∧ (∀ order : Equiv.Perm (Fin 3), ∃! choices : Choices 3, choices.Leads order)
      ∧ (Cell.shuffle evenly).apply (.array (.integer (.sized .signed .eight)) threeBytes)
        = (fun order => (.ok (), .array (.integer (.sized .signed .eight))
            (inOrder order threeBytes rfl)))
          <$> PMF.uniformOfFintype (Equiv.Perm (Fin 3)) := by
  have uniform : CellArray.Homogeneous ⟨.integer (.sized .signed .eight), threeBytes⟩ := by
    unfold CellArray.Homogeneous
    decide
  exact ⟨uniform, walks_and_orders_correspond 3 _ uniform⟩

end TaggedCells

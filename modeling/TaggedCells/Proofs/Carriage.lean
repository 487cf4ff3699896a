import TaggedCells.Proofs.CellArray.Plans

/-!
# Carrying computations over

A computation can be run among others that have more beside them: a caller's function, which
knows nothing of a random generator, runs where one is threaded through. Carrying over keeps
results and sequences. So it does not matter whether the functions of a caller are carried over
one by one, or the operation that calls them as a whole (`Alteration.apply_across`).
-/

set_option autoImplicit false

namespace TaggedCells

open Randomness (fisherYates walkDown)

/-- A way of running the computations of one monad in another. -/
structure Carriage (m n : Type → Type) [Monad m] [Monad n] where
  carry : {α : Type} → m α → n α
  carry_pure : ∀ {α : Type} (value : α), carry (pure value : m α) = pure value
  carry_bind : ∀ {α β : Type} (run : m α) (next : α → m β),
    carry (run >>= next) = carry run >>= fun value => carry (next value)

namespace Carriage

variable {m n : Type → Type} [Monad m] [Monad n]

/-- Computations run beside a state and leave it alone. -/
def beside (m : Type → Type) [Monad m] [LawfulMonad m] (σ : Type) :
    Carriage m (StateT σ m) where
  carry run := liftM run
  carry_pure := liftM_pure
  carry_bind := liftM_bind

/-- Computations that need nothing run anywhere. -/
def fromNothing (n : Type → Type) [Monad n] [LawfulMonad n] : Carriage Id n where
  carry run := pure run.run
  carry_pure _ := rfl
  carry_bind run next := by
    rw [pure_bind]
    rfl

/-- Computations on nothing but a state run where there is more. -/
def within (m : Type → Type) [Monad m] [LawfulMonad m] (σ : Type) :
    Carriage (StateM σ) (StateT σ m) where
  carry run := fun state => pure (run.run state)
  carry_pure _ := rfl
  carry_bind run next := by
    funext state
    show pure ((run >>= next).run state)
      = (pure (run.run state) : m _) >>= fun reached => pure ((next reached.1).run reached.2)
    rw [pure_bind]
    rfl

section Failing

variable (carriage : Carriage m n) {α β : Type}

theorem carry_map [LawfulMonad m] [LawfulMonad n] (f : α → β) (run : m α) :
    carriage.carry (f <$> run) = f <$> carriage.carry run := by
  rw [← bind_pure_comp, ← bind_pure_comp, carriage.carry_bind]
  exact bind_congr fun value => carriage.carry_pure (f value)

/-- Computations that may fail are carried over with their outcomes. -/
def failing : Carriage (ExceptT Failure m) (ExceptT Failure n) where
  carry run := ExceptT.mk (carriage.carry run.run)
  carry_pure value := carriage.carry_pure (Except.ok value)
  carry_bind run next := by
    refine ExceptT.ext ?_
    rw [ExceptT.run_bind]
    show carriage.carry (ExceptT.run (run >>= next)) = carriage.carry run.run >>= _
    rw [ExceptT.run_bind, carriage.carry_bind]
    refine bind_congr fun outcome => ?_
    cases outcome with
    | ok value => rfl
    | error failure => exact carriage.carry_pure (Except.error failure)

theorem failing_outcome (outcome : Except Failure α) :
    carriage.failing.carry (liftM outcome) = liftM outcome :=
  carriage.carry_pure outcome

theorem failing_lift [LawfulMonad m] [LawfulMonad n] (run : m α) :
    carriage.failing.carry (liftM run) = liftM (carriage.carry run) :=
  carriage.carry_map Except.ok run

end Failing

/-! ## Lists -/

section Lists

variable (carriage : Carriage m n) {α β : Type}

theorem mapM_carry [LawfulMonad m] [LawfulMonad n] (f : α → m β) (elements : List α) :
    (elements.mapM fun element => carriage.carry (f element))
      = carriage.carry (elements.mapM f) := by
  induction elements with
  | nil => simp only [List.mapM_nil, carriage.carry_pure]
  | cons element rest ih =>
      simp only [List.mapM_cons, carriage.carry_bind, carriage.carry_pure, ih]

theorem foldlM_carry (f : β → α → m β) (start : β) (elements : List α) :
    (elements.foldlM (fun held element => carriage.carry (f held element)) start)
      = carriage.carry (elements.foldlM f start) := by
  induction elements generalizing start with
  | nil => exact (carriage.carry_pure start).symm
  | cons element rest ih => simp only [List.foldlM_cons, carriage.carry_bind, ih]

theorem filterAuxM_carry (keep : α → m Bool) (elements kept : List α) :
    (elements.filterAuxM (fun element => carriage.carry (keep element)) kept)
      = carriage.carry (elements.filterAuxM keep kept) := by
  induction elements generalizing kept with
  | nil => exact (carriage.carry_pure kept).symm
  | cons element rest ih => simp only [List.filterAuxM, carriage.carry_bind, ih]

theorem filterM_carry (keep : α → m Bool) (elements : List α) :
    (elements.filterM fun element => carriage.carry (keep element))
      = carriage.carry (elements.filterM keep) := by
  simp only [List.filterM, filterAuxM_carry, carriage.carry_bind, carriage.carry_pure]

theorem walkDown_carry (choose : (greatest : Nat) → m (Fin (greatest + 1))) {length : Nat}
    (position : Nat) (inside : position < length) (elements : Vector α length) :
    walkDown (fun greatest => carriage.carry (choose greatest)) position inside elements
      = carriage.carry (walkDown choose position inside elements) := by
  induction position generalizing elements with
  | zero => exact (carriage.carry_pure elements).symm
  | succ lower ih => simp only [walkDown, carriage.carry_bind, ih]

theorem shuffled_carry [LawfulMonad m] [LawfulMonad n]
    (choose : (greatest : Nat) → m (Fin (greatest + 1))) (elements : List α) :
    shuffled (fun greatest => carriage.carry (choose greatest)) elements
      = carriage.carry (shuffled choose elements) := by
  unfold shuffled fisherYates
  by_cases occupied : 0 < elements.toArray.size
  · simp only [dif_pos occupied, walkDown_carry, carriage.carry_bind, carriage.carry_pure]
  · simp only [dif_neg occupied, pure_bind, carriage.carry_pure]

end Lists
end Carriage

/-! ## Operations on arrays -/

variable {m n : Type → Type} [Monad m] [Monad n]

namespace Alteration

/-- The operation with the functions of the caller carried over. -/
def across (carriage : Carriage m n) : Alteration m → Alteration n
  | .sort algorithm => .sort algorithm
  | .transform f => .transform fun number => carriage.carry (f number)
  | .filter keep => .filter fun element => carriage.carry (keep element)
  | .reduce combine => .reduce fun held element => carriage.carry (combine held element)
  | .accumulate => .accumulate
  | .reverse => .reverse
  | .reverseRange start stop => .reverseRange start stop
  | .shuffle choose => .shuffle fun greatest => carriage.carry (choose greatest)
  | .shuffleRange start stop choose =>
      .shuffleRange start stop fun greatest => carriage.carry (choose greatest)

theorem operation_across (carriage : Carriage m n) (change : Alteration m) :
    (change.across carriage).operation = change.operation := by
  cases change <;> rfl

variable [LawfulMonad m] [LawfulMonad n]

theorem transformed_across (carriage : Carriage m n) (kind : Kind) (f : Int → m Int)
    (elements : List Cell) :
    transformed kind (fun number => carriage.carry (f number)) elements
      = carriage.failing.carry (transformed kind f elements) := by
  unfold transformed
  rw [← Carriage.mapM_carry]
  simp only [Carriage.carry_bind, Carriage.failing_lift, Carriage.failing_outcome]

theorem combineFrom_across (carriage : Carriage m n) (kind : Kind)
    (combine : Cell → Cell → m Cell) (first : Nat) (start : Cell) (elements : List Cell) :
    combineFrom kind (fun held element => carriage.carry (combine held element)) first start
        elements
      = carriage.failing.carry (combineFrom kind combine first start elements) := by
  unfold combineFrom
  rw [← Carriage.foldlM_carry]
  simp only [Carriage.carry_bind, Carriage.failing_lift, Carriage.failing_outcome]

theorem plan_across (carriage : Carriage m n) (change : Alteration m) (array : CellArray) :
    (change.across carriage).plan array = carriage.failing.carry (change.plan array) := by
  cases change with
  | sort algorithm =>
      simp only [across, plan, Carriage.carry_bind, Carriage.failing_outcome, Carriage.carry_pure]
  | transform f =>
      simp only [across, plan, transformed_across, Carriage.carry_bind, Carriage.failing_outcome,
        Carriage.carry_pure]
  | filter keep =>
      simp only [across, plan, Carriage.filterM_carry, Carriage.carry_bind,
        Carriage.failing_outcome, Carriage.failing_lift]
  | reduce combine =>
      obtain ⟨kind, elements⟩ := array
      rcases elements with _ | ⟨first, _ | ⟨next, rest⟩⟩
      · simp only [across, plan, Carriage.carry_bind, Carriage.failing_outcome,
          Carriage.carry_pure]
      · simp only [across, plan, Carriage.carry_bind, Carriage.failing_outcome,
          Carriage.carry_pure]
      · simp only [across, plan, combineFrom_across, Carriage.carry_bind,
          Carriage.failing_outcome, Carriage.carry_pure]
  | accumulate =>
      simp only [across, plan, Carriage.carry_bind, Carriage.failing_outcome]
      cases sumWide? array.elements with
      | none => rw [Carriage.failing_outcome]
      | some sum =>
          simp only [Carriage.carry_bind, Carriage.failing_outcome, Carriage.carry_pure]
  | reverse =>
      simp only [across, plan, Carriage.carry_bind, Carriage.failing_outcome, Carriage.carry_pure]
  | reverseRange start stop =>
      simp only [across, plan, Carriage.carry_bind, Carriage.failing_outcome, Carriage.carry_pure]
  | shuffle choose =>
      simp only [across, plan, Carriage.shuffled_carry, Carriage.carry_bind,
        Carriage.failing_outcome, Carriage.failing_lift]
  | shuffleRange start stop choose =>
      simp only [across, plan, Carriage.shuffled_carry, Carriage.carry_bind,
        Carriage.failing_outcome, Carriage.failing_lift, Carriage.carry_pure]

/-- **Carrying over the functions of the caller is carrying over the operation.** -/
theorem apply_across (carriage : Carriage m n) (change : Alteration m) (cell : Cell) :
    (change.across carriage).edit.apply cell = carriage.carry (change.edit.apply cell) := by
  rw [apply_edit, apply_edit, operation_across]
  cases cell.array? change.operation with
  | error failure => exact (carriage.carry_pure _).symm
  | ok array =>
      dsimp only
      rw [plan_across, carriage.carry_map]
      rfl

end Alteration

end TaggedCells

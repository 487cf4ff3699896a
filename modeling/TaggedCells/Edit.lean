import TaggedCells.Failure

/-!
# Edits

An edit works on a state in place and may fail. It leaves a state behind in either case, so
that what a failing edit does to its state is a question with an answer: the library answers
it by checking everything first and writing last.

Edits run over any monad. The monad is where a caller's own functions live: a predicate that
counts its calls, or a source of random numbers, has a state of its own there.
-/

set_option autoImplicit false

namespace TaggedCells

/-- A computation over `m` that may change a state and may fail. -/
abbrev Edit (state : Type) (m : Type → Type) := ExceptT Failure (StateT state m)

namespace Edit

variable {state : Type} {m : Type → Type} {α : Type}

/-- Runs an edit: its outcome, and the state it leaves. -/
def apply (edit : Edit state m α) (before : state) : m (Except Failure α × state) :=
  edit.run.run before

/-- Runs an edit that calls for nothing outside itself. -/
def applyPure (edit : Edit state Id α) (before : state) : Except Failure α × state :=
  Id.run (edit.apply before)

/-! ## What edits do to their state

Each building block of an edit, run on a state. A sequence runs its second part on the state
that the first leaves, unless the first fails.
-/

section Laws

variable [Monad m] {β : Type}

@[simp]
theorem apply_pure (value : α) (before : state) :
    (pure value : Edit state m α).apply before = pure (.ok value, before) := rfl

@[simp]
theorem apply_lift_outcome (outcome : Except Failure α) (before : state) :
    (liftM outcome : Edit state m α).apply before = pure (outcome, before) := rfl

@[simp]
theorem apply_bind (first : Edit state m α) (rest : α → Edit state m β) (before : state) :
    (first >>= rest).apply before = (do
      match ← first.apply before with
      | (.ok value, after) => (rest value).apply after
      | (.error failure, after) => pure (.error failure, after)) := by
  show (ExceptT.run (first >>= rest)).run before = _
  rw [ExceptT.run_bind, StateT.run_bind]
  refine bind_congr fun reached => ?_
  obtain ⟨outcome, after⟩ := reached
  cases outcome <;> rfl

variable [LawfulMonad m]

/-- After an edit that has succeeded, the next one runs on the state that is left. -/
theorem apply_bind_of_ok {first : Edit state m α} {before after : state} {value : α}
    (done : first.apply before = pure (.ok value, after)) (rest : α → Edit state m β) :
    (first >>= rest).apply before = (rest value).apply after := by
  rw [apply_bind, done, pure_bind]

@[simp]
theorem apply_get (before : state) :
    (get : Edit state m state).apply before = pure (.ok before, before) := by
  show (Except.ok <$> (get : StateT state m state)).run before = _
  simp

@[simp]
theorem apply_set (after before : state) :
    (set after : Edit state m PUnit).apply before = pure (.ok ⟨⟩, after) := by
  show (Except.ok <$> (set after : StateT state m PUnit)).run before = _
  simp

@[simp]
theorem apply_modify (change : state → state) (before : state) :
    (modify change : Edit state m PUnit).apply before = pure (.ok ⟨⟩, change before) := by
  show (Except.ok <$> (modify change : StateT state m PUnit)).run before = _
  simp

@[simp]
theorem apply_lift (outer : m α) (before : state) :
    (liftM outer : Edit state m α).apply before = (do return (.ok (← outer), before)) := by
  show (Except.ok <$> (liftM outer : StateT state m α)).run before = _
  simp

end Laws

/-- An edit that calls for nothing outside itself gives the result that it is said to give in any
monad. -/
theorem applyPure_of_apply {edit : Edit state Id α} {before : state}
    {result : Except Failure α × state} (applied : edit.apply before = pure result) :
    edit.applyPure before = result := applied

end Edit

end TaggedCells

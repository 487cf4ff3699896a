import Mathlib.Data.List.Basic

/-!
# Functions with a state of their own

A function of the caller may keep a state: it counts its calls, or remembers what it was given. How
an operation calls it shows in two things, the answers that it gives and the state that it is left
in. Here they are for the two plainest ways of calling it: once for each input and in order, and
from the left on what it made before together with the next input.
-/

set_option autoImplicit false

namespace TaggedCells

variable {σ α β γ : Type}

/-- What the function answers when it is called on the inputs in order. -/
def answers (f : α → StateM σ β) (state : σ) (inputs : List α) : List β :=
  ((inputs.mapM f).run state).1

/-- The state that the function is left in when it has been called on the inputs in order. -/
def stateAfter (f : α → StateM σ β) (state : σ) (inputs : List α) : σ :=
  ((inputs.mapM f).run state).2

variable (f : α → StateM σ β) (state : σ)

/-- The first input is answered from the state at hand, the others from the state after it. -/
@[simp]
theorem answers_cons (input : α) (inputs : List α) :
    answers f state (input :: inputs)
      = ((f input).run state).1 :: answers f ((f input).run state).2 inputs := by
  rw [answers, List.mapM_cons]
  rfl

@[simp]
theorem stateAfter_cons (input : α) (inputs : List α) :
    stateAfter f state (input :: inputs) = stateAfter f ((f input).run state).2 inputs := by
  rw [stateAfter, List.mapM_cons]
  rfl

theorem length_answers (inputs : List α) : (answers f state inputs).length = inputs.length := by
  induction inputs generalizing state with
  | nil => rfl
  | cons input rest ih => rw [answers_cons, List.length_cons, List.length_cons, ih]

/-- Another form for the answers does not change the calls. -/
theorem answers_map (g : β → γ) (inputs : List α) :
    answers (fun input => g <$> f input) state inputs = (answers f state inputs).map g := by
  induction inputs generalizing state with
  | nil => rfl
  | cons input rest ih =>
      rw [answers_cons, answers_cons, List.map_cons, ← ih]
      rfl

theorem stateAfter_map (g : β → γ) (inputs : List α) :
    stateAfter (fun input => g <$> f input) state inputs = stateAfter f state inputs := by
  induction inputs generalizing state with
  | nil => rfl
  | cons input rest ih =>
      rw [stateAfter_cons, stateAfter_cons, ← ih]
      rfl

/-- A function without a state answers each input by itself. -/
theorem answers_pure (g : α → β) (inputs : List α) :
    answers (fun input => pure (g input)) state inputs = inputs.map g := by
  rw [answers, List.mapM_pure]
  rfl

/-! ## Combining from the left -/

section Combining

variable (f : β → α → StateM σ β) (start : β) (state : σ)

/-- What the function makes of the start and the first `count` inputs, each of them combined with
what it made before, and the state that these calls leave it in. -/
def combinedAfter (inputs : List α) (count : Nat) : β × σ :=
  ((inputs.take count).foldlM f start).run state

@[simp]
theorem combinedAfter_zero (inputs : List α) :
    combinedAfter f start state inputs 0 = (start, state) := rfl

/-- After the first call, the others are on what it made and from the state that it left. -/
theorem combinedAfter_cons (input : α) (inputs : List α) (count : Nat) :
    combinedAfter f start state (input :: inputs) (count + 1)
      = combinedAfter f ((f start input).run state).1 ((f start input).run state).2 inputs
          count := by
  rw [combinedAfter, List.take_succ_cons, List.foldlM_cons]
  rfl

/-- The last call is on what was made before and on the input that is next. -/
theorem combinedAfter_succ {inputs : List α} {count : Nat} (inside : count < inputs.length) :
    combinedAfter f start state inputs (count + 1)
      = (f (combinedAfter f start state inputs count).1 inputs[count]).run
          (combinedAfter f start state inputs count).2 := by
  rw [combinedAfter, List.take_succ_eq_append_getElem inside, List.foldlM_append]
  simp only [List.foldlM_cons, List.foldlM_nil, bind_pure]
  rfl

end Combining

/-! ## Among failures -/

section Failing

variable {ε : Type}

/-- What follows a call goes on from the answer of the function and the state that it is left in. -/
theorem run_call (call : StateM σ α) (next : α → ExceptT ε (StateM σ) β) :
    ((liftM call : ExceptT ε (StateM σ) α) >>= next).run.run state
      = (next (call.run state).1).run.run (call.run state).2 := rfl

variable {state} {first : ExceptT ε (StateM σ) α} {later : σ}

theorem run_bind_of_ok {value : α} (reached : first.run.run state = (.ok value, later))
    (next : α → ExceptT ε (StateM σ) β) :
    (first >>= next).run.run state = (next value).run.run later := by
  rw [ExceptT.run_bind, StateT.run_bind, reached]
  rfl

theorem run_bind_of_error {failure : ε} (reached : first.run.run state = (.error failure, later))
    (next : α → ExceptT ε (StateM σ) β) :
    (first >>= next).run.run state = (.error failure, later) := by
  rw [ExceptT.run_bind, StateT.run_bind, reached]
  rfl

end Failing
end TaggedCells

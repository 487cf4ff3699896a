import TaggedCells.Proofs.Always
import TaggedCells.Proofs.Session.Direct
import Mathlib.Logic.Function.Basic

/-!
# Runs of a session

A program holds cells and works on them by commands: it calls operations, starts the generator
over, and steers the tracer. What it calls on a cell may depend on the cells that it holds, and
an answer may go into them. The same commands can be followed with a session, or by calling the
library directly with a generator at hand.

Both ways give the same transcript (`Session.follow_eq_direct`).
-/

set_option autoImplicit false

namespace TaggedCells

open Randomness (Generator)
open Trace (Tracer)

/-- The cells that a program holds, by their places. -/
abbrev Cells := Nat → Cell

/-- What a program may do to the tracer between two operations. -/
inductive Steering where
  | enable
  | disable
  | clear
  /-- Tells the time since the start, in nanoseconds. -/
  | atTime (nanos : Nat)
  deriving DecidableEq, Repr

/-- The tracer after it has been steered. -/
def Steering.steer : Steering → Tracer → Tracer
  | .enable, tracer => tracer.enable
  | .disable, tracer => tracer.disable
  | .clear, tracer => tracer.clear
  | .atTime nanos, tracer => tracer.atTime nanos

/-- One thing that a program does. -/
inductive Command (m : Type → Type) where
  /-- Calls an operation on the cell at a place and keeps what it makes of the answer. -/
  | call (place : Nat) (operation : Cells → Operation m) (keep : Option Reply → Cells → Cells)
  | reseed (seed : UInt64)
  | steer (steering : Steering)

/-- What came of one call. -/
structure Entry (m : Type → Type) where
  operation : Operation m
  before : Cell
  outcome : Except Failure Reply
  after : Cell

/-- What a program calls operations through, over a state of its own. -/
structure Facade (m : Type → Type) (σ : Type) where
  perform : Operation m → Cell → StateT σ m (Except Failure Reply × Cell)
  reseed : UInt64 → σ → σ
  steer : Steering → σ → σ

section Runs

variable {m : Type → Type} [Monad m]

/-- Follows the commands: an entry for each call, and the cells in the end. -/
def Facade.follow {σ : Type} (facade : Facade m σ) :
    List (Command m) → Cells → StateT σ m (List (Entry m) × Cells)
  | [], cells => return ([], cells)
  | .call place operation keep :: rest, cells => do
      let (outcome, after) ← facade.perform (operation cells) (cells place)
      let kept := keep outcome.toOption (Function.update cells place after)
      let (entries, final) ← facade.follow rest kept
      return (⟨operation cells, cells place, outcome, after⟩ :: entries, final)
  | .reseed seed :: rest, cells => do
      modify (facade.reseed seed)
      facade.follow rest cells
  | .steer steering :: rest, cells => do
      modify (facade.steer steering)
      facade.follow rest cells

namespace Facade

section Steps

variable {σ : Type} (facade : Facade m σ) (rest : List (Command m)) (cells : Cells) (state : σ)

theorem run_follow_call (place : Nat) (operation : Cells → Operation m)
    (keep : Option Reply → Cells → Cells) :
    (facade.follow (.call place operation keep :: rest) cells).run state = (do
      let ((outcome, after), state) ←
        (facade.perform (operation cells) (cells place)).run state
      let kept := keep outcome.toOption (Function.update cells place after)
      let ((entries, final), state) ← (facade.follow rest kept).run state
      return ((⟨operation cells, cells place, outcome, after⟩ :: entries, final), state)) := by
  simp only [follow, StateT.run_bind, StateT.run_pure]

variable [LawfulMonad m]

theorem run_follow_reseed (seed : UInt64) :
    (facade.follow (.reseed seed :: rest) cells).run state
      = (facade.follow rest cells).run (facade.reseed seed state) := by
  simp only [follow, StateT.run_bind, StateT.run_modify, pure_bind]

theorem run_follow_steer (steering : Steering) :
    (facade.follow (.steer steering :: rest) cells).run state
      = (facade.follow rest cells).run (facade.steer steering state) := by
  simp only [follow, StateT.run_bind, StateT.run_modify, pure_bind]

/-- What every call comes to, every entry of a transcript tells. -/
theorem always_follow (holds : Operation m → Cell → Except Failure Reply × Cell → Prop)
    (each : ∀ operation cell state,
      Always (fun performed => holds operation cell performed.1)
        ((facade.perform operation cell).run state))
    (commands : List (Command m)) (cells : Cells) (state : σ) :
    Always (fun followed => ∀ entry ∈ followed.1.1,
        holds entry.operation entry.before (entry.outcome, entry.after))
      ((facade.follow commands cells).run state) := by
  induction commands generalizing cells state with
  | nil => exact .pure fun entry present => by cases present
  | cons command rest ih =>
      cases command with
      | call place operation keep =>
          rw [run_follow_call]
          refine (each (operation cells) (cells place) state).bind fun performed here => ?_
          obtain ⟨⟨outcome, after⟩, later⟩ := performed
          refine (ih _ later).bind fun followed further => .pure ?_
          exact List.forall_mem_cons.mpr ⟨here, further⟩
      | reseed seed =>
          rw [run_follow_reseed]
          exact ih cells (facade.reseed seed state)
      | steer steering =>
          rw [run_follow_steer]
          exact ih cells (facade.steer steering state)

end Steps

/-- Operations through a session. -/
def session : Facade m Session where
  perform operation cell := Session.perform operation cell
  reseed seed session := session.reseed seed
  steer steering session := { session with tracer := steering.steer session.tracer }

/-- Operations called directly. Nothing is traced. -/
def direct (algorithm : SortAlgorithm) : Facade m Generator where
  perform operation cell := operation.direct algorithm cell
  reseed seed _ := .ofSeed seed
  steer _ generator := generator

end Facade

namespace Session

/-- The transcript of the commands in a session that has not run anything, and the cells in the
end. -/
def transcript (config : SessionConfig) (commands : List (Command m)) (cells : Cells) :
    m (List (Entry m) × Cells) :=
  Prod.fst <$> (Facade.session.follow commands cells).run (.ofConfig config)

/-- The transcript of the commands with every operation called directly. -/
def directTranscript (algorithm : SortAlgorithm) (seed : UInt64) (commands : List (Command m))
    (cells : Cells) : m (List (Entry m) × Cells) :=
  Prod.fst <$> ((Facade.direct algorithm).follow commands cells).run (.ofSeed seed)

/-- The session after an operation, from what came of it and the generator it left. -/
def after (session : Session) (operation : Operation m) (cell : Cell)
    (result : Except Failure Reply × Cell) (generator : Generator) : Session :=
  { session with
    tracer := session.tracer.beginStep.record (operation.outcomeEvent cell result.2 result.1)
    generator := generator }

variable [LawfulMonad m]

/-- An operation in a session is the direct call, and the session takes note. -/
theorem run_perform (operation : Operation m) (cell : Cell) (session : Session) :
    (perform operation cell).run session
      = (fun (result, generator) => (result, session.after operation cell result generator))
        <$> (operation.direct session.config.sortAlgorithm cell).run session.generator := by
  rw [← operation.act_eq_direct, ← bind_pure_comp]
  rfl

/-- **Following commands in a session is calling the library directly**, with the generator of
the session: the tracer plays no part. -/
theorem follow_eq_direct (commands : List (Command m)) (cells : Cells) (session : Session) :
    (fun (followed, later) => (followed, later.generator))
        <$> (Facade.session.follow commands cells).run session
      = ((Facade.direct session.config.sortAlgorithm).follow commands cells).run
          session.generator := by
  induction commands generalizing cells session with
  | nil => exact map_pure _ _
  | cons command rest ih =>
      cases command with
      | call place operation keep =>
          rw [Facade.run_follow_call, Facade.run_follow_call]
          show _ <$> ((perform (operation cells) (cells place)).run session >>= _) = _
          rw [run_perform, bind_map_left, map_bind]
          apply bind_congr
          rintro ⟨⟨outcome, after⟩, generator⟩
          -- the call leaves the settings alone, so the rest is followed under the same algorithm
          have further := ih (keep outcome.toOption (Function.update cells place after))
            (session.after (operation cells) (cells place) (outcome, after) generator)
          dsimp only [Session.after] at further ⊢
          rw [map_bind, ← further, bind_map_left]
          exact bind_congr fun followed => map_pure _ _
      | reseed seed =>
          rw [Facade.run_follow_reseed, Facade.run_follow_reseed]
          exact ih cells (session.reseed seed)
      | steer steering =>
          rw [Facade.run_follow_steer, Facade.run_follow_steer]
          exact ih cells { session with tracer := steering.steer session.tracer }

end Session
end Runs
end TaggedCells

import TaggedCells.Session.Operation
import TaggedCells.Trace.Tracer

/-!
# Sessions

A session runs operations on cells and traces each of them. It holds its settings, a tracer,
and a random generator that carries on from one shuffle to the next. The settings are the seed of
the generator, the algorithm that sorting stands for, and the settings of the tracer. Every
operation is a step of its own for the tracer, and leaves at most one record: of what it did, or of
its failure.

What an operation does to its cell and what it answers is what acting it out does. The tracer
looks on and takes no part.
-/

set_option autoImplicit false

namespace TaggedCells

open Randomness (Generator)
open Trace (Tracer TracerConfig)

/-- The settings of a session. -/
structure SessionConfig where
  seed : UInt64 := 0
  sortAlgorithm : SortAlgorithm := .standard
  tracer : TracerConfig := {}
  deriving DecidableEq, Repr

namespace SessionConfig

/-- Tracing into the buffer. -/
def traced : SessionConfig := { tracer := { enabled := true } }

/-- Tracing that is shown as it goes, and a sort that is fast on long arrays. -/
def development : SessionConfig :=
  { sortAlgorithm := .merge, tracer := { enabled := true, echo := true } }

/-- As for development, with the trace as JSON. -/
def debugging : SessionConfig :=
  { sortAlgorithm := .merge, tracer := { enabled := true, echo := true, format := .json } }

end SessionConfig

/-- A traced run of operations. -/
structure Session where
  config : SessionConfig
  tracer : Tracer
  generator : Generator
  deriving DecidableEq

namespace Session

/-- A session that has not run anything. -/
def ofConfig (config : SessionConfig) : Session where
  config := config
  tracer := .ofConfig config.tracer
  generator := .ofSeed config.seed

/-- Starts the generator over from a seed. -/
def reseed (session : Session) (seed : UInt64) : Session :=
  { session with
    config := { session.config with seed := seed }
    generator := .ofSeed seed }

/-- Runs an operation on a cell: its outcome, and the cell afterwards. -/
def perform {m : Type → Type} [Monad m] (operation : Operation m) (cell : Cell) :
    StateT Session m (Except Failure Reply × Cell) := fun session => do
  let acted := (operation.act session.config.sortAlgorithm).apply cell
  let ((outcome, after), generator) ← acted.run session.generator
  let tracer := session.tracer.beginStep.record (operation.outcomeEvent cell after outcome)
  return ((outcome, after), { session with tracer := tracer, generator := generator })

end Session
end TaggedCells

import TaggedCells.Trace.Buffer
import TaggedCells.Trace.Format

/-!
# Tracers

A tracer keeps the events of a program in a buffer, each under the step that the program has
come to. It can be turned on and off, and categories of events can be muted; an event that is
not recorded leaves no mark of any kind.

The tracer does not read a clock. Whoever runs the program tells it the time since its start,
and the records made from then on bear that time.
-/

set_option autoImplicit false

namespace TaggedCells.Trace

/-- The settings of a tracer. -/
structure TracerConfig where
  /-- Whether events are recorded. -/
  enabled : Bool := false
  /-- The records kept. -/
  capacity : Nat := Buffer.standardCapacity
  /-- How records are written. -/
  format : Format := .human
  /-- Whether each record is also to be shown as it is made. -/
  echo : Bool := false
  /-- The categories that are not recorded, in the order in which they were muted. -/
  muted : List Category := []
  deriving DecidableEq, Repr

namespace TracerConfig

/-- Mutes a category; muting it again changes nothing. -/
def mute (config : TracerConfig) (category : Category) : TracerConfig :=
  if category ∈ config.muted then config
  else { config with muted := config.muted ++ [category] }

/-- Whether events of the category are recorded. -/
def records (config : TracerConfig) (category : Category) : Bool :=
  config.enabled && !config.muted.contains category

end TracerConfig

/-- A recorder of events. -/
structure Tracer where
  config : TracerConfig
  buffer : Buffer
  /-- The step that the program has come to; steps count from one. -/
  step : Nat := 0
  /-- The time since the start, in nanoseconds. -/
  clock : Nat := 0
  deriving DecidableEq, Repr

namespace Tracer

/-- A tracer that has not recorded anything. -/
def ofConfig (config : TracerConfig) : Tracer where
  config := config
  buffer := { capacity := config.capacity }

/-- A tracer that records nothing until it is turned on. -/
def disabled : Tracer := ofConfig {}

/-- Starts recording. -/
def enable (tracer : Tracer) : Tracer :=
  { tracer with config := { tracer.config with enabled := true } }

/-- Stops recording; the records made are kept. -/
def disable (tracer : Tracer) : Tracer :=
  { tracer with config := { tracer.config with enabled := false } }

/-- Goes on to the next step. -/
def beginStep (tracer : Tracer) : Tracer := { tracer with step := tracer.step + 1 }

/-- Tells the tracer the time since its start. -/
def atTime (tracer : Tracer) (nanos : Nat) : Tracer := { tracer with clock := nanos }

/-- Puts an event into the buffer, under the present step. -/
def store (tracer : Tracer) (event : Event) : Tracer :=
  { tracer with buffer := (tracer.buffer.push tracer.step tracer.clock event).2 }

/-- Records an event, if events of its category are recorded. -/
def record (tracer : Tracer) (event : Event) : Tracer :=
  if tracer.config.records event.category then tracer.store event else tracer

/-- Records the failure of an operation. Its message is not worded when failures are not
recorded. -/
def failure (tracer : Tracer) (operation : String) (failure : Failure) : Tracer :=
  if tracer.config.records .failure then tracer.store (.ofFailure operation failure) else tracer

/-- Records that a cell came to be. -/
def create (tracer : Tracer) (kind : Kind) : Tracer := tracer.record (.create kind)

/-- Records that a cell was copied. -/
def copy (tracer : Tracer) (kind : Kind) : Tracer := tracer.record (.copy kind)

/-- Records that contents were moved out of a cell. -/
def moved (tracer : Tracer) (kind : Kind) : Tracer := tracer.record (.move kind)

/-- Records that a cell was erased. -/
def erase (tracer : Tracer) (kind : Kind) : Tracer := tracer.record (.erase kind)

/-- Records that an operation ran over an array. -/
def algorithm (tracer : Tracer) (operation : String) (kind : Kind) (before after : Nat) : Tracer :=
  tracer.record (.algorithm operation kind before after)

/-- Drops every record held. -/
def clear (tracer : Tracer) : Tracer := { tracer with buffer := tracer.buffer.clear }

/-- One record in the configured format. -/
def render (tracer : Tracer) (record : Record) : String := tracer.config.format.render record

/-- Every record held, in the configured format. -/
def renderAll (tracer : Tracer) : String := tracer.config.format.renderAll tracer.buffer.records

end Tracer
end TaggedCells.Trace

import TaggedCells.Trace.Event

/-!
# The record buffer

A buffer keeps the newest records, up to a capacity. It gives out the identifiers and never
gives one out twice, whatever it has dropped since. A record that has to make room is counted
as evicted; clearing the buffer evicts nothing. A buffer without capacity evicts every record
at once.
-/

set_option autoImplicit false

namespace TaggedCells.Trace

/-- The records held, the oldest first. -/
structure Buffer where
  capacity : Nat
  records : List Record := []
  nextId : Nat := 0
  evicted : Nat := 0
  deriving DecidableEq, Repr

/-- A summary of a buffer. -/
structure Stats where
  length : Nat
  capacity : Nat
  evicted : Nat
  /-- The steps of the oldest and of the newest record. -/
  steps : Option (Nat × Nat)
  lifecycle : Nat
  algorithms : Nat
  failures : Nat
  deriving DecidableEq, Repr

/-- The number of records held of a category. -/
def Stats.count (stats : Stats) : Category → Nat
  | .lifecycle => stats.lifecycle
  | .algorithm => stats.algorithms
  | .failure => stats.failures

/-- The summary with one more record of a category counted. -/
def Stats.counting (stats : Stats) : Category → Stats
  | .lifecycle => { stats with lifecycle := stats.lifecycle + 1 }
  | .algorithm => { stats with algorithms := stats.algorithms + 1 }
  | .failure => { stats with failures := stats.failures + 1 }

namespace Buffer

/-- The capacity of a buffer that nobody gave another. -/
def standardCapacity : Nat := 4096

/-- Stores an event and returns its identifier. A full buffer gives up its oldest record. -/
def push (buffer : Buffer) (step timestamp : Nat) (event : Event) : Nat × Buffer :=
  let id := buffer.nextId
  let counted := { buffer with nextId := id + 1 }
  let record : Record := ⟨id, step, timestamp, event⟩
  if buffer.capacity = 0 then (id, { counted with evicted := buffer.evicted + 1 })
  else if buffer.records.length = buffer.capacity then
    (id, { counted with
      records := buffer.records.tail ++ [record]
      evicted := buffer.evicted + 1 })
  else (id, { counted with records := buffer.records ++ [record] })

/-- Drops every record held. -/
def clear (buffer : Buffer) : Buffer := { buffer with records := [] }

/-- The newest record. -/
def last? (buffer : Buffer) : Option Record := buffer.records.getLast?

/-- The records of a step, the oldest first. -/
def inStep (buffer : Buffer) (step : Nat) : List Record :=
  buffer.records.filter fun record => record.step == step

/-- The records of a category, the oldest first. -/
def inCategory (buffer : Buffer) (category : Category) : List Record :=
  buffer.records.filter fun record => record.event.category == category

/-- The summary of a buffer before its records have been looked at. -/
def blankStats (buffer : Buffer) : Stats where
  length := buffer.records.length
  capacity := buffer.capacity
  evicted := buffer.evicted
  steps := none
  lifecycle := 0
  algorithms := 0
  failures := 0

/-- Sums the buffer up, counting the records in one pass. -/
def stats (buffer : Buffer) : Stats :=
  let counted := buffer.records.foldl
    (fun stats record => stats.counting record.event.category) buffer.blankStats
  { counted with
    steps := do
      let oldest ← buffer.records.head?
      let newest ← buffer.records.getLast?
      return (oldest.step, newest.step) }

end Buffer
end TaggedCells.Trace

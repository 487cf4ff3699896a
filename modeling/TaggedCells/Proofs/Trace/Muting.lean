import TaggedCells.Proofs.Trace.Chronology

/-!
# Muting and forgetting

A tracer with muted categories and a bounded buffer holds less than one that hears everything
and forgets nothing, and in a way that can be told from outside: of what the other holds after
the same calls, it holds the newest of the events that are not muted, as many as its capacity
allows (`narrows_after`). An event that is muted, or that comes while the tracer is off, takes
no room and drives nothing out.

The two may read different clocks, so they are compared by the steps and events of their records.
With the order of the steps this says what a trace can be relied on for
(`traces_are_faithful`).
-/

set_option autoImplicit false

namespace TaggedCells.Trace.Tracer

/-- The steps and events of the records held, the oldest first. -/
def held (tracer : Tracer) : List (Nat × Event) :=
  tracer.buffer.records.map fun record => (record.step, record.event)

/-- The entries whose categories are not muted. -/
def unmuted (muted : List Category) (entries : List (Nat × Event)) : List (Nat × Event) :=
  entries.filter fun entry => !muted.contains entry.2.category

section Lists

variable (muted : List Category) (entries : List (Nat × Event)) (step : Nat) {event : Event}

theorem unmuted_concat_of_mem (silent : event.category ∈ muted) :
    unmuted muted (entries ++ [(step, event)]) = unmuted muted entries := by
  unfold unmuted
  rw [List.filter_append, List.filter_cons_of_neg (by simpa using silent), List.filter_nil,
    List.append_nil]

theorem unmuted_concat_of_not_mem (audible : event.category ∉ muted) :
    unmuted muted (entries ++ [(step, event)]) = unmuted muted entries ++ [(step, event)] := by
  unfold unmuted
  rw [List.filter_append, List.filter_cons_of_pos (by simpa using audible), List.filter_nil]

end Lists

theorem held_store {tracer : Tracer}
    (within : tracer.buffer.records.length ≤ tracer.buffer.capacity) (event : Event) :
    (tracer.store event).held
      = (tracer.held ++ [(tracer.step, event)]).rtake tracer.buffer.capacity := by
  unfold held store
  rw [Buffer.records_push _ _ _ within, map_rtake, List.map_append]
  rfl

theorem records_eq_true_iff {config : TracerConfig} {category : Category} :
    config.records category = true ↔ config.enabled = true ∧ category ∉ config.muted := by
  simp [TracerConfig.records]

theorem step_record (tracer : Tracer) (event : Event) :
    (tracer.record event).step = tracer.step := by
  unfold record
  split <;> rfl

theorem config_record (tracer : Tracer) (event : Event) :
    (tracer.record event).config = tracer.config := by
  unfold record
  split <;> rfl

/-! ## Two tracers -/

/-- The first tracer is the second with categories muted and the buffer bounded. -/
structure Narrows (narrow wide : Tracer) : Prop where
  step_eq : narrow.step = wide.step
  enabled_eq : narrow.config.enabled = wide.config.enabled
  hears_all : wide.config.muted = []
  within : narrow.buffer.records.length ≤ narrow.buffer.capacity
  held_eq : narrow.held
    = (unmuted narrow.config.muted wide.held).rtake narrow.buffer.capacity

namespace Narrows

variable {narrow wide : Tracer}

/-- An event is recorded by both, or by the wide one only, or by neither. -/
theorem record (narrows : Narrows narrow wide)
    (room : wide.buffer.records.length < wide.buffer.capacity) (event : Event) :
    Narrows (narrow.record event) (wide.record event) := by
  obtain ⟨step_eq, enabled_eq, hears_all, within, held_eq⟩ := narrows
  unfold Tracer.record
  by_cases enabled : wide.config.enabled = true
  · have heard : wide.config.records event.category = true :=
      records_eq_true_iff.mpr ⟨enabled, hears_all ▸ List.not_mem_nil⟩
    have appended : (wide.store event).held = wide.held ++ [(wide.step, event)] := by
      rw [held_store (Nat.le_of_lt room)]
      refine rtake_of_length_le ?_
      rw [List.length_append, held, List.length_map]
      exact room
    rw [if_pos heard]
    by_cases silent : event.category ∈ narrow.config.muted
    · have refused : ¬narrow.config.records event.category = true :=
        fun recorded => (records_eq_true_iff.mp recorded).2 silent
      rw [if_neg refused]
      refine ⟨step_eq, enabled_eq, hears_all, within, ?_⟩
      rw [appended, unmuted_concat_of_mem _ _ _ silent, held_eq]
    · have recorded : narrow.config.records event.category = true :=
        records_eq_true_iff.mpr ⟨enabled_eq.trans enabled, silent⟩
      rw [if_pos recorded]
      refine ⟨step_eq, enabled_eq, hears_all, Buffer.within_push _ _ _ within, ?_⟩
      have capacity : (narrow.store event).buffer.capacity = narrow.buffer.capacity :=
        Buffer.capacity_push _ _ _
      rw [held_store within, capacity, appended, held_eq, step_eq]
      exact (rtake_rtake_concat _ _ _).trans
        (congrArg (List.rtake · _) (unmuted_concat_of_not_mem _ _ _ silent).symm)
  · have deaf : ¬wide.config.records event.category = true :=
      fun recorded => enabled (records_eq_true_iff.mp recorded).1
    have silent : ¬narrow.config.records event.category = true :=
      fun recorded => enabled (enabled_eq ▸ (records_eq_true_iff.mp recorded).1)
    rw [if_neg deaf, if_neg silent]
    exact ⟨step_eq, enabled_eq, hears_all, within, held_eq⟩

theorem make (narrows : Narrows narrow wide)
    (room : wide.buffer.records.length < wide.buffer.capacity) (call : Call) :
    Narrows (call.make narrow) (call.make wide) := by
  obtain ⟨step_eq, enabled_eq, hears_all, within, held_eq⟩ := narrows
  rcases call.make_cases with rfl | rfl | rfl | rfl | ⟨-, event, made⟩
  · exact ⟨congrArg (· + 1) step_eq, enabled_eq, hears_all, within, held_eq⟩
  · exact ⟨step_eq, rfl, hears_all, within, held_eq⟩
  · exact ⟨step_eq, rfl, hears_all, within, held_eq⟩
  · exact ⟨step_eq, enabled_eq, hears_all, Nat.zero_le _, (List.rtake_nil _).symm⟩
  · rw [made, made]
    exact record ⟨step_eq, enabled_eq, hears_all, within, held_eq⟩ room event

end Narrows

/-! ## Runs -/

section Runs

variable (clock : Nat → Nat) (config : TracerConfig)

/-- The calls leave the capacity and the muted categories as they are set, and add a record
each at most. -/
theorem make_bounds (tracer : Tracer) (call : Call) :
    (call.make tracer).buffer.capacity = tracer.buffer.capacity
      ∧ (call.make tracer).config.muted = tracer.config.muted
      ∧ (tracer.buffer.records.length ≤ tracer.buffer.capacity →
        (call.make tracer).buffer.records.length ≤ tracer.buffer.records.length + 1) := by
  rcases call.make_cases with rfl | rfl | rfl | rfl | ⟨-, event, made⟩
  · exact ⟨rfl, rfl, fun _ => Nat.le_succ _⟩
  · exact ⟨rfl, rfl, fun _ => Nat.le_succ _⟩
  · exact ⟨rfl, rfl, fun _ => Nat.le_succ _⟩
  · exact ⟨rfl, rfl, fun _ => Nat.zero_le _⟩
  · rw [made]
    unfold record
    split
    · refine ⟨Buffer.capacity_push _ _ _, rfl, fun within => ?_⟩
      show (tracer.buffer.push _ _ _).2.records.length ≤ _
      rw [Buffer.records_push _ _ _ within, length_rtake, List.length_append,
        List.length_singleton]
      exact Nat.min_le_right _ _
    · exact ⟨rfl, rfl, fun _ => Nat.le_succ _⟩

theorem bounds_after (history : List Call) :
    (after clock config history).buffer.capacity = config.capacity
      ∧ (after clock config history).config.muted = config.muted
      ∧ (after clock config history).buffer.records.length ≤ history.length := by
  induction history with
  | nil => exact ⟨rfl, rfl, Nat.le_refl 0⟩
  | cons call earlier ih =>
      obtain ⟨capacity, muted, length⟩ := ih
      have within := (after_chronological clock config earlier).within
      obtain ⟨capacityKept, mutedKept, grown⟩ :=
        make_bounds ((after clock config earlier).atTime (clock earlier.length)) call
      exact ⟨capacityKept.trans capacity, mutedKept.trans muted,
        (grown within).trans (Nat.add_le_add_right length 1)⟩

/-- **A tracer narrows one that hears everything**, as long as the other has room for the calls. -/
theorem narrows_after (otherClock : Nat → Nat) {room : Nat} (history : List Call)
    (fits : history.length ≤ room) :
    Narrows (after clock config history)
      (after otherClock { config with capacity := room, muted := [] } history) := by
  induction history with
  | nil => exact ⟨rfl, rfl, rfl, Nat.zero_le _, (List.rtake_nil _).symm⟩
  | cons call earlier ih =>
      obtain ⟨step_eq, enabled_eq, hears_all, within, held_eq⟩ := ih (Nat.le_of_succ_le fits)
      obtain ⟨capacity, -, length⟩ :=
        bounds_after otherClock { config with capacity := room, muted := [] } earlier
      have timed : Narrows ((after clock config earlier).atTime (clock earlier.length))
          ((after otherClock { config with capacity := room, muted := [] } earlier).atTime
            (otherClock earlier.length)) :=
        ⟨step_eq, enabled_eq, hears_all, within, held_eq⟩
      exact timed.make (Nat.lt_of_le_of_lt length (capacity ▸ fits)) call

end Runs

/-! ## Main statement -/

/-- What the trace of a run can be relied on for. -/
structure Faithful (config : TracerConfig) (history : List Call) (tracer : Tracer) : Prop where
  counted : tracer.step = history.count .beginStep
  rising : tracer.buffer.steps.Pairwise (· ≤ ·)
  no_steps : tracer.buffer.stats.steps = none ↔ tracer.buffer.records = []
  span : tracer.buffer.stats.steps = (do
    let least ← tracer.buffer.steps.min?
    let greatest ← tracer.buffer.steps.max?
    return (least, greatest))
  block : ∀ step, tracer.buffer.inStep step <:+: tracer.buffer.records
  /-- The blocks of the steps in turn are the whole buffer. -/
  blocks : ∀ bound, tracer.step < bound →
    (List.range bound).flatMap tracer.buffer.inStep = tracer.buffer.records
  /-- Held are the newest events that are not muted, of all that a tracer holds that mutes none
  and has room for every call. -/
  newest : ∀ (otherClock : Nat → Nat) (room : Nat), history.length ≤ room →
    tracer.held
      = (unmuted config.muted
          (after otherClock { config with capacity := room, muted := [] } history).held).rtake
            config.capacity

/-- **Every trace is faithful**, whatever the settings of the tracer and the calls on it. -/
theorem traces_are_faithful (clock : Nat → Nat) (config : TracerConfig) (history : List Call) :
    Faithful config history (after clock config history) := by
  obtain ⟨within, rising, reached⟩ := after_chronological clock config history
  obtain ⟨capacity, muted, -⟩ := bounds_after clock config history
  have ordered := List.pairwise_map.mp rising
  refine ⟨step_after clock config history, rising, Buffer.steps_stats_eq_none_iff _,
    Buffer.steps_stats _ rising, block_infix Record.step ordered, ?_, ?_⟩
  · intro bound ahead
    refine flatMap_blocks Record.step List.pairwise_lt_range ordered fun record present => ?_
    have come := reached record.step (List.mem_map_of_mem present)
    exact List.mem_range.mpr (Nat.lt_of_le_of_lt come ahead)
  · intro otherClock room fits
    rw [(narrows_after clock config otherClock history fits).held_eq, muted, capacity]

end TaggedCells.Trace.Tracer

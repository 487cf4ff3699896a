import TaggedCells.Proofs.Session.Telling

/-!
# What a session writes down

The steps of a session number its calls. A record that is held under a step tells of the call of
that number, and no two records are held under the same one. The calls that have a record are the
latest of those that the session heard of since its tracer was last cleared, as many as there is
room for (`Chronicle`).

Which calls are heard is told from the commands and from what the calls came to, by the settings
alone (`Hearing`): turning the tracer on and off and clearing it is all that matters in between.
-/

set_option autoImplicit false

namespace TaggedCells

open Trace (Buffer Category Event Record Tracer TracerConfig)

/-! ## Hearing -/

/-- What is known of a tracer from its settings and from the calls: whether it is on, what is muted,
how many records it has room for, how many calls there were, and the numbers of those that were
heard since it was last cleared, the latest last. -/
structure Hearing where
  enabled : Bool
  muted : List Category
  room : Nat
  calls : Nat := 0
  heard : List Nat := []
  deriving DecidableEq, Repr

namespace Hearing

variable {m : Type → Type}

/-- Nothing has been called yet. -/
def ofConfig (config : TracerConfig) : Hearing where
  enabled := config.enabled
  muted := config.muted
  room := config.capacity

/-- One more call is heard if the tracer is on and the category of the call is not muted. -/
def call (hearing : Hearing) (entry : Entry m) : Hearing :=
  { hearing with
    calls := hearing.calls + 1
    heard :=
      if hearing.enabled = true ∧ entry.category ∉ hearing.muted then
        hearing.heard ++ [hearing.calls + 1]
      else hearing.heard }

/-- What steering the tracer does to the hearing. -/
def steer (hearing : Hearing) : Steering → Hearing
  | .enable => { hearing with enabled := true }
  | .disable => { hearing with enabled := false }
  | .clear => { hearing with heard := [] }
  | .atTime _ => hearing

/-- The hearing after the commands, of which each call has come to the next of the entries. -/
def along (hearing : Hearing) : List (Command m) → List (Entry m) → Hearing
  | .call .. :: commands, entry :: entries => (hearing.call entry).along commands entries
  | .reseed _ :: commands, entries => hearing.along commands entries
  | .steer steering :: commands, entries => (hearing.steer steering).along commands entries
  | _, _ => hearing

/-- The tracer is set as the hearing has it, and the calls that it holds a record of are the latest
of those heard: the very latest among them, unless there is no room for any. -/
structure Matches (hearing : Hearing) (tracer : Tracer) : Prop where
  enabled_eq : tracer.config.enabled = hearing.enabled
  muted_eq : tracer.config.muted = hearing.muted
  capacity_eq : tracer.buffer.capacity = hearing.room
  step_eq : tracer.step = hearing.calls
  steps_eq : tracer.buffer.steps = hearing.heard.rtake hearing.room

namespace Matches

variable {hearing : Hearing} {tracer : Tracer}

theorem ofConfig (config : TracerConfig) : (Hearing.ofConfig config).Matches (.ofConfig config) :=
  ⟨rfl, rfl, rfl, rfl, (List.rtake_nil _).symm⟩

/-- A call is heard where its event is recorded. -/
theorem call (known : hearing.Matches tracer)
    (within : tracer.buffer.records.length ≤ tracer.buffer.capacity) {entry : Entry m}
    {event : Event} (tells : entry.Tells event) :
    (hearing.call entry).Matches (tracer.beginStep.record event) := by
  obtain ⟨enabled_eq, muted_eq, capacity_eq, step_eq, steps_eq⟩ := known
  have counted : tracer.step + 1 = hearing.calls + 1 := congrArg (· + 1) step_eq
  have settings : tracer.beginStep.config = tracer.config := rfl
  have hears : tracer.beginStep.config.records event.category = true
      ↔ hearing.enabled = true ∧ entry.category ∉ hearing.muted := by
    rw [settings, Tracer.records_eq_true_iff, enabled_eq, muted_eq, tells.category_eq]
  unfold Tracer.record Hearing.call
  by_cases heard : tracer.beginStep.config.records event.category = true
  · rw [if_pos heard, if_pos (hears.mp heard)]
    refine ⟨enabled_eq, muted_eq, (Buffer.capacity_push _ _ _).trans capacity_eq, counted, ?_⟩
    refine (Buffer.steps_push _ _ _ within).trans ?_
    rw [steps_eq, capacity_eq, ← counted]
    exact Trace.rtake_rtake_concat _ _ _
  · rw [if_neg heard, if_neg (mt hears.mpr heard)]
    exact ⟨enabled_eq, muted_eq, capacity_eq, counted, steps_eq⟩

theorem steer (known : hearing.Matches tracer) (steering : Steering) :
    (hearing.steer steering).Matches (steering.steer tracer) := by
  obtain ⟨enabled_eq, muted_eq, capacity_eq, step_eq, steps_eq⟩ := known
  cases steering with
  | enable | disable => exact ⟨rfl, muted_eq, capacity_eq, step_eq, steps_eq⟩
  | clear => exact ⟨enabled_eq, muted_eq, capacity_eq, step_eq, (List.rtake_nil _).symm⟩
  | atTime => exact ⟨enabled_eq, muted_eq, capacity_eq, step_eq, steps_eq⟩

end Matches
end Hearing

/-! ## Runs -/

section Runs

variable {m : Type → Type}

/-- The record tells of one of the calls, and its step is the number of calls up to that one. -/
def Recounts (record : Record) (entries : List (Entry m)) : Prop :=
  ∃ earlier entry later, entries = earlier ++ entry :: later
    ∧ record.step = (earlier ++ [entry]).length ∧ entry.Tells record.event

/-- What a trace says about the calls that led to it, and about those that were heard. -/
structure Chronicle (entries : List (Entry m)) (hearing : Hearing) (tracer : Tracer) : Prop where
  /-- Every call was a step. -/
  counted : tracer.step = entries.length
  within : tracer.buffer.records.length ≤ tracer.buffer.capacity
  rising : tracer.buffer.steps.Pairwise (· < ·)
  told : ∀ record ∈ tracer.buffer.records, Recounts record entries
  heard : hearing.Matches tracer

section Records

variable {entries : List (Entry m)} {record : Record}

theorem Recounts.step_le (recounts : Recounts record entries) : record.step ≤ entries.length := by
  obtain ⟨earlier, entry, later, rfl, step, -⟩ := recounts
  rw [step, List.length_append, List.length_append]
  exact Nat.add_le_add_left (Nat.le_add_left 1 later.length) earlier.length

/-- A further call does not change what a record tells. -/
theorem Recounts.concat (recounts : Recounts record entries) (last : Entry m) :
    Recounts record (entries ++ [last]) := by
  obtain ⟨earlier, entry, later, rfl, step, tells⟩ := recounts
  refine ⟨earlier, entry, later ++ [last], ?_, step, tells⟩
  rw [List.append_assoc, List.cons_append]

end Records

namespace Chronicle

variable {entries : List (Entry m)} {hearing : Hearing} {tracer : Tracer}

theorem reached (chronicle : Chronicle entries hearing tracer) :
    ∀ step ∈ tracer.buffer.steps, step ≤ tracer.step := by
  intro step present
  obtain ⟨record, held, rfl⟩ := List.mem_map.mp present
  rw [chronicle.counted]
  exact (chronicle.told record held).step_le

/-- A further call goes into the chronicle under the step that it begins. -/
theorem call (chronicle : Chronicle entries hearing tracer) {entry : Entry m} {event : Event}
    (tells : entry.Tells event) :
    Chronicle (entries ++ [entry]) (hearing.call entry) (tracer.beginStep.record event) := by
  have ahead : ∀ step ∈ tracer.buffer.steps, step < tracer.step + 1 :=
    fun step present => Nat.lt_succ_of_le (chronicle.reached step present)
  have hears := chronicle.heard.call chronicle.within tells
  obtain ⟨counted, within, rising, told, -⟩ := chronicle
  have further : tracer.step + 1 = (entries ++ [entry]).length := by
    rw [List.length_append, counted]
    rfl
  rw [Tracer.record] at hears ⊢
  split at hears
  case isTrue recorded =>
    rw [if_pos recorded]
    refine ⟨further, Buffer.within_push _ _ _ within,
      Buffer.pairwise_steps_push _ _ _ within rising ahead, ?_, hears⟩
    intro record present
    rcases Buffer.mem_records_push _ _ _ within present with old | rfl
    · exact (told record old).concat entry
    · exact ⟨entries, entry, [], rfl, further, tells⟩
  case isFalse refused =>
    rw [if_neg refused]
    exact ⟨further, within, rising, fun record present => (told record present).concat entry, hears⟩

theorem steer (chronicle : Chronicle entries hearing tracer) (steering : Steering) :
    Chronicle entries (hearing.steer steering) (steering.steer tracer) := by
  have hears := chronicle.heard.steer steering
  obtain ⟨counted, within, rising, told, -⟩ := chronicle
  cases steering with
  | clear =>
      have none : ∀ record ∈ [], Recounts record entries :=
        fun _ present => absurd present List.not_mem_nil
      exact ⟨counted, Nat.zero_le _, .nil, none, hears⟩
  | _ => exact ⟨counted, within, rising, told, hears⟩

end Chronicle

variable [Monad m] [LawfulMonad m]

/-- **Following commands goes on with the chronicle.** -/
theorem Session.always_chronicle (commands : List (Command m)) (cells : Cells) (session : Session)
    (earlier : List (Entry m)) (hearing : Hearing)
    (chronicle : Chronicle earlier hearing session.tracer) :
    Always (fun followed => Chronicle (earlier ++ followed.1.1)
        (hearing.along commands followed.1.1) followed.2.tracer)
      ((Facade.session.follow commands cells).run session) := by
  induction commands generalizing cells session earlier hearing with
  | nil =>
      refine .pure ?_
      rw [List.append_nil]
      exact chronicle
  | cons command rest ih =>
      cases command with
      | call place operation keep =>
          rw [Facade.run_follow_call]
          refine (always_follows (operation cells) (cells place) session).bind ?_
          rintro ⟨⟨outcome, after⟩, later⟩ ⟨event, tells, reached⟩
          have further := chronicle.call tells
          rw [← reached] at further
          refine (ih _ later _ _ further).bind ?_
          rintro ⟨⟨entries, final⟩, last⟩ told
          refine .pure ?_
          rw [List.append_assoc] at told
          exact told
      | reseed seed =>
          rw [Facade.run_follow_reseed]
          exact ih cells (session.reseed seed) earlier hearing chronicle
      | steer steering =>
          rw [Facade.run_follow_steer]
          exact ih cells _ earlier _ (chronicle.steer steering)

end Runs

/-! ## Main statement -/

/-- **A session keeps a chronicle of its calls**, whatever its settings, the commands it is given,
the functions that they bring along and the state these start from. -/
theorem sessions_keep_a_chronicle {σ : Type} (world : σ) :
    (∀ (session : Session) (operation : Operation (StateM σ)) (cell : Cell),
        let ((outcome, after), later) :=
          (((Session.perform operation cell).run session).run world).1
        session.Notes ⟨operation, cell, outcome, after⟩ later)
      ∧ ∀ (config : SessionConfig) (commands : List (Command (StateM σ))) (cells : Cells),
          let ((entries, _), session) :=
            (((Facade.session.follow commands cells).run (.ofConfig config)).run world).1
          Chronicle entries ((Hearing.ofConfig config.tracer).along commands entries)
            session.tracer := by
  refine ⟨?_, ?_⟩
  · intro session operation cell
    exact ((Session.always_follows operation cell session).from_state world).notes
  · intro config commands cells
    have started : Chronicle ([] : List (Entry (StateM σ))) (.ofConfig config.tracer)
        (Tracer.ofConfig config.tracer) :=
      ⟨rfl, Nat.zero_le _, .nil, fun _ present => absurd present List.not_mem_nil,
        .ofConfig config.tracer⟩
    exact (Session.always_chronicle commands cells (.ofConfig config) [] _ started).from_state world

/-- The second of three calls fails where failures are muted, and its step is left out. -/
example :
    let config : SessionConfig := { tracer := { enabled := true, muted := [.failure] } }
    let commands : List (Command Id) :=
      [.call 0 (fun _ => .copy) fun _ => id, .call 1 (fun _ => .erase) fun _ => id,
        .call 0 (fun _ => .filter fun _ => pure false) fun _ => id]
    let cells : Cells := fun place =>
      if place = 0 then .array (.integer (.native true)) [.ofWord (.native true) 5] else .invalid
    let session := ((Facade.session.follow commands cells).run (.ofConfig config)).run.2
    session.tracer.buffer.records.map (fun record => (record.step, record.event))
      = [(1, .copy .array), (3, .algorithm "filter" (.integer (.native true)) 1 0)] := by
  rfl

end TaggedCells

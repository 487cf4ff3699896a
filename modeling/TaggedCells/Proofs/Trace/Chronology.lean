import TaggedCells.Trace.Tracer
import TaggedCells.Proofs.Trace.Retention

/-!
# The order of a trace

A tracer records every event under the step that the program has come to. Steps only go up, so
the steps of the records held never fall (`Tracer.after_chronological`), whatever is called in
between and whatever is evicted or cleared away. The records of one step therefore stand together
(`block_infix`), and the blocks of the steps in turn are the whole buffer (`flatMap_blocks`).

Each call on the tracer is made at a time of its own, which the clock of the run tells. The
calls of a run are listed with the latest first.
-/

set_option autoImplicit false

namespace TaggedCells.Trace

/-! ## Blocks of a list -/

section Blocks

variable {α : Type} (key : α → Nat)

/-- Elements in the order of their keys start with the block of the least key. -/
theorem eq_block_append {elements : List α} {least : Nat}
    (rising : elements.Pairwise fun earlier later => key earlier ≤ key later)
    (above : ∀ element ∈ elements, least ≤ key element) :
    elements.filter (fun element => key element == least)
        ++ elements.filter (fun element => key element != least)
      = elements := by
  induction elements with
  | nil => rfl
  | cons first rest ih =>
      obtain ⟨leads, rising⟩ := List.pairwise_cons.mp rising
      obtain ⟨aboveFirst, above⟩ := List.forall_mem_cons.mp above
      by_cases here : key first = least
      · rw [List.filter_cons_of_pos (by simpa using here),
          List.filter_cons_of_neg (by simpa using here), List.cons_append, ih rising above]
      · -- the block is over before the first element, so no element is in it
        have past : ∀ element ∈ first :: rest, key element ≠ least := by
          refine List.forall_mem_cons.mpr ⟨here, fun element present => ?_⟩
          have later := leads element present
          omega
        have none : (first :: rest).filter (fun element => key element == least) = [] :=
          List.filter_eq_nil_iff.mpr fun element present => by simpa using past element present
        have all : (first :: rest).filter (fun element => key element != least) = first :: rest :=
          List.filter_eq_self.mpr fun element present => by simpa using past element present
        rw [none, all, List.nil_append]

/-- The elements of one key stand together. -/
theorem block_infix {elements : List α}
    (rising : elements.Pairwise fun earlier later => key earlier ≤ key later) (step : Nat) :
    elements.filter (fun element => key element == step) <:+: elements := by
  induction elements with
  | nil => exact List.infix_refl _
  | cons first rest ih =>
      obtain ⟨leads, risingRest⟩ := List.pairwise_cons.mp rising
      by_cases early : key first < step
      · rw [List.filter_cons_of_neg (by simpa using Nat.ne_of_lt early)]
        exact List.infix_cons (ih risingRest)
      · have above : ∀ element ∈ first :: rest, step ≤ key element := by
          refine List.forall_mem_cons.mpr ⟨by omega, fun element present => ?_⟩
          have later := leads element present
          omega
        exact ⟨[], _, eq_block_append key rising above⟩

/-- The blocks of ascending keys, one after the other, are all elements. -/
theorem flatMap_blocks {steps : List Nat} (ascending : steps.Pairwise (· < ·))
    {elements : List α}
    (rising : elements.Pairwise fun earlier later => key earlier ≤ key later)
    (covered : ∀ element ∈ elements, key element ∈ steps) :
    (steps.flatMap fun step => elements.filter fun element => key element == step) = elements := by
  induction steps generalizing elements with
  | nil =>
      refine (List.eq_nil_iff_forall_not_mem.mpr fun element present => ?_).symm
      exact List.not_mem_nil (covered element present)
  | cons step others ih =>
      obtain ⟨least, ascending⟩ := List.pairwise_cons.mp ascending
      have above : ∀ element ∈ elements, step ≤ key element := by
        intro element present
        rcases List.mem_cons.mp (covered element present) with here | other
        · exact Nat.le_of_eq here.symm
        · exact Nat.le_of_lt (least _ other)
      have later : ∀ element ∈ elements.filter (fun element => key element != step),
          key element ∈ others := by
        intro element present
        obtain ⟨present, apart⟩ := List.mem_filter.mp present
        exact List.mem_of_ne_of_mem (by simpa using apart) (covered element present)
      have untouched : ∀ other ∈ others,
          elements.filter (fun element => key element == other)
            = (elements.filter fun element => key element != step).filter
                fun element => key element == other := by
        intro other present
        rw [List.filter_filter]
        refine List.filter_congr fun element _ => ?_
        by_cases same : key element = other
        · have apart := least other present
          simp only [same, beq_self_eq_true, Bool.true_and]
          exact (bne_iff_ne.mpr (by omega)).symm
        · simp [same]
      rw [List.flatMap_cons, List.flatMap_congr untouched,
        ih ascending (rising.filter _) later]
      exact eq_block_append key rising above

end Blocks

/-! ## Steps in the buffer -/

namespace Buffer

variable {buffer : Buffer} (step timestamp : Nat) (event : Event)

theorem steps_push (within : buffer.records.length ≤ buffer.capacity) :
    (buffer.push step timestamp event).2.steps
      = (buffer.steps ++ [step]).rtake buffer.capacity := by
  rw [steps, records_push step timestamp event within, map_rtake, List.map_append]
  rfl

/-- Where there is room for any record, the one pushed last is the newest. -/
theorem last?_push (room : buffer.capacity ≠ 0) :
    (buffer.push step timestamp event).2.last?
      = some ⟨buffer.nextId, step, timestamp, event⟩ := by
  unfold push last?
  rw [if_neg room]
  split
  · exact List.getLast?_concat
  · exact List.getLast?_concat

theorem within_push (within : buffer.records.length ≤ buffer.capacity) :
    (buffer.push step timestamp event).2.records.length
      ≤ (buffer.push step timestamp event).2.capacity := by
  rw [records_push step timestamp event within, length_rtake, capacity_push]
  exact Nat.min_le_left _ _

theorem mem_records_push (within : buffer.records.length ≤ buffer.capacity) {record : Record}
    (present : record ∈ (buffer.push step timestamp event).2.records) :
    record ∈ buffer.records ∨ record = ⟨buffer.nextId, step, timestamp, event⟩ := by
  rw [records_push step timestamp event within] at present
  rcases List.mem_append.mp (List.mem_of_mem_drop present) with old | new
  · exact .inl old
  · exact .inr (List.mem_singleton.mp new)

theorem mem_steps_push (within : buffer.records.length ≤ buffer.capacity) {held : Nat}
    (present : held ∈ (buffer.push step timestamp event).2.steps) :
    held ∈ buffer.steps ∨ held = step := by
  obtain ⟨record, recorded, rfl⟩ := List.mem_map.mp present
  rcases mem_records_push step timestamp event within recorded with old | rfl
  · exact .inl (List.mem_map_of_mem old)
  · exact .inr rfl

/-- An order among the steps is kept by a push that comes after all of them. -/
theorem pairwise_steps_push (within : buffer.records.length ≤ buffer.capacity)
    {order : Nat → Nat → Prop} (ordered : buffer.steps.Pairwise order)
    (newest : ∀ held ∈ buffer.steps, order held step) :
    (buffer.push step timestamp event).2.steps.Pairwise order := by
  rw [steps_push step timestamp event within]
  refine List.Pairwise.sublist (List.drop_sublist _ _) (List.pairwise_append.mpr ?_)
  refine ⟨ordered, List.pairwise_singleton _ _, fun held present last single => ?_⟩
  rw [List.mem_singleton.mp single]
  exact newest held present

end Buffer

/-! ## Calls -/

namespace Tracer

/-- What can be called on a tracer. -/
inductive Call where
  | beginStep
  | record (event : Event)
  | create (kind : Kind)
  | copy (kind : Kind)
  | moved (kind : Kind)
  | erase (kind : Kind)
  | algorithm (operation : String) (kind : Kind) (before after : Nat)
  | failure (operation : String) (reason : Failure)
  | enable
  | disable
  | clear
  deriving DecidableEq, Repr

namespace Call

/-- The tracer after the call. -/
def make (tracer : Tracer) : Call → Tracer
  | .beginStep => tracer.beginStep
  | .record event => tracer.record event
  | .create kind => tracer.create kind
  | .copy kind => tracer.copy kind
  | .moved kind => tracer.moved kind
  | .erase kind => tracer.erase kind
  | .algorithm operation kind before after => tracer.algorithm operation kind before after
  | .failure operation reason => tracer.failure operation reason
  | .enable => tracer.enable
  | .disable => tracer.disable
  | .clear => tracer.clear

/-- A call steers the tracer, or it reports an event. -/
theorem make_cases (call : Call) :
    call = .beginStep ∨ call = .enable ∨ call = .disable ∨ call = .clear
      ∨ call ≠ .beginStep ∧ ∃ event, ∀ tracer, call.make tracer = tracer.record event := by
  cases call with
  | beginStep => exact .inl rfl
  | enable => exact .inr (.inl rfl)
  | disable => exact .inr (.inr (.inl rfl))
  | clear => exact .inr (.inr (.inr (.inl rfl)))
  | failure operation reason =>
      -- a failure asks for its category before there is an event
      exact .inr (.inr (.inr (.inr ⟨nofun, .ofFailure operation reason, fun _ => rfl⟩)))
  | _ => exact .inr (.inr (.inr (.inr ⟨nofun, _, fun _ => rfl⟩)))

end Call

/-- A new tracer of the settings after the calls, each made at its time. -/
def after (clock : Nat → Nat) (config : TracerConfig) : List Call → Tracer
  | [] => .ofConfig config
  | call :: earlier => call.make ((after clock config earlier).atTime (clock earlier.length))

/-- The steps of the records held never fall, and none is ahead of the program. -/
structure Chronological (tracer : Tracer) : Prop where
  within : tracer.buffer.records.length ≤ tracer.buffer.capacity
  rising : tracer.buffer.steps.Pairwise (· ≤ ·)
  reached : ∀ step ∈ tracer.buffer.steps, step ≤ tracer.step

namespace Chronological

variable {tracer : Tracer}

theorem record (chronological : Chronological tracer) (event : Event) :
    Chronological (tracer.record event) := by
  obtain ⟨within, rising, reached⟩ := chronological
  unfold Tracer.record
  by_cases recorded : tracer.config.records event.category = true
  · rw [if_pos recorded]
    refine ⟨Buffer.within_push _ _ _ within, Buffer.pairwise_steps_push _ _ _ within rising reached,
      fun step present => ?_⟩
    rcases Buffer.mem_steps_push _ _ _ within present with old | new
    · exact reached step old
    · exact Nat.le_of_eq new
  · rw [if_neg recorded]
    exact ⟨within, rising, reached⟩

theorem make (chronological : Chronological tracer) (call : Call) :
    Chronological (call.make tracer) := by
  obtain ⟨within, rising, reached⟩ := chronological
  rcases call.make_cases with rfl | rfl | rfl | rfl | ⟨-, event, made⟩
  · exact ⟨within, rising, fun step present => Nat.le_succ_of_le (reached step present)⟩
  · exact ⟨within, rising, reached⟩
  · exact ⟨within, rising, reached⟩
  · exact ⟨Nat.zero_le _, .nil, fun step present => by cases present⟩
  · rw [made]
    exact record ⟨within, rising, reached⟩ event

end Chronological

section Runs

variable (clock : Nat → Nat) (config : TracerConfig) (history : List Call)

/-- **The steps of the records held never fall.** -/
theorem after_chronological : Chronological (after clock config history) := by
  induction history with
  | nil => exact ⟨Nat.zero_le _, .nil, fun step present => by cases present⟩
  | cons call earlier ih =>
      obtain ⟨within, rising, reached⟩ := ih
      have timed : Chronological ((after clock config earlier).atTime (clock earlier.length)) :=
        ⟨within, rising, reached⟩
      exact timed.make call

/-- The program has come to as many steps as it began. -/
theorem step_after : (after clock config history).step = history.count .beginStep := by
  induction history with
  | nil => rfl
  | cons call earlier ih =>
      rcases call.make_cases with rfl | rfl | rfl | rfl | ⟨apart, event, made⟩
      · rw [List.count_cons_self, ← ih]
        rfl
      · exact ih
      · exact ih
      · exact ih
      · rw [List.count_cons_of_ne apart, ← ih, after, made]
        unfold Tracer.record
        split <;> rfl

end Runs

end Tracer
end TaggedCells.Trace

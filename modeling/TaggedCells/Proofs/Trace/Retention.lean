import TaggedCells.Proofs.Trace.Summary
import Mathlib.Algebra.GroupWithZero.Nat
import Mathlib.Data.List.DropRight

/-!
# What a buffer retains

A buffer is a window on an unbounded history of pushes and clears: it holds the newest of the
records pushed since the latest clear, as many as its capacity allows
(`buffer_retains_the_newest`). Identifiers number all pushes, those included whose records were
evicted or cleared away. A stretch of pushes between two clears evicts what it has beyond the
capacity, and a clear evicts nothing.

Histories list their changes with the latest first, so that a history is the latest change and
the history before it.
-/

set_option autoImplicit false

namespace TaggedCells.Trace

/-! ## The last elements of a list -/

section Lists

variable {α : Type}

theorem length_rtake (elements : List α) (limit : Nat) :
    (elements.rtake limit).length = min limit elements.length := by
  rw [List.rtake, List.length_drop]
  omega

theorem rtake_of_length_le {elements : List α} {limit : Nat} (fits : elements.length ≤ limit) :
    elements.rtake limit = elements := by
  rw [List.rtake, Nat.sub_eq_zero_of_le fits, List.drop_zero]

theorem map_rtake {β : Type} (f : α → β) (elements : List α) (limit : Nat) :
    (elements.rtake limit).map f = (elements.map f).rtake limit := by
  rw [List.rtake, List.rtake, List.map_drop, List.length_map]

theorem rtake_rtake (elements : List α) {limit fewer : Nat} (less : fewer ≤ limit) :
    (elements.rtake limit).rtake fewer = elements.rtake fewer := by
  rw [List.rtake, length_rtake, List.rtake, List.drop_drop, List.rtake]
  congr 1
  omega

/-- What comes last is held on to, whether or not the list was cut before. -/
theorem rtake_rtake_concat (elements : List α) (limit : Nat) (last : α) :
    (elements.rtake limit ++ [last]).rtake limit = (elements ++ [last]).rtake limit := by
  cases limit with
  | zero => rw [List.rtake_zero, List.rtake_zero]
  | succ limit =>
      rw [List.rtake_concat_succ, List.rtake_concat_succ, rtake_rtake elements (Nat.le_succ limit)]

theorem rtake_range' (first length limit : Nat) :
    (List.range' first length).rtake limit
      = List.range' (first + length - min limit length) (min limit length) := by
  rw [List.rtake, List.length_range', List.drop_range']
  congr 1 <;> omega

end Lists

namespace Buffer

/-! ## One change -/

section Push

variable {buffer : Buffer} (step timestamp : Nat) (event : Event)

theorem id_push : (buffer.push step timestamp event).1 = buffer.nextId := by
  unfold push
  split <;> [rfl; (split <;> rfl)]

theorem nextId_push : (buffer.push step timestamp event).2.nextId = buffer.nextId + 1 := by
  unfold push
  split <;> [rfl; (split <;> rfl)]

theorem capacity_push : (buffer.push step timestamp event).2.capacity = buffer.capacity := by
  unfold push
  split <;> [rfl; (split <;> rfl)]

/-- A push adds a record at the end and keeps the newest. -/
theorem records_push (within : buffer.records.length ≤ buffer.capacity) :
    (buffer.push step timestamp event).2.records
      = (buffer.records ++ [(⟨buffer.nextId, step, timestamp, event⟩ : Record)]).rtake
          buffer.capacity := by
  unfold push
  by_cases none : buffer.capacity = 0
  · rw [if_pos none]
    show buffer.records = _
    rw [none, List.rtake_zero]
    exact List.eq_nil_of_length_eq_zero (by omega)
  · rw [if_neg none]
    by_cases full : buffer.records.length = buffer.capacity
    · rw [if_pos full, List.rtake, List.length_append, List.length_singleton, full,
        Nat.add_sub_cancel_left, List.drop_append_of_le_length (by omega), List.drop_one]
    · rw [if_neg full, rtake_of_length_le]
      rw [List.length_append, List.length_singleton]
      omega

/-- A push evicts a record when there is no room for one more. -/
theorem evicted_push (within : buffer.records.length ≤ buffer.capacity) :
    (buffer.push step timestamp event).2.evicted
      = buffer.evicted + (buffer.records.length + 1 - buffer.capacity) := by
  unfold push
  by_cases none : buffer.capacity = 0
  · rw [if_pos none]
    show buffer.evicted + 1 = _
    omega
  · rw [if_neg none]
    by_cases full : buffer.records.length = buffer.capacity
    · rw [if_pos full]
      show buffer.evicted + 1 = _
      omega
    · rw [if_neg full]
      show buffer.evicted = _
      omega

end Push

/-! ## Histories -/

/-- What can be done to a buffer. -/
inductive Change where
  | push (step timestamp : Nat) (event : Event)
  | clear
  deriving DecidableEq, Repr

namespace Change

/-- The buffer after the change. -/
def make (buffer : Buffer) : Change → Buffer
  | .push step timestamp event => (buffer.push step timestamp event).2
  | .clear => buffer.clear

/-- Whether the change is a push. -/
def isPush : Change → Bool
  | .push .. => true
  | .clear => false

/-- Whether the change is a clear. -/
def isClear : Change → Bool
  | .push .. => false
  | .clear => true

end Change

/-- A new buffer of the capacity after the changes. -/
def after (capacity : Nat) : List Change → Buffer
  | [] => { capacity := capacity }
  | change :: earlier => change.make (after capacity earlier)

/-- The number of pushes. -/
def pushes (history : List Change) : Nat := history.countP Change.isPush

/-- The records pushed since the latest clear, the oldest first. Each bears the number of pushes
before it. -/
def sinceClear : List Change → List Record
  | [] => []
  | .push step timestamp event :: earlier =>
      sinceClear earlier ++ [⟨pushes earlier, step, timestamp, event⟩]
  | .clear :: _ => []

/-- The stretches of pushes that the clears part the history into. -/
def stretches (history : List Change) : List (List Change) := history.splitOnP Change.isClear

/-- The records that the stretches have beyond the capacity. -/
def excess (capacity : Nat) (history : List Change) : Nat :=
  ((stretches history).map fun stretch => stretch.length - capacity).sum

section Histories

variable (step timestamp : Nat) (event : Event) (earlier : List Change)

theorem pushes_push : pushes (.push step timestamp event :: earlier) = pushes earlier + 1 :=
  List.countP_cons_of_pos rfl

theorem pushes_clear : pushes (.clear :: earlier) = pushes earlier :=
  List.countP_cons_of_neg Bool.false_ne_true

/-- The latest stretch is the one since the latest clear. -/
theorem exists_stretches_eq_cons (history : List Change) :
    ∃ latest others, stretches history = latest :: others
      ∧ latest.length = (sinceClear history).length := by
  induction history with
  | nil => exact ⟨[], [], rfl, rfl⟩
  | cons change earlier ih =>
      obtain ⟨latest, others, parted, counted⟩ := ih
      cases change with
      | push step timestamp event =>
          refine ⟨.push step timestamp event :: latest, others, ?_, ?_⟩
          · rw [stretches, List.splitOnP_cons_eq_if_modifyHead, ← stretches, parted]
            rfl
          · rw [sinceClear, List.length_append, List.length_cons, counted, List.length_singleton]
      | clear =>
          refine ⟨[], stretches earlier, ?_, rfl⟩
          rw [stretches, List.splitOnP_cons_eq_if_modifyHead]
          rfl

theorem excess_push (capacity : Nat) :
    excess capacity (.push step timestamp event :: earlier)
      = excess capacity earlier + (min capacity (sinceClear earlier).length + 1 - capacity) := by
  obtain ⟨latest, others, parted, counted⟩ := exists_stretches_eq_cons earlier
  have longer : stretches (.push step timestamp event :: earlier)
      = (.push step timestamp event :: latest) :: others := by
    rw [stretches, List.splitOnP_cons_eq_if_modifyHead, ← stretches, parted]
    rfl
  unfold excess
  simp only [longer, parted, List.map_cons, List.sum_cons, List.length_cons, counted]
  omega

theorem excess_clear (capacity : Nat) :
    excess capacity (.clear :: earlier) = excess capacity earlier := by
  have parted : stretches (.clear :: earlier) = [] :: stretches earlier := by
    rw [stretches, List.splitOnP_cons_eq_if_modifyHead]
    rfl
  unfold excess
  rw [parted, List.map_cons, List.sum_cons, List.length_nil, Nat.zero_sub, Nat.zero_add]

/-- The records since the latest clear bear the latest numbers. -/
theorem sinceClear_ids (history : List Change) :
    (sinceClear history).length ≤ pushes history
      ∧ (sinceClear history).map Record.id
        = List.range' (pushes history - (sinceClear history).length)
            (sinceClear history).length := by
  induction history with
  | nil => exact ⟨Nat.le_refl 0, rfl⟩
  | cons change earlier ih =>
      obtain ⟨within, numbered⟩ := ih
      cases change with
      | push step timestamp event =>
          simp only [sinceClear, pushes_push, List.length_append, List.length_singleton,
            List.map_append, List.map_singleton, numbered]
          refine ⟨Nat.add_le_add_right within 1, ?_⟩
          rw [List.range'_1_concat, Nat.add_sub_add_right, Nat.sub_add_cancel within]
      | clear => exact ⟨Nat.zero_le _, rfl⟩

end Histories

/-! ## The window -/

/-- The parts of a buffer, from its history. -/
structure Follows (capacity : Nat) (history : List Change) (buffer : Buffer) : Prop where
  capacity_eq : buffer.capacity = capacity
  nextId_eq : buffer.nextId = pushes history
  records_eq : buffer.records = (sinceClear history).rtake capacity
  evicted_eq : buffer.evicted = excess capacity history

namespace Follows

variable {capacity : Nat} {history : List Change} {buffer : Buffer}

theorem length_eq (follows : Follows capacity history buffer) :
    buffer.records.length = min capacity (sinceClear history).length := by
  rw [follows.records_eq, length_rtake]

theorem within (follows : Follows capacity history buffer) :
    buffer.records.length ≤ buffer.capacity := by
  rw [follows.length_eq, follows.capacity_eq]
  exact Nat.min_le_left _ _

/-- One change is followed. -/
theorem make (follows : Follows capacity history buffer) (change : Change) :
    Follows capacity (change :: history) (change.make buffer) := by
  cases change with
  | push step timestamp event =>
      refine ⟨?_, ?_, ?_, ?_⟩
      · exact (capacity_push step timestamp event).trans follows.capacity_eq
      · rw [pushes_push, ← follows.nextId_eq]
        exact nextId_push step timestamp event
      · rw [Change.make, records_push step timestamp event follows.within, follows.records_eq,
          follows.capacity_eq, follows.nextId_eq]
        exact rtake_rtake_concat _ _ _
      · rw [excess_push, ← follows.evicted_eq, ← follows.length_eq, ← follows.capacity_eq]
        exact evicted_push step timestamp event follows.within
  | clear =>
      refine ⟨follows.capacity_eq, ?_, (List.rtake_nil _).symm, ?_⟩
      · rw [pushes_clear]
        exact follows.nextId_eq
      · rw [excess_clear]
        exact follows.evicted_eq

end Follows

/-- A buffer follows its history. -/
theorem after_follows (capacity : Nat) (history : List Change) :
    Follows capacity history (after capacity history) := by
  induction history with
  | nil => exact ⟨rfl, rfl, (List.rtake_nil _).symm, (Nat.zero_sub capacity).symm⟩
  | cons change earlier ih => exact ih.make change

/-! ## Main statement -/

/-- What a buffer of a capacity holds and tells after a history. -/
structure Retains (capacity : Nat) (history : List Change) (buffer : Buffer) : Prop where
  /-- A push is given the number of pushes before it. -/
  numbered : ∀ (step timestamp : Nat) (event : Event),
    (buffer.push step timestamp event).1 = pushes history
  held : buffer.records
    = (sinceClear history).rtake (min capacity (sinceClear history).length)
  consecutive : buffer.records.map Record.id
    = List.range' (pushes history - buffer.records.length) buffer.records.length
  evicted : buffer.evicted = excess capacity history
  /-- Neither counter gets beyond the number of pushes. -/
  counters : buffer.nextId = pushes history ∧ buffer.evicted ≤ pushes history
  /-- The summary gives the capacity and the counter of the buffer, and the steps of its end
  records. -/
  summary : buffer.stats.capacity = capacity ∧ buffer.stats.evicted = buffer.evicted
    ∧ buffer.stats.steps = (do
      let oldest ← buffer.records.head?
      let newest ← buffer.records.getLast?
      return (oldest.step, newest.step))
  counts : ∀ category, buffer.stats.count category = (buffer.inCategory category).length
  total : buffer.stats.lifecycle + buffer.stats.algorithms + buffer.stats.failures
    = buffer.stats.length
  length : buffer.stats.length = buffer.records.length
  bounded : buffer.stats.length ≤ capacity

theorem excess_le_pushes (capacity : Nat) (history : List Change) :
    excess capacity history + min capacity (sinceClear history).length ≤ pushes history := by
  induction history with
  | nil =>
      show 0 - capacity + min capacity 0 ≤ 0
      omega
  | cons change earlier ih =>
      cases change with
      | push step timestamp event =>
          rw [excess_push, pushes_push, sinceClear, List.length_append, List.length_singleton]
          omega
      | clear =>
          rw [excess_clear, pushes_clear, sinceClear, List.length_nil]
          omega

/-- **A buffer retains the newest records since the latest clear**, whatever was pushed, evicted
or cleared away before. -/
theorem buffer_retains_the_newest (capacity : Nat) (history : List Change) :
    Retains capacity history (after capacity history) := by
  have follows := after_follows capacity history
  obtain ⟨since, numbered⟩ := sinceClear_ids history
  have counted := follows.length_eq
  refine ⟨?_, ?_, ?_, follows.evicted_eq, ⟨follows.nextId_eq, ?_⟩, ⟨?_, evicted_stats _, rfl⟩,
    count_stats _, total_stats _, length_stats _, ?_⟩
  · intro step timestamp event
    rw [id_push, follows.nextId_eq]
  · rw [follows.records_eq]
    by_cases fits : (sinceClear history).length ≤ capacity
    · rw [Nat.min_eq_right fits, rtake_of_length_le fits, rtake_of_length_le (Nat.le_refl _)]
    · rw [Nat.min_eq_left (by omega)]
  · rw [counted, follows.records_eq, map_rtake, numbered, rtake_range', Nat.sub_add_cancel since]
  · rw [follows.evicted_eq]
    exact Nat.le_trans (Nat.le_add_right _ _) (excess_le_pushes capacity history)
  · rw [capacity_stats, follows.capacity_eq]
  · rw [length_stats, counted]
    exact Nat.min_le_left _ _

/-- A buffer of two records after four pushes, with a clear before the last three. -/
example :
    let change (step : Nat) : Change := .push step 0 (.create .null)
    let buffer := after 2 [change 6, change 5, change 4, .clear, change 3]
    buffer.records.map (fun record => (record.id, record.step)) = [(2, 5), (3, 6)]
      ∧ buffer.evicted = 1 := by
  decide

end Buffer
end TaggedCells.Trace

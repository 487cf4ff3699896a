import TaggedCells.Proofs.CellArray.Building
import TaggedCells.Proofs.CellArray.Lengths
import TaggedCells.Proofs.Session.Run
import TaggedCells.Proofs.Trace.Muting

/-!
# What tells of a call

Every call on a session is a step of the tracer, and there is one event that tells of it
(`Operation.Tells`): the failure that the call returned, the kind of the cell that came to be or
was given up, or the lengths of the array before and after. The event goes into the buffer if the
session hears of it, and the call leaves no other mark (`Session.Notes`).
-/

set_option autoImplicit false

namespace TaggedCells

open Trace (Buffer Category Event Tracer)
open Randomness (Generator)

/-! ## Kinds of cells that are made -/

namespace Cell

variable {cell made : Cell} {kind : Kind}

theorem kind_copy (success : cell.copy = .ok made) : made.kind = cell.kind :=
  congrArg Cell.kind (eq_of_copy success)

theorem kind_create {source : Cell} (success : create kind source = .ok made) :
    made.kind = kind := by
  unfold create at success
  split at success
  case isTrue accepted =>
      rw [Bool.and_eq_true, beq_iff_eq] at accepted
      exact (kind_copy success).trans accepted.2
  case isFalse => cases success

theorem kind_createArray {count : Nat} {sources : List Cell}
    (success : createArray kind count sources = .ok made) : made.kind = .array := by
  obtain ⟨-, -, rfl⟩ := createArray_eq_ok success
  rfl

theorem eq_of_move (success : (move.applyPure cell).1 = .ok made) : made = cell := by
  cases cell with
  | invalid => cases success
  | _ => exact (Except.ok.inj success).symm

end Cell

/-! ## Events -/

namespace Operation

variable {m : Type → Type}

/-- What an operation is in the life of a cell. -/
inductive Role where
  | creation
  | copying
  | moving
  | erasure
  /-- It runs over an array, or looks at a cell. -/
  | algorithm
  deriving DecidableEq

/-- What the operation is in the life of a cell. -/
def role : Operation m → Role
  | .create .. | .createZero _ | .createArray .. => .creation
  | .copy => .copying
  | .move => .moving
  | .erase => .erasure
  | _ => .algorithm

/-- The length after an operation that succeeded, against the length before it. -/
def Leaves : Operation m → Nat → Nat → Prop
  | .filter _, before, after => after ≤ before
  | .reduce _, _, after => after = 1
  | .accumulate, _, after => after = 1
  | _, before, after => after = before

/-- The event that tells of an operation on a cell, from its outcome and the cell afterwards. -/
inductive Tells (operation : Operation m) (before : Cell) :
    Except Failure Reply → Cell → Event → Prop where
  /-- A failure is told with the code and the text of the very failure returned. -/
  | failed (failure : Failure) (after : Cell) :
      Tells operation before (.error failure) after
        (.failure operation.name failure.code failure.message)
  | created (creates : operation.role = .creation) (made after : Cell) :
      Tells operation before (.ok (.cell made)) after (.create made.kind)
  | copied (copies : operation.role = .copying) (copied after : Cell) :
      Tells operation before (.ok (.cell copied)) after (.copy copied.kind)
  | moved (moves : operation.role = .moving) (contents after : Cell) :
      Tells operation before (.ok (.cell contents)) after (.move contents.kind)
  | erased (erases : operation.role = .erasure) (after : Cell) :
      Tells operation before (.ok .done) after (.erase before.kind)
  /-- An algorithm that has run over an array is told with the kind that the array declares, before
  and after, and with the lengths. -/
  | ran (runs : operation.role = .algorithm) (reply : Reply) {kind : Kind} {elements : List Cell}
      (held : before = .array kind elements) (left : List Cell)
      (leaves : operation.Leaves elements.length left.length) :
      Tells operation before (.ok reply) (.array kind left)
        (.algorithm operation.name kind elements.length left.length)
  /-- An algorithm that has looked at any other cell is told with the kind of the cell. -/
  | seen (runs : operation.role = .algorithm) (reply : Reply) (single : before.kind ≠ .array)
      (leaves : operation.Leaves 0 0) :
      Tells operation before (.ok reply) before (.algorithm operation.name before.kind 0 0)

/-- What a call came to is told by the event that is recorded of it. -/
def Told (operation : Operation m) (cell : Cell) (performed : Except Failure Reply × Cell) : Prop :=
  operation.Tells cell performed.1 performed.2
    (operation.outcomeEvent cell performed.2 performed.1)

section Telling

variable {n : Type → Type} {α : Type} {operation : Operation m} {cell after : Cell}

theorem event_of_algorithm (runs : operation.role = .algorithm) :
    operation.event cell after
      = .algorithm operation.name (shape cell).1 (shape cell).2 (shape after).2 := by
  cases operation with
  | create kind source => cases runs
  | createZero kind => cases runs
  | createArray kind count sources => cases runs
  | copy => cases runs
  | move => cases runs
  | erase => cases runs
  | _ => rfl

theorem told_looked {reply : α → Reply} {outcome : Except Failure α}
    (told : ∀ value, outcome = .ok value →
      operation.Tells cell (.ok (reply value)) cell (operation.event cell cell)) :
    operation.Told cell (looked cell reply outcome) := by
  cases outcome with
  | error failure => exact .failed failure cell
  | ok value => exact told value rfl

theorem told_worked {reply : α → Cell → Reply} {result : Except Failure α × Cell}
    (told : ∀ value, result.1 = .ok value →
      operation.Tells cell (.ok (reply value result.2)) result.2 (operation.event cell result.2)) :
    operation.Told cell (worked reply result) := by
  obtain ⟨outcome, after⟩ := result
  cases outcome with
  | error failure => exact .failed failure after
  | ok value => exact told value rfl

variable (operation) in
/-- An algorithm that only looks at the cell leaves the length. -/
theorem told_observed (runs : operation.role = .algorithm)
    (leaves : ∀ length, operation.Leaves length length) {reply : α → Reply}
    {outcome : Except Failure α} : operation.Told cell (looked cell reply outcome) := by
  refine told_looked fun value _ => ?_
  rw [event_of_algorithm runs]
  cases cell with
  | array kind elements => exact .ran runs (reply value) rfl elements (leaves elements.length)
  | _ => exact .seen runs (reply value) nofun (leaves 0)

/-- An algorithm that changes the array in the cell leaves the length that its change does. -/
theorem told_changed (runs : operation.role = .algorithm) {change : Alteration n}
    (leaves : ∀ before after, change.Leaves before after → operation.Leaves before after)
    {reply : Unit → Cell → Reply} {result : Except Failure Unit × Cell}
    (measured : change.Measured cell result) : operation.Told cell (worked reply result) := by
  refine told_worked fun _ success => ?_
  obtain ⟨kind, elements, kept, rfl, left, lengths⟩ := measured success
  rw [event_of_algorithm runs, left]
  exact .ran runs _ rfl kept (leaves _ _ lengths)

end Telling

variable [Monad m] [LawfulMonad m]

/-- **Every call is told by its event.** -/
theorem always_told (algorithm : SortAlgorithm) (operation : Operation m) (cell : Cell)
    (generator : Generator) :
    Always (fun performed => operation.Told cell performed.1)
      ((operation.direct algorithm cell).run generator) := by
  have alone : ∀ {performed}, operation.Told cell performed →
      Always (fun result => operation.Told cell result.1) (pure (performed, generator) : m _) :=
    fun told => .pure told
  cases operation with
  | create kind source =>
      refine alone (told_looked ?_)
      intro made success
      show Tells _ _ _ _ (.create kind)
      rw [← Cell.kind_create success]
      exact .created rfl made cell
  | createZero kind => exact alone (.created rfl (Cell.zero kind) cell)
  | createArray kind count sources =>
      refine alone (told_looked ?_)
      intro made success
      show Tells _ _ _ _ (.create .array)
      rw [← Cell.kind_createArray success]
      exact .created rfl made cell
  | copy =>
      refine alone (told_looked ?_)
      intro copied success
      show Tells _ _ _ _ (.copy cell.kind)
      rw [← Cell.kind_copy success]
      exact .copied rfl copied cell
  | move =>
      refine alone (told_worked ?_)
      intro contents success
      obtain rfl := Cell.eq_of_move success
      exact .moved rfl contents _
  | erase => exact alone (told_worked fun _ _ => .erased rfl _)
  | sort =>
      have measured := (Alteration.always_measured (.sort algorithm) cell).from_id
      exact alone (told_changed rfl (fun _ _ => id) measured)
  | sortWith chosen =>
      have measured := (Alteration.always_measured (.sort chosen) cell).from_id
      exact alone (told_changed rfl (fun _ _ => id) measured)
  | searchLinear key => exact alone (told_observed (.searchLinear key) rfl fun _ => rfl)
  | searchBinary key => exact alone (told_observed (.searchBinary key) rfl fun _ => rfl)
  | transform f =>
      exact (Alteration.always_measured (.transform f) cell).beside
        (fun _ => told_changed rfl (fun _ _ => id)) generator
  | filter keep =>
      exact (Alteration.always_measured (.filter keep) cell).beside
        (fun _ => told_changed rfl (fun _ _ => id)) generator
  | reduce combine =>
      exact (Alteration.always_measured (.reduce combine) cell).beside
        (fun _ => told_changed rfl (fun _ _ => id)) generator
  | accumulate =>
      have measured := (Alteration.always_measured .accumulate cell).from_id
      exact alone (told_changed rfl (fun _ _ => id) measured)
  | split wanted =>
      refine Always.beside (Always.trivial _) ?_ generator
      intro outcome _
      exact told_observed (.split wanted) rfl fun _ => rfl
  | visit visitor =>
      refine Always.beside (Always.trivial _) ?_ generator
      intro outcome _
      exact told_observed (.visit visitor) rfl fun _ => rfl
  | reverse =>
      have measured := (Alteration.always_measured .reverse cell).from_id
      exact alone (told_changed rfl (fun _ _ => id) measured)
  | shuffle =>
      have shuffled := Alteration.always_measured (m := StateM Generator)
        (.shuffle (chooseFrom Generator)) cell
      unfold direct
      rw [StateT.run_map, StateT.run_modifyGet, map_pure]
      exact .pure (told_changed rfl (fun _ _ => id) (shuffled.from_state generator))
  | compare other => exact alone (told_observed (.compare other) rfl fun _ => rfl)

end Operation

/-! ## Calls -/

section Calls

variable {m : Type → Type}

/-- The event tells of the call. -/
def Entry.Tells (entry : Entry m) (event : Event) : Prop :=
  entry.operation.Tells entry.before entry.outcome entry.after event

/-- The category of the event that tells of the call. -/
def Entry.category (entry : Entry m) : Category :=
  match entry.outcome with
  | .error _ => .failure
  | .ok _ => if entry.operation.role = .algorithm then .algorithm else .lifecycle

theorem Entry.Tells.category_eq {entry : Entry m} {event : Event} (tells : entry.Tells event) :
    event.category = entry.category := by
  obtain ⟨operation, before, outcome, after⟩ := entry
  cases tells with
  | failed => rfl
  | created role | copied role | moved role | erased role =>
      rw [Entry.category, role]
      rfl
  | ran role | seen role => exact (if_pos role).symm

/-- A session hears of what a call came to if its tracer is on and does not have the category
muted. -/
def Session.Hears (session : Session) (category : Category) : Prop :=
  session.tracer.config.enabled = true ∧ category ∉ session.tracer.config.muted

/-- What a call does to a session: it is one step, and the event that tells of it is recorded if
the session hears of it. The record is then the newest one held, unless there is no room for any. -/
structure Session.Notes (session : Session) (entry : Entry m) (later : Session) : Prop where
  step : later.tracer.step = session.tracer.step + 1
  config : later.tracer.config = session.tracer.config
  recorded : ∃ event, entry.Tells event
    ∧ (session.Hears event.category →
      later.tracer.buffer
          = (session.tracer.buffer.push later.tracer.step session.tracer.clock event).2
        ∧ (session.tracer.buffer.capacity ≠ 0 → later.tracer.buffer.last?
          = some ⟨session.tracer.buffer.nextId, later.tracer.step, session.tracer.clock, event⟩))
    ∧ (¬ session.Hears event.category → later.tracer.buffer = session.tracer.buffer)

/-- The session has gone on to the next step and taken note of an event that tells of the call. -/
def Session.Follows (session : Session) (entry : Entry m) (later : Session) : Prop :=
  ∃ event, entry.Tells event ∧ later.tracer = session.tracer.beginStep.record event

theorem Session.Follows.notes {session later : Session} {entry : Entry m}
    (follows : session.Follows entry later) : session.Notes entry later := by
  obtain ⟨event, tells, reached⟩ := follows
  refine ⟨?_, ?_, event, tells, fun hears => ?_, fun deaf => ?_⟩
  · rw [reached, Tracer.step_record]
    rfl
  · rw [reached, Tracer.config_record]
    rfl
  · have stored : later.tracer = session.tracer.beginStep.store event := by
      rw [reached, Tracer.record]
      exact if_pos (Tracer.records_eq_true_iff.mpr hears)
    rw [stored]
    exact ⟨rfl, Buffer.last?_push _ _ _⟩
  · have kept : later.tracer = session.tracer.beginStep := by
      rw [reached, Tracer.record]
      exact if_neg (mt Tracer.records_eq_true_iff.mp deaf)
    rw [kept]
    rfl

variable [Monad m] [LawfulMonad m]

/-- **Every call is followed by the session with the event that tells of it.** -/
theorem Session.always_follows (operation : Operation m) (cell : Cell) (session : Session) :
    Always (fun performed => session.Follows
        ⟨operation, cell, performed.1.1, performed.1.2⟩ performed.2)
      ((Session.perform operation cell).run session) := by
  rw [run_perform]
  refine (operation.always_told _ cell _).map ?_
  rintro ⟨performed, generator⟩ told
  exact ⟨_, told, rfl⟩

end Calls

end TaggedCells

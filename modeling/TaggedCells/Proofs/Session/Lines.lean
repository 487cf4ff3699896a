import TaggedCells.Proofs.Session.Run
import TaggedCells.Proofs.Session.Wording
import TaggedCells.Proofs.Trace.Chronology

/-!
# A line for each record

A tracer that writes lines puts the records below each other, and its reader takes a line for a
record. That is right as long as no record has a line end in it. The names of kinds and codes have
none, and neither have numbers and times; operations have names of one word; and the message of a
failure is taken over from a failure that an operation of the session came to, which is on one line.

So every event of a session is on one line (`Operation.oneLine_outcomeEvent`), whatever the session
has come through, and its lines are its records (`sessions_trace_in_lines`).
-/

set_option autoImplicit false

namespace TaggedCells

open Text (OneLine)
open Trace (Buffer Event Record Tracer LineOptions)

/-! ## Events -/

namespace Operation

variable {m : Type → Type} (operation : Operation m) (before after : Cell)

theorem oneLine_name : OneLine operation.name := by
  cases operation <;> rw [name] <;> decide

theorem oneLine_algorithm (kind : Kind) (lengthBefore lengthAfter : Nat) :
    OneLine (Event.algorithm operation.name kind lengthBefore lengthAfter).line := by
  have indent : OneLine "  " := by decide
  have opening : OneLine " array<" := by decide
  have between : OneLine "> [" := by decide
  have closing : OneLine "]" := by decide
  have lengths : OneLine (if lengthBefore = lengthAfter then toString lengthBefore
      else toString lengthBefore ++ " -> " ++ toString lengthAfter) := by
    have arrow : OneLine " -> " := by decide
    split
    · exact Text.oneLine_repr lengthBefore
    · exact ((Text.oneLine_repr lengthBefore).append arrow).append (Text.oneLine_repr lengthAfter)
  exact (((((indent.append operation.oneLine_name).append opening).append
    kind.oneLine_name).append between).append lengths).append closing

theorem oneLine_event : OneLine (operation.event before after).line := by
  cases operation with
  | create | createZero | createArray =>
      have words : OneLine "CREATE " := by decide
      exact words.append (Kind.oneLine_name _)
  | copy =>
      have words : OneLine "COPY " := by decide
      exact words.append (Kind.oneLine_name _)
  | move =>
      have words : OneLine "MOVE " := by decide
      exact words.append (Kind.oneLine_name _)
  | erase =>
      have words : OneLine "ERASE " := by decide
      exact words.append (Kind.oneLine_name _)
  | _ => exact oneLine_algorithm _ _ _ _

/-- **What a session records of an operation is on one line**, the message of a failure included. -/
theorem oneLine_outcomeEvent {outcome : Except Failure Reply} (worded : Worded outcome) :
    OneLine (operation.outcomeEvent before after outcome).line := by
  cases outcome with
  | ok reply => exact operation.oneLine_event before after
  | error failure =>
      have words : OneLine "  FAILED " := by decide
      have opening : OneLine " (" := by decide
      have closing : OneLine "): " := by decide
      have message : OneLine failure.message := worded
      exact ((((words.append operation.oneLine_name).append opening).append
        failure.code.oneLine_name).append closing).append message

end Operation

/-! ## Records -/

namespace Trace

theorem oneLine_timestampText (nanos : Nat) : OneLine (timestampText nanos) := by
  have seconds : OneLine "s" := by decide
  have millis : OneLine "ms" := by decide
  have micros : OneLine "us" := by decide
  unfold timestampText
  dsimp only
  split
  · exact (Text.oneLine_placed _ _).append seconds
  · split
    · exact (Text.oneLine_placed _ _).append millis
    · exact (Text.oneLine_repr _).append micros

/-- A record is on one line if its event is. -/
theorem Record.oneLine_line {record : Record} (event : OneLine record.event.line)
    (options : LineOptions) : OneLine (record.line options) := by
  have nothing : OneLine "" := by decide
  have blank : OneLine " " := by decide
  have step : OneLine "S" := by decide
  have ids : OneLine (if options.ids then "[" ++ Text.zeroFilled 6 record.id ++ "] " else "") := by
    have opening : OneLine "[" := by decide
    have closing : OneLine "] " := by decide
    split
    · exact (opening.append (Text.oneLine_zeroFilled 6 record.id)).append closing
    · exact nothing
  have times : OneLine (if options.timestamps then
      Text.fillLeft ' ' 10 (timestampText record.timestamp) ++ " " else "") := by
    split
    · exact (Text.oneLine_fillLeft 10 (by decide) (oneLine_timestampText _)).append blank
    · exact nothing
  exact ((((ids.append step).append (Text.oneLine_zeroFilled 4 record.step)).append
    blank).append times).append event

/-- The tracer writes lines, and every record that it holds is on one. -/
structure Tracer.InLines (options : LineOptions) (tracer : Tracer) : Prop where
  format : tracer.config.format = .lines options
  within : tracer.buffer.records.length ≤ tracer.buffer.capacity
  events : ∀ record ∈ tracer.buffer.records, OneLine record.event.line

namespace Tracer.InLines

variable {options : LineOptions} {tracer : Tracer}

theorem ofConfig {config : TracerConfig} (format : config.format = .lines options) :
    (Tracer.ofConfig config).InLines options :=
  ⟨format, Nat.zero_le _, fun record present => by cases present⟩

/-- Recording an event on one line keeps the tracer in lines. -/
theorem record (inLines : tracer.InLines options) {event : Event} (line : OneLine event.line) :
    (tracer.beginStep.record event).InLines options := by
  obtain ⟨format, within, events⟩ := inLines
  unfold Tracer.record
  split
  · refine ⟨format, Buffer.within_push _ _ _ within, fun record present => ?_⟩
    rcases Buffer.mem_records_push _ _ _ within present with old | rfl
    · exact events record old
    · exact line
  · exact ⟨format, within, events⟩

theorem steer (inLines : tracer.InLines options) (steering : Steering) :
    (steering.steer tracer).InLines options := by
  obtain ⟨format, within, events⟩ := inLines
  cases steering with
  | clear => exact ⟨format, Nat.zero_le _, fun record present => by cases present⟩
  | _ => exact ⟨format, within, events⟩

theorem oneLine_render (inLines : tracer.InLines options) :
    ∀ text ∈ tracer.buffer.records.map tracer.render, OneLine text := by
  refine List.forall_mem_map.mpr fun record present => ?_
  rw [render, inLines.format]
  exact Record.oneLine_line (inLines.events record present) options

theorem renderAll_eq (inLines : tracer.InLines options) :
    tracer.renderAll = "\n".intercalate (tracer.buffer.records.map tracer.render) := by
  unfold renderAll render
  rw [inLines.format]
  rfl

end Tracer.InLines
end Trace

/-! ## Runs -/

section Runs

variable {m : Type → Type} [Monad m] [LawfulMonad m]

/-- What every command keeps of the state of a facade holds in the end. -/
theorem Facade.always_kept {σ : Type} (facade : Facade m σ) {holds : σ → Prop}
    (performs : ∀ operation cell state, holds state →
      Always (fun performed => holds performed.2) ((facade.perform operation cell).run state))
    (reseeds : ∀ seed state, holds state → holds (facade.reseed seed state))
    (steers : ∀ steering state, holds state → holds (facade.steer steering state))
    (commands : List (Command m)) (cells : Cells) (state : σ) (known : holds state) :
    Always (fun followed => holds followed.2) ((facade.follow commands cells).run state) := by
  induction commands generalizing cells state with
  | nil => exact .pure known
  | cons command rest ih =>
      cases command with
      | call place operation keep =>
          rw [run_follow_call]
          refine (performs (operation cells) (cells place) state known).bind ?_
          rintro ⟨⟨outcome, after⟩, later⟩ still
          exact (ih _ later still).bind fun followed kept => .pure kept
      | reseed seed =>
          rw [run_follow_reseed]
          exact ih cells _ (reseeds seed state known)
      | steer steering =>
          rw [run_follow_steer]
          exact ih cells _ (steers steering state known)

namespace Session

/-- Every call on a session comes to something that is recorded on one line. -/
theorem always_oneLine (operation : Operation m) (cell : Cell) (session : Session) :
    Always (fun performed =>
        OneLine (operation.outcomeEvent cell performed.1.2 performed.1.1).line)
      ((perform operation cell).run session) := by
  rw [run_perform]
  refine (operation.always_worded _ cell _).map ?_
  rintro ⟨⟨outcome, after⟩, generator⟩ worded
  exact operation.oneLine_outcomeEvent cell after worded

/-- A call keeps the tracer in lines. -/
theorem always_inLines {options : LineOptions} (operation : Operation m) (cell : Cell)
    (session : Session) (inLines : session.tracer.InLines options) :
    Always (fun performed => performed.2.tracer.InLines options)
      ((perform operation cell).run session) := by
  rw [run_perform]
  refine (operation.always_worded _ cell _).map ?_
  rintro ⟨⟨outcome, after⟩, generator⟩ worded
  exact inLines.record (operation.oneLine_outcomeEvent cell after worded)

end Session
end Runs

/-! ## Main statement -/

/-- **The lines of a trace are its records**: however a session that writes lines has been used,
every call is recorded on one line, and the text of the trace has the renderings of the records
held for its lines, the oldest first. It is empty if no record is held. -/
theorem sessions_trace_in_lines {σ : Type} (world : σ) (config : SessionConfig)
    (options : LineOptions) (human : config.tracer.format = .lines options)
    (commands : List (Command (StateM σ))) (cells : Cells) :
    let ((entries, _), session) :=
      (((Facade.session.follow commands cells).run (.ofConfig config)).run world).1
    let renderings := session.tracer.buffer.records.map session.tracer.render
    (∀ entry ∈ entries,
        OneLine (entry.operation.outcomeEvent entry.before entry.after entry.outcome).line)
      ∧ (∀ text ∈ renderings, OneLine text)
      ∧ (renderings = [] → session.tracer.renderAll = "")
      ∧ Text.lines session.tracer.renderAll
        = if renderings = [] then [""] else renderings := by
  have entries := (Facade.session.always_follow
    (fun (operation : Operation (StateM σ)) cell performed =>
      OneLine (operation.outcomeEvent cell performed.2 performed.1).line)
    Session.always_oneLine commands cells (.ofConfig config)).from_state world
  have inLines := (Facade.session.always_kept Session.always_inLines
    (fun _ _ => id) (fun steering _ known => known.steer steering) commands cells
    (.ofConfig config) (.ofConfig human)).from_state world
  have renderings := inLines.oneLine_render
  refine ⟨entries, renderings, fun none => ?_, ?_⟩
  · rw [inLines.renderAll_eq, none]
    rfl
  · rw [inLines.renderAll_eq]
    exact Text.lines_intercalate renderings

/-- A copy and a failure make two lines. -/
theorem sessions_trace_in_lines_failing :
    let commands : List (Command (StateM Unit)) :=
      [.call 0 (fun _ => .copy) fun _ => id, .call 1 (fun _ => .sort) fun _ => id]
    let cells : Cells := fun place => if place = 0 then .string "a\nb" else .array .bool [.null]
    let session :=
      (((Facade.session.follow commands cells).run (.ofConfig .traced)).run ()).1.2
    SessionConfig.traced.tracer.format = .lines { timestamps := true }
      ∧ session.tracer.buffer.records.map (fun record => record.event.line)
        = ["COPY string", "  FAILED sort (invalid-operation): sort is not defined for bool"]
      ∧ Text.lines session.tracer.renderAll
        = session.tracer.buffer.records.map session.tracer.render := by
  intro commands cells session
  have held : session.tracer.buffer.records.map (fun record => record.event.line)
      = ["COPY string", "  FAILED sort (invalid-operation): sort is not defined for bool"] := by
    rfl
  have some : session.tracer.buffer.records.map session.tracer.render ≠ [] := by
    intro none
    rw [List.map_eq_nil_iff.mp none] at held
    cases held
  obtain ⟨-, -, -, lines⟩ := sessions_trace_in_lines () .traced { timestamps := true } rfl
    commands cells
  exact ⟨rfl, held, lines.trans (if_neg some)⟩

end TaggedCells

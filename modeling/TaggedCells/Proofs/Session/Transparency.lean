import TaggedCells.Proofs.CellArray.AllOrNothing
import TaggedCells.Proofs.CellArray.Naming
import TaggedCells.Proofs.Session.Run
import TaggedCells.Proofs.Sorting.IntegerArrays

/-!
# Transparency

A session adds nothing to the operations and takes nothing away. What a program gets to see does
not depend on the settings of the tracer, and on the algorithm that sorting stands for only in
the name that a failure of sorting bears (`sessions_are_transparent`).
-/

set_option autoImplicit false

namespace TaggedCells

open Trace (TracerConfig)

/-! ## The name of a sort -/

/-- Two algorithms leave the same cell, and fail alike but for the name of the operation. -/
theorem Cell.sort_naming (first second : SortAlgorithm) (cell : Cell) :
    (Cell.sort second).applyPure cell
      = (((Cell.sort first).applyPure cell).1.mapError (Failure.naming second.operation),
          ((Cell.sort first).applyPure cell).2) := by
  simp only [Edit.applyPure, Cell.sort, Cell.apply_editArray, CellArray.apply_sort, pure_bind,
    Cell.array?_naming first.operation second.operation]
  cases cell.array? first.operation with
  | error failure => rfl
  | ok array =>
      simp only [Except.mapError,
        CellArray.requireIntegers_naming first.operation second.operation]
      cases accepted : array.requireIntegers first.operation with
      | error failure => rfl
      | ok _ =>
          obtain ⟨integral, uniform⟩ := CellArray.requireIntegers_eq_ok_iff.mp accepted
          obtain ⟨kind, declared⟩ := Kind.isInteger_iff.mp integral
          have integers : ∀ element ∈ array.elements, element.kind = .integer kind :=
            fun element present => (uniform element present).trans declared
          simp only [arrange_eq_standard integers]
          rfl

/-! ## Direct calls -/

namespace Operation

variable {m : Type → Type}

/-- The outcome of an operation with another name for a failure of sorting. -/
def naming (operation : Operation m) (name : String) (outcome : Except Failure Reply) :
    Except Failure Reply :=
  match operation with
  | .sort => outcome.mapError (Failure.naming name)
  | _ => outcome

/-- Another name in the failure of a function is another name in its reply. -/
theorem worked_mapError (rename : Failure → Failure) (result : Except Failure Unit × Cell) :
    worked done (result.1.mapError rename, result.2)
      = ((worked done result).1.mapError rename, (worked done result).2) := by
  obtain ⟨outcome, after⟩ := result
  cases outcome <;> rfl

/-- Where the operation accumulates, its answer is a stamp on exactly the array that is left. -/
def StampsArray (operation : Operation m) (performed : Except Failure Reply × Cell) : Prop :=
  operation = .accumulate → ∀ reply, performed.1 = .ok reply →
    ∃ (array : CellArray) (timing : Timing),
      performed.2 = array.toCell ∧ reply = .stamped ⟨array.toCell, timing⟩

theorem worked_stamped {before : Cell} {result : Except Failure Unit × Cell} {reply : Reply}
    (kept : KeepsDeclaration before result)
    (answered : (worked (fun _ left => .stamped (.ofCell left)) result).1 = .ok reply) :
    ∃ (array : CellArray) (timing : Timing),
      result.2 = array.toCell ∧ reply = .stamped ⟨array.toCell, timing⟩ := by
  obtain ⟨outcome, after⟩ := result
  cases outcome with
  | error failure => cases answered
  | ok value =>
      obtain ⟨kind, -, elements, -, rfl, -⟩ := kept rfl
      cases answered
      exact ⟨⟨kind, elements⟩, .zero, rfl, rfl⟩

variable [Monad m] [LawfulMonad m]

/-- What sorting stands for shows in the name of its failure only. -/
theorem direct_naming (first second : SortAlgorithm) (operation : Operation m) (cell : Cell) :
    operation.direct second cell
      = (fun performed => (operation.naming second.operation performed.1, performed.2))
        <$> operation.direct first cell := by
  cases operation with
  | sort =>
      show (pure (worked done _) : StateT _ m _) = _ <$> pure (worked done _)
      rw [Cell.sort_naming first second, worked_mapError, map_pure]
      rfl
  | _ => exact (id_map _).symm

theorem always_stampsArray (algorithm : SortAlgorithm) (operation : Operation m) (cell : Cell)
    (generator : Randomness.Generator) :
    Always (fun performed => operation.StampsArray performed.1)
      ((operation.direct algorithm cell).run generator) := by
  by_cases accumulating : operation = .accumulate
  · subst accumulating
    exact .pure fun _ _ answered =>
      worked_stamped (Alteration.always_settles .accumulate cell).from_id.2 answered
  · exact (Always.trivial _).imp fun _ _ same => absurd same accumulating

end Operation

/-! ## Transcripts -/

section Runs

variable {m : Type → Type}

/-- The entry with another name for a failure of sorting. -/
def Entry.naming (name : String) (entry : Entry m) : Entry m :=
  { entry with outcome := entry.operation.naming name entry.outcome }

theorem Operation.toOption_naming (operation : Operation m) (name : String)
    (outcome : Except Failure Reply) :
    (operation.naming name outcome).toOption = outcome.toOption := by
  cases operation <;> first | rfl | (cases outcome <;> rfl)

variable [Monad m] [LawfulMonad m]

/-- **Two algorithms for sorting give the same transcript, but for the name in its failures.** -/
theorem Facade.follow_naming (first second : SortAlgorithm) (commands : List (Command m))
    (cells : Cells) (generator : Randomness.Generator) :
    ((direct second).follow commands cells).run generator
      = (fun ((entries, final), later) =>
          ((entries.map (Entry.naming second.operation), final), later))
        <$> ((direct first).follow commands cells).run generator := by
  induction commands generalizing cells generator with
  | nil =>
      show (pure (([], cells), generator) : m _) = _ <$> pure (([], cells), generator)
      rw [map_pure]
      rfl
  | cons command rest ih =>
      cases command with
      | call place operation keep =>
          rw [run_follow_call, run_follow_call]
          show ((operation cells).direct second (cells place)).run generator >>= _ = _
          rw [Operation.direct_naming first second, StateT.run_map, bind_map_left, map_bind]
          apply bind_congr
          rintro ⟨⟨outcome, after⟩, later⟩
          dsimp only
          -- the program goes on from whether the call failed and does not see the name
          rw [Operation.toOption_naming, map_bind, ih, bind_map_left]
          apply bind_congr
          rintro ⟨⟨entries, final⟩, last⟩
          dsimp only
          rw [map_pure]
          rfl
      | reseed seed =>
          rw [run_follow_reseed, run_follow_reseed]
          exact ih cells (.ofSeed seed)
      | steer steering =>
          rw [run_follow_steer, run_follow_steer]
          exact ih cells generator

theorem Session.transcript_eq_direct (config : SessionConfig) (commands : List (Command m))
    (cells : Cells) :
    transcript config commands cells
      = directTranscript config.sortAlgorithm config.seed commands cells := by
  have followed : _ = ((Facade.direct config.sortAlgorithm).follow commands cells).run
      (.ofSeed config.seed) := follow_eq_direct commands cells (.ofConfig config)
  unfold transcript directTranscript
  rw [← followed, Functor.map_map]

/-- What a program gets from a session is what it gets by itself. -/
structure Session.Transparent (config : SessionConfig) (commands : List (Command m))
    (cells : Cells) : Prop where
  /-- Every call answers and leaves what the direct call does, from one generator. -/
  direct : transcript config commands cells
    = directTranscript config.sortAlgorithm config.seed commands cells
  stamped : Always (fun followed => ∀ entry ∈ followed.1,
      entry.operation.StampsArray (entry.outcome, entry.after))
    (transcript config commands cells)
  tracer : ∀ tracer : TracerConfig,
    transcript { config with tracer := tracer } commands cells
      = transcript config commands cells
  /-- Another algorithm for sorting is seen in the failures of sorting only. -/
  sorting : ∀ algorithm : SortAlgorithm,
    transcript { config with sortAlgorithm := algorithm } commands cells
      = (fun (entries, final) => (entries.map (Entry.naming algorithm.operation), final))
        <$> transcript config commands cells

/-- **Every session is transparent**, whatever its settings, the commands it is given and the
functions that they bring along. -/
theorem sessions_are_transparent (config : SessionConfig) (commands : List (Command m))
    (cells : Cells) : Session.Transparent config commands cells := by
  have plain := fun config => Session.transcript_eq_direct config commands cells
  refine ⟨plain config, ?_, ?_, ?_⟩
  · rw [plain]
    have stamped := (Facade.direct config.sortAlgorithm).always_follow
      (fun operation _ => operation.StampsArray)
      (Operation.always_stampsArray config.sortAlgorithm) commands cells (.ofSeed config.seed)
    exact stamped.map fun _ each => each
  · intro tracer
    rw [plain, plain]
  · intro algorithm
    rw [plain, plain]
    unfold Session.directTranscript
    rw [Facade.follow_naming config.sortAlgorithm algorithm, Functor.map_map, Functor.map_map]

end Runs

/-- Shuffles an array, adds to each number how many were added to before it, sorts and sums up,
while the tracer is turned on in between. -/
def countedProgram : List (Command (StateM Nat)) :=
  [.call 0 (fun _ => .shuffle) fun _ cells => cells,
    .steer .enable,
    .call 0 (fun _ => .transform fun number =>
      modifyGet fun count : Nat => (number + count, count + 1)) fun _ cells => cells,
    .reseed 7,
    .call 0 (fun _ => .sort) fun _ cells => cells,
    .call 0 (fun _ => .accumulate) fun _ cells => cells]

theorem sessions_are_transparent_counted :
    LawfulMonad (StateM Nat)
      ∧ Session.Transparent SessionConfig.development countedProgram fun _ =>
          .array (.integer (.sized .signed .eight)) threeBytes :=
  ⟨inferInstance, sessions_are_transparent _ countedProgram _⟩

end TaggedCells

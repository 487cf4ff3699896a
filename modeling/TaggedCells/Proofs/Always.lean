import TaggedCells.Edit
import Mathlib.Tactic.Choose

/-!
# What every run gives

A computation that calls functions of its caller may end in many ways. What all of its results
have in common is said without running it: the computation always gives results of a property
when it can be had from a computation of results that carry the property with them.

A computation that may fail yields values of a property when every result that is not a failure
has it.
-/

set_option autoImplicit false

namespace TaggedCells

variable {m : Type → Type} {α β : Type}

/-- Every result of the computation has the property. -/
def Always [Monad m] (holds : α → Prop) (run : m α) : Prop :=
  ∃ certified : m { result : α // holds result }, Subtype.val <$> certified = run

namespace Always

variable [Monad m] [LawfulMonad m]

theorem pure {holds : α → Prop} {result : α} (known : holds result) :
    Always holds (Pure.pure result : m α) :=
  ⟨Pure.pure ⟨result, known⟩, map_pure _ _⟩

theorem trivial (run : m α) : Always (fun _ => True) run := by
  refine ⟨(fun result => ⟨result, .intro⟩) <$> run, ?_⟩
  rw [Functor.map_map]
  exact id_map run

/-- What follows a result with the property has every result of the second property. -/
theorem bind {first : α → Prop} {holds : β → Prop} {run : m α} {next : α → m β}
    (before : Always first run) (after : ∀ result, first result → Always holds (next result)) :
    Always holds (run >>= next) := by
  obtain ⟨certified, rfl⟩ := before
  choose following agree using after
  refine ⟨certified >>= fun result => following result.val result.property, ?_⟩
  rw [map_bind, bind_map_left]
  exact bind_congr fun result => agree result.val result.property

theorem map {first : α → Prop} {holds : β → Prop} {run : m α} {f : α → β}
    (before : Always first run) (after : ∀ result, first result → holds (f result)) :
    Always holds (f <$> run) := by
  rw [← bind_pure_comp]
  exact before.bind fun result known => .pure (after result known)

theorem imp {first holds : α → Prop} {run : m α} (before : Always first run)
    (after : ∀ result, first result → holds result) : Always holds run := by
  have mapped := before.map (f := id) after
  rwa [id_map] at mapped

/-- A computation that takes no part in a state beside it gives what it gives alone. -/
theorem beside {σ : Type} {first : α → Prop} {holds : β → Prop} {run : m α} {f : α → β}
    (alone : Always first run) (after : ∀ result, first result → holds (f result)) (state : σ) :
    Always (fun result => holds result.1) ((f <$> (liftM run : StateT σ m α)).run state) := by
  rw [StateT.run_map]
  show Always _ (_ <$> (monadLift run : StateT σ m α).run state)
  rw [StateT.run_monadLift, monadLift_self, bind_pure_comp, Functor.map_map]
  exact alone.map fun result known => after result known

/-- With a state beside it, a computation gives results of the property from every state. -/
theorem from_state {σ : Type} {holds : α → Prop} {run : StateM σ α} (always : Always holds run)
    (state : σ) : holds (run.run state).1 := by
  obtain ⟨certified, rfl⟩ := always
  exact (certified.run state).1.property

/-- With nothing beside it, a computation gives a result of the property. -/
theorem from_id {holds : α → Prop} {run : Id α} (always : Always holds run) : holds run.run := by
  obtain ⟨certified, rfl⟩ := always
  exact certified.run.property

end Always

/-- Every value that the computation gives has the property, unless it fails. -/
def Yields [Monad m] (holds : α → Prop) (run : ExceptT Failure m α) : Prop :=
  Always (fun outcome => ∀ value, outcome = .ok value → holds value) run.run

namespace Yields

variable [Monad m] [LawfulMonad m]

theorem pure {holds : α → Prop} {value : α} (known : holds value) :
    Yields holds (Pure.pure value : ExceptT Failure m α) :=
  Always.pure fun _ given => Except.ok.inj given ▸ known

/-- An outcome at hand yields what it is. -/
theorem outcome (outcome : Except Failure α) :
    Yields (fun value => outcome = .ok value) (liftM outcome : ExceptT Failure m α) :=
  Always.pure fun _ given => given

/-- A computation that cannot fail yields its results. -/
theorem lift {holds : α → Prop} {run : m α} (always : Always holds run) :
    Yields holds (liftM run : ExceptT Failure m α) := by
  show Always _ (Except.ok <$> run)
  exact always.map fun _ known _ given => Except.ok.inj given ▸ known

theorem trivial (run : ExceptT Failure m α) : Yields (fun _ => True) run :=
  (Always.trivial run.run).imp fun _ _ _ _ => .intro

theorem bind {first : α → Prop} {holds : β → Prop} {run : ExceptT Failure m α}
    {next : α → ExceptT Failure m β} (before : Yields first run)
    (after : ∀ value, first value → Yields holds (next value)) : Yields holds (run >>= next) := by
  show Always _ (ExceptT.run (run >>= next))
  rw [ExceptT.run_bind]
  refine Always.bind before fun reached known => ?_
  cases reached with
  | ok value => exact after value (known value rfl)
  | error failure => exact Always.pure fun _ given => by cases given

/-- What every step keeps holds of all that a fold yields. -/
theorem foldlM {holds : β → Prop} {step : β → α → ExceptT Failure m β}
    (keeps : ∀ held element, holds held → Yields holds (step held element)) {start : β}
    (known : holds start) (elements : List α) : Yields holds (elements.foldlM step start) := by
  induction elements generalizing start with
  | nil => exact .pure known
  | cons element rest ih =>
      rw [List.foldlM_cons]
      exact (keeps start element known).bind fun _ still => ih still

theorem imp {first holds : α → Prop} {run : ExceptT Failure m α} (before : Yields first run)
    (after : ∀ value, first value → holds value) : Yields holds run :=
  Always.imp before fun _ known value given => after value (known value given)

end Yields

/-- What an outcome may be: a value with the one property, or a failure with the other. -/
def Within (holds : α → Prop) (fails : Failure → Prop) : Except Failure α → Prop
  | .ok value => holds value
  | .error failure => fails failure

/-- The computation gives values of the one property and fails with failures of the other only. -/
def Ends [Monad m] (holds : α → Prop) (fails : Failure → Prop) (run : ExceptT Failure m α) : Prop :=
  Always (Within holds fails) run.run

namespace Ends

variable [Monad m] [LawfulMonad m] {fails : Failure → Prop}

theorem pure {holds : α → Prop} {value : α} (known : holds value) :
    Ends holds fails (Pure.pure value : ExceptT Failure m α) :=
  Always.pure known

theorem outcome {holds : α → Prop} {outcome : Except Failure α}
    (known : Within holds fails outcome) :
    Ends holds fails (liftM outcome : ExceptT Failure m α) :=
  Always.pure known

/-- What succeeds gives the value that it succeeds with. -/
theorem success {outcome : Except Failure α} {value : α} (given : outcome = .ok value) :
    Ends (· = value) fails (liftM outcome : ExceptT Failure m α) :=
  .outcome (given ▸ rfl)

/-- A computation that cannot fail ends with its results. -/
theorem lift {holds : α → Prop} {run : m α} (always : Always holds run) :
    Ends holds fails (liftM run : ExceptT Failure m α) := by
  show Always _ (Except.ok <$> run)
  exact always.map fun _ known => known

theorem bind {first : α → Prop} {holds : β → Prop} {run : ExceptT Failure m α}
    {next : α → ExceptT Failure m β} (before : Ends first fails run)
    (after : ∀ value, first value → Ends holds fails (next value)) :
    Ends holds fails (run >>= next) := by
  show Always _ (ExceptT.run (run >>= next))
  rw [ExceptT.run_bind]
  refine Always.bind before fun reached known => ?_
  cases reached with
  | ok value => exact after value known
  | error failure => exact Always.pure known

/-- What every step keeps holds in the end of a fold, unless a step fails. -/
theorem foldlM {holds : β → Prop} {step : β → α → ExceptT Failure m β} {elements : List α}
    (keeps : ∀ held, ∀ element ∈ elements, holds held → Ends holds fails (step held element))
    {start : β} (known : holds start) : Ends holds fails (elements.foldlM step start) := by
  induction elements generalizing start with
  | nil => exact .pure known
  | cons element rest ih =>
      rw [List.foldlM_cons]
      refine (keeps start element List.mem_cons_self known).bind fun held still => ?_
      refine ih (fun held element present => ?_) still
      exact keeps held element (List.mem_cons_of_mem _ present)

/-- What every call gives, every result of a traversal is, unless a call fails. -/
theorem mapM {holds : β → Prop} {f : α → ExceptT Failure m β} {elements : List α}
    (each : ∀ element ∈ elements, Ends holds fails (f element)) :
    Ends (fun results => ∀ result ∈ results, holds result) fails (elements.mapM f) := by
  induction elements with
  | nil =>
      rw [List.mapM_nil]
      exact .pure fun _ absent => absurd absent List.not_mem_nil
  | cons element rest ih =>
      rw [List.mapM_cons]
      refine (each element List.mem_cons_self).bind fun result here => ?_
      have further := ih fun element present => each element (List.mem_cons_of_mem _ present)
      exact further.bind fun results there => .pure (List.forall_mem_cons.mpr ⟨here, there⟩)

end Ends

end TaggedCells

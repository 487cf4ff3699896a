import TaggedCells.CellArray.Bulk
import TaggedCells.CellArray.Rearrangement
import TaggedCells.Sorting

/-!
# Plans

Every operation that changes an array in a cell first finds out which elements there are to be.
Finding out may fail, and may call functions of the caller, but it writes nothing. This is the
plan of the operation. The array is written once, when the plan has succeeded
(`Alteration.apply_edit`).
-/

set_option autoImplicit false

namespace TaggedCells

open Randomness (fisherYates)

/-- An operation that changes the array in a cell. -/
inductive Alteration (m : Type → Type) where
  | sort (algorithm : SortAlgorithm)
  | transform (f : Int → m Int)
  | filter (keep : Cell → m Bool)
  | reduce (combine : Cell → Cell → m Cell)
  | accumulate
  | reverse
  | reverseRange (start stop : Nat)
  | shuffle (choose : (greatest : Nat) → m (Fin (greatest + 1)))
  | shuffleRange (start stop : Nat) (choose : (greatest : Nat) → m (Fin (greatest + 1)))

/-- What becomes of an array under the outcome of a plan. -/
def CellArray.settled (array : CellArray) :
    Except Failure (List Cell) → Except Failure Unit × CellArray
  | .ok elements => (.ok (), array.withElements elements)
  | .error failure => (.error failure, array)

/-- An edit of an array that carries out a plan for its elements. -/
def CellArray.Planned {m : Type → Type} [Monad m] (array : CellArray)
    (edit : Edit CellArray m Unit) (plan : ExceptT Failure m (List Cell)) : Prop :=
  edit.apply array = array.settled <$> plan.run

namespace CellArray.Planned

variable {m : Type → Type} [Monad m] [LawfulMonad m] {α : Type} {array : CellArray}

theorem read {rest : CellArray → Edit CellArray m Unit} {plan : ExceptT Failure m (List Cell)}
    (further : array.Planned (rest array) plan) : array.Planned (get >>= rest) plan := by
  rw [Planned, Edit.apply_bind, Edit.apply_get, pure_bind]
  exact further

theorem failed (failure : Failure) :
    array.Planned (liftM (Except.error failure : Except Failure Unit) : Edit CellArray m Unit)
      (liftM (Except.error failure : Except Failure (List Cell))) := by
  rw [Planned, Edit.apply_lift_outcome]
  exact (map_pure array.settled (.error failure)).symm

theorem attempt {run : ExceptT Failure m α} {rest : α → Edit CellArray m Unit}
    {plan : α → ExceptT Failure m (List Cell)}
    (further : ∀ value, array.Planned (rest value) (plan value)) :
    array.Planned ((liftM run.run : Edit CellArray m (Except Failure α)) >>= fun outcome =>
      liftM outcome >>= rest) (run >>= plan) := by
  rw [Planned, Edit.apply_bind, Edit.apply_lift, ExceptT.run_bind, map_bind, bind_assoc]
  refine bind_congr fun outcome => ?_
  rw [pure_bind]
  dsimp only
  rw [Edit.apply_bind, Edit.apply_lift_outcome, pure_bind]
  cases outcome with
  | error failure => exact (map_pure array.settled (.error failure)).symm
  | ok value => exact further value

theorem check {outcome : Except Failure α} {rest : α → Edit CellArray m Unit}
    {plan : α → ExceptT Failure m (List Cell)}
    (further : ∀ value, array.Planned (rest value) (plan value)) :
    array.Planned (liftM outcome >>= rest) (liftM outcome >>= plan) := by
  rw [Planned, Edit.apply_bind, Edit.apply_lift_outcome, pure_bind, ExceptT.run_bind]
  show _ = array.settled <$> ((pure outcome : m (Except Failure α)) >>= _)
  rw [pure_bind]
  cases outcome with
  | error failure => exact (map_pure array.settled (.error failure)).symm
  | ok value => exact further value

theorem call {run : m α} {rest : α → Edit CellArray m Unit}
    {plan : α → ExceptT Failure m (List Cell)}
    (further : ∀ value, array.Planned (rest value) (plan value)) :
    array.Planned (liftM run >>= rest) (liftM run >>= plan) := by
  rw [Planned, Edit.apply_bind, Edit.apply_lift, ExceptT.run_bind]
  show _ = array.settled <$> ((Except.ok <$> run : m (Except Failure α)) >>= _)
  rw [bind_map_left, map_bind, bind_assoc]
  refine bind_congr fun value => ?_
  rw [pure_bind]
  exact further value

theorem write (elements : List Cell) :
    array.Planned (set (array.withElements elements) : Edit CellArray m Unit)
      (pure elements) := by
  rw [Planned, Edit.apply_set]
  exact (map_pure array.settled (.ok elements)).symm

theorem nothing : array.Planned (pure () : Edit CellArray m Unit) (pure array.elements) := by
  rw [Planned, Edit.apply_pure]
  exact (map_pure array.settled (.ok array.elements)).symm

theorem replaced (elements : List Cell) :
    array.Planned (replace elements : Edit CellArray m Unit) (do
      array.kind.checkAll elements
      return elements) :=
  .read (.check fun _ => .write elements)

theorem called (run : m (List Cell)) :
    array.Planned ((liftM run : Edit CellArray m (List Cell)) >>= fun elements =>
      set (array.withElements elements)) (liftM run : ExceptT Failure m (List Cell)) := by
  rw [← bind_pure (liftM run : ExceptT Failure m (List Cell))]
  exact .call fun elements => .write elements

theorem kept (keep : Cell → m Bool) :
    array.Planned (retain keep)
      (liftM (array.elements.filterM keep) : ExceptT Failure m (List Cell)) :=
  .read (.called _)

end CellArray.Planned

namespace Alteration

variable {m : Type → Type} [Monad m]

/-- The operation that a failure names. -/
def operation : Alteration m → String
  | .sort algorithm => algorithm.operation
  | .transform _ => "transform"
  | .filter _ => "filter"
  | .reduce _ => "reduce"
  | .accumulate => "accumulate"
  | .reverse => "reverse"
  | .reverseRange .. => "reverse_range"
  | .shuffle _ => "shuffle"
  | .shuffleRange .. => "shuffle_range"

/-- The operation on the array. -/
def arrayEdit : Alteration m → Edit CellArray m Unit
  | .sort algorithm => CellArray.sort algorithm
  | .transform f => CellArray.transform f
  | .filter keep => CellArray.filter keep
  | .reduce combine => CellArray.reduce combine
  | .accumulate => CellArray.accumulate
  | .reverse => CellArray.reverse
  | .reverseRange start stop => CellArray.reverseRange start stop
  | .shuffle choose => CellArray.shuffle choose
  | .shuffleRange start stop choose => CellArray.shuffleRange start stop choose

/-- The operation on the cell. -/
def edit : Alteration m → Edit Cell m Unit
  | .sort algorithm => Cell.sort algorithm
  | .transform f => Cell.transform f
  | .filter keep => Cell.filter keep
  | .reduce combine => Cell.reduce combine
  | .accumulate => Cell.accumulate
  | .reverse => Cell.reverse
  | .reverseRange start stop => Cell.reverseRange start stop
  | .shuffle choose => Cell.shuffle choose
  | .shuffleRange start stop choose => Cell.shuffleRange start stop choose

/-- The elements that the operation is going to leave. -/
def plan (array : CellArray) : Alteration m → ExceptT Failure m (List Cell)
  | .sort algorithm => do
      array.requireIntegers algorithm.operation
      return algorithm.arrange Cell.number array.elements
  | .transform f => do
      array.requireSomeIntegers "transform"
      let results ← transformed array.kind f array.elements
      array.kind.checkAll results
      return results
  | .filter keep => do
      array.requireSomeIntegers "filter"
      (array.elements.filterM keep : m (List Cell))
  | .reduce combine => do
      array.requireSomeIntegers "reduce"
      match array.elements with
      | [] => return []
      | [only] => return [only]
      | first :: rest =>
          let start ← first.copy
          let combined ← combineFrom array.kind combine 1 start rest
          array.kind.checkAll [combined]
          return [combined]
  | .accumulate => do
      array.requireSomeIntegers "accumulate"
      match sumWide? array.elements with
      | none => (Cause.overflow array.kind).raise
      | some sum =>
          let total ← located (Cell.ofInt array.kind sum) { operation := "accumulate" }
          array.kind.checkAll [total]
          return [total]
  | .reverse => do
      array.requireHomogeneous "reverse"
      return array.elements.reverse
  | .reverseRange start stop => do
      array.requireHomogeneous "reverse_range"
      array.requireRange start stop "reverse_range"
      return spliced start stop array.elements (sectionOf start stop array.elements).reverse
  | .shuffle choose => do
      array.requireHomogeneous "shuffle"
      (shuffled choose array.elements : m (List Cell))
  | .shuffleRange start stop choose => do
      array.requireHomogeneous "shuffle_range"
      array.requireRange start stop "shuffle_range"
      let mixed ← (shuffled choose (sectionOf start stop array.elements) : m (List Cell))
      return spliced start stop array.elements mixed

theorem edit_eq_editArray (change : Alteration m) :
    change.edit = Cell.editArray change.operation change.arrayEdit := by
  cases change <;> rfl

variable [LawfulMonad m]

/-- Each operation on an array carries out its plan. -/
theorem planned (change : Alteration m) (array : CellArray) :
    array.Planned change.arrayEdit (change.plan array) := by
  cases change with
  | sort algorithm => exact .read (.check fun _ => .write _)
  | transform f => exact .read (.check fun _ => .attempt fun _ => .replaced _)
  | filter keep => exact .read (.check fun _ => .kept _)
  | reduce combine =>
      refine .read (.check fun _ => ?_)
      obtain ⟨kind, elements⟩ := array
      match elements with
      | [] => exact .nothing
      | [only] => exact .nothing
      | first :: next :: rest =>
          exact .check fun _ => .attempt fun _ => .replaced _
  | accumulate =>
      refine .read (.check fun _ => ?_)
      cases sumWide? array.elements with
      | none => exact .failed _
      | some sum => exact .check fun _ => .replaced _
  | reverse => exact .read (.check fun _ => .write _)
  | reverseRange start stop => exact .read (.check fun _ => .check fun _ => .write _)
  | shuffle choose => exact .read (.check fun _ => .called _)
  | shuffleRange start stop choose =>
      exact .read (.check fun _ => .check fun _ => .call fun _ => .write _)

/-- **An operation leaves a cell without an array as it is, and an array as its plan settles
it.** -/
theorem apply_edit (change : Alteration m) (cell : Cell) :
    change.edit.apply cell
      = match cell.array? change.operation with
        | .ok array =>
            (fun outcome => ((array.settled outcome).1, (array.settled outcome).2.toCell))
              <$> (change.plan array).run
        | .error failure => pure (.error failure, cell) := by
  rw [edit_eq_editArray, Cell.apply_editArray]
  cases cell.array? change.operation with
  | error failure => rfl
  | ok array =>
      dsimp only
      rw [change.planned array, bind_map_left, bind_pure_comp]

/-- Where the plan is an outcome at hand, the operation comes to what that makes of the array. -/
theorem apply_edit_of_outcome {change : Alteration m} {array : CellArray}
    {outcome : Except Failure (List Cell)} (planned : change.plan array = liftM outcome) :
    change.edit.apply array.toCell
      = pure ((array.settled outcome).1, (array.settled outcome).2.toCell) := by
  have held : array.toCell.array? change.operation = .ok array := rfl
  rw [change.apply_edit, held]
  dsimp only
  rw [planned]
  exact map_pure _ outcome

/-- From a state, an operation makes of an array what its plan comes to from there. -/
theorem run_edit {σ : Type} {change : Alteration (StateM σ)} {array : CellArray} {state later : σ}
    {outcome : Except Failure (List Cell)}
    (planned : (change.plan array).run.run state = (outcome, later)) :
    (change.edit.apply array.toCell).run state
      = (((array.settled outcome).1, (array.settled outcome).2.toCell), later) := by
  have held : array.toCell.array? change.operation = .ok array := rfl
  rw [change.apply_edit, held]
  dsimp only
  rw [StateT.run_map, planned]
  rfl

end Alteration
end TaggedCells

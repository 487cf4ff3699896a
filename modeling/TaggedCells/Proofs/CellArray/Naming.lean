import TaggedCells.Proofs.CellArray.Verdicts

/-!
# The names in failures

A failure names the operation that failed. Operations that ask for the same thing refuse the same
cells, and the failures that they refuse them with differ in that name only
(`IntegerOperation.admitted_naming`).
-/

set_option autoImplicit false

namespace TaggedCells

/-- The cause with another operation named wherever it names one. -/
def Cause.naming (operation : String) : Cause → Cause
  | .nullInput _ => .nullInput operation
  | .invalidOperation _ kind => .invalidOperation operation kind
  | .unsupported _ kind => .unsupported operation kind
  | cause => cause

/-- The failure with another operation named wherever it names one. -/
def Failure.naming (operation : String) (failure : Failure) : Failure where
  cause := failure.cause.naming operation
  context := failure.context.map fun context =>
    { context with operation := context.operation.map fun _ => operation }

namespace Cell

theorem array?_naming (first second : String) (cell : Cell) :
    cell.array? second = (cell.array? first).mapError (Failure.naming second) := by
  cases cell <;> rfl

end Cell

namespace CellArray

theorem requireIntegers_naming (first second : String) (array : CellArray) :
    array.requireIntegers second
      = (array.requireIntegers first).mapError (Failure.naming second) := by
  unfold requireIntegers
  cases array.kind.isInteger with
  | false => rfl
  | true =>
      cases array.stray? with
      | none => rfl
      | some stray =>
          obtain ⟨index, found⟩ := stray
          cases integral : found.isInteger <;> simp [integral, Cause.raiseIn, Except.mapError,
            Failure.naming, Cause.naming]

theorem requireSomeIntegers_naming (first second : String) (array : CellArray) :
    array.requireSomeIntegers second
      = (array.requireSomeIntegers first).mapError (Failure.naming second) := by
  obtain ⟨kind, elements⟩ := array
  cases elements with
  | nil => rfl
  | cons element rest => exact requireIntegers_naming first second _

end CellArray

namespace IntegerOperation

variable {m : Type → Type} (first second : IntegerOperation m)

theorem check_naming (alike : first.asksForElement = second.asksForElement) (array : CellArray) :
    second.check array = (first.check array).mapError (Failure.naming second.name) := by
  unfold check
  rw [alike]
  cases second.asksForElement with
  | false => exact CellArray.requireIntegers_naming first.name second.name array
  | true => exact CellArray.requireSomeIntegers_naming first.name second.name array

/-- **Two operations that ask for the same refuse the same cells**, with failures that differ in the
name of the operation. -/
theorem admitted_naming (alike : first.asksForElement = second.asksForElement) (cell : Cell) :
    second.admitted cell = (first.admitted cell).mapError (Failure.naming second.name) := by
  unfold admitted Cell.checked
  rw [Cell.array?_naming first.name second.name]
  cases cell.array? first.name with
  | error failure => rfl
  | ok array =>
      show (second.check array >>= fun _ => Except.ok array)
        = (first.check array >>= fun _ => Except.ok array).mapError _
      rw [check_naming first second alike]
      cases first.check array <;> rfl

end IntegerOperation

end TaggedCells

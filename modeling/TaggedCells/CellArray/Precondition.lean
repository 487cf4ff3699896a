import TaggedCells.CellArray

/-!
# Preconditions

What an operation on arrays asks for before it touches an element. Each check names the
operation in the failure it gives. An operation runs its checks in a fixed order and fails
with the first that does not hold.
-/

set_option autoImplicit false

namespace TaggedCells.CellArray

/-- Every element is of the declared kind, reported in the name of the operation. -/
def requireHomogeneous (array : CellArray) (operation : String) : Except Failure Unit :=
  array.checkHomogeneous.mapError (·.during operation)

/-- The declared kind is an integer kind and every element carries it. A kind that is no
integer kind, declared or found, makes the operation meaningless; an integer element of
another kind is a mismatch. -/
def requireIntegers (array : CellArray) (operation : String) : Except Failure Unit :=
  if !array.kind.isInteger then (Cause.invalidOperation operation array.kind).raise
  else match array.stray? with
    | none => .ok ()
    | some (index, found) =>
        let cause :=
          if found.isInteger then Cause.typeMismatch array.kind found
          else .invalidOperation operation found
        cause.raiseIn { operation := operation, index := index }

/-- There is an element. -/
def requireElement (array : CellArray) (operation : String) : Except Failure Unit :=
  if array.elements.isEmpty then (Cause.nullInput operation).raise else .ok ()

/-- The positions from `start` up to `stop` are positions of the array. -/
def requireRange (array : CellArray) (start stop : Nat) (operation : String) :
    Except Failure Unit :=
  if stop < start then (Cause.badRange start stop).raiseIn { operation := operation }
  else if array.length < stop then
    (Cause.badRange stop array.length).raiseIn { operation := operation }
  else .ok ()

/-- What every bulk operation on integers asks for: an element, and integers only. -/
def requireSomeIntegers (array : CellArray) (operation : String) : Except Failure Unit := do
  array.requireElement operation
  array.requireIntegers operation

end TaggedCells.CellArray

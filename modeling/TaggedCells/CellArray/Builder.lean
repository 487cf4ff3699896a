import TaggedCells.Cell.Life
import TaggedCells.CellArray

/-!
# Building arrays

An array cell can be created of given cells at once. Their number is given beside them and has to
be right, the kind has to be one that an array can declare, and the cells are copied one after the
other, each once it has been found to be of the kind.

A builder collects cells, one at a time or several at once, and looks at none of them until
the array is built. So a cell of the wrong kind is reported by the final step, at its position
among all the cells collected.
-/

set_option autoImplicit false

namespace TaggedCells

/-- An array cell of copies of the given cells. The count has to be their number, the kind one
that an array can declare, and every cell of that kind. -/
def Cell.createArray (kind : Kind) (count : Nat) (sources : List Cell) : Except Failure Cell := do
  if count ≠ sources.length then
    (Cause.badRange count sources.length).raiseIn { operation := "create_array" }
  if !kind.isConstructible then
    (Cause.typeMismatch .array kind).raiseIn { operation := "create_array" }
  let elements ← sources.zipIdx.mapM fun (source, index) => do
    let accepted ← located (kind.checkCell source) { operation := "create_array", index := index }
    accepted.copy
  return .array kind elements

/-- The cells collected so far for an array of a kind. -/
structure ArrayBuilder where
  kind : Kind
  collected : List Cell := []

namespace ArrayBuilder

/-- Collects one more cell. -/
def push (builder : ArrayBuilder) (cell : Cell) : ArrayBuilder :=
  { builder with collected := builder.collected ++ [cell] }

/-- Collects several more cells. -/
def extend (builder : ArrayBuilder) (cells : List Cell) : ArrayBuilder :=
  { builder with collected := builder.collected ++ cells }

/-- Checks the cells collected and makes them an array. -/
def build (builder : ArrayBuilder) : Except Failure CellArray :=
  CellArray.ofList builder.kind builder.collected

end ArrayBuilder
end TaggedCells

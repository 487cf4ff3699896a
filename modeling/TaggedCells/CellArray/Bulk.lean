import TaggedCells.Cell.Life
import TaggedCells.CellArray.Precondition

/-!
# Bulk operations on integers

A bulk operation goes through the elements of an array of integers in order. Transforming hands
every integer to a function, and the results take the place of the integers if all of them fit the
declared kind; the function is not called again after a result that does not fit.

A predicate is asked once about each element. Filtering keeps the elements it wants. Splitting
leaves the array alone and copies the elements into two arrays of the same declared kind. Visiting
only shows the elements.

Two operations leave a single element. Reducing combines the elements from the left with a function
on cells, whose every result has to be of the declared kind; an array of one element stays as it is
and the function is not called. Accumulating adds the elements up; the sum is formed among numbers
of 128 bits and has to fit the declared kind at the end only.
-/

set_option autoImplicit false

namespace TaggedCells

variable {m : Type → Type} [Monad m]

/-! ## Transforming -/

/-- The cells of a kind for the results of a function at the numbers of the given cells. -/
def transformed (kind : Kind) (f : Int → m Int) (elements : List Cell) :
    ExceptT Failure m (List Cell) :=
  elements.zipIdx.mapM fun (element, index) => do
    let result ← (f element.number : m Int)
    located (Cell.ofInt kind result) { operation := "transform", index := index }

/-- Puts the results of a function in place of the integers. -/
def CellArray.transform (f : Int → m Int) : Edit CellArray m Unit := do
  let array ← get
  array.requireSomeIntegers "transform"
  let results ← ((transformed array.kind f array.elements).run : m _)
  replace (← results)

/-- Puts the results of a function in place of the integers of the array that a cell holds. -/
def Cell.transform (f : Int → m Int) : Edit Cell m Unit :=
  editArray "transform" (CellArray.transform f)

/-! ## Selecting and visiting -/

/-- Keeps the elements that the predicate wants. -/
def CellArray.filter (keep : Cell → m Bool) : Edit CellArray m Unit := do
  (← get).requireSomeIntegers "filter"
  retain keep

/-- Keeps the elements of the array that a cell holds that the predicate wants. -/
def Cell.filter (keep : Cell → m Bool) : Edit Cell m Unit :=
  editArray "filter" (CellArray.filter keep)

/-- The array with one more element, as an operation that returns it. -/
def CellArray.pushed (array : CellArray) (cell : Cell) : Except Failure CellArray :=
  let (outcome, after) := (push (m := Id) cell).applyPure array
  outcome.map fun _ => after

/-- The elements that the predicate wants and the others, each in an array of its own. -/
def CellArray.split (array : CellArray) (wanted : Cell → m Bool) :
    ExceptT Failure m (CellArray × CellArray) := do
  array.requireSomeIntegers "partition"
  let blank ← empty array.kind
  array.elements.foldlM (fun (matching, others) element => do
    let isWanted ← (wanted element : m Bool)
    let copied ← element.copy
    if isWanted then return (← matching.pushed copied, others)
    else return (matching, ← others.pushed copied)) (blank, blank)

/-- The array that a cell holds, split into the elements that the predicate wants and the
others. -/
def Cell.split (cell : Cell) (wanted : Cell → m Bool) : ExceptT Failure m (Cell × Cell) := do
  let (matching, others) ← (← cell.array? "partition").split wanted
  return (matching.toCell, others.toCell)

/-- Shows every element to the visitor. -/
def CellArray.visit (array : CellArray) (visitor : Cell → m Unit) : ExceptT Failure m Unit := do
  array.requireSomeIntegers "for_each"
  (array.elements.forM visitor : m Unit)

/-- Shows every element of the array that a cell holds to the visitor. -/
def Cell.visit (cell : Cell) (visitor : Cell → m Unit) : ExceptT Failure m Unit := do
  (← cell.array? "for_each").visit visitor

/-! ## Reducing -/

/-- Combines the elements from the left, each at its position counted from `first`. -/
def combineFrom (kind : Kind) (combine : Cell → Cell → m Cell) (first : Nat) (start : Cell)
    (elements : List Cell) : ExceptT Failure m Cell :=
  (elements.zipIdx first).foldlM (fun (held : Cell) (element, index) => do
    let result ← (combine held element : m Cell)
    located (kind.checkCell result) { operation := "reduce", index := index }) start

/-- Leaves the combination of all elements. -/
def CellArray.reduce (combine : Cell → Cell → m Cell) : Edit CellArray m Unit := do
  let array ← get
  array.requireSomeIntegers "reduce"
  match array.elements with
  | [] | [_] => return
  | first :: rest =>
      let start ← first.copy
      let combined ← ((combineFrom array.kind combine 1 start rest).run : m _)
      replace [← combined]

/-- Leaves the combination of all elements of the array that a cell holds. -/
def Cell.reduce (combine : Cell → Cell → m Cell) : Edit Cell m Unit :=
  editArray "reduce" (CellArray.reduce combine)

/-! ## Accumulating -/

/-- The numbers of 128 bits with a sign. -/
def wideBounds : Bounds := .signed 128

/-- The sum of two wide numbers, where it is one itself. -/
def addWide? (left right : Int) : Option Int :=
  if wideBounds.contains (left + right) then some (left + right) else none

/-- The wide sum of the numbers of the given cells. -/
def sumWide? (elements : List Cell) : Option Int :=
  elements.foldlM (fun total element => addWide? total element.number) 0

/-- Leaves the sum of all elements. -/
def CellArray.accumulate : Edit CellArray m Unit := do
  let array ← get
  array.requireSomeIntegers "accumulate"
  match sumWide? array.elements with
  | none => (Cause.overflow array.kind).raise
  | some sum =>
      let total ← located (Cell.ofInt array.kind sum) { operation := "accumulate" }
      replace [total]

/-- Leaves the sum of all elements of the array that a cell holds. -/
def Cell.accumulate : Edit Cell m Unit :=
  editArray "accumulate" CellArray.accumulate

end TaggedCells

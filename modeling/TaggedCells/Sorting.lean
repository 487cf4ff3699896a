import TaggedCells.CellArray.Precondition
import TaggedCells.Sorting.Algorithms

/-!
# Sorting arrays

An array of integers can be sorted by any of five algorithms. They differ in how they get
there and in the operation they name in a failure. Elements of one kind that hold the same
number are the same cell, so the sorted arrays do not differ.
-/

set_option autoImplicit false

namespace TaggedCells

/-- A way of sorting. -/
inductive SortAlgorithm where
  | bubble
  | insertion
  | selection
  | merge
  | quick
  deriving DecidableEq, Repr

namespace SortAlgorithm

/-- Every algorithm, in declaration order. -/
def all : List SortAlgorithm := [.bubble, .insertion, .selection, .merge, .quick]

/-- The algorithm of those who do not choose. -/
def standard : SortAlgorithm := .bubble

/-- The lowercase name. -/
def name : SortAlgorithm → String
  | .bubble => "bubble"
  | .insertion => "insertion"
  | .selection => "selection"
  | .merge => "merge"
  | .quick => "quick"

/-- The operation that a failure names; the standard algorithm is plain sorting. -/
def operation : SortAlgorithm → String
  | .bubble => "sort"
  | .insertion => "sort_insertion"
  | .selection => "sort_selection"
  | .merge => "sort_merge"
  | .quick => "sort_quick"

/-- The elements in ascending order of their keys. -/
def arrange {α : Type} (algorithm : SortAlgorithm) (key : α → Int) : List α → List α :=
  match algorithm with
  | .bubble => Sorting.bubble key
  | .insertion => Sorting.insertion key
  | .selection => Sorting.selection key
  | .merge => Sorting.merging key
  | .quick => Sorting.quick key

end SortAlgorithm

variable {m : Type → Type} [Monad m]

/-- Sorts an array of integers in ascending order. -/
def CellArray.sort (algorithm : SortAlgorithm) : Edit CellArray m Unit := do
  let array ← get
  array.requireIntegers algorithm.operation
  set (array.withElements (algorithm.arrange Cell.number array.elements))

/-- Sorts the array of integers that a cell holds. -/
def Cell.sort (algorithm : SortAlgorithm) : Edit Cell m Unit :=
  editArray algorithm.operation (CellArray.sort algorithm)

end TaggedCells

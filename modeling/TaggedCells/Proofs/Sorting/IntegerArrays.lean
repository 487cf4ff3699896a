import TaggedCells.Proofs.Sorting.InPlace
import TaggedCells.Proofs.Cell.Integers
import TaggedCells.Proofs.Cell.Order
import TaggedCells.Proofs.CellArray.Precondition

/-!
# Sorted arrays of integers

Cells of one integer kind are ordered by their numbers, and a cell is determined by its number.
So sorting an array of integers by number arranges its cells in the order of cells, and there is
one such arrangement only (`sort_leaves_the_arrangement`): each algorithm succeeds, none loses,
doubles or empties a cell, and all five leave the same array.
-/

set_option autoImplicit false

namespace TaggedCells

namespace Cell

theorem lessEqual_integer_iff {kind : IntKind} {left right : Cell}
    (leftKind : left.kind = .integer kind) (rightKind : right.kind = .integer kind) :
    left.lessEqual right = .ok true ↔ left.number ≤ right.number := by
  rw [lessEqual, order_integer leftKind rightKind]
  show Except.ok (compare left.number right.number).isLE = Except.ok true ↔ _
  rw [Except.ok.injEq, Int.isLE_compare]

end Cell

section Runs

variable {m : Type → Type} [Monad m] [LawfulMonad m]

theorem CellArray.apply_sort (algorithm : SortAlgorithm) (array : CellArray) :
    (CellArray.sort algorithm : Edit CellArray m Unit).apply array
      = pure (match array.requireIntegers algorithm.operation with
          | .ok () =>
              (.ok (), array.withElements (algorithm.arrange Cell.number array.elements))
          | .error failure => (.error failure, array)) := by
  unfold CellArray.sort
  simp only [Edit.apply_bind, Edit.apply_get, pure_bind, Edit.apply_lift_outcome]
  cases array.requireIntegers algorithm.operation <;> simp

/-- Under a key that is a number of cells of one kind, every algorithm gives the arrangement of
the standard one. -/
theorem arrange_eq_standard {kind : IntKind} {elements : List Cell}
    (uniform : ∀ element ∈ elements, element.kind = .integer kind) (algorithm : SortAlgorithm) :
    algorithm.arrange Cell.number elements
      = SortAlgorithm.standard.arrange Cell.number elements := by
  refine Sorting.Arranges.unique ?_ (algorithm.arrange_arranges Cell.number elements)
    (SortAlgorithm.standard.arrange_arranges Cell.number elements)
  intro left leftIn right rightIn agree
  exact Cell.eq_of_number_eq (uniform left leftIn) (uniform right rightIn) agree

/-- What an algorithm makes of integers is in the order of cells. -/
theorem Cell.pairwise_arrange {kind : IntKind} {elements : List Cell}
    (uniform : ∀ element ∈ elements, element.kind = .integer kind) (algorithm : SortAlgorithm) :
    (algorithm.arrange Cell.number elements).Pairwise
      fun left right => left.lessEqual right = .ok true := by
  obtain ⟨kept, rising⟩ := algorithm.arrange_arranges Cell.number elements
  refine rising.imp_of_mem fun leftIn rightIn ordered => ?_
  exact (Cell.lessEqual_integer_iff (uniform _ (kept.mem_iff.mp leftIn))
    (uniform _ (kept.mem_iff.mp rightIn))).mpr ordered

/-- Sorting an array of integers succeeds and arranges them. -/
theorem Cell.apply_sort_integers {kind : IntKind} {elements : List Cell}
    (uniform : ∀ element ∈ elements, element.kind = .integer kind) (algorithm : SortAlgorithm) :
    (Cell.sort algorithm : Edit Cell m Unit).apply (.array (.integer kind) elements)
      = pure (.ok (), .array (.integer kind)
          (SortAlgorithm.standard.arrange Cell.number elements)) := by
  have accepted :
      CellArray.requireIntegers ⟨.integer kind, elements⟩ algorithm.operation = .ok () :=
    CellArray.requireIntegers_eq_ok_iff.mpr ⟨rfl, uniform⟩
  rw [Cell.sort, Cell.apply_editArray]
  simp only [Cell.array?, CellArray.apply_sort, accepted, pure_bind, arrange_eq_standard uniform,
    CellArray.withElements, CellArray.toCell]

/-- **Sorting an array of integers leaves its one arrangement, whatever the algorithm.** -/
theorem sort_leaves_the_arrangement (kind : IntKind) (elements : List Cell)
    (uniform : ∀ element ∈ elements, element.kind = .integer kind) :
    ∃ sorted : List Cell,
      sorted.Perm elements
        ∧ sorted.Pairwise (fun left right => left.lessEqual right = .ok true)
        ∧ ∀ algorithm : SortAlgorithm,
            (Cell.sort algorithm : Edit Cell m Unit).apply (.array (.integer kind) elements)
                = pure (.ok (), .array (.integer kind) sorted)
              ∧ algorithm.inPlace Cell.number .invalid elements = some sorted := by
  refine ⟨SortAlgorithm.standard.arrange Cell.number elements,
    (SortAlgorithm.standard.arrange_arranges Cell.number elements).perm,
    Cell.pairwise_arrange uniform .standard, ?_⟩
  intro algorithm
  constructor
  · exact Cell.apply_sort_integers uniform algorithm
  · rw [algorithm.inPlace_eq_arrange, arrange_eq_standard uniform]

end Runs

/-- Three signed bytes, the largest and the smallest of them among them. -/
def threeBytes : List Cell :=
  [.ofWord (.sized .signed .eight) 127, .ofWord (.sized .signed .eight) (-128),
    .ofWord (.sized .signed .eight) 0]

theorem sort_leaves_the_arrangement_bytes :
    (∀ element ∈ threeBytes, element.kind = .integer (.sized .signed .eight))
      ∧ ∃ sorted : List Cell,
          sorted.Perm threeBytes
            ∧ sorted.Pairwise (fun left right => left.lessEqual right = .ok true)
            ∧ ∀ algorithm : SortAlgorithm,
                (Cell.sort algorithm : Edit Cell Id Unit).apply
                    (.array (.integer (.sized .signed .eight)) threeBytes)
                  = pure (.ok (), .array (.integer (.sized .signed .eight)) sorted)
                ∧ algorithm.inPlace Cell.number .invalid threeBytes = some sorted := by
  have uniform : ∀ element ∈ threeBytes, element.kind = .integer (.sized .signed .eight) := by
    decide
  exact ⟨uniform, sort_leaves_the_arrangement _ threeBytes uniform⟩

end TaggedCells

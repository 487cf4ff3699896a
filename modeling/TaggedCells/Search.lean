import TaggedCells.Cell.Compare
import TaggedCells.CellArray.Precondition

/-!
# Searching arrays

A search looks for an element that is equal to a key in the order of cells, in one of six ways:
one by one or by halving, and for any position, the first or the last.

One by one, the elements are compared with the key in order, from either end, until one is equal.
By halving, a half-open interval of positions is halved until it is empty, and each probe compares
the element in the middle with the key. In a sorted array the interval always contains the position
looked for; in any other array the probes decide what is found, and what is found is still equal to
the key.

Every search asks for an array, a key that is not erased, homogeneous elements, and a key of
their kind, in this order. Under these conditions the comparisons cannot fail, and a search
that meets no equal element ends without a find.
-/

set_option autoImplicit false

namespace TaggedCells

namespace Search

/-! ## One by one -/

/-- The position of the first element equal to the key, of elements that are listed with their
positions. -/
def firstEqual (key : Cell) (placed : List (Cell × Nat)) : Except Failure (Option Nat) := do
  let found ← placed.findM? fun (element, _) => element.equal key
  return found.map Prod.snd

/-- The least position with an element equal to the key. -/
def fromFront (elements : List Cell) (key : Cell) : Except Failure (Option Nat) :=
  firstEqual key elements.zipIdx

/-- The greatest position with an element equal to the key. -/
def fromBack (elements : List Cell) (key : Cell) : Except Failure (Option Nat) :=
  firstEqual key elements.zipIdx.reverse

/-! ## By halving -/

/-- The middle of a non-empty interval of positions. -/
def middle (low high : Nat) : Nat := low + (high - low) / 2

/-- Halves the interval from `low` up to `high` to a position that the test does not hold of
and whose predecessor it holds of, as far as those positions exist. -/
def bisect {m : Type → Type} [Monad m] {length : Nat} (before : Fin length → m Bool)
    (low high : Nat) (bounded : high ≤ length) : m Nat :=
  if less : low < high then do
    if ← before ⟨middle low high, by unfold middle; omega⟩ then
      bisect before (middle low high + 1) high bounded
    else
      bisect before low (middle low high) (by unfold middle; omega)
  else pure low
  termination_by high - low
  decreasing_by all_goals (unfold middle; omega)

/-- A position in the interval whose element is equal to the key, if a probe meets one. -/
def probe (elements : List Cell) (key : Cell) (low high : Nat)
    (bounded : high ≤ elements.length) : Except Failure (Option Nat) :=
  if less : low < high then do
    match ← (elements.get ⟨middle low high, by unfold middle; omega⟩).order key with
    | .eq => return some (middle low high)
    | .lt => probe elements key (middle low high + 1) high bounded
    | .gt => probe elements key low (middle low high) (by unfold middle; omega)
  else return none
  termination_by high - low
  decreasing_by all_goals (unfold middle; omega)

/-- The first position that the test on the order of element and key does not hold of. -/
def bound (elements : List Cell) (key : Cell) (before : Ordering → Bool) : Except Failure Nat :=
  bisect (fun position => before <$> (elements.get position).order key) 0 elements.length
    (Nat.le_refl _)

/-- The position, if there is an element at it and that element is equal to the key. -/
def confirm (elements : List Cell) (key : Cell) (position : Nat) : Except Failure (Option Nat) :=
  match elements[position]? with
  | none => return none
  | some element => do return if ← element.equal key then some position else none

/-- A position with an element equal to the key. -/
def byHalving (elements : List Cell) (key : Cell) : Except Failure (Option Nat) :=
  probe elements key 0 elements.length (Nat.le_refl _)

/-- The position of the first element not before the key, if that element is equal to it. -/
def firstByHalving (elements : List Cell) (key : Cell) : Except Failure (Option Nat) := do
  confirm elements key (← bound elements key Ordering.isLT)

/-- The position of the last element not after the key, if that element is equal to it. -/
def lastByHalving (elements : List Cell) (key : Cell) : Except Failure (Option Nat) := do
  match ← bound elements key Ordering.isLE with
  | 0 => return none
  | position + 1 => confirm elements key position

end Search

/-! ## Ways of searching -/

/-- A way of searching. -/
inductive Search where
  | linear
  | linearFirst
  | linearLast
  | binary
  | binaryFirst
  | binaryLast
  deriving DecidableEq, Repr

namespace Search

/-- Every way of searching. -/
def all : List Search := [.linear, .linearFirst, .linearLast, .binary, .binaryFirst, .binaryLast]

/-- The operation that a failure names. -/
def operation : Search → String
  | .linear => "search_linear"
  | .linearFirst => "search_linear_first"
  | .linearLast => "search_linear_last"
  | .binary => "search_binary"
  | .binaryFirst => "search_binary_first"
  | .binaryLast => "search_binary_last"

/-- Looks for an element equal to the key. -/
def look (search : Search) : List Cell → Cell → Except Failure (Option Nat) :=
  match search with
  | .linear | .linearFirst => fromFront
  | .linearLast => fromBack
  | .binary => byHalving
  | .binaryFirst => firstByHalving
  | .binaryLast => lastByHalving

/-- The elements to search: those of the array that the cell holds, which have to carry the
kind of the key. -/
def searchable (search : Search) (cell key : Cell) : Except Failure (List Cell) := do
  let array ← cell.array? search.operation
  if key.isInvalid then (Cause.nullInput search.operation).raise
  array.requireHomogeneous search.operation
  if key.kind ≠ array.kind then (Cause.typeMismatch array.kind key.kind).raise
  return array.elements

/-- The position of an element equal to the key. -/
def find (search : Search) (cell key : Cell) : Except Failure Nat := do
  let elements ← search.searchable cell key
  match ← search.look elements key with
  | some position => return position
  | none => Cause.notFound.raise

end Search
end TaggedCells

import TaggedCells.CellArray.Precondition
import TaggedCells.Randomness.ChaCha
import TaggedCells.Randomness.Draw

/-!
# Rearrangement

The elements of a homogeneous array are put in another order, or those of a section of it: the
stretch of positions from a start up to a stop. Rearranging a section leaves what stands before
and after it alone.

Reversing puts the elements in the opposite order. Shuffling puts them in a random order by the
Fisher–Yates walk. The choices come from the caller. A source of words supplies them where the
monad holds one, and a seed where nothing else is given. Nothing is chosen before every check has
passed.
-/

set_option autoImplicit false

namespace TaggedCells

open Randomness (WordSource Generator draw fisherYates)

/-! ## Sections -/

section Sections

variable {α : Type}

/-- The elements of a section. -/
def sectionOf (start stop : Nat) (elements : List α) : List α := (elements.take stop).drop start

/-- The elements with other ones in place of a section. -/
def spliced (start stop : Nat) (elements middle : List α) : List α :=
  elements.take start ++ middle ++ elements.drop stop

end Sections

variable {m : Type → Type} [Monad m]

/-! ## Reversing -/

/-- Reverses all elements. -/
def CellArray.reverse : Edit CellArray m Unit := do
  let array ← get
  array.requireHomogeneous "reverse"
  set (array.withElements array.elements.reverse)

/-- Reverses the elements of a section. -/
def CellArray.reverseRange (start stop : Nat) : Edit CellArray m Unit := do
  let array ← get
  array.requireHomogeneous "reverse_range"
  array.requireRange start stop "reverse_range"
  let turned := (sectionOf start stop array.elements).reverse
  set (array.withElements (spliced start stop array.elements turned))

/-- Reverses the array that a cell holds. -/
def Cell.reverse : Edit Cell m Unit := editArray "reverse" CellArray.reverse

/-- Reverses a section of the array that a cell holds. -/
def Cell.reverseRange (start stop : Nat) : Edit Cell m Unit :=
  editArray "reverse_range" (CellArray.reverseRange start stop)

/-! ## Shuffling -/

/-- The elements of a list in the order that the walk leaves them in. -/
def shuffled {α : Type} (choose : (greatest : Nat) → m (Fin (greatest + 1)))
    (elements : List α) : m (List α) := do
  let vector ← fisherYates choose elements.toArray.toVector
  return vector.toList

/-- Shuffles all elements. -/
def CellArray.shuffle (choose : (greatest : Nat) → m (Fin (greatest + 1))) :
    Edit CellArray m Unit := do
  let array ← get
  array.requireHomogeneous "shuffle"
  let mixed ← (shuffled choose array.elements : m _)
  set (array.withElements mixed)

/-- Shuffles the elements of a section. -/
def CellArray.shuffleRange (start stop : Nat)
    (choose : (greatest : Nat) → m (Fin (greatest + 1))) : Edit CellArray m Unit := do
  let array ← get
  array.requireHomogeneous "shuffle_range"
  array.requireRange start stop "shuffle_range"
  let mixed ← (shuffled choose (sectionOf start stop array.elements) : m _)
  set (array.withElements (spliced start stop array.elements mixed))

/-- Shuffles the array that a cell holds. -/
def Cell.shuffle (choose : (greatest : Nat) → m (Fin (greatest + 1))) : Edit Cell m Unit :=
  editArray "shuffle" (CellArray.shuffle choose)

/-- Shuffles a section of the array that a cell holds. -/
def Cell.shuffleRange (start stop : Nat)
    (choose : (greatest : Nat) → m (Fin (greatest + 1))) : Edit Cell m Unit :=
  editArray "shuffle_range" (CellArray.shuffleRange start stop choose)

/-- Chooses by drawing from the source of words that the monad holds. -/
def chooseFrom (σ : Type) [WordSource σ] [MonadStateOf σ m] (greatest : Nat) :
    m (Fin (greatest + 1)) :=
  modifyGetThe σ (draw greatest)

/-- Shuffles the array that a cell holds, with a generator that the seed starts. -/
def Cell.shuffleSeeded (seed : UInt64) : Edit Cell m Unit := do
  let cell ← get
  let shuffling : Edit Cell (StateM Generator) Unit := Cell.shuffle (chooseFrom Generator)
  let ((outcome, after), _) := Id.run ((shuffling.apply cell).run (Generator.ofSeed seed))
  set after
  outcome

end TaggedCells

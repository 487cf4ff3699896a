import TaggedCells.Words

/-!
# Drawing numbers and orders

A source gives words of 64 bits one after the other. It also states how many words one has to
look at to have seen every word that it will ever give, which bounds a search for a suitable
word.

To draw a number below a bound, a word is multiplied by the number of choices. The high half of the
product is the number drawn and the low half tells whether the word is fair: words whose low half
exceeds the zone are passed over, so that every choice is left with equally many words. A source
need not have a fair word at all. The search therefore ends after as many words as the source can
still surprise with, and draws zero then.

The Fisher–Yates walk goes from the last position down to the second and exchanges the element
there with one at a chosen position no higher. What the elements are plays no part: the choices
alone decide where each element ends up.
-/

set_option autoImplicit false

namespace TaggedCells.Randomness

/-! ## Sources -/

/-- A supply of words of 64 bits. -/
class WordSource (σ : Type) where
  /-- The next word, and the source after it. -/
  next : σ → UInt64 × σ
  /-- A number of words after which no new word comes. -/
  reach : σ → Nat

/-- Given words, and zeros for ever after them. -/
structure GivenWords where
  words : List UInt64

instance : WordSource GivenWords where
  next
    | ⟨[]⟩ => (0, ⟨[]⟩)
    | ⟨word :: words⟩ => (word, ⟨words⟩)
  reach source := source.words.length + 1

/-! ## Numbers -/

section Numbers

/-- The number of words. -/
def wordCount : Nat := 2 ^ (64 : Nat)

/-- The greatest low half of a product that is fair: a multiple of the number of choices by a
power of two, as large as a word can be, less one. -/
def fairZone (choices : Nat) : Nat := choices * 2 ^ (63 - choices.log2) - 1

/-- Whether a word is fair for a number of choices. -/
def isFair (choices : Nat) (word : UInt64) : Bool :=
  word.toNat * choices % wordCount ≤ fairZone choices

/-- The choice that a word stands for. -/
def choice (greatest : Nat) (word : UInt64) : Fin (greatest + 1) :=
  ⟨word.toNat * (greatest + 1) / wordCount, by
    have bounded : word.toNat < wordCount := word.toNat_lt
    exact Nat.div_lt_of_lt_mul (Nat.mul_lt_mul_of_pos_right bounded (Nat.succ_pos greatest))⟩

variable {σ : Type} [WordSource σ]

/-- Draws from the first fair word among the next `patience` words. -/
def drawWithin (greatest : Nat) : Nat → σ → Fin (greatest + 1) × σ
  | 0, source => (0, source)
  | patience + 1, source =>
      let (word, later) := WordSource.next source
      if isFair (greatest + 1) word then (choice greatest word, later)
      else drawWithin greatest patience later

/-- Draws a number from zero to `greatest`. -/
def draw (greatest : Nat) (source : σ) : Fin (greatest + 1) × σ :=
  drawWithin greatest (WordSource.reach source) source

end Numbers

/-! ## Orders -/

variable {m : Type → Type} [Monad m] {α : Type}

/-- Walks down from a position, choosing for each position a place no higher. -/
def walkDown (choose : (greatest : Nat) → m (Fin (greatest + 1))) {length : Nat} :
    (position : Nat) → position < length → Vector α length → m (Vector α length)
  | 0, _, elements => pure elements
  | lower + 1, inside, elements => do
      let chosen ← choose (lower + 1)
      walkDown choose lower (by omega)
        (elements.swap (lower + 1) chosen inside (by omega))

/-- Walks over all positions of a sequence. -/
def fisherYates (choose : (greatest : Nat) → m (Fin (greatest + 1))) {length : Nat}
    (elements : Vector α length) : m (Vector α length) :=
  if occupied : 0 < length then walkDown choose (length - 1) (by omega) elements
  else pure elements

end TaggedCells.Randomness

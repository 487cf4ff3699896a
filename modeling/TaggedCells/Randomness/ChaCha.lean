import TaggedCells.Randomness.Draw

/-!
# The ChaCha generator

The generator runs the ChaCha block function with eight rounds over a counter of 64 bits and a
nonce of zero. Its key comes from a seed of 64 bits by a linear congruential sequence, whose
states are scrambled into one key word each. A random word of 64 bits is made of two words of a
block, the low half first, and a block of sixteen words is used up before the next is made.

The counter starts at zero and returns to it after `2 ^ 64` blocks of eight random words, so
the words repeat after `2 ^ 67`.
-/

set_option autoImplicit false

namespace TaggedCells.Randomness

/-- The sixteen words of a block. -/
abbrev Block := Vector UInt32 16

/-- Turns the bits of a word to the left. -/
def rotateLeft (word amount : UInt32) : UInt32 := (word <<< amount) ||| (word >>> (32 - amount))

/-- Turns the bits of a word to the right. -/
def rotateRight (word amount : UInt32) : UInt32 := rotateLeft word (32 - amount)

/-- Mixes four words of a block. -/
def quarterRound (a b c d : Fin 16) (block : Block) : Block :=
  let step (target source mixed : Fin 16) (amount : UInt32) (block : Block) : Block :=
    let block := block.set target (block[target] + block[source])
    block.set mixed (rotateLeft (block[mixed] ^^^ block[target]) amount)
  step a b d 16 block |> step c d b 12 |> step a b d 8 |> step c d b 7

/-- Mixes the columns of the block and then its diagonals. -/
def doubleRound (block : Block) : Block :=
  quarterRound 0 4 8 12 block |> quarterRound 1 5 9 13 |> quarterRound 2 6 10 14
    |> quarterRound 3 7 11 15 |> quarterRound 0 5 10 15 |> quarterRound 1 6 11 12
    |> quarterRound 2 7 8 13 |> quarterRound 3 4 9 14

/-- The four words that every block starts from. -/
def constants : Vector UInt32 4 := #v[0x61707865, 0x3320646e, 0x79622d32, 0x6b206574]

/-- The block of a key at a counter: eight rounds over the initial words, added to them. -/
def chachaBlock (key : Vector UInt32 8) (counter : UInt64) : Block :=
  let initial : Block :=
    constants ++ key ++ #v[counter.toUInt32, (counter >>> 32).toUInt32, 0, 0]
  let mixed := Nat.repeat doubleRound 4 initial
  mixed.zipWith (· + ·) initial

/-- The next state of the sequence that a seed starts. -/
def seedStep (state : UInt64) : UInt64 := state * 6364136223846793005 + 11634580027462260723

/-- The key word of a state: some of its bits, turned to the right by its top five. -/
def seedWord (state : UInt64) : UInt32 :=
  let scrambled := (((state >>> 18) ^^^ state) >>> 27).toUInt32
  rotateRight scrambled (state >>> 59).toUInt32

/-- The key of a seed, one word for each of the eight states after it. -/
def seedKey (seed : UInt64) : Vector UInt32 8 :=
  Vector.ofFn fun place => seedWord (Nat.repeat seedStep (place + 1) seed)

/-- A key, and how many random words have been drawn with it. -/
structure Generator where
  key : Vector UInt32 8
  drawn : Nat := 0
  deriving DecidableEq

namespace Generator

/-- The generator that a seed starts. -/
def ofSeed (seed : UInt64) : Generator := { key := seedKey seed }

/-- The random word at a place in the sequence. -/
def word (generator : Generator) (place : Nat) : UInt64 :=
  let block := chachaBlock generator.key (UInt64.ofNat (place / 8))
  let low := block[2 * (place % 8)]
  let high := block[2 * (place % 8) + 1]
  low.toUInt64 ||| (high.toUInt64 <<< 32)

instance : WordSource Generator where
  next generator :=
    (generator.word generator.drawn, { generator with drawn := generator.drawn + 1 })
  reach _ := 2 ^ (67 : Nat)

end Generator

end TaggedCells.Randomness

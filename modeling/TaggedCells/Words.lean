/-!
# Words

A word of some number of bits holds a closed interval of numbers: two's complement if one of the
bits is a sign, everything below a power of two if none is. A sum or a product of words of 64 bits
can stay at the largest word instead of exceeding it.

A power of a number is the one of the core library, also where other powers are in scope.
-/

set_option autoImplicit false

attribute [instance (2000)] instPowNat

namespace TaggedCells

/-! ## Intervals of numbers -/

/-- A closed interval of numbers. -/
structure Bounds where
  least : Int
  greatest : Int
  deriving DecidableEq, Repr

namespace Bounds

/-- The numbers that two's complement reaches with `bits` bits. -/
def signed (bits : Nat) : Bounds := ⟨-2 ^ (bits - 1), 2 ^ (bits - 1) - 1⟩

/-- The numbers that `bits` bits reach without a sign. -/
def unsigned (bits : Nat) : Bounds := ⟨0, 2 ^ bits - 1⟩

/-- Whether a number lies in the interval. -/
def contains (bounds : Bounds) (number : Int) : Bool :=
  bounds.least ≤ number && number ≤ bounds.greatest

end Bounds

/-! ## Sums and products -/

/-- The sum of two words, or the largest word. -/
def addSaturating (left right : UInt64) : UInt64 :=
  UInt64.ofNat (min (left.toNat + right.toNat) (2 ^ (64 : Nat) - 1))

/-- The product of two words, or the largest word. -/
def mulSaturating (left right : UInt64) : UInt64 :=
  UInt64.ofNat (min (left.toNat * right.toNat) (2 ^ (64 : Nat) - 1))

theorem toNat_ofNat_min (number : Nat) :
    (UInt64.ofNat (min number (2 ^ (64 : Nat) - 1))).toNat = min number (2 ^ (64 : Nat) - 1) := by
  refine UInt64.toNat_ofNat_of_lt' ?_
  show _ < 2 ^ (64 : Nat)
  omega

theorem toNat_addSaturating (left right : UInt64) :
    (addSaturating left right).toNat = min (left.toNat + right.toNat) (2 ^ (64 : Nat) - 1) :=
  toNat_ofNat_min _

theorem toNat_mulSaturating (left right : UInt64) :
    (mulSaturating left right).toNat = min (left.toNat * right.toNat) (2 ^ (64 : Nat) - 1) :=
  toNat_ofNat_min _

end TaggedCells

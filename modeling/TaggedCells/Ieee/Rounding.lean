import TaggedCells.Ieee.Format
import TaggedCells.Text

/-!
# Rounding

A quotient of natural numbers is rounded to the nearest whole number, a half to the even
neighbour. Two roundings are built from it: to the nearest binary number with as many
significant bits as a format has, and from a binary number to a fixed count of decimal places.
The exponent range of the format plays no part, so both are meant for numbers well inside it.
-/

set_option autoImplicit false

namespace TaggedCells.Ieee

/-- The whole number nearest to a quotient, the even one of two equally near. -/
def roundQuotient (numerator denominator : Nat) : Nat :=
  let below := numerator / denominator
  let twice := 2 * (numerator % denominator)
  if twice < denominator then below
  else if denominator < twice then below + 1
  else below + below % 2

/-- The number `significand · 2 ^ exponent`. -/
structure Binary where
  significand : Nat
  exponent : Int
  deriving DecidableEq, Repr

namespace Binary

/-- The numerator of the number over `2 ^ (-exponent)`, for any exponent. -/
def numerator (binary : Binary) : Nat := binary.significand * 2 ^ binary.exponent.toNat

/-- The denominator that goes with the numerator. -/
def denominator (binary : Binary) : Nat := 2 ^ (-binary.exponent).toNat

/-- The number with a fixed count of places after the point. -/
def fixed (binary : Binary) (places : Nat) : String :=
  Text.placed (roundQuotient (binary.numerator * 10 ^ places) binary.denominator) places

end Binary

/-- The binary number nearest to a positive quotient that has no more significant bits than the
format. The exponent is first guessed from the lengths of the two numbers, which is right or
one too large. -/
def Format.nearest (format : Format) (numerator denominator : Nat) : Binary :=
  let guess : Int := numerator.log2 - denominator.log2 - format.fractionBits
  let scaled (exponent : Int) : Nat × Nat :=
    (numerator * 2 ^ (-exponent).toNat, denominator * 2 ^ exponent.toNat)
  let tooLarge := (scaled guess).1 < 2 ^ format.fractionBits * (scaled guess).2
  let exponent := if tooLarge then guess - 1 else guess
  ⟨roundQuotient (scaled exponent).1 (scaled exponent).2, exponent⟩

end TaggedCells.Ieee

import TaggedCells.Words

/-!
# Binary floating point formats

A floating point number of the usual binary formats is a bit pattern: a sign bit, an exponent
field and a fraction field, highest first. Patterns are read as natural numbers here, so the
same definitions serve both widths.

The largest exponent field is set aside for infinity (no fraction) and for the values that are
not numbers (any other fraction). The exponent field zero holds the zeros and the subnormal
numbers, which have no hidden leading bit. A finite pattern stands for
`significand · 2 ^ exponent`, negated if the sign bit is set.

Numbers are ordered by value. Below the sign bit a larger number has a larger pattern, so the
magnitude of the pattern, negated where the sign bit is set, is a key for the order: the two
zeros share the key zero, and the infinities lie beyond every finite number. The values that
are not numbers are equal to each other and above everything else.
-/

set_option autoImplicit false

namespace TaggedCells.Ieee

/-- The widths of the two fields below the sign bit. -/
structure Format where
  exponentBits : Nat
  fractionBits : Nat
  deriving DecidableEq, Repr

/-- Single precision, 32 bits in all. -/
def single : Format := ⟨8, 23⟩

/-- Double precision, 64 bits in all. -/
def double : Format := ⟨11, 52⟩

namespace Format

variable (format : Format)

/-- The pattern without its sign bit. -/
def magnitude (pattern : Nat) : Nat := pattern % 2 ^ (format.exponentBits + format.fractionBits)

/-- Whether the sign bit is set. -/
def isNegative (pattern : Nat) : Bool :=
  pattern.testBit (format.exponentBits + format.fractionBits)

/-- The exponent field. -/
def exponentField (pattern : Nat) : Nat := format.magnitude pattern / 2 ^ format.fractionBits

/-- The fraction field. -/
def fractionField (pattern : Nat) : Nat := pattern % 2 ^ format.fractionBits

/-- The magnitude of the two infinities. -/
def infinity : Nat := (2 ^ format.exponentBits - 1) * 2 ^ format.fractionBits

/-- Whether the pattern is not a number. -/
def isNaN (pattern : Nat) : Bool := format.infinity < format.magnitude pattern

/-- Whether the pattern is an infinity of either sign. -/
def isInfinite (pattern : Nat) : Bool := format.magnitude pattern == format.infinity

/-- The significand of a finite pattern, with the hidden bit of a normal number. -/
def significand (pattern : Nat) : Nat :=
  if format.exponentField pattern = 0 then format.fractionField pattern
  else 2 ^ format.fractionBits + format.fractionField pattern

/-- The exponent of a finite pattern, counted at the last bit of the significand. -/
def exponent (pattern : Nat) : Int :=
  (max (format.exponentField pattern) 1 : Nat)
    - (2 ^ (format.exponentBits - 1) - 1 : Nat) - format.fractionBits

end Format

/-! ## The order -/

/-- The key by which the patterns that are numbers are ordered. -/
def Format.orderKey (format : Format) (pattern : Nat) : Int :=
  if format.isNegative pattern then -(format.magnitude pattern : Int)
  else format.magnitude pattern

/-- The order of two patterns by value. -/
def Format.order (format : Format) (left right : Nat) : Ordering :=
  match format.isNaN left, format.isNaN right with
  | false, false => compare (format.orderKey left) (format.orderKey right)
  | false, true => .lt
  | true, false => .gt
  | true, true => .eq

end TaggedCells.Ieee

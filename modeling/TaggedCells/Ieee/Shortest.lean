import TaggedCells.Ieee.Format
import TaggedCells.Text

/-!
# The shortest decimal of a floating point number

The numbers that round to a given floating point number form an interval around it. The
shortest decimal is the one in that interval with the largest unit, that is, with the fewest
digits; if two decimals of that unit lie in the interval, it is the nearer one, and the larger
of two equally near.

A floating point number has at most two neighbours among the decimals of a unit, and if any
decimal of a unit lies in the interval then so does a neighbour. So the units are tried from a
power of ten above the number downwards, and the first with a neighbour in the interval wins.
-/

set_option autoImplicit false

namespace TaggedCells.Ieee

open TaggedCells.Text (Decimal)

/-- A positive number `value · 2 ^ scale` with the interval of the numbers that round to it,
its ends counted in the same unit. -/
structure Interval where
  lower : Nat
  value : Nat
  upper : Nat
  scale : Int
  /-- Whether the two ends belong to the interval. -/
  closed : Bool

/-- The interval of a finite pattern: half a step to either side, but only a quarter of a step
downwards where the exponent falls below the number. The ends round to the number exactly when
its significand is even. -/
def Format.interval (format : Format) (pattern : Nat) : Interval :=
  let significand := format.significand pattern
  let atBinade := format.fractionField pattern == 0 && 1 < format.exponentField pattern
  { lower := 4 * significand - if atBinade then 1 else 2
    value := 4 * significand
    upper := 4 * significand + 2
    scale := format.exponent pattern - 2
    closed := significand % 2 == 0 }

namespace Interval

variable (interval : Interval)

/-- What a count of binary units is multiplied by to compare it with decimals of a unit. -/
def binaryFactor (unit : Int) : Nat := 2 ^ interval.scale.toNat * 10 ^ (-unit).toNat

/-- What a count of decimal units is multiplied by for the same comparison. -/
def decimalFactor (unit : Int) : Nat := 2 ^ (-interval.scale).toNat * 10 ^ unit.toNat

/-- Whether a count of decimal units lies in the interval. -/
def contains (unit : Int) (count : Nat) : Bool :=
  let point := count * interval.decimalFactor unit
  let lower := interval.lower * interval.binaryFactor unit
  let upper := interval.upper * interval.binaryFactor unit
  if interval.closed then lower ≤ point && point ≤ upper else lower < point && point < upper

/-- The neighbour that lies in the interval, the nearer of the two where both do. -/
def neighbour? (unit : Int) : Option Decimal :=
  let value := interval.value * interval.binaryFactor unit
  let step := interval.decimalFactor unit
  let below := value / step
  match interval.contains unit below, interval.contains unit (below + 1) with
  | false, false => none
  | true, false => some ⟨below, unit⟩
  | false, true => some ⟨below + 1, unit⟩
  | true, true => some ⟨if 2 * (value % step) < step then below else below + 1, unit⟩

/-- The exponent of a power of ten above the interval: with `value` below two to the `size`,
a third of the size suffices above one and a quarter of it below one. -/
def topUnit : Int :=
  let size : Int := interval.upper.log2 + 1 + interval.scale
  max (size / 3) (size / 4) + 1

/-- A unit of which every number of this scale is a multiple. -/
def bottomUnit : Int := min interval.scale 0

/-- The number itself, as a decimal of the bottom unit. -/
def exact : Decimal :=
  ⟨interval.value * 2 ^ interval.scale.toNat * 5 ^ (-interval.scale).toNat, interval.bottomUnit⟩

/-- The shortest decimal in the interval. The exact value is a last resort that is not needed:
it is the neighbour of the bottom unit. -/
def shortest : Decimal :=
  let steps := (interval.topUnit - interval.bottomUnit).toNat + 1
  ((List.range steps).findSome? fun (step : Nat) =>
    interval.neighbour? (interval.topUnit - step)).getD
    interval.exact

end Interval

/-- The text of a pattern: the shortest decimal of a number, written positionally and with its
sign, and words for the patterns that are no finite number. -/
def Format.text (format : Format) (pattern : Nat) : String :=
  let sign := if format.isNegative pattern then "-" else ""
  if format.isNaN pattern then "NaN"
  else if format.isInfinite pattern then sign ++ "inf"
  else if format.significand pattern = 0 then sign ++ "0"
  else sign ++ (format.interval pattern).shortest.text

end TaggedCells.Ieee

import TaggedCells.Cell
import TaggedCells.Ieee.Format

/-!
# Comparing cells

Two scalars of the same kind are ordered by value: integers as numbers whatever their view,
floats as numbers with NaN above all, text byte by byte in UTF-8, characters by code point,
false before true, opaque patterns as unsigned numbers. Two null cells are equal.

The failures come in this order: an erased operand, an operand that cannot be interpreted, two
kinds, and two compound cells. When one operand cannot be interpreted, the kind named is that
of the other operand.
-/

set_option autoImplicit false

namespace TaggedCells.Cell

/-- The bytes of a text in UTF-8. -/
def utf8 (text : String) : List UInt8 := text.toUTF8.data.toList

/-- The order of two cells that carry the same kind. -/
def orderAlike : Cell → Cell → Except Failure Ordering
  | .float left, .float right => .ok (Ieee.single.order left.toNat right.toNat)
  | .double left, .double right => .ok (Ieee.double.order left.toNat right.toNat)
  | .string left, .string right => .ok (compare (utf8 left) (utf8 right))
  | .char left, .char right => .ok (compare left.val right.val)
  | .bool left, .bool right => .ok (compare left right)
  | .qbit left, .qbit right => .ok (compare left.toNat right.toNat)
  | .null, .null => .ok .eq
  | .array _ _, _ => (Cause.unsupported "compare" .array).raise
  | .map _, _ => (Cause.unsupported "compare" .map).raise
  | left, right =>
      match left.integer?, right.integer? with
      | some leftNumber, some rightNumber => .ok (compare leftNumber rightNumber)
      | _, _ => (Cause.unknown left.kind).raise

/-- The order of two cells, where they have one. -/
def order (left right : Cell) : Except Failure Ordering :=
  match left, right with
  | .invalid, _ | _, .invalid => (Cause.nullInput "compare").raise
  | .unknown, other | other, .unknown => (Cause.unknown other.kind).raise
  | left, right =>
      if left.kind = right.kind then orderAlike left right
      else (Cause.typeMismatch left.kind right.kind).raise

/-! ## Tests on the order -/

/-- Whether the cells are equal in the order. -/
def equal (left right : Cell) : Except Failure Bool := Ordering.isEq <$> order left right

/-- Whether the cells differ in the order. -/
def notEqual (left right : Cell) : Except Failure Bool := Ordering.isNe <$> order left right

/-- Whether the first cell comes before the second. -/
def less (left right : Cell) : Except Failure Bool := Ordering.isLT <$> order left right

/-- Whether the first cell does not come after the second. -/
def lessEqual (left right : Cell) : Except Failure Bool := Ordering.isLE <$> order left right

/-- Whether the first cell comes after the second. -/
def greater (left right : Cell) : Except Failure Bool := Ordering.isGT <$> order left right

/-- Whether the first cell does not come before the second. -/
def greaterEqual (left right : Cell) : Except Failure Bool := Ordering.isGE <$> order left right

end TaggedCells.Cell

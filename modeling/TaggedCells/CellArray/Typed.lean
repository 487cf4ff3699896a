import TaggedCells.CellArray

/-!
# Arrays of typed values

Some types of the host language have a kind of their own: every value of the type makes a cell
of that kind. A list of such values makes an array without any check, since nothing in it can
be of another kind. The words of 32 bits make cells of the native kinds.
-/

set_option autoImplicit false

namespace TaggedCells

/-- A type whose values all make cells of one kind, which an array can declare. -/
class ScalarType (α : Type) where
  /-- The kind of the cells. -/
  kind : Kind
  toCell : α → Cell
  kind_toCell : ∀ value : α, (toCell value).kind = kind := by intro; rfl
  isConstructible_kind : kind.isConstructible = true := by rfl

/-- A single precision number, as its bit pattern. -/
structure Single where
  pattern : BitVec 32
  deriving DecidableEq, Repr

/-- A double precision number, as its bit pattern. -/
structure Double where
  pattern : BitVec 64
  deriving DecidableEq, Repr

instance : ScalarType Int32 where
  kind := .integer (.native true)
  toCell value := .integer (.native true) value.toBitVec

instance : ScalarType Int8 where
  kind := .integer (.sized .signed .eight)
  toCell value := .integer (.sized .signed .eight) value.toBitVec

instance : ScalarType Int16 where
  kind := .integer (.sized .signed .sixteen)
  toCell value := .integer (.sized .signed .sixteen) value.toBitVec

instance : ScalarType Int64 where
  kind := .integer (.sized .signed .sixtyFour)
  toCell value := .integer (.sized .signed .sixtyFour) value.toBitVec

instance : ScalarType UInt32 where
  kind := .integer (.native false)
  toCell value := .integer (.native false) value.toBitVec

instance : ScalarType UInt8 where
  kind := .integer (.sized .unsigned .eight)
  toCell value := .integer (.sized .unsigned .eight) value.toBitVec

instance : ScalarType UInt16 where
  kind := .integer (.sized .unsigned .sixteen)
  toCell value := .integer (.sized .unsigned .sixteen) value.toBitVec

instance : ScalarType UInt64 where
  kind := .integer (.sized .unsigned .sixtyFour)
  toCell value := .integer (.sized .unsigned .sixtyFour) value.toBitVec

instance : ScalarType Single where
  kind := .float
  toCell value := .float value.pattern

instance : ScalarType Double where
  kind := .double
  toCell value := .double value.pattern

instance : ScalarType Bool where
  kind := .bool
  toCell := .bool

instance : ScalarType Char where
  kind := .char
  toCell := .char

instance : ScalarType String where
  kind := .string
  toCell := .string

/-- The array of typed values. -/
def CellArray.ofTyped {α : Type} [ScalarType α] (values : List α) : CellArray :=
  ⟨ScalarType.kind α, values.map ScalarType.toCell⟩

end TaggedCells

import TaggedCells.Kind
import TaggedCells.Failure

/-!
# Cells

A cell is a value that carries its kind with it. The payload of an integer cell is a word of
exactly as many bits as its kind has, and the payload of a float is its bit pattern, so a NaN
keeps its sign and its payload bits.

An array cell declares the kind of its elements, but the declaration does not bind the
elements: writing into an array may leave an element of another kind in it. Operations that
depend on the declaration check it first. A map cell lists its entries in the order in which
their keys were first inserted.
-/

set_option autoImplicit false

namespace TaggedCells

/-- A value that carries its kind. -/
inductive Cell where
  /-- An integer, as the word that represents it. -/
  | integer (kind : IntKind) (word : BitVec kind.bits)
  /-- A single precision float, as its bit pattern. -/
  | float (pattern : BitVec 32)
  /-- A double precision float, as its bit pattern. -/
  | double (pattern : BitVec 64)
  | string (text : String)
  | char (character : Char)
  | bool (truth : Bool)
  | qbit (pattern : BitVec 64)
  /-- A sequence under a declared element kind. -/
  | array (kind : Kind) (elements : List Cell)
  /-- Keys with their values. -/
  | map (entries : List (Cell × Cell))
  | null
  /-- Left behind where a cell was erased or moved from. -/
  | invalid
  /-- Not interpretable. -/
  | unknown
  deriving Inhabited

namespace Cell

/-- The kind that the cell carries. -/
def kind : Cell → Kind
  | .integer kind _ => .integer kind
  | .float _ => .float
  | .double _ => .double
  | .string _ => .string
  | .char _ => .char
  | .bool _ => .bool
  | .qbit _ => .qbit
  | .array _ _ => .array
  | .map _ => .map
  | .null => .null
  | .invalid => .invalid
  | .unknown => .unknown

/-- Whether the cell was erased or moved from. -/
def isInvalid : Cell → Bool
  | .invalid => true
  | _ => false

/-- Whether the cell is the null cell. -/
def isNull : Cell → Bool
  | .null => true
  | _ => false

/-! ## Payloads -/

/-- The payload of a boolean cell. -/
def bool? : Cell → Option Bool
  | .bool truth => some truth
  | _ => none

/-- The payload of a character cell. -/
def char? : Cell → Option Char
  | .char character => some character
  | _ => none

/-- The bit pattern of a single precision cell. -/
def float? : Cell → Option (BitVec 32)
  | .float pattern => some pattern
  | _ => none

/-- The bit pattern of a double precision cell. -/
def double? : Cell → Option (BitVec 64)
  | .double pattern => some pattern
  | _ => none

/-- The payload of an opaque cell. -/
def qbit? : Cell → Option (BitVec 64)
  | .qbit pattern => some pattern
  | _ => none

/-- The payload of a string cell. -/
def string? : Cell → Option String
  | .string text => some text
  | _ => none

end Cell

/-- The cell, if it is of the given kind. -/
def Kind.checkCell (kind : Kind) (cell : Cell) : Except Failure Cell :=
  if cell.kind = kind then .ok cell else (Cause.typeMismatch kind cell.kind).raise

/-! ## Integers -/

/-- The number that a word stands for under an integer kind. -/
def IntKind.read (kind : IntKind) (word : BitVec kind.bits) : Int :=
  if kind.isSigned then word.toInt else word.toNat

/-- The integer kind that bounds are asked of; no other kind has them. -/
def Kind.bounded : Kind → Except Failure IntKind
  | .integer kind => .ok kind
  | other => (Cause.invalidOperation "limits check" other).raise

/-- Accepts a number that lies within the bounds of the kind. -/
def IntKind.accept (kind : IntKind) (number : Int) : Except Failure Int :=
  if kind.bounds.contains number then .ok number else (Cause.overflow (.integer kind)).raise

/-- Accepts a number into a kind, which has to be an integer kind. -/
def Kind.accept (kind : Kind) (number : Int) : Except Failure Int := do
  (← kind.bounded).accept number

namespace Cell

/-- The cell of an integer kind that holds the low bits of a number. -/
def ofWord (kind : IntKind) (number : Int) : Cell := .integer kind (.ofInt kind.bits number)

/-- The cell of a kind that holds a number, where the kind accepts it. -/
def ofInt (kind : Kind) (number : Int) : Except Failure Cell := do
  let integer ← kind.bounded
  return ofWord integer (← integer.accept number)

/-- The number that an integer cell holds. -/
def integer? : Cell → Option Int
  | .integer kind word => some (kind.read word)
  | _ => none

/-- The number that an integer cell holds, and zero for any other cell. -/
def number (cell : Cell) : Int := cell.integer?.getD 0

end Cell

end TaggedCells

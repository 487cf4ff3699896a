import TaggedCells.Text
import TaggedCells.Words

/-!
# Kinds

Every cell carries a kind, the runtime tag that says what its payload is. Twenty-two of the
kinds are integers. They come from two choices: how the bits are viewed (signed, unsigned, or
one of three unsigned views that differ only in how they are displayed) and how many bits
there are. Two further integer kinds, the native ones, are 32 bits wide but distinct from the
sized kinds of that width. The remaining kinds are scalars (floats, text, booleans, opaque bit
patterns), two compound kinds that hold other cells, and three markers.

The declaration order of `Kind.all` is also the order of kinds.
-/

set_option autoImplicit false

namespace TaggedCells

/-! ## Integer kinds -/

/-- How many bits a sized integer has. -/
inductive Width where
  | eight
  | sixteen
  | thirtyTwo
  | sixtyFour
  deriving DecidableEq, Repr

namespace Width

/-- Every width, narrowest first. -/
def all : List Width := [.eight, .sixteen, .thirtyTwo, .sixtyFour]

/-- The number of bits. -/
def bits : Width → Nat
  | .eight => 8
  | .sixteen => 16
  | .thirtyTwo => 32
  | .sixtyFour => 64

/-- The number of bits as it stands at the end of a kind's name. -/
def digits : Width → String
  | .eight => "8"
  | .sixteen => "16"
  | .thirtyTwo => "32"
  | .sixtyFour => "64"

end Width

/-- How the bits of an integer are read and displayed. -/
inductive View where
  | signed
  | unsigned
  | octal
  | bitwise
  | hex
  deriving DecidableEq, Repr

namespace View

/-- Every view, in declaration order. -/
def all : List View := [.signed, .unsigned, .octal, .bitwise, .hex]

/-- The word that a sized kind of this view starts with. -/
def stem : View → String
  | .signed => "int"
  | .unsigned => "uint"
  | .octal => "octal"
  | .bitwise => "bitwise"
  | .hex => "hex"

end View

/-- An integer kind: one of the two native kinds, or a view of a width. -/
inductive IntKind where
  /-- The native integer, signed or not. -/
  | native (signed : Bool)
  /-- An integer of a stated width. -/
  | sized (view : View) (width : Width)
  deriving DecidableEq, Repr

namespace IntKind

/-- The view that decides how the bits are read and displayed. -/
def view : IntKind → View
  | .native true => .signed
  | .native false => .unsigned
  | .sized view _ => view

/-- The width; the native integers have 32 bits. -/
def width : IntKind → Width
  | .native _ => .thirtyTwo
  | .sized _ width => width

/-- The number of bits. -/
def bits (kind : IntKind) : Nat := kind.width.bits

/-- Only the signed view reads the top bit as a sign. -/
def isSigned (kind : IntKind) : Bool := kind.view == .signed

/-- The lowercase name. -/
def name : IntKind → String
  | .native true => View.signed.stem
  | .native false => View.unsigned.stem
  | .sized view width => view.stem ++ width.digits

/-- Every integer kind in declaration order: each native kind stands before the sized kinds of
its view. -/
def all : List IntKind :=
  View.all.flatMap fun view =>
    let sizes := Width.all.map (IntKind.sized view)
    match view with
    | .signed => .native true :: sizes
    | .unsigned => .native false :: sizes
    | _ => sizes

end IntKind

/-! ## Kinds of cells -/

/-- The runtime tag of a cell. -/
inductive Kind where
  /-- An integer of one of the twenty-two integer kinds. -/
  | integer (kind : IntKind)
  /-- A single precision float. -/
  | float
  /-- A double precision float. -/
  | double
  | string
  | char
  | bool
  /-- An opaque pattern of 64 bits. -/
  | qbit
  /-- A sequence of cells under one declared element kind. -/
  | array
  /-- Entries of a key cell and a value cell. -/
  | map
  /-- The null cell. -/
  | null
  /-- A cell that was erased or moved from. -/
  | invalid
  /-- A cell that cannot be interpreted. -/
  | unknown
  deriving DecidableEq, Repr

namespace Kind

/-- Every kind, in declaration order. -/
def all : List Kind :=
  IntKind.all.map .integer
    ++ [.float, .double, .string, .char, .bool, .qbit, .array, .map, .null, .invalid, .unknown]

/-- The lowercase name. -/
def name : Kind → String
  | .integer kind => kind.name
  | .float => "float"
  | .double => "double"
  | .string => "string"
  | .char => "char"
  | .bool => "bool"
  | .qbit => "qbit"
  | .array => "array"
  | .map => "map"
  | .null => "null"
  | .invalid => "invalid"
  | .unknown => "unknown"

/-- Reads a kind from its name. -/
def parse (given : String) : Except String Kind :=
  Text.parseName all name given

/-- The place of a kind in the declaration order. -/
def rank (kind : Kind) : Nat := all.idxOf kind

instance : Ord Kind := ⟨fun left right => compare left.rank right.rank⟩

/-! ## Families -/

/-- The integer kind, where the kind is one. -/
def integer? : Kind → Option IntKind
  | .integer kind => some kind
  | _ => none

/-- Whether the kind is an integer kind. -/
def isInteger (kind : Kind) : Bool := kind.integer?.isSome

/-- Whether the kind is an integer kind with a sign. -/
def isSigned (kind : Kind) : Bool := kind.integer?.any IntKind.isSigned

/-- Whether the kind is an integer kind without a sign. -/
def isUnsigned (kind : Kind) : Bool := kind.integer?.any fun integer => !integer.isSigned

/-- Whether the kind is one of the two floating point kinds. -/
def isFloating : Kind → Bool
  | .float | .double => true
  | _ => false

/-- Whether cells of the kind hold other cells. -/
def isCompound : Kind → Bool
  | .array | .map => true
  | _ => false

/-- Whether a cell of the kind can be created from a payload and stored in an array: compound
kinds and the two markers cannot. -/
def isConstructible : Kind → Bool
  | .array | .map | .invalid | .unknown => false
  | _ => true

/-- The number of bits of the kinds that are bit patterns. -/
def bits? : Kind → Option Nat
  | .integer kind => some kind.bits
  | .qbit => some 64
  | _ => none

end Kind

/-! ## Bounds -/

/-- The numbers that an integer kind holds. -/
def IntKind.bounds (kind : IntKind) : Bounds :=
  if kind.isSigned then .signed kind.bits else .unsigned kind.bits

/-- The numbers that a kind holds; only integer kinds have bounds. -/
def Kind.bounds? (kind : Kind) : Option Bounds := kind.integer?.map IntKind.bounds

/-- Whether the kind is an integer kind that holds the number. -/
def Kind.fits (kind : Kind) (number : Int) : Bool :=
  kind.bounds?.any fun bounds => bounds.contains number

end TaggedCells

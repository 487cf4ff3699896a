import TaggedCells.Text.Printable
import TaggedCells.Words

/-!
# Texts

Numbers are written in a base and brought to a given width. All digits are lowercase and nothing is
written in front of them; what stands in front of a number belongs to the format that uses it.

A decimal is a whole number of units, each unit a power of ten. Its text is positional whatever its
size: no exponent is ever written. A unit of one or more gives a whole number without a point; a
smaller unit gives as many places after the point as the unit asks for.

Kinds, error codes and algorithms are written by name. The names of one family form a closed list,
so a text is either one of them or is refused, and the refusal recites the whole list in its order:
a reader of the message learns every name that would have been accepted.

Text between quotation marks is written so that it stands on one line and shows every character.
The characters that have an escape of their own are the null character, the tab, the two line ends,
the backslash, and the quotation mark that delimits the text. A character that is not printable is
written as its code point in hexadecimal between braces. Every other character stands for itself.
-/

set_option autoImplicit false

namespace TaggedCells.Text

/-! ## Digits -/

/-- The digits of a number in a base of at most sixteen, without leading zeros; zero is `0`. -/
def inBase (base number : Nat) : String := String.ofList (Nat.toDigits base number)

/-- The bits of a pattern, the highest first, as many as the pattern has. -/
def bitString {width : Nat} (pattern : BitVec width) : String :=
  String.ofList ((List.range width).map fun place =>
    if pattern.getMsbD place then '1' else '0')

/-- Fills a text up from the left; a text that is wide enough is left as it is. -/
def fillLeft (fill : Char) (width : Nat) (text : String) : String :=
  String.ofList (text.toList.leftpad width fill)

/-- A number filled up with zeros. -/
def zeroFilled (width number : Nat) : String := fillLeft '0' width (toString number)

/-! ## Positional decimals -/

/-- The number `count · 10 ^ unit`. -/
structure Decimal where
  count : Nat
  unit : Int
  deriving DecidableEq, Repr

/-- The positional text of a number of `count` units, each the `places`-th place after the
point. -/
def placed (count places : Nat) : String :=
  toString (count / 10 ^ places) ++ "." ++ zeroFilled places (count % 10 ^ places)

/-- The positional text of a decimal. -/
def Decimal.text (decimal : Decimal) : String :=
  match decimal.unit with
  | .ofNat zeros => toString (decimal.count * 10 ^ zeros)
  | .negSucc places => placed decimal.count (places + 1)

/-! ## Names out of a closed list -/

/-- The value whose name is `given`, the first of them if two share it. -/
def byName? {α : Type} (values : List α) (name : α → String) (given : String) : Option α :=
  values.find? fun value => name value == given

/-- A name between backquotes. -/
def backquoted (name : String) : String :=
  "`" ++ name ++ "`"

/-- The refusal of a name that is not on the list. -/
def unknownName (given : String) (known : List String) : String :=
  "unknown variant " ++ backquoted given ++ ", expected one of "
    ++ ", ".intercalate (known.map backquoted)

/-- Reads a name, refusing one that no value of the list bears. -/
def parseName {α : Type} (values : List α) (name : α → String) (given : String) :
    Except String α :=
  match byName? values name given with
  | some value => .ok value
  | none => .error (unknownName given (values.map name))

/-! ## Quotation -/

/-- A character as its code point: a backslash, `u`, and the lowercase hexadecimal digits
between braces. -/
def pointEscape (character : Char) : String :=
  "\\u\x7b" ++ inBase 16 character.toNat ++ "\x7d"

/-- A character inside a text that the given mark delimits. -/
def escaped (mark character : Char) : String :=
  if character == mark then "\\" ++ character.toString
  else match character with
    | '\x00' => "\\0"
    | '\t' => "\\t"
    | '\r' => "\\r"
    | '\n' => "\\n"
    | '\\' => "\\\\"
    | _ => if isPrintable character then character.toString else pointEscape character

/-- A text between double quotation marks. -/
def quotedText (text : String) : String :=
  "\"" ++ String.join (text.toList.map (escaped '"')) ++ "\""

/-- A character between single quotation marks. -/
def quotedChar (character : Char) : String :=
  "'" ++ escaped '\'' character ++ "'"

end TaggedCells.Text

import TaggedCells.Text

/-!
# Flat JSON objects

An object here has fields whose values are natural numbers and strings, in a fixed order. It is
written either compactly, without any blank outside its strings, or in outline, with one field
to a line. A list of objects is written as an array in the same two ways.

Inside a string the quotation mark and the backslash are escaped, and so are the characters
below the space: five of them by a letter, the others by their code point in four hexadecimal
digits. Everything else stands for itself.
-/

set_option autoImplicit false

namespace TaggedCells.Text.Json

/-- The value of a field. -/
inductive Value where
  | number (amount : Nat)
  | text (content : String)
  deriving DecidableEq, Repr

/-- Fields in order, each with its name. -/
abbrev Object := List (String × Value)

/-- A character inside a string. -/
def escaped (character : Char) : String :=
  match character with
  | '"' => "\\\""
  | '\\' => "\\\\"
  | '\x08' => "\\b"
  | '\x0c' => "\\f"
  | '\n' => "\\n"
  | '\r' => "\\r"
  | '\t' => "\\t"
  | _ =>
      if character.val < 0x20 then "\\u" ++ fillLeft '0' 4 (inBase 16 character.toNat)
      else character.toString

/-- A text as a JSON string. -/
def string (text : String) : String := "\"" ++ String.join (text.toList.map escaped) ++ "\""

/-- The value of a field as JSON. -/
def Value.render : Value → String
  | .number amount => toString amount
  | .text content => string content

/-- A field, with what stands between name and value. -/
def field (between : String) (named : String × Value) : String :=
  string named.1 ++ between ++ named.2.render

/-- An object without blanks. -/
def compact (object : Object) : String :=
  "\x7b" ++ ",".intercalate (object.map (field ":")) ++ "\x7d"

/-- An object with one field to a line, each indented by two blanks more than the object. -/
def outline (indent : String) (object : Object) : String :=
  let lines := object.map fun named => indent ++ "  " ++ field ": " named
  "\x7b\n" ++ ",\n".intercalate lines ++ "\n" ++ indent ++ "\x7d"

/-- An array of objects without blanks. -/
def compactList (objects : List Object) : String :=
  "[" ++ ",".intercalate (objects.map compact) ++ "]"

/-- An array of objects in outline; the empty array has no lines. -/
def outlineList : List Object → String
  | [] => "[]"
  | objects =>
      "[\n" ++ ",\n".intercalate (objects.map fun object => "  " ++ outline "  " object) ++ "\n]"

end TaggedCells.Text.Json

import TaggedCells.Cell
import TaggedCells.Text
import TaggedCells.Ieee.Shortest

/-!
# Cells as text

A cell has two texts. The display text shows the payload as a reader wants it: numbers in the
base of their view, strings and characters without quotation marks, sequences and entries
between brackets with a blank inside. The debug text shows what the cell is: scalars under the
name of their kind, text quoted, and arrays with the element kind they declare.

The outline of an array or a map is its debug text with one element or entry to a line.
-/

set_option autoImplicit false

namespace TaggedCells

open Text (inBase bitString quotedText quotedChar)

/-- A number in the base that the view asks for, with the mark of that base in front. -/
def View.show (view : View) (number : Int) : String :=
  match view with
  | .signed | .unsigned => toString number
  | .octal => "0o" ++ inBase 8 number.toNat
  | .bitwise | .hex => "0x" ++ inBase 16 number.toNat

namespace Cell

mutual

/-- The payload as a reader wants it. -/
def display : Cell → String
  | .integer kind word => kind.view.show (kind.read word)
  | .float pattern => Ieee.single.text pattern.toNat
  | .double pattern => Ieee.double.text pattern.toNat
  | .string text => text
  | .char character => character.toString
  | .bool truth => toString truth
  | .qbit pattern => "0b" ++ bitString pattern
  | .array _ [] => "[]"
  | .array _ elements => "[ " ++ ", ".intercalate (displayAll elements) ++ " ]"
  | .map [] => "<>"
  | .map entries => "< " ++ ", ".intercalate (displayEntries entries) ++ " >"
  | .null => "cnullptr"
  | .invalid | .unknown => "[Invalid or Unknown Type]"

/-- The display texts of a sequence. -/
def displayAll : List Cell → List String
  | [] => []
  | cell :: rest => display cell :: displayAll rest

/-- The display texts of entries. -/
def displayEntries : List (Cell × Cell) → List String
  | [] => []
  | (key, value) :: rest => (display key ++ ": " ++ display value) :: displayEntries rest

end

mutual

/-- What the cell is. -/
def debug : Cell → String
  | .string text => quotedText text
  | .char character => quotedChar character
  | .array kind elements =>
      "array<" ++ kind.name ++ ">[" ++ ", ".intercalate (debugAll elements) ++ "]"
  | .map entries => "\x7b" ++ ", ".intercalate (debugEntries entries) ++ "\x7d"
  | .null => Kind.null.name
  | .invalid => Kind.invalid.name
  | .unknown => Kind.unknown.name
  | scalar => scalar.kind.name ++ "(" ++ scalar.display ++ ")"

/-- The debug texts of a sequence. -/
def debugAll : List Cell → List String
  | [] => []
  | cell :: rest => debug cell :: debugAll rest

/-- The debug texts of entries. -/
def debugEntries : List (Cell × Cell) → List String
  | [] => []
  | (key, value) :: rest => (debug key ++ ": " ++ debug value) :: debugEntries rest

end

/-- Lines between brackets, each indented and closed by a comma; no lines leave the brackets
together. -/
def bracketed (opening : String) (lines : List String) (closing : String) : String :=
  if lines.isEmpty then opening ++ closing
  else opening ++ "\n" ++ String.join (lines.map fun line => "    " ++ line ++ ",\n") ++ closing

/-- The debug text with one element or entry to a line. -/
def outline : Cell → String
  | .array kind elements => bracketed ("array<" ++ kind.name ++ ">[") (debugAll elements) "]"
  | .map entries => bracketed "\x7b" (debugEntries entries) "\x7d"
  | cell => cell.debug

end Cell
end TaggedCells

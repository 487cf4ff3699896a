import TaggedCells.Text
import TaggedCells.Proofs.Text.Names

/-!
# Texts on one line

A text is on one line if it has no line end in it. Texts on one line can be put below each other and
be taken apart again (`lines_intercalate`). Numbers are on one line, however they are filled up and
wherever they have their point, and so are the names of kinds and codes.
-/

set_option autoImplicit false

namespace TaggedCells.Text

/-- There is no line end in the text. -/
def OneLine (text : String) : Prop := '\n' ∉ text.toList

instance (text : String) : Decidable (OneLine text) := inferInstanceAs (Decidable (_ ∉ _))

/-- What stands between the line ends of a text. -/
def lines (text : String) : List String := (text.split '\n').toList.map String.Slice.copy

/-- **Texts on one line that are put below each other are the lines of the whole.** -/
theorem lines_intercalate {texts : List String} (each : ∀ text ∈ texts, OneLine text) :
    lines ("\n".intercalate texts) = if texts = [] then [""] else texts :=
  String.toList_split_intercalate each

/-! ## What is on one line -/

@[simp]
theorem oneLine_append {left right : String} :
    OneLine (left ++ right) ↔ OneLine left ∧ OneLine right := by
  rw [OneLine, String.toList_append, List.mem_append, not_or]
  rfl

theorem OneLine.append {left right : String} (first : OneLine left) (second : OneLine right) :
    OneLine (left ++ right) :=
  oneLine_append.mpr ⟨first, second⟩

theorem oneLine_ofList {characters : List Char} (absent : '\n' ∉ characters) :
    OneLine (String.ofList characters) := by
  rwa [OneLine, String.toList_ofList]

@[simp]
theorem oneLine_repr (number : Nat) : OneLine number.repr := by
  rw [← Nat.toString_eq_repr, Nat.toString_eq_ofList_toDigits]
  refine oneLine_ofList fun present => ?_
  exact absurd (Nat.isDigit_of_mem_toDigits (by decide) (by decide) present) (by decide)

/-- Filling up a text does not break it unless it is filled up with line ends. -/
theorem oneLine_fillLeft {fill : Char} {text : String} (width : Nat) (visible : fill ≠ '\n')
    (line : OneLine text) : OneLine (fillLeft fill width text) := by
  refine oneLine_ofList fun present => ?_
  rcases List.mem_append.mp present with filled | kept
  · exact visible (List.eq_of_mem_replicate filled).symm
  · exact line kept

@[simp]
theorem oneLine_zeroFilled (width number : Nat) : OneLine (zeroFilled width number) :=
  oneLine_fillLeft width (by decide) (oneLine_repr number)

@[simp]
theorem oneLine_placed (count places : Nat) : OneLine (placed count places) := by
  have point : OneLine "." := by decide
  simp [placed, point]

end TaggedCells.Text

namespace TaggedCells

open Text (OneLine)

@[simp]
theorem Kind.oneLine_name (kind : Kind) : OneLine kind.name := fun present =>
  absurd (kind.isAlphanum_of_mem_name present) (by decide)

@[simp]
theorem Code.oneLine_name (code : Code) : OneLine code.name := by cases code <;> decide

end TaggedCells

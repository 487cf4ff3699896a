import TaggedCells.Cell.Text
import TaggedCells.Proofs.Cell.Sameness
import TaggedCells.Proofs.Text.Names
import TaggedCells.Proofs.Text.Quotation

/-!
# Debug texts can be read back

The debug text of a cell begins with what it is: a text or a character with its quotation mark, a
map with its brace, and every other cell with the name of its kind (`announced_debug`). The payload
of a scalar stands between parentheses and has none itself. What an array or a map holds stands in
brackets with a comma between, and no cell's text begins with a closing bracket. So a cell's text
ends where it seems to end, and by induction on what a cell holds it is the text of that cell alone
(`toldApart_debug`), for any depth of nesting and whatever the quoted texts imitate.

Floating point numbers are the exception. All patterns that are not numbers have one text, so
cells that are told apart hold none (`Floatless`).
-/

set_option autoImplicit false

namespace TaggedCells

open Text (StartsOutside Opens ToldApart noChar bitString inBase)

/-- The characters of numbers and truth values. -/
def Text.isNumeral (character : Char) : Bool := character.isAlphanum || character == '-'

/-! ## Numbers in their views -/

theorem Text.isNumeral_of_mem_toDigits {base number : Nat} (several : 1 < base) (few : base ≤ 16) :
    ∀ character ∈ Nat.toDigits base number, Text.isNumeral character = true := by
  intro character present
  rw [Text.isNumeral, Text.isAlphanum_of_mem_toDigits several few present, Bool.true_or]

theorem Text.inBase_injective {base : Nat} (several : 1 < base) (few : base ≤ 16) :
    Function.Injective (inBase base) := fun _ _ same =>
  Text.toDigits_injective several few (String.ofList_injective same)

theorem Text.isNumeral_natural (amount : Nat) :
    ∀ character ∈ (toString amount).toList, Text.isNumeral character = true := by
  rw [Text.toList_toString]
  exact Text.isNumeral_of_mem_toDigits (by decide) (by decide)

theorem Text.isNumeral_integer (number : Int) :
    ∀ character ∈ (toString number).toList, Text.isNumeral character = true := by
  cases number with
  | ofNat amount => exact Text.isNumeral_natural amount
  | negSucc amount =>
      rw [Text.toList_toString_negSucc]
      refine List.forall_mem_cons.mpr ⟨rfl, ?_⟩
      exact Text.isNumeral_of_mem_toDigits (by decide) (by decide)

/-- A number after the mark of its base. -/
theorem Text.isNumeral_marked {mark : Char} (letter : mark.isAlphanum = true) {base : Nat}
    (several : 1 < base) (few : base ≤ 16) (amount : Nat) :
    ∀ character ∈ '0' :: mark :: Nat.toDigits base amount, Text.isNumeral character = true := by
  have marked : Text.isNumeral mark = true := by rw [Text.isNumeral, letter, Bool.true_or]
  exact List.forall_mem_cons.mpr ⟨rfl, List.forall_mem_cons.mpr
    ⟨marked, Text.isNumeral_of_mem_toDigits several few⟩⟩

theorem View.isNumeral_show (view : View) (number : Int) :
    ∀ character ∈ (view.show number).toList, Text.isNumeral character = true := by
  cases view with
  | signed | unsigned => exact Text.isNumeral_integer number
  | octal =>
      have letter : 'o'.isAlphanum = true := rfl
      simpa [View.show, inBase] using
        Text.isNumeral_marked letter (by decide : 1 < 8) (by decide) number.toNat
  | bitwise | hex =>
      have letter : 'x'.isAlphanum = true := rfl
      simpa [View.show, inBase] using
        Text.isNumeral_marked letter (by decide : 1 < 16) (by decide) number.toNat

/-- A word can be read back from how its kind shows it. -/
theorem IntKind.show_read_injective (kind : IntKind) {left right : BitVec kind.bits}
    (same : kind.view.show (kind.read left) = kind.view.show (kind.read right)) :
    left = right := by
  have natural : kind.view ≠ .signed → ∀ word, (kind.read word).toNat = word.toNat := by
    intro unsigned word
    rw [IntKind.read, IntKind.isSigned, if_neg (by simpa using unsigned), Int.toNat_natCast]
  cases viewed : kind.view <;> rw [viewed] at same natural
  case signed | unsigned =>
    exact kind.read_injective (Text.toString_injective same)
  all_goals
    simp only [View.show, String.append_right_inj] at same
    have numbers := Text.inBase_injective (by decide) (by decide) same
    rw [natural nofun, natural nofun] at numbers
    exact BitVec.eq_of_toNat_eq numbers

/-! ## Bits and truth values -/

theorem Text.isNumeral_bitString {width : Nat} (pattern : BitVec width) :
    ∀ character ∈ (bitString pattern).toList, Text.isNumeral character = true := by
  intro character present
  rw [bitString, String.toList_ofList] at present
  obtain ⟨place, -, rfl⟩ := List.mem_map.mp present
  split <;> rfl

theorem Text.bitString_injective {width : Nat} :
    Function.Injective (bitString : BitVec width → String) := by
  intro left right same
  have places := List.map_inj_left.mp (String.ofList_injective same)
  refine BitVec.eq_of_getMsbD_eq fun place below => ?_
  have bits := places place (List.mem_range.mpr below)
  cases leftBit : left.getMsbD place <;> cases rightBit : right.getMsbD place <;>
    simp [leftBit, rightBit] at bits ⊢

theorem Text.isNumeral_toString_bool (truth : Bool) :
    ∀ character ∈ (toString truth).toList, Text.isNumeral character = true := by
  have letters : (toString truth).toList.all Text.isNumeral = true := by cases truth <;> decide
  exact List.all_eq_true.mp letters

theorem Text.toString_bool_injective : Function.Injective (toString : Bool → String) := by
  intro left right same
  cases left <;> cases right <;> first | rfl | exact absurd same (by decide)

/-- What stands between parentheses under one name ends with the parenthesis that closes it. -/
theorem Text.eq_of_parentheses {name left right : String} {rest otherRest : List Char}
    (leftNumeral : ∀ character ∈ left.toList, Text.isNumeral character = true)
    (rightNumeral : ∀ character ∈ right.toList, Text.isNumeral character = true)
    (same : (name ++ "(" ++ left ++ ")").toList ++ rest
      = (name ++ "(" ++ right ++ ")").toList ++ otherRest) :
    left = right ∧ rest = otherRest := by
  simp only [String.toList_append, List.append_assoc, List.append_cancel_left_eq] at same
  have outside : ∀ tail, StartsOutside Text.isNumeral (")".toList ++ tail) := fun tail =>
    Text.startsOutside_cons.mpr rfl
  obtain ⟨texts, closings⟩ :=
    Text.eq_of_span leftNumeral rightNumeral (outside rest) (outside otherRest) same
  exact ⟨String.toList_injective texts, List.append_cancel_left closings⟩

namespace Cell

theorem isNumeral_display_qbit (pattern : BitVec 64) :
    ∀ character ∈ (qbit pattern).display.toList, Text.isNumeral character = true := by
  rw [display, String.toList_append]
  exact List.forall_mem_cons.mpr
    ⟨rfl, List.forall_mem_cons.mpr ⟨rfl, Text.isNumeral_bitString pattern⟩⟩

theorem display_qbit_injective {left right : BitVec 64}
    (same : (qbit left).display = (qbit right).display) : left = right := by
  rw [display, display, String.append_right_inj] at same
  exact Text.bitString_injective same

/-! ## Sequences and entries -/

theorem debugAll_eq_map (elements : List Cell) : debugAll elements = elements.map debug := by
  induction elements with
  | nil => rfl
  | cons element elements ih => rw [debugAll, ih, List.map_cons]

/-- The text of an entry. -/
def debugEntry (entry : Cell × Cell) : String := entry.1.debug ++ ": " ++ entry.2.debug

theorem debugEntries_eq_map (entries : List (Cell × Cell)) :
    debugEntries entries = entries.map debugEntry := by
  induction entries with
  | nil => rfl
  | cons entry entries ih => rw [debugEntries, ih, List.map_cons, debugEntry]

theorem toList_debug_array (kind : Kind) (elements : List Cell) :
    (debug (.array kind elements)).toList
      = "array<".toList ++ (kind.name.toList
          ++ '>' :: '[' ::
            ([',', ' '].intercalate (elements.map fun element => element.debug.toList)
              ++ [']'])) := by
  change ("array<" ++ kind.name ++ ">[" ++ ", ".intercalate (debugAll elements) ++ "]").toList = _
  rw [debugAll_eq_map]
  simp [String.toList_intercalate, Function.comp_def]

theorem toList_debug_map (entries : List (Cell × Cell)) :
    (debug (.map entries)).toList
      = '\x7b' :: ([',', ' '].intercalate (entries.map fun entry => (debugEntry entry).toList)
          ++ ['\x7d']) := by
  change ("\x7b" ++ ", ".intercalate (debugEntries entries) ++ "\x7d").toList = _
  rw [debugEntries_eq_map]
  simp [String.toList_intercalate, Function.comp_def]

theorem toList_debugEntry (entry : Cell × Cell) :
    (debugEntry entry).toList
      = entry.1.debug.toList ++ ':' :: ' ' :: entry.2.debug.toList := by
  simp [debugEntry]

/-! ## How a text begins -/

/-- The kind that a debug text begins with. -/
def announced : List Char → Option Kind
  | '"' :: _ => some .string
  | '\'' :: _ => some .char
  | '\x7b' :: _ => some .map
  | text => Text.byName? Kind.all Kind.name (String.ofList (text.takeWhile Char.isAlphanum))

theorem announced_name (kind : Kind) {rest : List Char}
    (outside : StartsOutside Char.isAlphanum rest) :
    announced (kind.name.toList ++ rest) = some kind := by
  have word : ∀ character ∈ kind.name.toList, character.isAlphanum = true :=
    fun _ => kind.isAlphanum_of_mem_name
  have begun : ∀ character more, kind.name.toList ++ rest = character :: more →
      character.isAlphanum = true := by
    intro character more written
    cases named : kind.name.toList with
    | nil => exact absurd (String.toList_eq_nil_iff.mp named) kind.name_ne_empty
    | cons first others =>
        rw [named] at written word
        obtain rfl := (List.cons.inj written).1
        exact word first List.mem_cons_self
  unfold announced
  split
  case h_4 =>
      rw [Text.takeWhile_append_of_span word outside, String.ofList_toList]
      exact kind.byName?_name
  all_goals exact absurd (begun _ _ ‹_›) (by decide)

/-- The debug text of a cell begins with its kind. -/
theorem announced_debug (cell : Cell) {rest : List Char}
    (outside : StartsOutside Char.isAlphanum rest) :
    announced (cell.debug.toList ++ rest) = some cell.kind := by
  have parenthesis : ∀ tail, StartsOutside Char.isAlphanum ("(".toList ++ tail) := fun tail =>
    Text.startsOutside_cons.mpr rfl
  cases cell with
  | string text =>
      change announced ((Text.quotedText text).toList ++ rest) = _
      rw [Text.toList_quotedText]
      rfl
  | char character =>
      change announced ((Text.quotedChar character).toList ++ rest) = _
      rw [Text.toList_quotedChar]
      rfl
  | array kind elements =>
      rw [toList_debug_array]
      change announced (Kind.array.name.toList ++ '<' :: _) = _
      exact announced_name .array (Text.startsOutside_cons.mpr rfl)
  | map entries =>
      rw [toList_debug_map]
      rfl
  | null | invalid | unknown => exact announced_name _ outside
  | integer | float | double | bool | qbit =>
      change announced ((Kind.name _ ++ "(" ++ display _ ++ ")").toList ++ rest) = _
      simp only [String.toList_append, List.append_assoc]
      exact announced_name _ (parenthesis _)

/-- Brackets close what no cell's text begins with. -/
inductive IsBracket : Char → Prop where
  | square : IsBracket ']'
  | curly : IsBracket '\x7d'

theorem announced_bracket {close : Char} (closes : IsBracket close) (rest : List Char) :
    announced (close :: rest) = none := by
  have unnamed : Text.byName? Kind.all Kind.name "" = none := by decide +kernel
  cases closes <;> exact unnamed

theorem opens_debug {close : Char} (closes : IsBracket close) (cell : Cell) :
    Opens noChar close cell.debug.toList := by
  have kind := cell.announced_debug Text.startsOutside_nil
  rw [List.append_nil] at kind
  cases written : cell.debug.toList with
  | nil =>
      have unnamed : announced [] = none := by decide +kernel
      rw [written, unnamed] at kind
      cases kind
  | cons first more =>
      refine ⟨first, more, rfl, ?_, rfl⟩
      rintro rfl
      rw [written, announced_bracket closes] at kind
      cases kind

/-! ## Cells -/

/-- No cell in it, however deep, is a floating point number. -/
def Floatless (cell : Cell) : Prop :=
  ∀ path inner, cell.at? path = some inner → inner.kind.isFloating = false

theorem Floatless.part {cell part : Cell} {step : Step} (floatless : Floatless cell)
    (held : cell.part? step = some part) : Floatless part := fun path inner found =>
  floatless (step :: path) inner ((at?_of_part held).trans found)

/-- A cell that is not a floating point number and holds no cell has none in it. -/
theorem floatless_of_scalar {cell : Cell} (number : cell.kind.isFloating = false)
    (scalar : ∀ step, cell.part? step = none) : Floatless cell := by
  rintro (_ | ⟨step, path⟩) inner found
  · obtain rfl := Option.some.inj found
    exact number
  · rw [at?, scalar step] at found
    cases found

theorem floatless_array {kind : Kind} {elements : List Cell}
    (each : ∀ element ∈ elements, Floatless element) : Floatless (.array kind elements) := by
  rintro (_ | ⟨step, path⟩) inner found
  · obtain rfl := Option.some.inj found
    rfl
  · obtain ⟨part, held, within⟩ := at?_cons_eq_some_iff.mp found
    cases step with
    | element index => exact each part (List.mem_of_getElem? held) path inner within
    | key index | value index => cases held

/-- The debug text of the cell can be told apart from that of any cell, where neither a letter nor a
digit follows. -/
def Legible (cell : Cell) : Prop :=
  ∀ other, ToldApart (fun cell : Cell => cell.debug.toList) Char.isAlphanum cell other

section Compound

variable {rest otherRest : List Char}

theorem eq_of_debug_array {kind otherKind : Kind} {elements others : List Cell}
    (legible : ∀ element ∈ elements, Legible element)
    (same : (debug (.array kind elements)).toList ++ rest
      = (debug (.array otherKind others)).toList ++ otherRest) :
    Cell.array kind elements = .array otherKind others ∧ rest = otherRest := by
  simp only [toList_debug_array, List.append_assoc, List.append_cancel_left_eq,
    List.cons_append] at same
  obtain ⟨names, brackets⟩ := Text.eq_of_span
    (fun _ => kind.isAlphanum_of_mem_name) (fun _ => otherKind.isAlphanum_of_mem_name)
    (Text.startsOutside_cons.mpr rfl) (Text.startsOutside_cons.mpr rfl) same
  have separates : Opens Char.isAlphanum ']' [',', ' '] := ⟨',', [' '], rfl, by decide, rfl⟩
  obtain ⟨rfl, rests⟩ := Text.eq_of_intercalate rfl separates (opens_debug .square)
    (fun element present other _ => legible element present other)
    (List.cons.inj (List.cons.inj brackets).2).2
  obtain rfl := Kind.name_injective (String.toList_injective names)
  exact ⟨rfl, rests⟩

theorem toldApart_debugEntry {entry other : Cell × Cell} (key : Legible entry.1)
    (value : Legible entry.2) :
    ToldApart (fun entry => (debugEntry entry).toList) Char.isAlphanum entry other := by
  intro rest otherRest outside otherOutside same
  simp only [toList_debugEntry, List.append_assoc, List.cons_append] at same
  obtain ⟨keys, colons⟩ := key other.1 (Text.startsOutside_cons.mpr rfl)
    (Text.startsOutside_cons.mpr rfl) same
  obtain ⟨values, rests⟩ := value other.2 outside otherOutside
    (List.cons.inj (List.cons.inj colons).2).2
  exact ⟨Prod.ext keys values, rests⟩

theorem eq_of_debug_map {entries others : List (Cell × Cell)}
    (legible : ∀ entry ∈ entries, Legible entry.1 ∧ Legible entry.2)
    (same : (debug (.map entries)).toList ++ rest = (debug (.map others)).toList ++ otherRest) :
    Cell.map entries = .map others ∧ rest = otherRest := by
  have opens : ∀ entry, Opens noChar '\x7d' (debugEntry entry).toList := by
    intro entry
    obtain ⟨first, more, written, differs, -⟩ := opens_debug .curly entry.1
    rw [toList_debugEntry, written]
    exact ⟨first, _, rfl, differs, rfl⟩
  have separates : Opens Char.isAlphanum '\x7d' [',', ' '] := ⟨',', [' '], rfl, by decide, rfl⟩
  rw [toList_debug_map, toList_debug_map, List.cons_append, List.cons_append, List.append_assoc,
    List.append_assoc] at same
  obtain ⟨rfl, rests⟩ := Text.eq_of_intercalate rfl separates opens
    (fun entry present _ _ =>
      toldApart_debugEntry (legible entry present).1 (legible entry present).2)
    (List.cons.inj same).2
  exact ⟨rfl, rests⟩

end Compound

/-- **Debug texts can be told apart**, by induction on what the cell holds. -/
theorem legible_of_floatless (cell : Cell) : Floatless cell → Legible cell := by
  induction cell using induction_on_parts with
  | pass cell parts =>
    intro floatless other rest otherRest outside otherOutside same
    -- The two texts announce one kind, so only cells of one kind are left to compare.
    have kinds : cell.kind = other.kind := by
      have announces := cell.announced_debug outside
      rw [same, other.announced_debug otherOutside] at announces
      exact (Option.some.inj announces).symm
    have legible : ∀ step part, cell.part? step = some part → Legible part :=
      fun step part held => parts step part held (floatless.part held)
    cases cell with
    | integer kind word =>
        cases other <;> cases kinds
        obtain ⟨shown, rests⟩ := Text.eq_of_parentheses (kind.view.isNumeral_show _)
          (kind.view.isNumeral_show _) same
        rw [kind.show_read_injective shown]
        exact ⟨rfl, rests⟩
    | float pattern | double pattern => cases floatless [] _ rfl
    | string text =>
        cases other <;> cases kinds
        obtain ⟨rfl, rests⟩ := Text.eq_of_quotedText same
        exact ⟨rfl, rests⟩
    | char character =>
        cases other <;> cases kinds
        obtain ⟨rfl, rests⟩ := Text.eq_of_quotedChar same
        exact ⟨rfl, rests⟩
    | bool truth =>
        cases other <;> cases kinds
        obtain ⟨shown, rests⟩ := Text.eq_of_parentheses (Text.isNumeral_toString_bool _)
          (Text.isNumeral_toString_bool _) same
        rw [Text.toString_bool_injective shown]
        exact ⟨rfl, rests⟩
    | qbit pattern =>
        cases other <;> cases kinds
        obtain ⟨shown, rests⟩ := Text.eq_of_parentheses (isNumeral_display_qbit _)
          (isNumeral_display_qbit _) same
        rw [display_qbit_injective shown]
        exact ⟨rfl, rests⟩
    | array kind elements =>
        cases other <;> cases kinds
        exact eq_of_debug_array (forall_element_of_parts legible) same
    | map entries =>
        cases other <;> cases kinds
        obtain ⟨keys, values⟩ := forall_entry_of_parts legible
        exact eq_of_debug_map (fun entry present =>
          ⟨keys _ (List.mem_map_of_mem present), values _ (List.mem_map_of_mem present)⟩) same
    | null | invalid | unknown =>
        cases other <;> cases kinds
        exact ⟨rfl, List.append_cancel_left same⟩

/-- **Two cells have the same debug text only if they are the same cell**, unless there is a
floating point number in them. The quoted texts in them may hold any characters. -/
theorem debug_eq_iff_same {cell other : Cell} (floatless : Floatless cell) :
    cell.debug = other.debug ↔ cell.same other = true := by
  rw [same_iff]
  constructor
  · intro texts
    have alone : cell.debug.toList ++ [] = other.debug.toList ++ [] := by rw [texts]
    exact (legible_of_floatless cell floatless other Text.startsOutside_nil Text.startsOutside_nil
      alone).1
  · exact congrArg debug

/-- A text that imitates the separator between two texts is not taken for two texts. -/
theorem debug_imitated_separator :
    Floatless (.array .string [.string "a", .string "b"])
      ∧ (Cell.array .string [.string "a", .string "b"]).debug
          ≠ (Cell.array .string [.string "a\", \"b"]).debug := by
  have floatless : Floatless (.array .string [.string "a", .string "b"]) := by
    have strings : ∀ text, Floatless (.string text) := fun _ =>
      floatless_of_scalar rfl fun _ => rfl
    exact floatless_array (List.forall_mem_cons.mpr ⟨strings "a",
      List.forall_mem_cons.mpr ⟨strings "b", nofun⟩⟩)
  exact ⟨floatless, fun texts => absurd ((debug_eq_iff_same floatless).mp texts) (by decide)⟩

/-- Two patterns that are not numbers have the same text. -/
example : (float 0x7fc00000#32).debug = (float 0xffc00000#32).debug := by rfl

end Cell
end TaggedCells

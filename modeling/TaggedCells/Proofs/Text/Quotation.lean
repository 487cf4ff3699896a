import TaggedCells.Text.Json
import TaggedCells.Text
import TaggedCells.Proofs.Text.Legibility

/-!
# Quoted text can be told apart

There are two ways to put a text between marks, the one of debug texts and the one of JSON. In both
a character that could be taken for something else is escaped, and every escape can be read back
from its start (`readEscaped_append`, `Json.readEscaped_append`). No character is written so that it
begins with the mark, so the first mark that a reader meets between characters is the one that
closes the text. Whatever a quoted text has inside, it can be told apart from every other one
(`eq_of_quotedText`, `eq_of_quotedChar`, `Json.eq_of_string`).
-/

set_option autoImplicit false

namespace TaggedCells.Text

/-- The marks that close a text and a character. -/
inductive IsMark : Char → Prop where
  | double : IsMark '"'
  | single : IsMark '\''

theorem IsMark.ne_backslash {mark : Char} (closes : IsMark mark) : '\\' ≠ mark := by
  cases closes <;> decide

/-! ## Debug texts -/

/-- Reads one character of a quoted text from its front. -/
def readEscaped : List Char → Option (Char × List Char)
  | '\\' :: '0' :: rest => some ('\x00', rest)
  | '\\' :: 't' :: rest => some ('\t', rest)
  | '\\' :: 'r' :: rest => some ('\r', rest)
  | '\\' :: 'n' :: rest => some ('\n', rest)
  | '\\' :: 'u' :: '\x7b' :: rest =>
      let digits := rest.takeWhile Char.isAlphanum
      some (Char.ofNat (valueIn 16 digits), rest.drop (digits.length + 1))
  | '\\' :: character :: rest => some (character, rest)
  | character :: rest => some (character, rest)
  | [] => none

theorem readEscaped_plain {character : Char} (plain : character ≠ '\\') (rest : List Char) :
    readEscaped (character :: rest) = some (character, rest) := by
  unfold readEscaped
  split <;> simp_all

theorem toList_pointEscape (character : Char) :
    (pointEscape character).toList
      = '\\' :: 'u' :: '\x7b' :: (Nat.toDigits 16 character.toNat ++ ['\x7d']) := by
  simp [pointEscape, inBase]

theorem readEscaped_pointEscape (character : Char) (rest : List Char) :
    readEscaped ((pointEscape character).toList ++ rest) = some (character, rest) := by
  have spans : ∀ digit ∈ Nat.toDigits 16 character.toNat, digit.isAlphanum = true :=
    fun digit => isAlphanum_of_mem_toDigits (by decide) (by decide)
  have taken : (Nat.toDigits 16 character.toNat ++ '\x7d' :: rest).takeWhile Char.isAlphanum
      = Nat.toDigits 16 character.toNat :=
    takeWhile_append_of_span spans (startsOutside_cons.mpr rfl)
  rw [toList_pointEscape]
  simp only [List.cons_append, List.append_assoc, List.nil_append, readEscaped, taken]
  rw [valueIn_toDigits (by decide) (by decide), Char.ofNat_toNat]
  simp

/-- A character can be read back from what it is written as. -/
theorem readEscaped_append {mark : Char} (closes : IsMark mark) (character : Char)
    (rest : List Char) :
    readEscaped ((escaped mark character).toList ++ rest) = some (character, rest) := by
  unfold escaped
  split
  case isTrue same =>
      obtain rfl := beq_iff_eq.mp same
      cases closes <;> rfl
  case isFalse =>
      split
      case h_6 backslash =>
          split
          · simpa using readEscaped_plain backslash rest
          · exact readEscaped_pointEscape character rest
      all_goals rfl

theorem opens_escaped {mark : Char} (closes : IsMark mark) (character : Char) :
    Opens noChar mark (escaped mark character).toList := by
  unfold escaped
  split
  case isTrue => exact ⟨'\\', [character], by simp, closes.ne_backslash, rfl⟩
  case isFalse differs =>
      have apart : character ≠ mark := by simpa using differs
      split
      case h_6 =>
          split
          · exact ⟨character, [], by simp, apart, rfl⟩
          · exact ⟨'\\', _, toList_pointEscape character, closes.ne_backslash, rfl⟩
      all_goals exact ⟨'\\', _, rfl, closes.ne_backslash, rfl⟩

theorem toldApart_escaped {mark : Char} (closes : IsMark mark) (inside : Char → Bool)
    (left right : Char) :
    ToldApart (fun character => (escaped mark character).toList) inside left right :=
  toldApart_of_read (readEscaped_append closes) left right

theorem toList_quotedText (text : String) :
    (quotedText text).toList
      = '"' :: (text.toList.flatMap (fun character => (escaped '"' character).toList)
          ++ ['"']) := by
  simp [quotedText, String.toList_join, List.flatMap_map]

theorem toList_quotedChar (character : Char) :
    (quotedChar character).toList = '\'' :: ((escaped '\'' character).toList ++ ['\'']) := by
  simp [quotedChar]

/-- **Quoted texts can be told apart**, whatever they have inside and whatever follows. -/
theorem eq_of_quotedText {left right : String} {rest otherRest : List Char}
    (same : (quotedText left).toList ++ rest = (quotedText right).toList ++ otherRest) :
    left = right ∧ rest = otherRest := by
  rw [toList_quotedText, toList_quotedText, List.cons_append, List.cons_append, List.append_assoc,
    List.append_assoc] at same
  obtain ⟨texts, rests⟩ := eq_of_flatMap rfl (opens_escaped .double)
    (fun character _ other _ => toldApart_escaped .double noChar character other)
    (List.cons.inj same).2
  exact ⟨String.toList_injective texts, rests⟩

/-- **Quoted characters can be told apart.** -/
theorem eq_of_quotedChar {left right : Char} {rest otherRest : List Char}
    (same : (quotedChar left).toList ++ rest = (quotedChar right).toList ++ otherRest) :
    left = right ∧ rest = otherRest := by
  rw [toList_quotedChar, toList_quotedChar, List.cons_append, List.cons_append, List.append_assoc,
    List.append_assoc] at same
  obtain ⟨rfl, rests⟩ := toldApart_escaped .single noChar left right (startsOutside_noChar _)
    (startsOutside_noChar _) (List.cons.inj same).2
  exact ⟨rfl, (List.cons.inj rests).2⟩

/-! ## JSON strings -/

namespace Json

/-- Reads one character of a JSON string from its front. -/
def readEscaped : List Char → Option (Char × List Char)
  | '\\' :: 'b' :: rest => some ('\x08', rest)
  | '\\' :: 'f' :: rest => some ('\x0c', rest)
  | '\\' :: 'n' :: rest => some ('\n', rest)
  | '\\' :: 'r' :: rest => some ('\r', rest)
  | '\\' :: 't' :: rest => some ('\t', rest)
  | '\\' :: 'u' :: rest => some (Char.ofNat (valueIn 16 (rest.take 4)), rest.drop 4)
  | '\\' :: character :: rest => some (character, rest)
  | character :: rest => some (character, rest)
  | [] => none

theorem readEscaped_plain {character : Char} (plain : character ≠ '\\') (rest : List Char) :
    readEscaped (character :: rest) = some (character, rest) := by
  unfold readEscaped
  split <;> simp_all

/-- The code point of a control character has four digits from which it can be read back. -/
theorem leftpad_toDigits : ∀ code < 32,
    (List.leftpad 4 '0' (Nat.toDigits 16 code)).length = 4
      ∧ valueIn 16 (List.leftpad 4 '0' (Nat.toDigits 16 code)) = code := by
  decide

/-- A character can be read back from what it is written as. -/
theorem readEscaped_append (character : Char) (rest : List Char) :
    readEscaped ((escaped character).toList ++ rest) = some (character, rest) := by
  unfold escaped
  split
  case h_8 backslash _ _ _ _ _ =>
      split
      case isTrue control =>
          have below : character.toNat < 32 := UInt32.lt_iff_toNat_lt.mp control
          obtain ⟨four, value⟩ := leftpad_toDigits character.toNat below
          have written : ("\\u" ++ fillLeft '0' 4 (inBase 16 character.toNat)).toList ++ rest
              = '\\' :: 'u' :: (List.leftpad 4 '0' (Nat.toDigits 16 character.toNat) ++ rest) := by
            simp [fillLeft, inBase]
          rw [written]
          show some (Char.ofNat (valueIn 16 (List.take 4 _)), List.drop 4 _) = _
          rw [List.take_left' four, List.drop_left' four, value, Char.ofNat_toNat]
      case isFalse => simpa using readEscaped_plain backslash rest
  all_goals rfl

theorem opens_escaped (character : Char) : Opens noChar '"' (escaped character).toList := by
  unfold escaped
  split
  case h_8 quote _ _ _ _ _ _ =>
      split
      case isTrue => exact ⟨'\\', _, by simp; rfl, by decide, rfl⟩
      case isFalse => exact ⟨character, [], by simp, quote, rfl⟩
  all_goals exact ⟨'\\', _, rfl, by decide, rfl⟩

theorem toList_string (text : String) :
    (string text).toList
      = '"' :: (text.toList.flatMap (fun character => (escaped character).toList) ++ ['"']) := by
  simp [string, String.toList_join, List.flatMap_map]

/-- **JSON strings can be told apart**, whatever they have inside and whatever follows. -/
theorem eq_of_string {left right : String} {rest otherRest : List Char}
    (same : (string left).toList ++ rest = (string right).toList ++ otherRest) :
    left = right ∧ rest = otherRest := by
  rw [toList_string, toList_string, List.cons_append, List.cons_append, List.append_assoc,
    List.append_assoc] at same
  obtain ⟨texts, rests⟩ := eq_of_flatMap rfl opens_escaped
    (fun character _ other _ => toldApart_of_read readEscaped_append character other)
    (List.cons.inj same).2
  exact ⟨String.toList_injective texts, rests⟩

end Json
end TaggedCells.Text

import TaggedCells.Cell.Compare
import Mathlib.Algebra.Order.Group.Nat
import Mathlib.Algebra.Order.Monoid.Unbundled.Basic
import Mathlib.Data.List.Basic

/-!
# Texts byte by byte and character by character

Texts are compared by their bytes in UTF-8, without a look at where one character ends and the next
begins. The order is that of the characters all the same.

A character is written as its code point in base 64: the leading digits in the first byte, under a
mark that tells how many digits follow, and each of the others in a byte of its own
(`utf8EncodeChar_eq`). Code points of equal length are therefore compared digit by digit, and of two
unequal lengths the longer has the greater mark (`lead_lt_lead`). So the first byte that differs
lies in the first character that differs, and the bytes behind it no longer matter
(`compare_utf8EncodeChar_append`).
-/

set_option autoImplicit false

namespace TaggedCells

/-! ## Numbers digit by digit -/

namespace Text

theorem compare_add_left (common left right : Nat) :
    compare (common + left) (common + right) = compare left right := by
  rw [← cmp_eq_compare, ← cmp_eq_compare, cmp_add_left]

/-- Numbers are compared by their quotients, and by their remainders where those agree. -/
theorem compare_div_then_mod (base left right : Nat) :
    (compare (left / base) (right / base)).then (compare (left % base) (right % base))
      = compare left right := by
  rcases Nat.lt_trichotomy (left / base) (right / base) with less | same | greater
  · rw [Nat.compare_eq_lt.mpr less, Nat.compare_eq_lt.mpr (Nat.lt_of_div_lt_div less)]
    rfl
  · rw [Nat.compare_eq_eq.mpr same, Ordering.eq_then]
    conv_rhs => rw [← Nat.div_add_mod left base, ← Nat.div_add_mod right base, same]
    exact (compare_add_left _ _ _).symm
  · rw [Nat.compare_eq_gt.mpr greater, Nat.compare_eq_gt.mpr (Nat.lt_of_div_lt_div greater)]
    rfl

/-- One more digit goes before the others. -/
theorem compare_mod_pow_succ (count left right : Nat) :
    compare (left % 64 ^ (count + 1)) (right % 64 ^ (count + 1))
      = (compare (left / 64 ^ count % 64) (right / 64 ^ count % 64)).then
          (compare (left % 64 ^ count) (right % 64 ^ count)) := by
  have digit : ∀ code, code % 64 ^ (count + 1) / 64 ^ count = code / 64 ^ count % 64 := by
    intro code
    rw [Nat.pow_succ, Nat.mod_mul_right_div_self]
  have others : ∀ code, code % 64 ^ (count + 1) % 64 ^ count = code % 64 ^ count := by
    intro code
    exact Nat.mod_mod_of_dvd _ (Nat.pow_dvd_pow 64 (Nat.le_succ count))
  rw [← compare_div_then_mod (64 ^ count), digit, digit, others, others]

/-! ## Bytes -/

theorem compare_byte {left right : Nat} (leftByte : left < 256) (rightByte : right < 256) :
    compare (UInt8.ofNat left) (UInt8.ofNat right) = compare left right := by
  have leftRead : (UInt8.ofNat left).toNat = left := UInt8.toNat_ofNat_of_lt' leftByte
  have rightRead : (UInt8.ofNat right).toNat = right := UInt8.toNat_ofNat_of_lt' rightByte
  show compareOfLessAndEq _ _ = compareOfLessAndEq _ _
  simp only [compareOfLessAndEq, UInt8.lt_iff_toNat_lt, ← UInt8.toNat_inj, leftRead, rightRead]

/-- The last digits of a number in base 64, each in a byte that is marked as a further one. -/
def trail : Nat → Nat → List UInt8
  | 0, _ => []
  | count + 1, code => .ofNat (0x80 + code / 64 ^ count % 64) :: trail count code

theorem compare_trail_append (count left right : Nat) (leftRest rightRest : List UInt8) :
    compare (trail count left ++ leftRest) (trail count right ++ rightRest)
      = (compare (left % 64 ^ count) (right % 64 ^ count)).then (compare leftRest rightRest) := by
  induction count with
  | zero => simp [trail, Nat.mod_one]
  | succ count ih =>
      have byte : ∀ code, 0x80 + code / 64 ^ count % 64 < 256 := by
        intro code
        omega
      rw [trail, trail, List.cons_append, List.cons_append, List.compare_cons_cons,
        compare_byte (byte left) (byte right), compare_add_left, ih, compare_mod_pow_succ,
        Ordering.then_assoc]

/-! ## Characters -/

/-- How many bytes follow the first one of a code point. -/
def following (code : Nat) : Nat :=
  if code ≤ 0x7F then 0 else if code ≤ 0x7FF then 1 else if code ≤ 0xFFFF then 2 else 3

/-- The mark in the first byte that tells how many follow. -/
def mark : Nat → Nat
  | 0 => 0
  | 1 => 0xC0
  | 2 => 0xE0
  | _ => 0xF0

/-- The first byte of a code point: the mark and the leading digits. -/
def lead (code : Nat) : Nat := mark (following code) + code / 64 ^ following code

theorem lead_lt {code : Nat} (valid : code < 0x110000) : lead code < 256 := by
  unfold lead following
  split_ifs <;> simp only [mark] <;> omega

/-- Of two code points the one that takes more bytes is the greater, in its first byte too. -/
theorem lead_lt_lead {left right : Nat} (shorter : following left < following right) :
    left < right ∧ lead left < lead right := by
  unfold lead
  unfold following at shorter ⊢
  split_ifs at shorter ⊢ <;> simp only [mark] <;> omega

theorem code_lt (character : Char) : character.val.toNat < 0x110000 := by
  rcases character.valid with low | ⟨-, high⟩
  · exact Nat.lt_trans low (by decide)
  · exact high

/-- A character is written as the digits of its code point. -/
theorem utf8EncodeChar_eq (character : Char) :
    String.utf8EncodeChar character
      = .ofNat (lead character.val.toNat)
        :: trail (following character.val.toNat) character.val.toNat := by
  have valid := code_lt character
  unfold String.utf8EncodeChar lead following
  dsimp only
  generalize character.val.toNat = code at valid ⊢
  split_ifs
  · simp [mark, trail]
  · rw [Nat.mod_eq_of_lt (show code / 64 < 0x20 by omega)]
    simp [mark, trail, UInt8.add_comm]
  · rw [Nat.mod_eq_of_lt (show code / 4096 < 0x10 by omega)]
    simp [mark, trail, UInt8.add_comm]
  · rw [Nat.mod_eq_of_lt (show code / 262144 < 0x08 by omega)]
    simp [mark, trail, UInt8.add_comm]

/-- **The bytes of two characters are compared as the characters are, and what stands behind them
counts only if those are the same.** -/
theorem compare_utf8EncodeChar_append (left right : Char) (leftRest rightRest : List UInt8) :
    compare (String.utf8EncodeChar left ++ leftRest) (String.utf8EncodeChar right ++ rightRest)
      = (compare left.val right.val).then (compare leftRest rightRest) := by
  have codes : compare left.val right.val = compare left.val.toNat right.val.toNat := by
    show compareOfLessAndEq _ _ = compareOfLessAndEq _ _
    simp only [compareOfLessAndEq, UInt32.lt_iff_toNat_lt, ← UInt32.toNat_inj]
  rw [utf8EncodeChar_eq, utf8EncodeChar_eq, List.cons_append, List.cons_append,
    List.compare_cons_cons, compare_byte (lead_lt (code_lt left)) (lead_lt (code_lt right)), codes]
  generalize left.val.toNat = left
  generalize right.val.toNat = right
  -- The mark decides between unequal lengths. Equal lengths have one mark and as many digits behind
  -- it, so that the leading digits and then the others are compared.
  rcases Nat.lt_trichotomy (following left) (following right) with shorter | same | longer
  · obtain ⟨less, first⟩ := lead_lt_lead shorter
    rw [Nat.compare_eq_lt.mpr first, Nat.compare_eq_lt.mpr less]
    rfl
  · rw [lead, lead, same, compare_add_left, compare_trail_append, ← Ordering.then_assoc,
      compare_div_then_mod]
  · obtain ⟨greater, first⟩ := lead_lt_lead longer
    rw [Nat.compare_eq_gt.mpr first, Nat.compare_eq_gt.mpr greater]
    rfl

end Text

/-! ## Texts -/

namespace Cell

/-- The order of two sequences of cells: that of the first cells that differ, and a sequence comes
before the longer ones that start with it. -/
def orderEach : List Cell → List Cell → Except Failure Ordering
  | [], [] => .ok .eq
  | [], _ :: _ => .ok .lt
  | _ :: _, [] => .ok .gt
  | left :: lefts, right :: rights => do
      match ← order left right with
      | .eq => orderEach lefts rights
      | apart => return apart

/-- The characters of a text, each in a cell. -/
def characters (text : String) : List Cell := text.toList.map .char

theorem utf8_eq (text : String) : utf8 text = text.toList.flatMap String.utf8EncodeChar := by
  rw [utf8, String.toUTF8_eq_toByteArray, ← String.utf8Encode_toList, List.utf8Encode,
    List.data_toByteArray]

theorem orderEach_cons_char (left right : Char) (lefts rights : List Cell) :
    orderEach (.char left :: lefts) (.char right :: rights)
      = match compare left.val right.val with
        | .eq => orderEach lefts rights
        | apart => .ok apart := by
  rw [orderEach]
  show (match compare left.val right.val with
    | .eq => orderEach lefts rights
    | apart => return apart) = _
  cases compare left.val right.val <;> rfl

theorem orderEach_map_char (left right : List Char) :
    orderEach (left.map .char) (right.map .char)
      = .ok (compare (left.flatMap String.utf8EncodeChar)
          (right.flatMap String.utf8EncodeChar)) := by
  induction left generalizing right with
  | nil =>
    cases right with
    | nil => rfl
    | cons character rest =>
      rw [List.flatMap_cons, Text.utf8EncodeChar_eq]
      rfl
  | cons character rest ih =>
    cases right with
    | nil =>
      rw [List.flatMap_cons, Text.utf8EncodeChar_eq]
      rfl
    | cons other others =>
      rw [List.map_cons, List.map_cons, orderEach_cons_char, List.flatMap_cons, List.flatMap_cons,
        Text.compare_utf8EncodeChar_append, ih]
      cases compare character.val other.val <;> rfl

end Cell

/-- **Texts are in the order of their characters**, the first that differ deciding. -/
theorem texts_are_ordered_by_characters (left right : String) :
    Cell.order (.string left) (.string right)
      = Cell.orderEach (Cell.characters left) (Cell.characters right) := by
  rw [Cell.characters, Cell.characters, Cell.orderEach_map_char, ← Cell.utf8_eq, ← Cell.utf8_eq]
  rfl

/-- Written in units of 16 bits, the second text would come first. -/
example : Cell.order (.string "\uffff") (.string "😀") = .ok .lt := by
  decide

end TaggedCells

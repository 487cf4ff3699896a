import TaggedCells.Text
import Mathlib.Data.List.Basic

/-!
# Texts that can be told apart

A text that stands inside another one is read from its start, and nothing but its own characters
says where it ends. Two values can be told apart by their texts if no two texts that go on behind
them make the wholes the same, unless values and rests are the same (`ToldApart`). A number, say,
is told apart by its digits if what follows is not a digit.

Sequences of such texts can be told apart as well, one right behind the other
(`eq_of_flatMap`) or with a separator between (`eq_of_intercalate`), if a closing character
follows that no element begins with.
-/

set_option autoImplicit false

namespace TaggedCells.Text

variable {α : Type}

/-- The text does not begin with a character of the class. -/
def StartsOutside (inside : Char → Bool) (text : List Char) : Prop :=
  ∀ first ∈ text.head?, inside first = false

/-- The text begins with a character that is neither the given one nor of the class. -/
def Opens (inside : Char → Bool) (close : Char) (text : List Char) : Prop :=
  ∃ first more, text = first :: more ∧ first ≠ close ∧ inside first = false

/-- The class of no character: what is told apart from whatever follows. -/
def noChar (_ : Char) : Bool := false

/-- The texts of two values, each followed by something that begins outside the class, are the same
only if the values and what follows are. -/
def ToldApart (write : α → List Char) (inside : Char → Bool) (value other : α) : Prop :=
  ∀ ⦃rest otherRest : List Char⦄, StartsOutside inside rest → StartsOutside inside otherRest →
    write value ++ rest = write other ++ otherRest → value = other ∧ rest = otherRest

section Starts

variable {inside : Char → Bool}

theorem startsOutside_nil : StartsOutside inside [] := nofun

theorem startsOutside_cons {first : Char} {more : List Char} :
    StartsOutside inside (first :: more) ↔ inside first = false := by
  simp [StartsOutside]

theorem startsOutside_noChar (text : List Char) : StartsOutside noChar text := fun _ _ => rfl

theorem Opens.startsOutside {close : Char} {text : List Char} (opens : Opens inside close text)
    (rest : List Char) : StartsOutside inside (text ++ rest) := by
  obtain ⟨first, more, rfl, -, outside⟩ := opens
  exact startsOutside_cons.mpr outside

theorem Opens.append_ne {close : Char} {text : List Char} (opens : Opens inside close text)
    (rest tail : List Char) : text ++ rest ≠ close :: tail := by
  obtain ⟨first, more, rfl, differs, -⟩ := opens
  intro same
  exact differs (List.cons.inj same).1

end Starts

/-! ## Single texts -/

section Single

variable {inside : Char → Bool} {write : α → List Char}

/-- Characters of a class end where the first other one follows. -/
theorem eq_of_span {left right rest otherRest : List Char}
    (leftInside : ∀ character ∈ left, inside character = true)
    (rightInside : ∀ character ∈ right, inside character = true)
    (outside : StartsOutside inside rest) (otherOutside : StartsOutside inside otherRest)
    (same : left ++ rest = right ++ otherRest) : left = right ∧ rest = otherRest := by
  induction left generalizing right with
  | nil =>
      cases right with
      | nil => exact ⟨rfl, same⟩
      | cons first more =>
          rw [List.nil_append] at same
          rw [same, List.cons_append, startsOutside_cons] at outside
          rw [rightInside first List.mem_cons_self] at outside
          cases outside
  | cons first more ih =>
      obtain ⟨here, further⟩ := List.forall_mem_cons.mp leftInside
      cases right with
      | nil =>
          rw [List.nil_append] at same
          rw [← same, List.cons_append, startsOutside_cons, here] at otherOutside
          cases otherOutside
      | cons other others =>
          obtain ⟨rfl, after⟩ := List.cons.inj same
          obtain ⟨rfl, rests⟩ := ih further (List.forall_mem_cons.mp rightInside).2 after
          exact ⟨rfl, rests⟩

theorem takeWhile_append_of_span {left rest : List Char}
    (leftInside : ∀ character ∈ left, inside character = true)
    (outside : StartsOutside inside rest) : (left ++ rest).takeWhile inside = left := by
  rw [List.takeWhile_append_of_pos leftInside]
  cases rest with
  | nil => exact List.append_nil left
  | cons first more =>
      have ends := startsOutside_cons.mp outside
      rw [List.takeWhile_cons_of_neg (by simp [ends]), List.append_nil]

/-- What is written with characters of a class is told apart from what begins with another. -/
theorem toldApart_of_span (spans : ∀ value, ∀ character ∈ write value, inside character = true)
    (injective : ∀ {value other}, write value = write other → value = other) (value other : α) :
    ToldApart write inside value other := by
  intro rest otherRest outside otherOutside same
  obtain ⟨texts, rests⟩ := eq_of_span (spans value) (spans other) outside otherOutside same
  exact ⟨injective texts, rests⟩

/-- What can be taken off the front of a text by reading is told apart. -/
theorem toldApart_of_read {read : List Char → Option (α × List Char)}
    (reads : ∀ value rest, read (write value ++ rest) = some (value, rest)) (value other : α) :
    ToldApart write inside value other := by
  intro rest otherRest _ _ same
  have taken := congrArg read same
  rw [reads, reads] at taken
  exact Prod.mk.inj (Option.some.inj taken)

end Single

/-! ## Sequences -/

section Sequences

variable {inside : Char → Bool} {write : α → List Char} {close : Char}

theorem startsOutside_flatMap (closes : inside close = false)
    (opens : ∀ value, Opens inside close (write value)) (values : List α) (rest : List Char) :
    StartsOutside inside (values.flatMap write ++ close :: rest) := by
  cases values with
  | nil => exact startsOutside_cons.mpr closes
  | cons value others =>
      rw [List.flatMap_cons, List.append_assoc]
      exact (opens value).startsOutside _

/-- **Texts one behind the other can be told apart** up to the closing character. -/
theorem eq_of_flatMap (closes : inside close = false)
    (opens : ∀ value, Opens inside close (write value)) {left right : List α}
    (apart : ∀ value ∈ left, ∀ other ∈ right, ToldApart write inside value other)
    {rest otherRest : List Char}
    (same : left.flatMap write ++ close :: rest = right.flatMap write ++ close :: otherRest) :
    left = right ∧ rest = otherRest := by
  induction left generalizing right with
  | nil =>
      cases right with
      | nil => exact ⟨rfl, (List.cons.inj same).2⟩
      | cons other others =>
          rw [List.flatMap_cons, List.append_assoc] at same
          exact absurd same.symm ((opens other).append_ne _ _)
  | cons value values ih =>
      rw [List.flatMap_cons, List.append_assoc] at same
      cases right with
      | nil => exact absurd same ((opens value).append_ne _ _)
      | cons other others =>
          rw [List.flatMap_cons, List.append_assoc] at same
          obtain ⟨rfl, further⟩ := apart value List.mem_cons_self other List.mem_cons_self
            (startsOutside_flatMap closes opens values rest)
            (startsOutside_flatMap closes opens others otherRest) same
          obtain ⟨rfl, rests⟩ := ih (fun element present another presentToo => apart element
            (List.mem_cons_of_mem _ present) another (List.mem_cons_of_mem _ presentToo)) further
          exact ⟨rfl, rests⟩

/-- Behind the first of separated texts, each other one has a separator in front of it. -/
theorem intercalate_cons (separator text : List Char) (texts : List (List Char)) :
    separator.intercalate (text :: texts) = text ++ texts.flatMap (separator ++ ·) := by
  induction texts generalizing text with
  | nil => simp
  | cons next texts ih =>
      rw [List.intercalate_cons_of_ne_nil (List.cons_ne_nil _ _), ih, List.flatMap_cons,
        List.append_assoc, List.append_assoc]

theorem toldApart_prefixed {value other : α} (apart : ToldApart write inside value other)
    (separator : List Char) :
    ToldApart (fun value => separator ++ write value) inside value other := by
  intro rest otherRest outside otherOutside same
  rw [List.append_assoc, List.append_assoc] at same
  exact apart outside otherOutside (List.append_cancel_left same)

/-- **Separated texts can be told apart** up to the closing character. -/
theorem eq_of_intercalate {separator : List Char} (closes : inside close = false)
    (separates : Opens inside close separator) (opens : ∀ value, Opens noChar close (write value))
    {left right : List α}
    (apart : ∀ value ∈ left, ∀ other ∈ right, ToldApart write inside value other)
    {rest otherRest : List Char}
    (same : separator.intercalate (left.map write) ++ close :: rest
      = separator.intercalate (right.map write) ++ close :: otherRest) :
    left = right ∧ rest = otherRest := by
  have follow : ∀ value, Opens inside close (separator ++ write value) := by
    obtain ⟨first, more, rfl, differs, outside⟩ := separates
    exact fun value => ⟨first, more ++ write value, rfl, differs, outside⟩
  have begun : ∀ (value : α) (values : List α) (tail : List Char),
      separator.intercalate ((value :: values).map write) ++ tail
        = write value ++ (values.flatMap (fun value => separator ++ write value) ++ tail) := by
    intro value values tail
    rw [List.map_cons, intercalate_cons, List.flatMap_map, List.append_assoc]
  cases left with
  | nil =>
      cases right with
      | nil => exact ⟨rfl, (List.cons.inj same).2⟩
      | cons other others =>
          rw [begun] at same
          exact absurd same.symm ((opens other).append_ne _ _)
  | cons value values =>
      rw [begun] at same
      cases right with
      | nil => exact absurd same ((opens value).append_ne _ _)
      | cons other others =>
          rw [begun] at same
          obtain ⟨rfl, further⟩ := apart value List.mem_cons_self other List.mem_cons_self
            (startsOutside_flatMap closes follow values rest)
            (startsOutside_flatMap closes follow others otherRest) same
          have later : ∀ element ∈ values, ∀ another ∈ others,
              ToldApart (fun value => separator ++ write value) inside element another :=
            fun element present another presentToo =>
              toldApart_prefixed (apart element (List.mem_cons_of_mem _ present) another
                (List.mem_cons_of_mem _ presentToo)) separator
          obtain ⟨rfl, rests⟩ := eq_of_flatMap closes follow later further
          exact ⟨rfl, rests⟩

end Sequences

/-! ## Digits -/

/-- The number that a digit stands for, letters included. -/
def digitValue (digit : Char) : Nat :=
  if digit.isDigit then digit.toNat - '0'.toNat else digit.toNat - 'a'.toNat + 10

/-- The number that digits stand for. -/
def valueIn (base : Nat) (digits : List Char) : Nat :=
  digits.foldl (fun total digit => base * total + digitValue digit) 0

theorem digitValue_digitChar : ∀ digit < 16, digitValue digit.digitChar = digit := by decide

theorem isAlphanum_digitChar : ∀ digit < 16, digit.digitChar.isAlphanum = true := by decide

section Bases

variable {base : Nat}

/-- A number can be read back from its digits. -/
theorem valueIn_toDigits (several : 1 < base) (few : base ≤ 16) (number : Nat) :
    valueIn base (Nat.toDigits base number) = number := by
  induction number using Nat.strongRecOn with
  | ind number ih =>
    rw [Nat.toDigits_eq_if several]
    split
    case isTrue small =>
        simp [valueIn, digitValue_digitChar number (by omega)]
    case isFalse large =>
        have smaller : number / base < number := Nat.div_lt_self (by omega) several
        have last : number % base < base := Nat.mod_lt _ (by omega)
        have higher := ih _ smaller
        rw [valueIn] at higher ⊢
        rw [List.foldl_append, higher, List.foldl_cons, List.foldl_nil,
          digitValue_digitChar _ (by omega)]
        exact Nat.div_add_mod number base

theorem toDigits_injective (several : 1 < base) (few : base ≤ 16) {left right : Nat}
    (same : Nat.toDigits base left = Nat.toDigits base right) : left = right := by
  rw [← valueIn_toDigits several few left, same, valueIn_toDigits several few]

theorem isAlphanum_of_mem_toDigits (several : 1 < base) (few : base ≤ 16) {number : Nat}
    {character : Char} (present : character ∈ Nat.toDigits base number) :
    character.isAlphanum = true := by
  induction number using Nat.strongRecOn with
  | ind number ih =>
    rw [Nat.toDigits_eq_if several] at present
    split at present
    case isTrue small =>
        obtain rfl := List.mem_singleton.mp present
        exact isAlphanum_digitChar number (by omega)
    case isFalse large =>
        rcases List.mem_append.mp present with higher | last
        · exact ih _ (Nat.div_lt_self (by omega) several) higher
        · obtain rfl := List.mem_singleton.mp last
          have below : number % base < base := Nat.mod_lt _ (by omega)
          exact isAlphanum_digitChar _ (by omega)

end Bases

theorem toList_toString (number : Nat) : (toString number).toList = Nat.toDigits 10 number := by
  rw [Nat.toString_eq_ofList_toDigits, String.toList_ofList]

theorem toList_toString_negSucc (number : Nat) :
    (toString (Int.negSucc number)).toList = '-' :: Nat.toDigits 10 (number + 1) := by
  change ("-" ++ toString (number + 1)).toList = _
  rw [String.toList_append, toList_toString]
  rfl

/-- An integer can be read back from its decimal digits and its sign, which is not a digit. -/
theorem toString_injective : Function.Injective (toString : Int → String) := by
  have signed : ∀ amount magnitude : Nat,
      toString (Int.ofNat amount) ≠ toString (Int.negSucc magnitude) := by
    intro amount magnitude same
    have texts : Nat.toDigits 10 amount = '-' :: Nat.toDigits 10 (magnitude + 1) := by
      rw [← toList_toString_negSucc, ← same]
      exact (toList_toString amount).symm
    have digit := Nat.isDigit_of_mem_toDigits (by decide) (by decide)
      (texts ▸ List.mem_cons_self : '-' ∈ Nat.toDigits 10 amount)
    exact absurd digit (by decide)
  intro left right same
  cases left with
  | ofNat amount =>
      cases right with
      | ofNat other =>
          have texts : (toString amount).toList = (toString other).toList :=
            congrArg String.toList same
          rw [toList_toString, toList_toString] at texts
          rw [toDigits_injective (by decide) (by decide) texts]
      | negSucc magnitude => exact absurd same (signed amount magnitude)
  | negSucc magnitude =>
      cases right with
      | ofNat amount => exact absurd same.symm (signed amount magnitude)
      | negSucc other =>
          have texts := congrArg String.toList same
          rw [toList_toString_negSucc, toList_toString_negSucc] at texts
          have magnitudes := toDigits_injective (by decide) (by decide) (List.cons.inj texts).2
          rw [Nat.succ.inj magnitudes]

/-- Numbers can be told apart where no further digit follows. -/
theorem toldApart_number (left right : Nat) :
    ToldApart (fun number => (toString number).toList) Char.isDigit left right := by
  refine toldApart_of_span ?_ ?_ left right
  · intro number character present
    rw [toList_toString] at present
    exact Nat.isDigit_of_mem_toDigits (by decide) (by decide) present
  · intro number other same
    rw [toList_toString, toList_toString] at same
    exact toDigits_injective (by decide) (by decide) same

end TaggedCells.Text

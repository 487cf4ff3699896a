import TaggedCells.Proofs.Text.Quotation

/-!
# Compact objects can be told apart

Compactly written objects have nothing between their fields but a comma. A field name and a text are
JSON strings and end with the mark that closes them; a number is a run of digits, and neither a
comma nor a closing brace is one. So a field ends where it seems to end, an object closes with the
brace behind its last field (`eq_of_compact`), and an array of objects with the bracket behind its
last object (`compactList_injective`).
-/

set_option autoImplicit false

namespace TaggedCells.Text.Json

/-- A number begins with a digit. -/
theorem isDigit_head_number (amount : Nat) :
    ∃ first more, (Value.number amount).render.toList = first :: more ∧ first.isDigit = true := by
  have digits : ∀ digit ∈ Nat.toDigits 10 amount, digit.isDigit = true :=
    fun digit => Nat.isDigit_of_mem_toDigits (by decide) (by decide)
  rw [Value.render, toList_toString]
  cases written : Nat.toDigits 10 amount with
  | nil => exact absurd written Nat.toDigits_ne_nil
  | cons first more => exact ⟨first, more, rfl, digits first (written ▸ List.mem_cons_self)⟩

/-- A text begins with a quotation mark, which is not a digit. -/
theorem render_number_ne_text (amount : Nat) (content : String) (rest otherRest : List Char) :
    (Value.number amount).render.toList ++ rest
      ≠ (Value.text content).render.toList ++ otherRest := by
  obtain ⟨first, more, written, digit⟩ := isDigit_head_number amount
  intro same
  rw [written, Value.render, toList_string] at same
  obtain rfl := (List.cons.inj same).1
  exact absurd digit (by decide)

/-- Values can be told apart where no further digit follows. -/
theorem toldApart_value (left right : Value) :
    ToldApart (fun value => value.render.toList) Char.isDigit left right := by
  intro rest otherRest outside otherOutside same
  cases left with
  | number amount =>
      cases right with
      | number other =>
          obtain ⟨rfl, rests⟩ := toldApart_number amount other outside otherOutside same
          exact ⟨rfl, rests⟩
      | text content => exact absurd same (render_number_ne_text amount content rest otherRest)
  | text content =>
      cases right with
      | number other =>
          exact absurd same.symm (render_number_ne_text other content otherRest rest)
      | text other =>
          obtain ⟨rfl, rests⟩ := eq_of_string same
          exact ⟨rfl, rests⟩

/-! ## Fields and objects -/

theorem toList_field (named : String × Value) :
    (field ":" named).toList = (string named.1).toList ++ ':' :: named.2.render.toList := by
  simp [field]

theorem toldApart_field (left right : String × Value) :
    ToldApart (fun named => (field ":" named).toList) Char.isDigit left right := by
  intro rest otherRest outside otherOutside same
  simp only [toList_field, List.append_assoc] at same
  obtain ⟨names, behind⟩ := eq_of_string same
  obtain ⟨values, rests⟩ :=
    toldApart_value left.2 right.2 outside otherOutside (List.cons.inj behind).2
  exact ⟨Prod.ext names values, rests⟩

theorem toList_compact (object : Object) :
    (compact object).toList
      = '\x7b' :: ([','].intercalate (object.map fun named => (field ":" named).toList)
          ++ ['\x7d']) := by
  simp [compact, String.toList_intercalate, Function.comp_def]

/-- **Compact objects can be told apart**, whatever follows. -/
theorem eq_of_compact {left right : Object} {rest otherRest : List Char}
    (same : (compact left).toList ++ rest = (compact right).toList ++ otherRest) :
    left = right ∧ rest = otherRest := by
  have opens : ∀ named, Opens noChar '\x7d' (field ":" named).toList := by
    intro named
    rw [toList_field, toList_string]
    exact ⟨'"', _, rfl, by decide, rfl⟩
  have separates : Opens Char.isDigit '\x7d' [','] := ⟨',', [], rfl, by decide, rfl⟩
  rw [toList_compact, toList_compact, List.cons_append, List.cons_append, List.append_assoc,
    List.append_assoc] at same
  exact eq_of_intercalate rfl separates opens
    (fun named _ other _ => toldApart_field named other) (List.cons.inj same).2

theorem compact_injective : Function.Injective compact := by
  intro left right same
  exact (eq_of_compact (congrArg (fun text => text.toList ++ []) same)).1

/-! ## Arrays -/

theorem toList_compactList (objects : List Object) :
    (compactList objects).toList
      = '[' :: ([','].intercalate (objects.map fun object => (compact object).toList)
          ++ [']']) := by
  simp [compactList, String.toList_intercalate, Function.comp_def]

/-- **Compact arrays of objects can be told apart.** -/
theorem compactList_injective : Function.Injective compactList := by
  intro left right same
  have opens : ∀ object, Opens noChar ']' (compact object).toList := by
    intro object
    rw [toList_compact]
    exact ⟨'\x7b', _, rfl, by decide, rfl⟩
  have separates : Opens noChar ']' [','] := ⟨',', [], rfl, by decide, rfl⟩
  have texts := congrArg String.toList same
  rw [toList_compactList, toList_compactList] at texts
  exact (eq_of_intercalate rfl separates opens
    (fun object _ other _ _ _ _ _ => eq_of_compact) (List.cons.inj texts).2).1

end TaggedCells.Text.Json

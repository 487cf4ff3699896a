import TaggedCells.Cell.Life
import TaggedCells.Proofs.Cell.Comparability
import TaggedCells.Proofs.Cell.Integers
import TaggedCells.Proofs.Cell.Paths
import Mathlib.Data.List.Forall2

/-!
# Sameness, copies and the order

Two cells are alike when they have the same kind and the same payload: patterns bit for bit, arrays
with the same declared kind element by element, maps key by key and value by value (`Alike`). Cells
that are alike are one and the same cell, and sameness of cells is the test for it. Nesting may go
to any depth, so both are shown by induction on what a cell holds.

The order is a coarser notion. It puts two cells at one place if they are the same, and beyond that
only floats: two values that are not numbers, and two zeros of opposite sign (`order_eq_iff`).
-/

set_option autoImplicit false

namespace TaggedCells

/-! ## Floating point numbers in one place -/

namespace Ieee.Format

variable (format : Format) {left right : Nat}

/-- Two patterns that the order does not tell apart although they may differ. -/
inductive Coincide (left right : Nat) : Prop where
  | nans : format.isNaN left = true → format.isNaN right = true → Coincide left right
  | zeros : format.magnitude left = 0 → format.magnitude right = 0 →
      format.isNegative left ≠ format.isNegative right → Coincide left right

theorem isNaN_of_zero (zero : format.magnitude left = 0) : format.isNaN left = false :=
  decide_eq_false (by omega)

section Patterns

variable (leftFits : left < 2 ^ (format.exponentBits + format.fractionBits) * 2)
  (rightFits : right < 2 ^ (format.exponentBits + format.fractionBits) * 2)
include leftFits rightFits

/-- A pattern is its sign bit and its magnitude. -/
theorem eq_of_magnitude_eq (signs : format.isNegative left = format.isNegative right)
    (magnitudes : format.magnitude left = format.magnitude right) : left = right := by
  unfold isNegative at signs
  rw [Nat.testBit_eq_decide_div_mod_eq, Nat.testBit_eq_decide_div_mod_eq, decide_eq_decide] at signs
  have tops : left / 2 ^ (format.exponentBits + format.fractionBits)
      = right / 2 ^ (format.exponentBits + format.fractionBits) := by
    have leftTop := Nat.div_lt_of_lt_mul leftFits
    have rightTop := Nat.div_lt_of_lt_mul rightFits
    generalize left / _ = leftBit at signs leftTop ⊢
    generalize right / _ = rightBit at signs rightTop ⊢
    omega
  unfold magnitude at magnitudes
  rw [← Nat.div_add_mod left, ← Nat.div_add_mod right, tops, magnitudes]

/-- The keys of numbers agree for one pattern only, zeros excepted. -/
theorem orderKey_eq_iff :
    format.orderKey left = format.orderKey right
      ↔ left = right ∨ format.magnitude left = 0 ∧ format.magnitude right = 0
          ∧ format.isNegative left ≠ format.isNegative right := by
  unfold orderKey
  constructor
  · intro agree
    by_cases signs : format.isNegative left = format.isNegative right
    · refine .inl (format.eq_of_magnitude_eq leftFits rightFits signs ?_)
      rw [signs] at agree
      split at agree <;> omega
    -- A key and a negated key agree at zero alone.
    · rw [Bool.eq_not_of_ne signs] at agree
      have neither : format.magnitude left + format.magnitude right = 0 := by
        generalize format.isNegative right = negative at agree
        cases negative
        · simp only [Bool.not_false, if_true, Bool.false_eq_true, if_false] at agree
          omega
        · simp only [Bool.not_true, if_true, Bool.false_eq_true, if_false] at agree
          omega
      exact .inr ⟨by omega, by omega, signs⟩
  · rintro (rfl | ⟨leftZero, rightZero, -⟩)
    · rfl
    · simp [leftZero, rightZero]

/-- **Two patterns are in one place if they are the same or coincide.** -/
theorem order_eq_iff :
    format.order left right = .eq ↔ left = right ∨ format.Coincide left right := by
  constructor
  · intro level
    unfold order at level
    cases leftIs : format.isNaN left <;> cases rightIs : format.isNaN right <;>
      rw [leftIs, rightIs] at level
    · have agree := Std.LawfulEqOrd.eq_of_compare level
      rcases (format.orderKey_eq_iff leftFits rightFits).mp agree with same | ⟨zero, also, signs⟩
      · exact .inl same
      · exact .inr (.zeros zero also signs)
    · cases level
    · cases level
    · exact .inr (.nans leftIs rightIs)
  · rintro (rfl | ⟨leftIs, rightIs⟩ | ⟨leftZero, rightZero, signs⟩)
    · rw [order_eq_compare, Std.ReflOrd.compare_self]
    · rw [order, leftIs, rightIs]
    · have agree := (format.orderKey_eq_iff leftFits rightFits).mpr
        (.inr ⟨leftZero, rightZero, signs⟩)
      rw [order, format.isNaN_of_zero leftZero, format.isNaN_of_zero rightZero]
      dsimp only
      rw [agree, Std.ReflOrd.compare_self]

end Patterns

end Ieee.Format

namespace Cell

/-! ## Cells that are alike -/

/-- Cells of the same kind and the same payload. A scalar is its kind and its payload, so it is like
itself only. -/
inductive Alike : Cell → Cell → Prop where
  | scalar {cell : Cell} : cell.kind.isCompound = false → Alike cell cell
  | array {kind : Kind} {elements others : List Cell} :
      List.Forall₂ Alike elements others → Alike (.array kind elements) (.array kind others)
  | map {entries others : List (Cell × Cell)} :
      List.Forall₂ Alike (entries.map Prod.fst) (others.map Prod.fst) →
        List.Forall₂ Alike (entries.map Prod.snd) (others.map Prod.snd) →
          Alike (.map entries) (.map others)

section Parts

variable {holds : Cell → Prop}

theorem forall_element_of_parts {kind : Kind} {elements : List Cell}
    (parts : ∀ step part, (Cell.array kind elements).part? step = some part → holds part) :
    ∀ element ∈ elements, holds element := by
  intro element present
  obtain ⟨index, found⟩ := List.mem_iff_getElem?.mp present
  exact parts (.element index) element found

theorem forall_entry_of_parts {entries : List (Cell × Cell)}
    (parts : ∀ step part, (Cell.map entries).part? step = some part → holds part) :
    (∀ key ∈ entries.map Prod.fst, holds key) ∧ ∀ value ∈ entries.map Prod.snd, holds value := by
  rw [List.forall_mem_map, List.forall_mem_map]
  constructor
  · intro entry present
    obtain ⟨index, found⟩ := List.mem_iff_getElem?.mp present
    exact parts (.key index) _ (Option.map_eq_some_iff.mpr ⟨_, found, rfl⟩)
  · intro entry present
    obtain ⟨index, found⟩ := List.mem_iff_getElem?.mp present
    exact parts (.value index) _ (Option.map_eq_some_iff.mpr ⟨_, found, rfl⟩)

end Parts

theorem alike_refl (cell : Cell) : Alike cell cell := by
  induction cell using induction_on_parts with
  | pass cell parts =>
      cases cell with
      | array kind elements => exact .array (List.forall₂_same.mpr (forall_element_of_parts parts))
      | map entries =>
          obtain ⟨keys, values⟩ := forall_entry_of_parts parts
          exact .map (List.forall₂_same.mpr keys) (List.forall₂_same.mpr values)
      | _ => exact .scalar rfl

theorem eq_of_forall₂ {lefts rights : List Cell} (pairs : List.Forall₂ Alike lefts rights)
    (each : ∀ left ∈ lefts, ∀ right, Alike left right → left = right) : lefts = rights := by
  induction pairs with
  | nil => rfl
  | cons here _ ih =>
      obtain ⟨first, others⟩ := List.forall_mem_cons.mp each
      rw [first _ here, ih others]

/-- **Cells that are alike are the same cell, however deep they are nested.** -/
theorem eq_of_alike (left : Cell) : ∀ right, Alike left right → left = right := by
  induction left using induction_on_parts with
  | pass left parts =>
      intro right alike
      cases alike with
      | scalar => rfl
      | array elements => rw [eq_of_forall₂ elements (forall_element_of_parts parts)]
      | map keys values =>
          obtain ⟨eachKey, eachValue⟩ := forall_entry_of_parts parts
          rw [List.zip_of_prod (eq_of_forall₂ keys eachKey) (eq_of_forall₂ values eachValue),
            ← List.zip_of_prod rfl rfl]

theorem same_iff_alike {left right : Cell} : same left right = true ↔ Alike left right :=
  same_iff.trans ⟨fun equal => equal ▸ alike_refl left, eq_of_alike left right⟩

/-! ## Cells in one place -/

/-- Two cells that the order does not tell apart although they may differ. -/
inductive Coincide : Cell → Cell → Prop where
  | float {left right : BitVec 32} :
      Ieee.single.Coincide left.toNat right.toNat → Coincide (.float left) (.float right)
  | double {left right : BitVec 64} :
      Ieee.double.Coincide left.toNat right.toNat → Coincide (.double left) (.double right)

theorem utf8_injective {left right : String} (agree : utf8 left = utf8 right) : left = right :=
  String.toByteArray_inj.mp (ByteArray.ext (Array.toList_inj.mp agree))

/-- **Two cells are in one place if they can be compared, and are the same or coincide.** -/
theorem order_eq_iff {left right : Cell} :
    left.order right = .ok .eq
      ↔ left.kind.isConstructible = true ∧ (left = right ∨ Coincide left right) := by
  constructor
  · intro level
    obtain ⟨kinds, constructible⟩ := compares_iff.mp ⟨_, level⟩
    refine ⟨constructible, ?_⟩
    cases left with
    | integer kind word =>
        rw [order_integer rfl kinds.symm] at level
        exact .inl (eq_of_number_eq rfl kinds.symm
          (Std.LawfulEqOrd.eq_of_compare (Except.ok.inj level)))
    | float pattern =>
        cases right <;> cases kinds
        rename_i other
        have same := (Ieee.single.order_eq_iff pattern.isLt other.isLt).mp (Except.ok.inj level)
        exact same.imp (fun same => congrArg Cell.float (BitVec.eq_of_toNat_eq same)) .float
    | double pattern =>
        cases right <;> cases kinds
        rename_i other
        have same := (Ieee.double.order_eq_iff pattern.isLt other.isLt).mp (Except.ok.inj level)
        exact same.imp (fun same => congrArg Cell.double (BitVec.eq_of_toNat_eq same)) .double
    | string text =>
        cases right <;> cases kinds
        exact .inl (congrArg Cell.string (utf8_injective
          (Std.LawfulEqOrd.eq_of_compare (Except.ok.inj level))))
    | char character =>
        cases right <;> cases kinds
        exact .inl (congrArg Cell.char (Char.ext
          (Std.LawfulEqOrd.eq_of_compare (Except.ok.inj level))))
    | bool truth =>
        cases right <;> cases kinds
        exact .inl (congrArg Cell.bool (Std.LawfulEqOrd.eq_of_compare (Except.ok.inj level)))
    | qbit pattern =>
        cases right <;> cases kinds
        exact .inl (congrArg Cell.qbit (BitVec.eq_of_toNat_eq
          (Std.LawfulEqOrd.eq_of_compare (Except.ok.inj level))))
    | null =>
        cases right <;> cases kinds
        exact .inl rfl
    | array | map | invalid | unknown => cases constructible
  · rintro ⟨constructible, rfl | coincide⟩
    · exact (ordersTotally constructible).refl _ rfl
    · cases coincide with
      | @float left right patterns =>
          have level := (Ieee.single.order_eq_iff left.isLt right.isLt).mpr (.inr patterns)
          exact congrArg Except.ok level
      | @double left right patterns =>
          have level := (Ieee.double.order_eq_iff left.isLt right.isLt).mpr (.inr patterns)
          exact congrArg Except.ok level

/-! ## Clones -/

mutual

theorem clone_eq : ∀ cell : Cell, clone cell = cell
  | .array _ elements => by rw [clone, cloneAll_eq elements]
  | .map entries => by rw [clone, cloneEntries_eq entries]
  | .integer _ _ | .float _ | .double _ | .string _ | .char _ | .bool _ | .qbit _ => by simp [clone]
  | .null | .invalid | .unknown => by simp [clone]

theorem cloneAll_eq : ∀ elements : List Cell, cloneAll elements = elements
  | [] => by rw [cloneAll]
  | cell :: rest => by rw [cloneAll, clone_eq cell, cloneAll_eq rest]

theorem cloneEntries_eq : ∀ entries : List (Cell × Cell), cloneEntries entries = entries
  | [] => by rw [cloneEntries]
  | (key, value) :: rest => by
      rw [cloneEntries, clone_eq key, clone_eq value, cloneEntries_eq rest]

end

end Cell

/-- **Sameness holds of cells of the same kind and payload and of no others, and the order is
coarser only where floats coincide.** -/
theorem sameness_is_structural :
    (∀ left right : Cell, left.same right = true ↔ left.Alike right)
      ∧ (∀ left right : Cell, left.same right = true ↔ left = right)
      ∧ Equivalence (fun left right : Cell => left.same right = true)
      ∧ (∀ cell : Cell, cell.clone.same cell = true)
      ∧ ∀ (left right : Cell) (ordering : Ordering), left.order right = .ok ordering →
          (ordering = .eq ↔ left.same right = true ∨ left.Coincide right) := by
  refine ⟨fun _ _ => Cell.same_iff_alike, fun _ _ => Cell.same_iff, ?_, ?_, ?_⟩
  · refine ⟨Cell.same_refl, ?_, ?_⟩
    · intro left right same
      exact Cell.same_iff.mpr (Cell.same_iff.mp same).symm
    · intro first second third here there
      exact Cell.same_iff.mpr ((Cell.same_iff.mp here).trans (Cell.same_iff.mp there))
  · intro cell
    rw [Cell.clone_eq]
    exact Cell.same_refl cell
  · intro left right ordering compared
    have constructible := (Cell.compares_iff.mp ⟨ordering, compared⟩).2
    have level : ordering = .eq ↔ left.order right = .ok .eq := by
      rw [compared, Except.ok.injEq]
    rw [level, Cell.order_eq_iff, Cell.same_iff]
    exact and_iff_right constructible

/-- The two zeros are different cells in one place. -/
theorem sameness_is_structural_zeros :
    Cell.order (.double 0) (.double 0x8000000000000000) = .ok .eq
      ∧ Cell.same (.double 0) (.double 0x8000000000000000) = false
      ∧ (Cell.same (.double 0) (.double 0x8000000000000000) = true
          ∨ Cell.Coincide (.double 0) (.double 0x8000000000000000)) :=
  ⟨by decide, by decide, (sameness_is_structural.2.2.2.2 _ _ _ (by decide)).mp rfl⟩

end TaggedCells

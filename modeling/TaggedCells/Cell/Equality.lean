import TaggedCells.Cell

/-!
# Sameness of cells

Two cells are the same when they have the same kind and the same payload. Floats are the same
bit for bit, so a copied NaN is the same as its source and the two zeros differ. Arrays are
the same when they declare the same element kind and hold the same cells in order, maps when
they list the same entries in order.

The test is defined by recursion over both cells at once. It decides equality (`same_iff`), so
it gives cells decidable equality.
-/

set_option autoImplicit false

namespace TaggedCells
namespace Cell

mutual

/-- Whether two cells have the same kind and the same payload. -/
def same : Cell → Cell → Bool
  | .float left, .float right => left == right
  | .double left, .double right => left == right
  | .string left, .string right => left == right
  | .char left, .char right => left == right
  | .bool left, .bool right => left == right
  | .qbit left, .qbit right => left == right
  | .array kind elements, .array otherKind others => kind == otherKind && sameAll elements others
  | .map entries, .map others => sameEntries entries others
  | left, right => left.kind == right.kind && left.integer? == right.integer?

/-- Whether two sequences hold the same cells in order. -/
def sameAll : List Cell → List Cell → Bool
  | [], [] => true
  | left :: lefts, right :: rights => same left right && sameAll lefts rights
  | _, _ => false

/-- Whether two sequences list the same entries in order. -/
def sameEntries : List (Cell × Cell) → List (Cell × Cell) → Bool
  | [], [] => true
  | (key, value) :: entries, (otherKey, otherValue) :: others =>
      same key otherKey && same value otherValue && sameEntries entries others
  | _, _ => false

end

end Cell

/-! ## The test decides equality -/

/-- A word can be read back from the number it stands for. -/
theorem IntKind.read_injective (kind : IntKind) {left right : BitVec kind.bits}
    (agree : kind.read left = kind.read right) : left = right := by
  unfold IntKind.read at agree
  split at agree
  · exact BitVec.toInt_inj.mp agree
  · exact BitVec.eq_of_toNat_eq (Int.ofNat.inj agree)

namespace Cell

mutual

theorem same_refl : ∀ cell : Cell, same cell cell = true
  | .integer _ _ => by simp [same]
  | .float _ | .double _ | .string _ | .char _ | .bool _ | .qbit _ => by simp [same]
  | .array _ elements => by simp [same, sameAll_refl elements]
  | .map entries => by simp [same, sameEntries_refl entries]
  | .null | .invalid | .unknown => by simp [same]

theorem sameAll_refl : ∀ elements : List Cell, sameAll elements elements = true
  | [] => rfl
  | cell :: rest => by simp [sameAll, same_refl cell, sameAll_refl rest]

theorem sameEntries_refl : ∀ entries : List (Cell × Cell), sameEntries entries entries = true
  | [] => rfl
  | (key, value) :: rest => by
      simp [sameEntries, same_refl key, same_refl value, sameEntries_refl rest]

end

mutual

theorem eq_of_same : ∀ {left right : Cell}, same left right = true → left = right
  | .integer kind word, right, agree => by
      cases right with
      | integer otherKind otherWord =>
          simp only [same, Bool.and_eq_true, beq_iff_eq] at agree
          obtain ⟨kinds, numbers⟩ := agree
          obtain rfl : kind = otherKind := Kind.integer.inj kinds
          rw [kind.read_injective (Option.some.inj numbers)]
      | _ => simp [same, Cell.kind] at agree
  | .float _, right, agree => by cases right <;> simp_all [same, Cell.kind]
  | .double _, right, agree => by cases right <;> simp_all [same, Cell.kind]
  | .string _, right, agree => by cases right <;> simp_all [same, Cell.kind]
  | .char _, right, agree => by cases right <;> simp_all [same, Cell.kind]
  | .bool _, right, agree => by cases right <;> simp_all [same, Cell.kind]
  | .qbit _, right, agree => by cases right <;> simp_all [same, Cell.kind]
  | .array _ elements, right, agree => by
      cases right with
      | array otherKind others =>
          simp only [same, Bool.and_eq_true, beq_iff_eq] at agree
          rw [agree.1, eq_of_sameAll agree.2]
      | _ => simp [same, Cell.kind] at agree
  | .map entries, right, agree => by
      cases right with
      | map others =>
          have listed : sameEntries entries others = true := by simpa only [same] using agree
          rw [eq_of_sameEntries listed]
      | _ => simp [same, Cell.kind] at agree
  | .null, right, agree => by cases right <;> simp_all [same, Cell.kind]
  | .invalid, right, agree => by cases right <;> simp_all [same, Cell.kind]
  | .unknown, right, agree => by cases right <;> simp_all [same, Cell.kind]

theorem eq_of_sameAll : ∀ {lefts rights : List Cell}, sameAll lefts rights = true → lefts = rights
  | [], [], _ => rfl
  | left :: lefts, right :: rights, agree => by
      simp only [sameAll, Bool.and_eq_true] at agree
      rw [eq_of_same agree.1, eq_of_sameAll agree.2]

theorem eq_of_sameEntries : ∀ {lefts rights : List (Cell × Cell)},
    sameEntries lefts rights = true → lefts = rights
  | [], [], _ => rfl
  | (key, value) :: lefts, (otherKey, otherValue) :: rights, agree => by
      simp only [sameEntries, Bool.and_eq_true] at agree
      rw [eq_of_same agree.1.1, eq_of_same agree.1.2, eq_of_sameEntries agree.2]

end

/-- The test holds of equal cells and of no others. -/
theorem same_iff {left right : Cell} : same left right = true ↔ left = right :=
  ⟨eq_of_same, fun agree => agree ▸ same_refl left⟩

instance : DecidableEq Cell := fun left right =>
  if agree : same left right = true then .isTrue (same_iff.mp agree)
  else .isFalse fun equal => agree (same_iff.mpr equal)

end Cell
end TaggedCells

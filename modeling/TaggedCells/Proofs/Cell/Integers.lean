import TaggedCells.Cell.Equality
import Mathlib.Data.List.Basic

/-!
# Numbers in cells

A cell of an integer kind holds a number as a word. A number within the bounds of the kind gets a
word that it can be read back from (`IntKind.read_ofInt`), so the cell made for it holds the number
itself. No cell is made for a number beyond the bounds.
-/

set_option autoImplicit false

namespace TaggedCells

/-! ## Words -/

theorem IntKind.bits_pos (kind : IntKind) : 0 < kind.bits := by
  unfold IntKind.bits
  cases kind.width <;> decide

theorem Bounds.contains_iff {bounds : Bounds} {number : Int} :
    bounds.contains number = true ↔ bounds.least ≤ number ∧ number ≤ bounds.greatest := by
  simp [Bounds.contains]

/-- **A number within the bounds of a kind is read back from its word.** -/
theorem IntKind.read_ofInt (kind : IntKind) {number : Int}
    (held : kind.bounds.contains number = true) : kind.read (.ofInt kind.bits number) = number := by
  obtain ⟨least, greatest⟩ := Bounds.contains_iff.mp held
  unfold IntKind.bounds at least greatest
  unfold IntKind.read
  cases signed : kind.isSigned with
  | true =>
      simp only [signed, if_true, Bounds.signed] at least greatest ⊢
      exact BitVec.toInt_ofInt_eq_self kind.bits_pos least (by omega)
  | false =>
      simp only [signed, Bool.false_eq_true, if_false, Bounds.unsigned] at least greatest ⊢
      have below : number < (2 ^ kind.bits : Nat) := by
        rw [Int.natCast_pow]
        exact Int.lt_of_le_sub_one greatest
      rw [BitVec.toNat_ofInt, Int.emod_eq_of_lt least below, Int.toNat_of_nonneg least]

/-- What a word stands for lies within the bounds of the kind. -/
theorem IntKind.contains_read (kind : IntKind) (word : BitVec kind.bits) :
    kind.bounds.contains (kind.read word) = true := by
  refine Bounds.contains_iff.mpr ?_
  unfold IntKind.bounds IntKind.read
  cases kind.isSigned with
  | true => exact ⟨word.le_toInt, Int.le_sub_one_of_lt word.toInt_lt⟩
  | false =>
      have below : (word.toNat : Int) < (2 ^ kind.bits : Nat) := Int.ofNat_lt.mpr word.isLt
      rw [Int.natCast_pow] at below
      exact ⟨Int.natCast_nonneg _, Int.le_sub_one_of_lt below⟩

/-- No kind reaches further from zero than 64 bits do. -/
theorem IntKind.natAbs_lt {kind : IntKind} {number : Int}
    (held : kind.bounds.contains number = true) : number.natAbs < 2 ^ (64 : Nat) := by
  obtain ⟨least, greatest⟩ := Bounds.contains_iff.mp held
  unfold IntKind.bounds IntKind.bits at least greatest
  generalize kind.isSigned = signed at least greatest
  generalize kind.width = width at least greatest
  cases signed with
  | true => cases width <;> simp [Bounds.signed, Width.bits] at least greatest <;> omega
  | false => cases width <;> simp [Bounds.unsigned, Width.bits] at least greatest <;> omega

/-! ## Cells -/

namespace Cell

/-- The cell is of the integer kind and holds the number. -/
def Holds (kind : IntKind) (cell : Cell) (number : Int) : Prop :=
  cell.kind = .integer kind ∧ cell.integer? = some number

variable {kind : IntKind} {cell : Cell} {number : Int}

/-- Cells of one integer kind that hold the same number are the same cell. -/
theorem eq_of_number_eq {left right : Cell} (leftKind : left.kind = .integer kind)
    (rightKind : right.kind = .integer kind) (agree : left.number = right.number) :
    left = right := by
  cases left <;> cases leftKind
  cases right <;> cases rightKind
  exact congrArg (Cell.integer kind) (kind.read_injective agree)

/-- The number of an integer cell lies within the bounds of its kind. -/
theorem contains_number (carries : cell.kind = .integer kind) :
    kind.bounds.contains cell.number = true := by
  cases cell <;> cases carries
  exact kind.contains_read _

theorem holds_number (carries : cell.kind = .integer kind) : cell.Holds kind cell.number := by
  cases cell <;> cases carries
  exact ⟨rfl, rfl⟩

theorem Holds.number_eq (holds : cell.Holds kind number) : cell.number = number := by
  rw [Cell.number, holds.2]
  rfl

theorem holds_ofWord (held : kind.bounds.contains number = true) :
    (ofWord kind number).Holds kind number :=
  ⟨rfl, congrArg some (kind.read_ofInt held)⟩

/-- What integer cells hold is what their numbers are. -/
theorem map_number_of_holds {cells : List Cell} {numbers : List Int}
    (holding : List.Forall₂ (Cell.Holds kind) cells numbers) :
    cells.map Cell.number = numbers := by
  induction holding with
  | nil => rfl
  | cons here _ ih => rw [List.map_cons, here.number_eq, ih]

theorem holds_map_number {cells : List Cell}
    (uniform : ∀ cell ∈ cells, cell.kind = .integer kind) :
    List.Forall₂ (Cell.Holds kind) cells (cells.map Cell.number) := by
  induction cells with
  | nil => exact .nil
  | cons cell rest ih =>
      obtain ⟨carries, further⟩ := List.forall_mem_cons.mp uniform
      exact .cons (holds_number carries) (ih further)

theorem holds_map_ofWord {numbers : List Int}
    (held : ∀ number ∈ numbers, kind.bounds.contains number = true) :
    List.Forall₂ (Cell.Holds kind) (numbers.map (ofWord kind)) numbers := by
  induction numbers with
  | nil => exact .nil
  | cons number rest ih =>
      obtain ⟨here, further⟩ := List.forall_mem_cons.mp held
      exact .cons (holds_ofWord here) (ih further)

theorem ofInt_of_held (held : kind.bounds.contains number = true) :
    ofInt (.integer kind) number = .ok (ofWord kind number) := by
  show (do return ofWord kind (← kind.accept number)) = _
  rw [IntKind.accept, if_pos held]
  rfl

theorem ofInt_of_unheld (unheld : kind.bounds.contains number = false) :
    ofInt (.integer kind) number = .error (.ofCause (.overflow (.integer kind))) := by
  show (do return ofWord kind (← kind.accept number)) = _
  rw [IntKind.accept, if_neg (Bool.eq_false_iff.mp unheld)]
  rfl

end Cell
end TaggedCells

import TaggedCells.Cell.Compare
import TaggedCells.Cell.Equality
import Mathlib.Data.List.Sort

/-!
# The order on cells of one kind

The cells of a constructible kind can be placed on a scale: a type with a total order, on which
comparing the places of two cells is comparing the cells (`exists_scale`). The scale is the
number for an integer, the bytes for a text, and for a float the key of its pattern, with one
more key above all for the values that are not numbers. What is known of total orders thereby
holds of cells, without a case for each kind.
-/

set_option autoImplicit false

namespace TaggedCells

/-! ## Floating point numbers -/

/-- The key of any pattern: those that are not numbers share the one above all magnitudes. -/
def Ieee.Format.scale (format : Format) (pattern : Nat) : Int :=
  if format.isNaN pattern then 2 ^ (format.exponentBits + format.fractionBits)
  else format.orderKey pattern

theorem Ieee.Format.orderKey_lt (format : Format) (pattern : Nat) :
    format.orderKey pattern < 2 ^ (format.exponentBits + format.fractionBits) := by
  have bounded : (format.magnitude pattern : Int)
      < 2 ^ (format.exponentBits + format.fractionBits) := by
    exact_mod_cast Nat.mod_lt pattern (Nat.two_pow_pos _)
  unfold orderKey
  split <;> omega

theorem Ieee.Format.order_eq_compare (format : Format) (left right : Nat) :
    format.order left right = compare (format.scale left) (format.scale right) := by
  have leftBelow := format.orderKey_lt left
  have rightBelow := format.orderKey_lt right
  unfold order scale
  cases format.isNaN left <;> cases format.isNaN right
  · rfl
  · exact (Int.compare_eq_lt.mpr leftBelow).symm
  · exact (Int.compare_eq_gt.mpr rightBelow).symm
  · simp

/-! ## Scales -/

namespace Cell

theorem order_integer {kind : IntKind} {left right : Cell} (leftKind : left.kind = .integer kind)
    (rightKind : right.kind = .integer kind) :
    left.order right = .ok (compare left.number right.number) := by
  cases left <;> cases leftKind
  cases right <;> cases rightKind
  exact if_pos rfl

/-- **The cells of a constructible kind are compared on a scale.** -/
theorem exists_scale {kind : Kind} (constructible : kind.isConstructible = true) :
    ∃ (scale : Type) (_ : Ord scale) (_ : Std.TransOrd scale) (place : Cell → scale),
      ∀ left right : Cell, left.kind = kind → right.kind = kind →
        left.order right = .ok (compare (place left) (place right)) := by
  cases kind with
  | integer kind => exact ⟨Int, inferInstance, inferInstance, number, fun _ _ => order_integer⟩
  | float =>
      refine ⟨Int, inferInstance, inferInstance,
        fun cell => Ieee.single.scale (cell.float?.getD 0).toNat, ?_⟩
      intro left right leftKind rightKind
      cases left <;> cases leftKind
      cases right <;> cases rightKind
      exact congrArg Except.ok (Ieee.single.order_eq_compare _ _)
  | double =>
      refine ⟨Int, inferInstance, inferInstance,
        fun cell => Ieee.double.scale (cell.double?.getD 0).toNat, ?_⟩
      intro left right leftKind rightKind
      cases left <;> cases leftKind
      cases right <;> cases rightKind
      exact congrArg Except.ok (Ieee.double.order_eq_compare _ _)
  | string =>
      refine ⟨List UInt8, inferInstance, inferInstance,
        fun cell => utf8 (cell.string?.getD ""), ?_⟩
      intro left right leftKind rightKind
      cases left <;> cases leftKind
      cases right <;> cases rightKind
      rfl
  | char =>
      refine ⟨UInt32, inferInstance, inferInstance,
        fun cell => (cell.char?.getD default).val, ?_⟩
      intro left right leftKind rightKind
      cases left <;> cases leftKind
      cases right <;> cases rightKind
      rfl
  | bool =>
      refine ⟨Bool, inferInstance, inferInstance, fun cell => cell.bool?.getD false, ?_⟩
      intro left right leftKind rightKind
      cases left <;> cases leftKind
      cases right <;> cases rightKind
      rfl
  | qbit =>
      refine ⟨Nat, inferInstance, inferInstance, fun cell => (cell.qbit?.getD 0).toNat, ?_⟩
      intro left right leftKind rightKind
      cases left <;> cases leftKind
      cases right <;> cases rightKind
      rfl
  | null =>
      refine ⟨Nat, inferInstance, inferInstance, fun _ => 0, ?_⟩
      intro left right leftKind rightKind
      cases left <;> cases leftKind
      cases right <;> cases rightKind
      rfl
  | array | map | invalid | unknown => cases constructible

end Cell
end TaggedCells

import TaggedCells.Cell.Compare
import Mathlib.Algebra.Order.Field.Power
import Mathlib.Algebra.Order.Field.Rat
import Mathlib.Order.Monotone.Basic
import Mathlib.Tactic.FieldSimp
import Mathlib.Tactic.Ring

/-!
# What floating point patterns denote

A pattern is read by its three fields (`Format.datum`). The largest exponent field makes it an
infinity or not a number. Any other makes it a number: the fraction field stands below the binary
point, with a one before the point unless the exponent field is zero, and the exponent field counted
from the bias says how far the point moves (`Format.value`).

The order of cells goes by the magnitude of a pattern, negated under a set sign bit, and never looks
at the fields. It is the order of the exact values all the same. Counted in steps of the least
positive number, the value of a number grows with its magnitude, over the end of the subnormal
numbers and over every change of the exponent alike (`Format.steps_strictMono`), and the sign bit
turns values around as it turns keys around.
-/

set_option autoImplicit false

namespace TaggedCells.Ieee

/-- What a pattern denotes. -/
inductive Datum where
  | finite (value : ℚ)
  | infinite (negative : Bool)
  | nan

/-- The order of what patterns denote: the infinities enclose the finite values, and what is not a
number stands above both, in one place. -/
def Datum.order : Datum → Datum → Ordering
  | .nan, .nan => .eq
  | .nan, _ => .gt
  | _, .nan => .lt
  | .finite left, .finite right => compare left right
  | .finite _, .infinite negative => if negative then .gt else .lt
  | .infinite negative, .finite _ => if negative then .lt else .gt
  | .infinite left, .infinite right => compare right left

namespace Format

variable (format : Format) (pattern : Nat)

/-- The exponent field of the numbers from one up to two. -/
def bias : Int := 2 ^ (format.exponentBits - 1) - 1

/-- The number that the three fields of a finite pattern make up. -/
def value : ℚ :=
  let sign : ℚ := if format.isNegative pattern then -1 else 1
  let fraction : ℚ := format.fractionField pattern / 2 ^ format.fractionBits
  if format.exponentField pattern = 0 then sign * fraction * 2 ^ (1 - format.bias)
  else sign * (1 + fraction) * 2 ^ (format.exponentField pattern - format.bias)

/-- What the fields of a pattern say that it denotes. -/
def datum : Datum :=
  if format.exponentField pattern = 2 ^ format.exponentBits - 1 then
    if format.fractionField pattern = 0 then .infinite (format.isNegative pattern) else .nan
  else .finite (format.value pattern)

/-- The key of an infinity. -/
def endKey (negative : Bool) : Int := if negative then -format.infinity else format.infinity

/-- How the magnitude of a pattern tells what the pattern denotes. -/
inductive Stands : Datum → Prop where
  | finite : format.isNaN pattern = false → format.magnitude pattern < format.infinity →
      Stands (.finite (format.value pattern))
  | infinite : format.isNaN pattern = false →
      format.orderKey pattern = format.endKey (format.isNegative pattern) →
        Stands (.infinite (format.isNegative pattern))
  | nan : format.isNaN pattern = true → Stands .nan

/-! ## Fields -/

theorem fractionField_lt : format.fractionField pattern < 2 ^ format.fractionBits :=
  Nat.mod_lt _ (Nat.two_pow_pos _)

theorem magnitude_mod :
    format.magnitude pattern % 2 ^ format.fractionBits = format.fractionField pattern :=
  Nat.mod_mod_of_dvd _ (Nat.pow_dvd_pow 2 (Nat.le_add_left _ _))

/-- The two fields below the sign bit are the digits of the magnitude. -/
theorem magnitude_eq :
    format.magnitude pattern
      = 2 ^ format.fractionBits * format.exponentField pattern + format.fractionField pattern := by
  rw [← magnitude_mod]
  exact (Nat.div_add_mod _ _).symm

theorem exponentField_le : format.exponentField pattern ≤ 2 ^ format.exponentBits - 1 := by
  have below : format.magnitude pattern < 2 ^ format.fractionBits * 2 ^ format.exponentBits := by
    rw [← Nat.pow_add, Nat.add_comm format.fractionBits]
    exact Nat.mod_lt _ (Nat.two_pow_pos _)
  exact Nat.le_sub_one_of_lt (Nat.div_lt_of_lt_mul below)

/-- The fields tell numbers from infinities and from what is not a number as the magnitude does. -/
theorem datum_stands : format.Stands pattern (format.datum pattern) := by
  have fields := format.magnitude_eq pattern
  have fraction := format.fractionField_lt pattern
  have ends : format.infinity = 2 ^ format.fractionBits * (2 ^ format.exponentBits - 1) :=
    Nat.mul_comm _ _
  unfold datum
  by_cases largest : format.exponentField pattern = 2 ^ format.exponentBits - 1
  · rw [largest, ← ends] at fields
    rw [if_pos largest]
    by_cases bare : format.fractionField pattern = 0
    · rw [if_pos bare]
      rw [bare, Nat.add_zero] at fields
      refine .infinite (decide_eq_false (by omega)) ?_
      rw [orderKey, fields, endKey]
    · rw [if_neg bare]
      exact .nan (decide_eq_true (by omega))
  -- One more in the exponent field would still be at most the largest, so there is room for any
  -- fraction below the infinities.
  · have short : format.exponentField pattern + 1 ≤ 2 ^ format.exponentBits - 1 := by
      have atMost := format.exponentField_le pattern
      omega
    have room := Nat.mul_le_mul_left (2 ^ format.fractionBits) short
    rw [Nat.mul_succ, ← ends] at room
    rw [if_neg largest]
    exact .finite (decide_eq_false (by omega)) (by omega)

/-! ## Steps of the least positive number -/

/-- How often the least positive number goes into the number of a magnitude. -/
def steps (magnitude : Nat) : Nat :=
  let exponent := magnitude / 2 ^ format.fractionBits
  let fraction := magnitude % 2 ^ format.fractionBits
  if exponent = 0 then fraction else (2 ^ format.fractionBits + fraction) * 2 ^ (exponent - 1)

theorem steps_zero : format.steps 0 = 0 := by
  simp [steps]

theorem steps_magnitude :
    format.steps (format.magnitude pattern)
      = if format.exponentField pattern = 0 then format.fractionField pattern
        else (2 ^ format.fractionBits + format.fractionField pattern)
          * 2 ^ (format.exponentField pattern - 1) := by
  rw [← magnitude_mod]
  rfl

/-- The numbers of an exponent field stay below the first of the next one. -/
theorem steps_lt (magnitude : Nat) :
    format.steps magnitude
      < 2 ^ format.fractionBits * 2 ^ (magnitude / 2 ^ format.fractionBits) := by
  have fraction := Nat.mod_lt magnitude (Nat.two_pow_pos format.fractionBits)
  unfold steps
  dsimp only
  split
  case isTrue subnormal =>
    rw [subnormal, Nat.pow_zero, Nat.mul_one]
    exact fraction
  case isFalse normal =>
    obtain ⟨exponent, shifted⟩ := Nat.exists_eq_succ_of_ne_zero normal
    rw [shifted, Nat.succ_sub_one, Nat.pow_succ', ← Nat.mul_assoc]
    exact Nat.mul_lt_mul_of_pos_right (by omega) (Nat.two_pow_pos _)

/-- The first number of an exponent field. -/
theorem le_steps {magnitude : Nat} (normal : magnitude / 2 ^ format.fractionBits ≠ 0) :
    2 ^ format.fractionBits * 2 ^ (magnitude / 2 ^ format.fractionBits - 1)
      ≤ format.steps magnitude := by
  unfold steps
  rw [if_neg normal]
  exact Nat.mul_le_mul_right _ (Nat.le_add_right _ _)

/-- **A greater magnitude stands for more steps.** -/
theorem steps_strictMono : StrictMono format.steps := by
  intro smaller greater less
  have exponents : smaller / 2 ^ format.fractionBits ≤ greater / 2 ^ format.fractionBits :=
    Nat.div_le_div_right (Nat.le_of_lt less)
  rcases Nat.lt_or_eq_of_le exponents with apart | same
  -- Under different exponent fields the fractions do not matter: the first number of the greater
  -- field is above every number of the smaller one.
  · calc format.steps smaller
        < 2 ^ format.fractionBits * 2 ^ (smaller / 2 ^ format.fractionBits) :=
          format.steps_lt smaller
      _ ≤ 2 ^ format.fractionBits * 2 ^ (greater / 2 ^ format.fractionBits - 1) :=
          Nat.mul_le_mul_left _ (Nat.pow_le_pow_right (by decide) (Nat.le_sub_one_of_lt apart))
      _ ≤ format.steps greater := format.le_steps (Nat.ne_of_gt (Nat.zero_lt_of_lt apart))
  · have fractions :
        smaller % 2 ^ format.fractionBits < greater % 2 ^ format.fractionBits := by
      have here := Nat.div_add_mod smaller (2 ^ format.fractionBits)
      have there := Nat.div_add_mod greater (2 ^ format.fractionBits)
      rw [same] at here
      omega
    unfold steps
    rw [same]
    dsimp only
    split
    · exact fractions
    · exact Nat.mul_lt_mul_of_pos_right (Nat.add_lt_add_left fractions _) (Nat.two_pow_pos _)

/-! ## Keys and values -/

/-- The steps from zero to the number of a key. -/
def signedSteps (key : Int) : Int :=
  if key < 0 then -format.steps key.natAbs else format.steps key.natAbs

theorem signedSteps_natCast (magnitude : Nat) :
    format.signedSteps magnitude = format.steps magnitude :=
  if_neg (Int.not_lt_of_ge (Int.natCast_nonneg magnitude))

theorem signedSteps_neg (magnitude : Nat) :
    format.signedSteps (-magnitude) = -format.steps magnitude := by
  unfold signedSteps
  rw [Int.natAbs_neg, Int.natAbs_natCast]
  split
  · rfl
  · obtain rfl : magnitude = 0 := by omega
    rw [steps_zero]
    rfl

theorem signedSteps_lt {smaller greater : Int} (less : smaller < greater) :
    format.signedSteps smaller < format.signedSteps greater := by
  have grows := format.steps_strictMono
  unfold signedSteps
  split
  case isTrue negative =>
    have fewer := grows (show 0 < smaller.natAbs by omega)
    rw [steps_zero] at fewer
    split
    · have further := grows (show greater.natAbs < smaller.natAbs by omega)
      omega
    · omega
  case isFalse =>
    have further := grows (show smaller.natAbs < greater.natAbs by omega)
    rw [if_neg (by omega)]
    omega

/-- The value of the least positive number. -/
def step : ℚ := 2 ^ (1 - format.bias - format.fractionBits)

theorem step_pos : 0 < format.step := zpow_pos (by norm_num) _

theorem two_zpow_eq_step : (2 : ℚ) ^ (1 - format.bias) = 2 ^ format.fractionBits * format.step := by
  rw [step, ← zpow_natCast, ← zpow_add₀ two_ne_zero]
  congr 1
  omega

theorem two_zpow_succ_eq_step (exponent : Nat) :
    (2 : ℚ) ^ ((exponent + 1 : Nat) - format.bias)
      = 2 ^ exponent * 2 ^ format.fractionBits * format.step := by
  rw [mul_assoc, ← two_zpow_eq_step, ← zpow_natCast, ← zpow_add₀ two_ne_zero]
  congr 1
  omega

/-- Without its sign, a number is as many steps as its magnitude says. -/
theorem value_eq_steps :
    format.value pattern
      = (if format.isNegative pattern then -1 else 1)
        * (format.steps (format.magnitude pattern) * format.step) := by
  rw [steps_magnitude]
  unfold value
  cases format.exponentField pattern with
  | zero =>
      rw [if_pos rfl, if_pos rfl, two_zpow_eq_step]
      field_simp
  | succ exponent =>
      rw [if_neg (Nat.succ_ne_zero _), if_neg (Nat.succ_ne_zero _), two_zpow_succ_eq_step,
        Nat.add_sub_cancel]
      push_cast
      field_simp

/-- **A pattern has the value of its key, counted in steps.** -/
theorem value_eq_signedSteps :
    format.value pattern = format.signedSteps (format.orderKey pattern) * format.step := by
  rw [value_eq_steps, orderKey]
  split
  · rw [signedSteps_neg]
    push_cast
    ring
  · rw [signedSteps_natCast]
    push_cast
    ring

/-- The negative number nearest to zero in single precision. -/
example : single.value 0x80000001 = -1 / 2 ^ 149 := by cbv

/-- Values are compared as their keys are. -/
theorem compare_value (left right : Nat) :
    compare (format.value left) (format.value right)
      = compare (format.orderKey left) (format.orderKey right) := by
  have grows : StrictMono fun key => (format.signedSteps key : ℚ) * format.step := by
    intro smaller greater less
    exact mul_lt_mul_of_pos_right (Int.cast_lt.mpr (format.signedSteps_lt less))
      format.step_pos
  rw [value_eq_signedSteps, value_eq_signedSteps, ← cmp_eq_compare, ← cmp_eq_compare]
  exact grows.cmp_map_eq _ _

/-! ## Keys of the infinities -/

theorem compare_endKey (exponents : 0 < format.exponentBits) (left right : Bool) :
    compare (format.endKey left) (format.endKey right) = compare right left := by
  have room : 0 < format.infinity :=
    Nat.mul_pos (Nat.sub_pos_of_lt (Nat.one_lt_two_pow (Nat.ne_of_gt exponents)))
      (Nat.two_pow_pos _)
  have apart : -(format.infinity : Int) < format.infinity := by omega
  cases left <;> cases right
  · exact Std.ReflOrd.compare_self
  · exact Int.compare_eq_gt.mpr apart
  · exact Int.compare_eq_lt.mpr apart
  · exact Std.ReflOrd.compare_self

section Finite

variable {format pattern} (finite : format.magnitude pattern < format.infinity) (negative : Bool)
include finite

theorem compare_endKey_orderKey :
    compare (format.endKey negative) (format.orderKey pattern)
      = if negative then .lt else .gt := by
  have above : -(format.infinity : Int) < format.orderKey pattern := by
    unfold orderKey
    split <;> omega
  have below : format.orderKey pattern < format.infinity := by
    unfold orderKey
    split <;> omega
  cases negative with
  | true => exact Int.compare_eq_lt.mpr above
  | false => exact Int.compare_eq_gt.mpr below

theorem compare_orderKey_endKey :
    compare (format.orderKey pattern) (format.endKey negative)
      = if negative then .gt else .lt := by
  rw [Std.OrientedOrd.eq_swap (a := format.orderKey pattern), compare_endKey_orderKey finite]
  cases negative <;> rfl

end Finite

/-! ## Main statement -/

/-- **Patterns are in the order of what they denote.** -/
theorem order_eq_order_datum (exponents : 0 < format.exponentBits) (left right : Nat) :
    format.order left right = (format.datum left).order (format.datum right) := by
  have leftStands := format.datum_stands left
  have rightStands := format.datum_stands right
  generalize format.datum left = leftDatum at leftStands ⊢
  generalize format.datum right = rightDatum at rightStands ⊢
  unfold order
  cases leftStands with
  | nan leftNaN =>
      rw [leftNaN]
      cases rightStands with
      | nan rightNaN => rw [rightNaN]; rfl
      | infinite rightNumber _ => rw [rightNumber]; rfl
      | finite rightNumber _ => rw [rightNumber]; rfl
  | infinite leftNumber leftEnd =>
      rw [leftNumber, leftEnd]
      cases rightStands with
      | nan rightNaN => rw [rightNaN]; rfl
      | infinite rightNumber rightEnd =>
          rw [rightNumber, rightEnd]
          exact format.compare_endKey exponents _ _
      | finite rightNumber rightFinite =>
          rw [rightNumber]
          exact compare_endKey_orderKey rightFinite _
  | finite leftNumber leftFinite =>
      rw [leftNumber]
      cases rightStands with
      | nan rightNaN => rw [rightNaN]; rfl
      | infinite rightNumber rightEnd =>
          rw [rightNumber, rightEnd]
          exact compare_orderKey_endKey leftFinite _
      | finite rightNumber _ =>
          rw [rightNumber]
          exact (format.compare_value left right).symm

end Format
end Ieee

/-- **Floats and doubles of any patterns are in the order of what the patterns denote:** exact
values for numbers, with the infinities around them and all that is not a number above. -/
theorem floats_are_ordered_by_value :
    (∀ left right : BitVec 32,
      Cell.order (.float left) (.float right)
        = .ok ((Ieee.single.datum left.toNat).order (Ieee.single.datum right.toNat)))
      ∧ ∀ left right : BitVec 64,
        Cell.order (.double left) (.double right)
          = .ok ((Ieee.double.datum left.toNat).order (Ieee.double.datum right.toNat)) := by
  constructor
  · intro left right
    exact congrArg Except.ok (Ieee.Format.order_eq_order_datum _ (by decide) _ _)
  · intro left right
    exact congrArg Except.ok (Ieee.Format.order_eq_order_datum _ (by decide) _ _)

/-- The negative number nearest to zero lies below both zeros. -/
example : Cell.order (.float 0x80000001) (.float 0x80000000) = .ok .lt := by decide

end TaggedCells

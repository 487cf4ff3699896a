import TaggedCells.Failure.Code
import Mathlib.Logic.Function.Basic

/-!
# Names on closed lists

A kind or a code that stands somewhere in a text is known by its name: each name on the list is
borne by one of them only, so it can be read back by a look at the list (`Kind.byName?_name`,
`Code.byName?_name`). The name of a kind is one word of letters and digits, and it ends where
anything else follows.
-/

set_option autoImplicit false

namespace TaggedCells

/-- Names that can be looked up are borne by one value each. -/
theorem Text.injective_of_byName? {α : Type} {values : List α} {name : α → String}
    (found : ∀ value, byName? values name (name value) = some value) : Function.Injective name := by
  intro value other same
  have looked := found value
  rw [same, found other] at looked
  exact (Option.some.inj looked).symm

/-! ## Kinds -/

/-- What holds of every kind on the list holds of every kind. -/
theorem Kind.mem_all (kind : Kind) : kind ∈ Kind.all := by
  cases kind with
  | integer integer =>
      cases integer with
      | native signed => cases signed <;> decide
      | sized view width => cases view <;> cases width <;> decide
  | _ => decide

theorem Kind.byName?_name (kind : Kind) :
    Text.byName? Kind.all Kind.name kind.name = some kind := by
  have listed : ∀ kind ∈ Kind.all, Text.byName? Kind.all Kind.name kind.name = some kind := by
    decide +kernel
  exact listed kind kind.mem_all

theorem Kind.name_injective : Function.Injective Kind.name :=
  Text.injective_of_byName? Kind.byName?_name

/-- The name of a kind is a word of letters and digits. -/
theorem Kind.isAlphanum_of_mem_name (kind : Kind) {character : Char}
    (present : character ∈ kind.name.toList) : character.isAlphanum = true := by
  have listed : ∀ kind ∈ Kind.all, kind.name.toList.all Char.isAlphanum = true := by decide +kernel
  exact List.all_eq_true.mp (listed kind kind.mem_all) character present

theorem Kind.name_ne_empty (kind : Kind) : kind.name ≠ "" := by
  have listed : ∀ kind ∈ Kind.all, kind.name ≠ "" := by decide +kernel
  exact listed kind kind.mem_all

/-! ## Codes -/

theorem Code.byName?_name (code : Code) :
    Text.byName? Code.all Code.name code.name = some code := by
  cases code <;> decide +kernel

end TaggedCells

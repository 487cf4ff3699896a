import TaggedCells.Failure.Code
import TaggedCells.Proofs.Cell.Order

/-!
# Which cells can be compared

Two cells have an order exactly when they are of the same kind and this kind is constructible. On
the cells of such a kind the order is a total preorder: it leaves no pair out, turns around when the
cells are exchanged, and can be chained (`Kind.OrdersTotally`). Floats are no exception, since every
value that is not a number stands at one and the same place of the scale, above all numbers.

Every other comparison fails, and the code of the failure depends on the two kinds without regard to
which cell comes first (`Kind.refusal`). The kind that a failure names may depend on it.
-/

set_option autoImplicit false

namespace TaggedCells

/-- The order of cells is a total preorder on the cells of the kind. -/
structure Kind.OrdersTotally (kind : Kind) : Prop where
  compares : ∀ left right : Cell, left.kind = kind → right.kind = kind →
    ∃ ordering, left.order right = .ok ordering
  refl : ∀ cell : Cell, cell.kind = kind → cell.order cell = .ok .eq
  swap : ∀ left right : Cell, left.kind = kind → right.kind = kind →
    right.order left = Ordering.swap <$> left.order right
  trans : ∀ first second third : Cell,
    first.kind = kind → second.kind = kind → third.kind = kind →
      first.lessEqual second = .ok true → second.lessEqual third = .ok true →
        first.lessEqual third = .ok true

/-- The code under which cells of two kinds are refused. -/
def Kind.refusal (left right : Kind) : Code :=
  if left = .invalid ∨ right = .invalid then .nullInput
  else if left = .unknown ∨ right = .unknown ∨ left = right then .unknown
  else .typeMismatch

theorem Kind.refusal_comm (left right : Kind) : left.refusal right = right.refusal left :=
  if_congr or_comm rfl
    (if_congr (or_left_comm.trans (or_congr_right (or_congr_right eq_comm))) rfl rfl)

namespace Cell

variable {left right : Cell}

/-! ## Comparisons that fail -/

theorem order_of_invalid (erased : left.kind = .invalid ∨ right.kind = .invalid) :
    left.order right = (Cause.nullInput "compare").raise := by
  rcases erased with here | there
  · cases left <;> cases here
    rfl
  · cases right <;> cases there
    cases left <;> rfl

theorem order_of_unknown_left (unreadable : left.kind = .unknown)
    (present : right.kind ≠ .invalid) :
    left.order right = (Cause.unknown right.kind).raise := by
  cases left <;> cases unreadable
  cases right with
  | invalid => exact absurd rfl present
  | _ => rfl

theorem order_of_unknown_right (present : left.kind ≠ .invalid)
    (unreadable : right.kind = .unknown) : left.order right = (Cause.unknown left.kind).raise := by
  cases right <;> cases unreadable
  cases left with
  | invalid => exact absurd rfl present
  | _ => rfl

theorem order_of_kind_ne (leftRead : left.kind ≠ .invalid ∧ left.kind ≠ .unknown)
    (rightRead : right.kind ≠ .invalid ∧ right.kind ≠ .unknown) (differ : left.kind ≠ right.kind) :
    left.order right = (Cause.typeMismatch left.kind right.kind).raise := by
  unfold order
  split
  · exact absurd rfl leftRead.1
  · exact absurd rfl rightRead.1
  · exact absurd rfl leftRead.2
  · exact absurd rfl rightRead.2
  · exact if_neg differ

theorem order_of_compound (compound : left.kind.isCompound = true) (same : left.kind = right.kind) :
    left.order right = (Cause.unsupported "compare" left.kind).raise := by
  cases left <;> cases compound
  all_goals
    cases right <;> cases same
    rfl

/-- A comparison of other cells than two of one constructible kind fails under the code of their
kinds. -/
theorem order_refused (apart : ¬ (left.kind = right.kind ∧ left.kind.isConstructible = true)) :
    ∃ failure, left.order right = .error failure
      ∧ failure.code = left.kind.refusal right.kind := by
  by_cases erased : left.kind = .invalid ∨ right.kind = .invalid
  · exact ⟨_, order_of_invalid erased, (if_pos erased).symm⟩
  rw [Kind.refusal, if_neg erased]
  obtain ⟨leftPresent, rightPresent⟩ := not_or.mp erased
  by_cases leftUnknown : left.kind = .unknown
  · exact ⟨_, order_of_unknown_left leftUnknown rightPresent, (if_pos (.inl leftUnknown)).symm⟩
  by_cases rightUnknown : right.kind = .unknown
  · exact ⟨_, order_of_unknown_right leftPresent rightUnknown,
      (if_pos (.inr (.inl rightUnknown))).symm⟩
  by_cases same : left.kind = right.kind
  · have compound : left.kind.isCompound = true := by
      cases kind : left.kind with
      | array | map => rfl
      | invalid => exact absurd kind leftPresent
      | unknown => exact absurd kind leftUnknown
      | _ => exact absurd ⟨same, congrArg Kind.isConstructible kind⟩ apart
    exact ⟨_, order_of_compound compound same, (if_pos (.inr (.inr same))).symm⟩
  · refine ⟨_, order_of_kind_ne ⟨leftPresent, leftUnknown⟩ ⟨rightPresent, rightUnknown⟩ same, ?_⟩
    rw [if_neg]
    · rfl
    · rintro (unknown | unknown | alike)
      · exact leftUnknown unknown
      · exact rightUnknown unknown
      · exact same alike

/-! ## Comparisons on a scale -/

/-- **The cells of a constructible kind are in a total preorder.** -/
theorem ordersTotally {kind : Kind} (constructible : kind.isConstructible = true) :
    kind.OrdersTotally := by
  obtain ⟨scale, ord, transOrd, place, placed⟩ := exists_scale constructible
  refine ⟨?_, ?_, ?_, ?_⟩
  · intro left right leftKind rightKind
    exact ⟨_, placed left right leftKind rightKind⟩
  · intro cell cellKind
    rw [placed cell cell cellKind cellKind, Std.ReflOrd.compare_self]
  · intro left right leftKind rightKind
    rw [placed left right leftKind rightKind, placed right left rightKind leftKind,
      Std.OrientedOrd.eq_swap]
    rfl
  · intro first second third firstKind secondKind thirdKind below above
    unfold lessEqual at below above ⊢
    rw [placed _ _ firstKind secondKind] at below
    rw [placed _ _ secondKind thirdKind] at above
    rw [placed _ _ firstKind thirdKind]
    exact congrArg Except.ok
      (Std.TransOrd.isLE_trans (Except.ok.inj below) (Except.ok.inj above))

theorem compares_iff :
    (∃ ordering, left.order right = .ok ordering)
      ↔ left.kind = right.kind ∧ left.kind.isConstructible = true := by
  constructor
  · rintro ⟨ordering, compared⟩
    by_contra apart
    obtain ⟨failure, failed, -⟩ := order_refused apart
    exact absurd (compared.symm.trans failed) nofun
  · rintro ⟨same, constructible⟩
    exact (ordersTotally constructible).compares left right rfl same.symm

end Cell

/-- **Comparing is a total preorder on each constructible kind and fails on all other pairs, either
way round under the same code.** -/
theorem comparing_is_a_total_preorder :
    (∀ kind : Kind, kind.isConstructible = true → kind.OrdersTotally)
      ∧ (∀ left right : Cell, ¬ (left.kind = right.kind ∧ left.kind.isConstructible = true) →
          ∃ failure reversed, left.order right = .error failure
            ∧ right.order left = .error reversed ∧ failure.code = reversed.code)
      ∧ ∀ left right : Cell, (∃ ordering, left.order right = .ok ordering)
          ↔ left.kind = right.kind ∧ left.kind.isConstructible = true := by
  refine ⟨fun kind => Cell.ordersTotally, ?_, fun left right => Cell.compares_iff⟩
  intro left right apart
  have turned : ¬ (right.kind = left.kind ∧ right.kind.isConstructible = true) := by
    rintro ⟨same, constructible⟩
    exact apart ⟨same.symm, same ▸ constructible⟩
  obtain ⟨failure, failed, code⟩ := Cell.order_refused apart
  obtain ⟨reversed, failedToo, codeToo⟩ := Cell.order_refused turned
  exact ⟨failure, reversed, failed, failedToo,
    code.trans ((Kind.refusal_comm _ _).trans codeToo.symm)⟩

/-- Values that are not numbers are equal whatever their sign and payload. -/
example : Cell.order (.float 0xFFC00001) (.float 0x7F800001) = .ok .eq := by decide

end TaggedCells

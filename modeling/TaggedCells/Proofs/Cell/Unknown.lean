import TaggedCells.Proofs.Cell.Comparability

/-!
# Kinds that a comparison calls unknown

A comparison with a cell that cannot be interpreted fails and calls a kind unknown. The kind is that
of the other cell, whichever of the two comes first, so it is one that can be interpreted unless
neither cell can (`order_eq_unknown_iff`).

It calls no kind unknown for another reason. Two cells of one kind are compared as numbers when
nothing else is known of the kind, and if one held no number their kind would be called unknown; but
every such kind is an integer kind, and whatever were answered in that place, no comparison would
come to it (`orderOr_eq`).
-/

set_option autoImplicit false

namespace TaggedCells

theorem Kind.constructible_or_compound (kind : Kind) (present : kind ≠ .invalid)
    (readable : kind ≠ .unknown) : kind.isConstructible = true ∨ kind.isCompound = true := by
  cases kind with
  | invalid => exact absurd rfl present
  | unknown => exact absurd rfl readable
  | array | map => exact .inr rfl
  | _ => exact .inl rfl

namespace Cell

variable {left right : Cell}

/-! ## Comparisons with an answer of their own in the last place -/

section Last

variable (last : Cell → Cell → Except Failure Ordering)

/-- The order of two cells that carry the same kind. What comes last is asked about cells that hold
no number. -/
def orderAlikeOr : Cell → Cell → Except Failure Ordering
  | .float left, .float right => .ok (Ieee.single.order left.toNat right.toNat)
  | .double left, .double right => .ok (Ieee.double.order left.toNat right.toNat)
  | .string left, .string right => .ok (compare (utf8 left) (utf8 right))
  | .char left, .char right => .ok (compare left.val right.val)
  | .bool left, .bool right => .ok (compare left right)
  | .qbit left, .qbit right => .ok (compare left.toNat right.toNat)
  | .null, .null => .ok .eq
  | .array _ _, _ => (Cause.unsupported "compare" .array).raise
  | .map _, _ => (Cause.unsupported "compare" .map).raise
  | left, right =>
      match left.integer?, right.integer? with
      | some leftNumber, some rightNumber => .ok (compare leftNumber rightNumber)
      | _, _ => last left right

/-- The order of two cells, where they have one. -/
def orderOr (left right : Cell) : Except Failure Ordering :=
  match left, right with
  | .invalid, _ | _, .invalid => (Cause.nullInput "compare").raise
  | .unknown, other | other, .unknown => (Cause.unknown other.kind).raise
  | left, right =>
      if left.kind = right.kind then orderAlikeOr last left right
      else (Cause.typeMismatch left.kind right.kind).raise

end Last

theorem order_eq_orderOr :
    left.order right = orderOr (fun cell _ => (Cause.unknown cell.kind).raise) left right := rfl

/-- Cells of one kind that are neither erased nor impossible to interpret never come to what is
last: those of a kind that is none of the first hold numbers. -/
theorem orderAlikeOr_eq (last : Cell → Cell → Except Failure Ordering)
    (same : left.kind = right.kind) (present : left ≠ .invalid) (readable : left ≠ .unknown) :
    orderAlikeOr last left right = orderAlike left right := by
  cases left with
  | invalid => exact absurd rfl present
  | unknown => exact absurd rfl readable
  | _ =>
      cases right <;> cases same
      rfl

/-- What stands in the last place makes no difference to a comparison. -/
theorem orderOr_eq (last : Cell → Cell → Except Failure Ordering) :
    orderOr last left right = left.order right := by
  fun_cases order left right with
  | case1 => rfl
  | case2 left present =>
      rw [orderOr]
      exact present
  | case3 right present =>
      rw [orderOr]
      exact present
  | case4 left present readable =>
      rw [orderOr]
      · exact present
      · exact readable
  | case5 left right leftPresent rightPresent leftReadable rightReadable same =>
      rw [orderOr, if_pos same, orderAlikeOr_eq last same leftPresent leftReadable] <;> assumption
  | case6 left right leftPresent rightPresent leftReadable rightReadable differ =>
      rw [orderOr, if_neg differ] <;> assumption

/-! ## The kind that is named -/

/-- A comparison calls a kind unknown when one cell cannot be interpreted and none is erased, and
the kind is that of the other. -/
theorem order_eq_unknown_iff {kind : Kind} {context : Option Context} :
    left.order right = .error ⟨.unknown kind, context⟩
      ↔ context = none ∧ kind ≠ .invalid
        ∧ (left.kind = .unknown ∧ right.kind = kind
          ∨ left.kind = kind ∧ right.kind = .unknown) := by
  constructor
  · intro named
    by_cases erased : left.kind = .invalid ∨ right.kind = .invalid
    · rw [order_of_invalid erased] at named
      cases named
    obtain ⟨leftPresent, rightPresent⟩ := not_or.mp erased
    by_cases leftUnknown : left.kind = .unknown
    · rw [order_of_unknown_left leftUnknown rightPresent] at named
      cases named
      exact ⟨rfl, rightPresent, .inl ⟨leftUnknown, rfl⟩⟩
    by_cases rightUnknown : right.kind = .unknown
    · rw [order_of_unknown_right leftPresent rightUnknown] at named
      cases named
      exact ⟨rfl, leftPresent, .inr ⟨rfl, rightUnknown⟩⟩
    by_cases same : left.kind = right.kind
    · rcases left.kind.constructible_or_compound leftPresent leftUnknown with scalar | compound
      · obtain ⟨ordering, compared⟩ := compares_iff.mpr ⟨same, scalar⟩
        rw [compared] at named
        cases named
      · rw [order_of_compound compound same] at named
        cases named
    · rw [order_of_kind_ne ⟨leftPresent, leftUnknown⟩ ⟨rightPresent, rightUnknown⟩ same] at named
      cases named
  · rintro ⟨rfl, present, ⟨leftUnknown, rfl⟩ | ⟨rfl, rightUnknown⟩⟩
    · exact order_of_unknown_left leftUnknown present
    · exact order_of_unknown_right present rightUnknown

end Cell

/-! ## Main statement -/

/-- What can be told of the kinds that comparing two cells calls unknown. -/
structure NamesUnknown (left right : Cell) : Prop where
  named : ∀ (kind : Kind) (context : Option Context),
    left.order right = .error ⟨.unknown kind, context⟩
      ↔ context = none ∧ kind ≠ .invalid
        ∧ (left.kind = .unknown ∧ right.kind = kind ∨ left.kind = kind ∧ right.kind = .unknown)
  /-- The kind that is named cannot be interpreted either only if neither cell can. -/
  deserved : left.order right = .error ⟨.unknown .unknown, none⟩
    ↔ left.kind = .unknown ∧ right.kind = .unknown
  /-- In the last place, about two cells of one kind that hold no number, the comparison calls the
  kind of the first unknown. -/
  standing : left.order right
    = Cell.orderOr (fun cell _ => (Cause.unknown cell.kind).raise) left right
  /-- No comparison comes to the last place: whatever is answered there, it is the same. -/
  unreached : ∀ last : Cell → Cell → Except Failure Ordering,
    Cell.orderOr last left right = left.order right

/-- **A comparison with a cell that cannot be interpreted calls the kind of the other cell
unknown**, and no other comparison calls a kind unknown. -/
theorem comparing_names_the_kind_beside (left right : Cell) : NamesUnknown left right where
  named _ _ := Cell.order_eq_unknown_iff
  deserved := by
    rw [Cell.order_eq_unknown_iff]
    constructor
    · rintro ⟨-, -, both | both⟩
      · exact both
      · exact both
    · rintro both
      exact ⟨rfl, nofun, .inl both⟩
  standing := Cell.order_eq_orderOr
  unreached _ := Cell.orderOr_eq _

/-- Beside a cell that cannot be interpreted, before it or after it, a native integer is called a
number of an unknown kind. -/
theorem readable_kind_called_unknown :
    let number : Cell := .ofWord (.native true) 1
    let named : Except Failure Ordering := (Cause.unknown (.integer (.native true))).raise
    Cell.unknown.order number = named ∧ number.order .unknown = named
      ∧ (Cause.unknown (.integer (.native true))).message = "unknown kind: int"
      ∧ ¬ ∀ (left right : Cell) (kind : Kind) (context : Option Context),
          left.order right = .error ⟨.unknown kind, context⟩ → kind = .unknown := by
  refine ⟨rfl, rfl, by decide, fun deserved => ?_⟩
  exact absurd (deserved .unknown (.ofWord (.native true) 1) _ _ rfl) nofun

end TaggedCells

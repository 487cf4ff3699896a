import TaggedCells.Proofs.CellArray.AllOrNothing

/-!
# The length of an array afterwards

Most operations on an array leave it as long as it was: they move elements, or put another in the
place of each. Filtering may leave fewer, and an array that has been folded holds a single element.
The plan of an operation already has that length (`Alteration.yields_length`), so the array that is
written has it too, whatever functions the caller brings along.
-/

set_option autoImplicit false

namespace TaggedCells

variable {m : Type → Type}

/-- The length after an operation that succeeds, against the length before it. -/
def Alteration.Leaves : Alteration m → Nat → Nat → Prop
  | .filter _, before, after => after ≤ before
  | .reduce _, _, after => after = 1
  | .accumulate, _, after => after = 1
  | _, before, after => after = before

/-- A success leaves an array as long as the operation is to leave it. -/
def Alteration.Measured (change : Alteration m) (before : Cell)
    (result : Except Failure Unit × Cell) : Prop :=
  result.1 = .ok () → ∃ (kind : Kind) (elements kept : List Cell),
    before = .array kind elements ∧ result.2 = .array kind kept
      ∧ change.Leaves elements.length kept.length

theorem length_spliced {α : Type} {start stop : Nat} {elements middle : List α}
    (inside : start ≤ stop ∧ stop ≤ elements.length)
    (same : middle.length = (sectionOf start stop elements).length) :
    (spliced start stop elements middle).length = elements.length := by
  obtain ⟨forward, within⟩ := inside
  rw [sectionOf, List.length_drop, List.length_take] at same
  rw [spliced, List.length_append, List.length_append, same, List.length_take, List.length_drop]
  omega

section Plans

variable [Monad m] [LawfulMonad m]

/-- A traversal yields a result for each element. -/
theorem yields_length_mapM {α β : Type} (f : α → ExceptT Failure m β) (elements : List α) :
    Yields (fun results => results.length = elements.length) (elements.mapM f) := by
  induction elements with
  | nil =>
      rw [List.mapM_nil]
      exact .pure rfl
  | cons element rest ih =>
      rw [List.mapM_cons]
      refine (Yields.trivial (f element)).bind fun result _ => ih.bind fun results same => ?_
      exact .pure (congrArg (· + 1) same)

namespace Alteration

/-- **A plan yields as many elements as the operation is to leave.** -/
theorem yields_length (change : Alteration m) (array : CellArray) :
    Yields (fun elements => change.Leaves array.elements.length elements.length)
      (change.plan array) := by
  cases change with
  | sort algorithm =>
      refine (Yields.outcome _).bind fun _ _ => .pure ?_
      exact (algorithm.arrange_arranges Cell.number array.elements).perm.length_eq
  | transform f =>
      refine (Yields.outcome _).bind fun _ _ => ?_
      refine (yields_length_mapM _ array.elements.zipIdx).bind fun results same => ?_
      exact (Yields.outcome _).bind fun _ _ => .pure (same.trans List.length_zipIdx)
  | filter keep =>
      refine (Yields.outcome _).bind fun _ _ => ?_
      exact .lift ((always_filterM keep array.elements).imp fun kept within => within.length_le)
  | reduce combine =>
      refine (Yields.outcome _).bind fun _ accepted => ?_
      have occupied := (CellArray.requireSomeIntegers_eq_ok_iff.mp accepted).1
      obtain ⟨kind, elements⟩ := array
      match elements with
      | [] => exact absurd rfl occupied
      | [only] => exact .pure rfl
      | first :: next :: rest =>
          refine (Yields.outcome _).bind fun start _ => ?_
          refine (Yields.trivial _).bind fun combined _ => ?_
          exact (Yields.outcome _).bind fun _ _ => .pure rfl
  | accumulate =>
      refine (Yields.outcome _).bind fun _ _ => ?_
      cases sumWide? array.elements with
      | none => exact (Yields.outcome _).imp fun _ raised => by cases raised
      | some sum =>
          refine (Yields.outcome _).bind fun total _ => ?_
          exact (Yields.outcome _).bind fun _ _ => .pure rfl
  | reverse => exact (Yields.outcome _).bind fun _ _ => .pure List.length_reverse
  | reverseRange start stop =>
      refine (Yields.outcome _).bind fun _ _ => ?_
      refine (Yields.outcome _).bind fun _ inside => .pure ?_
      exact length_spliced (CellArray.requireRange_eq_ok_iff.mp inside) List.length_reverse
  | shuffle choose =>
      refine (Yields.outcome _).bind fun _ _ => ?_
      exact .lift ((always_shuffled choose array.elements).imp fun mixed kept => kept.length_eq)
  | shuffleRange start stop choose =>
      refine (Yields.outcome _).bind fun _ _ => ?_
      refine (Yields.outcome _).bind fun _ inside => ?_
      refine (Yields.lift (always_shuffled choose _)).bind fun mixed kept => .pure ?_
      exact length_spliced (CellArray.requireRange_eq_ok_iff.mp inside) kept.length_eq

/-- An operation that succeeds leaves as many elements as it is to leave. -/
theorem always_measured (change : Alteration m) (cell : Cell) :
    Always (change.Measured cell) (change.edit.apply cell) :=
  (change.always_writes change.yields_length cell).imp fun _ written => written.2

end Alteration
end Plans
end TaggedCells

import TaggedCells.Session
import TaggedCells.Proofs.Carriage

/-!
# Operations called directly

What an operation of a session stands for is one function of the library. Called directly, the
function has no tracer around it, and only shuffling is handed a generator. Acting the operation
out in a session comes to the same (`Operation.act_eq_direct`): the functions of the caller do
not notice that a generator is threaded past them.
-/

set_option autoImplicit false

namespace TaggedCells

open Randomness (Generator)

namespace Operation

variable {m : Type → Type} [Monad m] {α : Type}

/-- The outcome of a function that looks at the cell, as a reply. -/
def looked (cell : Cell) (reply : α → Reply) (outcome : Except Failure α) :
    Except Failure Reply × Cell :=
  (outcome.map reply, cell)

/-- The outcome of a function that works on the cell, as a reply from what the function returned
and the cell that it left. -/
def worked (reply : α → Cell → Reply) (result : Except Failure α × Cell) :
    Except Failure Reply × Cell :=
  (result.1.map fun value => reply value result.2, result.2)

/-- The reply of a function that returns nothing. -/
def done (_ : Unit) (_ : Cell) : Reply := .done

/-- The function of the library that the operation stands for, called on a cell. -/
def direct (algorithm : SortAlgorithm) (cell : Cell) :
    Operation m → StateT Generator m (Except Failure Reply × Cell)
  | .create kind source => pure (looked cell .cell (Cell.create kind source))
  | .createZero kind => pure (.ok (.cell (Cell.zero kind)), cell)
  | .createArray kind count sources =>
      pure (looked cell .cell (Cell.createArray kind count sources))
  | .copy => pure (looked cell .cell cell.copy)
  | .move => pure (worked (fun contents _ => .cell contents) (Cell.move.applyPure cell))
  | .erase => pure (worked done (Cell.erase.applyPure cell))
  | .sort => pure (worked done ((Cell.sort algorithm).applyPure cell))
  | .sortWith chosen => pure (worked done ((Cell.sort chosen).applyPure cell))
  | .searchLinear key => pure (looked cell .position (Search.linear.find cell key))
  | .searchBinary key => pure (looked cell .position (Search.binary.find cell key))
  | .transform f => worked done <$> (liftM ((Cell.transform f).apply cell) : StateT _ m _)
  | .filter keep => worked done <$> (liftM ((Cell.filter keep).apply cell) : StateT _ m _)
  | .reduce combine => worked done <$> (liftM ((Cell.reduce combine).apply cell) : StateT _ m _)
  | .accumulate =>
      pure (worked (fun _ sum => .stamped (.ofCell sum)) (Cell.accumulate.applyPure cell))
  | .split wanted =>
      looked cell (fun (matching, others) => .halves matching others)
        <$> (liftM (cell.split wanted).run : StateT _ m _)
  | .visit visitor =>
      looked cell (fun _ => .done) <$> (liftM (cell.visit visitor).run : StateT _ m _)
  | .reverse => pure (worked done (Cell.reverse.applyPure cell))
  | .shuffle =>
      let shuffling : StateM Generator (Except Failure Unit × Cell) :=
        (Cell.shuffle (chooseFrom Generator)).apply cell
      worked done <$> modifyGet shuffling.run
  | .compare other => pure (looked cell .order (cell.order other))

/-! ## Acting out -/

section Replies

variable [LawfulMonad m]

theorem apply_looked (cell : Cell) (reply : α → Reply) (outcome : Except Failure α) :
    (do return reply (← outcome) : Edit Cell m Reply).apply cell
      = pure (looked cell reply outcome) := by
  rw [Edit.apply_bind, Edit.apply_lift_outcome, pure_bind]
  cases outcome <;> rfl

theorem apply_worked (cell : Cell) (reply : α → Reply) (edit : Edit Cell m α) :
    (do return reply (← edit) : Edit Cell m Reply).apply cell
      = worked (fun value _ => reply value) <$> edit.apply cell := by
  rw [Edit.apply_bind, ← bind_pure_comp]
  apply bind_congr
  rintro ⟨outcome, after⟩
  cases outcome <;> rfl

theorem apply_asked (cell : Cell) (reply : α → Reply) (run : m (Except Failure α)) :
    (do
      let outcome ← (liftM run : Edit Cell m (Except Failure α))
      return reply (← outcome) : Edit Cell m Reply).apply cell = looked cell reply <$> run := by
  rw [Edit.apply_bind, Edit.apply_lift, bind_assoc, ← bind_pure_comp]
  apply bind_congr
  intro outcome
  rw [pure_bind]
  exact apply_looked cell reply outcome

/-- An operation on an array that calls no function of the caller runs anywhere alike. -/
theorem worked_alone (change : Alteration Id) (cell : Cell) (reply : Unit → Cell → Reply) :
    worked reply <$> (change.across (.fromNothing m)).edit.apply cell
      = pure (worked reply (change.edit.applyPure cell)) := by
  rw [change.apply_across]
  exact map_pure _ _

/-- An operation on an array runs beside a generator as it runs without. -/
theorem worked_beside (change : Alteration m) (cell : Cell) :
    worked done <$> (change.across (.beside m Generator)).edit.apply cell
      = worked done <$> (liftM (change.edit.apply cell) : StateT Generator m _) := by
  rw [change.apply_across]
  rfl

theorem apply_move (cell : Cell) :
    (Cell.move : Edit Cell m Cell).apply cell = pure (Cell.move.applyPure cell) := by
  unfold Cell.move
  simp only [Edit.applyPure, Edit.apply_bind, Edit.apply_get, pure_bind]
  cases cell.isInvalid with
  | true => rfl
  | false =>
      simp only [Bool.false_eq_true, if_false, Edit.apply_bind, Edit.apply_set, Edit.apply_pure,
        pure_bind]
      rfl

theorem apply_erase (cell : Cell) :
    (Cell.erase : Edit Cell m Unit).apply cell = pure (Cell.erase.applyPure cell) := by
  unfold Cell.erase
  simp only [Edit.applyPure, Edit.apply_bind, Edit.apply_get, pure_bind]
  cases cell.isInvalid with
  | true => rfl
  | false =>
      simp only [Bool.false_eq_true, if_false, Edit.apply_set]
      rfl

end Replies

variable [LawfulMonad m]

/-- **Acting an operation out is calling the function of the library that it stands for.** -/
theorem act_eq_direct (algorithm : SortAlgorithm) (operation : Operation m) (cell : Cell) :
    (operation.act algorithm).apply cell = operation.direct algorithm cell := by
  cases operation with
  | create kind source => exact apply_looked cell _ _
  | createZero kind => rfl
  | createArray kind count sources => exact apply_looked cell _ _
  | copy =>
      unfold act
      rw [Edit.apply_bind, Edit.apply_get, pure_bind]
      exact apply_looked cell _ _
  | move =>
      refine (apply_worked cell _ _).trans ?_
      rw [apply_move]
      exact map_pure _ _
  | erase =>
      refine (apply_worked cell _ _).trans ?_
      rw [apply_erase]
      exact map_pure _ _
  | sort => exact (apply_worked cell _ _).trans (worked_alone (.sort algorithm) cell done)
  | sortWith chosen => exact (apply_worked cell _ _).trans (worked_alone (.sort chosen) cell done)
  | searchLinear key =>
      unfold act
      rw [Edit.apply_bind, Edit.apply_get, pure_bind]
      exact apply_looked cell _ _
  | searchBinary key =>
      unfold act
      rw [Edit.apply_bind, Edit.apply_get, pure_bind]
      exact apply_looked cell _ _
  | transform f => exact (apply_worked cell _ _).trans (worked_beside (.transform f) cell)
  | filter keep => exact (apply_worked cell _ _).trans (worked_beside (.filter keep) cell)
  | reduce combine => exact (apply_worked cell _ _).trans (worked_beside (.reduce combine) cell)
  | accumulate =>
      have stamped := worked_alone (m := StateT Generator m) .accumulate cell
        fun _ sum => .stamped (.ofCell sum)
      refine Eq.trans ?_ stamped
      unfold act
      rw [Edit.apply_bind, ← bind_pure_comp]
      apply bind_congr
      rintro ⟨outcome, after⟩
      cases outcome with
      | error failure => rfl
      | ok value =>
          dsimp only
          rw [Edit.apply_bind, Edit.apply_get, pure_bind]
          rfl
  | split wanted =>
      unfold act
      rw [Edit.apply_bind, Edit.apply_get, pure_bind]
      exact apply_asked cell _ (liftM (cell.split wanted).run : StateT Generator m _)
  | visit visitor =>
      unfold act
      rw [Edit.apply_bind, Edit.apply_get, pure_bind]
      exact apply_asked cell _ (liftM (cell.visit visitor).run : StateT Generator m _)
  | reverse => exact (apply_worked cell _ _).trans (worked_alone .reverse cell done)
  | shuffle =>
      have carried := (Alteration.shuffle (chooseFrom Generator)).apply_across
        (.within m Generator) cell
      exact (apply_worked cell _ _).trans (congrArg (worked done <$> ·) carried)
  | compare other =>
      unfold act
      rw [Edit.apply_bind, Edit.apply_get, pure_bind]
      exact apply_looked cell _ _

end Operation
end TaggedCells

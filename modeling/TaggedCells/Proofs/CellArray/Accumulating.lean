import Mathlib.Algebra.BigOperators.Group.List.Basic
import Mathlib.Algebra.Ring.Int.Defs
import TaggedCells.Proofs.CellArray.Reducing
import TaggedCells.Proofs.Cell.Integers

/-!
# What accumulating does to an array

Accumulating adds up the numbers of an array among numbers of 128 bits. Not even as many numbers as
there is storage for get out of those, whatever is added first (`sumWide?_eq`). So only the sum of
all numbers decides: it is left alone in the array if the declared kind holds it, and otherwise
nothing is written (`accumulating_adds_up`). The order of the elements makes no difference then.
Reducing by addition also needs the kind to hold every sum on the way, and comes to the same where
it succeeds.
-/

set_option autoImplicit false

namespace TaggedCells

/-! ## The wide sum -/

section Wide

theorem addWide?_eq {left right : Int} (room : (left + right).natAbs < 2 ^ (127 : Nat)) :
    addWide? left right = some (left + right) := by
  refine if_pos (Bounds.contains_iff.mpr ?_)
  show -2 ^ (127 : Nat) ≤ left + right ∧ left + right ≤ 2 ^ (127 : Nat) - 1
  omega

/-- Each number takes up its part of the room that is left. -/
theorem foldlM_addWide?_eq {cells : List Cell} (total : Int)
    (small : ∀ cell ∈ cells, cell.number.natAbs < 2 ^ (64 : Nat))
    (room : total.natAbs + cells.length * 2 ^ (64 : Nat) < 2 ^ (127 : Nat)) :
    cells.foldlM (fun total cell => addWide? total cell.number) total
      = some (total + (cells.map Cell.number).sum) := by
  induction cells generalizing total with
  | nil => rw [List.foldlM_nil, List.map_nil, List.sum_nil, Int.add_zero]; rfl
  | cons cell rest ih =>
      obtain ⟨here, further⟩ := List.forall_mem_cons.mp small
      rw [List.length_cons] at room
      have added : addWide? total cell.number = some (total + cell.number) :=
        addWide?_eq (by omega)
      rw [List.foldlM_cons, added, List.map_cons, List.sum_cons, ← Int.add_assoc]
      exact ih (total + cell.number) further (by omega)

/-- **Adding up integers does not get out of the wide numbers.** -/
theorem sumWide?_eq {kind : IntKind} {cells : List Cell}
    (uniform : ∀ cell ∈ cells, cell.kind = .integer kind) (room : cells.length < 2 ^ (62 : Nat)) :
    sumWide? cells = some (cells.map Cell.number).sum := by
  have small : ∀ cell ∈ cells, cell.number.natAbs < 2 ^ (64 : Nat) := by
    intro cell present
    exact IntKind.natAbs_lt (Cell.contains_number (uniform cell present))
  have summed := foldlM_addWide?_eq 0 small (by omega)
  rwa [Int.zero_add] at summed

end Wide

/-! ## Runs -/

section Runs

variable {m : Type → Type} [Monad m] [LawfulMonad m] {kind : IntKind} {elements : List Cell}

variable (occupied : elements ≠ []) (uniform : ∀ element ∈ elements, element.kind = .integer kind)
  (room : elements.length < 2 ^ (62 : Nat))

include occupied uniform room

/-- After the checks the sum is all that counts. -/
theorem plan_accumulate :
    (Alteration.accumulate : Alteration m).plan ⟨.integer kind, elements⟩ = (do
      let total ← located (Cell.ofInt (.integer kind) (elements.map Cell.number).sum)
        { operation := "accumulate" }
      (Kind.integer kind).checkAll [total]
      return [total]) := by
  have accepted : CellArray.requireSomeIntegers ⟨.integer kind, elements⟩ "accumulate" = .ok () :=
    CellArray.requireSomeIntegers_of_uniform occupied uniform
  refine (lift_bind_of_ok accepted _).trans ?_
  rw [sumWide?_eq uniform room]

theorem apply_accumulate_of_held
    (held : kind.bounds.contains (elements.map Cell.number).sum = true) :
    (Cell.accumulate : Edit Cell m Unit).apply (.array (.integer kind) elements)
      = pure (.ok (), .array (.integer kind) [.ofWord kind (elements.map Cell.number).sum]) := by
  have made : located (Cell.ofInt (.integer kind) (elements.map Cell.number).sum)
      { operation := "accumulate" } = .ok (.ofWord kind (elements.map Cell.number).sum) :=
    located_eq_ok_iff.mpr (Cell.ofInt_of_held held)
  have checked : (Kind.integer kind).checkAll [.ofWord kind (elements.map Cell.number).sum]
      = .ok () := Kind.checkAll_eq_ok_iff.mpr (List.forall_mem_singleton.mpr rfl)
  have planned : (Alteration.accumulate : Alteration m).plan ⟨.integer kind, elements⟩
      = liftM (Except.ok [.ofWord kind (elements.map Cell.number).sum]
        : Except Failure (List Cell)) := by
    rw [plan_accumulate occupied uniform room, lift_bind_of_ok made, lift_bind_of_ok checked]
    rfl
  exact Alteration.apply_edit_of_outcome planned

theorem apply_accumulate_of_unheld
    (unheld : kind.bounds.contains (elements.map Cell.number).sum = false) :
    (Cell.accumulate : Edit Cell m Unit).apply (.array (.integer kind) elements)
      = pure (.error ⟨.overflow (.integer kind), some { operation := "accumulate" }⟩,
          .array (.integer kind) elements) := by
  have refused : located (Cell.ofInt (.integer kind) (elements.map Cell.number).sum)
      { operation := "accumulate" }
      = .error ⟨.overflow (.integer kind), some { operation := "accumulate" }⟩ :=
    located_eq_error_iff.mpr ⟨_, Cell.ofInt_of_unheld unheld, rfl⟩
  have planned : (Alteration.accumulate : Alteration m).plan ⟨.integer kind, elements⟩
      = liftM (Except.error ⟨.overflow (.integer kind), some { operation := "accumulate" }⟩
        : Except Failure (List Cell)) := by
    rw [plan_accumulate occupied uniform room, lift_bind_of_error refused]
  exact Alteration.apply_edit_of_outcome planned

end Runs

/-! ## Reducing by addition -/

section Addition

variable {σ : Type} {kind : IntKind}

/-- The cell of the kind that holds the sum of two numbers, or an erased cell if the kind does not
hold it. -/
def IntKind.added (kind : IntKind) (left right : Cell) : Cell :=
  match Cell.ofInt (.integer kind) (left.number + right.number) with
  | .ok cell => cell
  | .error _ => .invalid

/-- A cell of the kind has come of a sum that the kind holds. -/
theorem IntKind.number_added {left right : Cell}
    (carries : (kind.added left right).kind = .integer kind) :
    (kind.added left right).number = left.number + right.number := by
  cases held : kind.bounds.contains (left.number + right.number) with
  | true =>
      rw [IntKind.added, Cell.ofInt_of_held held]
      exact (Cell.holds_ofWord held).number_eq
  | false =>
      rw [IntKind.added, Cell.ofInt_of_unheld held] at carries
      cases carries

/-- If the kind holds every sum on the way, the last cell holds the sum of all numbers. -/
theorem number_combinedAfter_added {first : Cell} {rest : List Cell} (state : σ)
    (same : ∀ count ≤ rest.length,
      (combinedAfter (fun left right => (pure (kind.added left right) : StateM σ Cell)) first state
        rest count).1.kind = .integer kind) :
    (combinedAfter (fun left right => (pure (kind.added left right) : StateM σ Cell)) first state
        rest rest.length).1.number
      = first.number + (rest.map Cell.number).sum := by
  induction rest generalizing first with
  | nil => exact (Int.add_zero _).symm
  | cons element rest ih =>
      have further : ∀ count ≤ rest.length,
          (combinedAfter (fun left right => (pure (kind.added left right) : StateM σ Cell))
            (kind.added first element) state rest count).1.kind = .integer kind := by
        intro count inside
        have carries := same (count + 1) (Nat.succ_le_succ inside)
        rwa [combinedAfter_cons] at carries
      have made : (kind.added first element).number = first.number + element.number :=
        IntKind.number_added (further 0 (Nat.zero_le _))
      rw [List.length_cons, combinedAfter_cons, List.map_cons, List.sum_cons, ← Int.add_assoc,
        ← made]
      exact ih further

end Addition

/-! ## Main statement -/

/-- What accumulating makes of a cell. -/
def Cell.accumulated (cell : Cell) : Except Failure Unit × Cell :=
  (Cell.accumulate (m := Id)).applyPure cell

/-- How accumulating an array of integers with the sum ends. -/
inductive Accumulates (kind : IntKind) (elements : List Cell) (sum : Int) :
    Except Failure Unit × Cell → Prop where
  /-- The kind holds the sum, and a cell that holds it is left alone in the array. -/
  | held {total : Cell} (within : kind.bounds.contains sum = true) (holds : total.Holds kind sum) :
      Accumulates kind elements sum (.ok (), .array (.integer kind) [total])
  /-- The kind does not hold the sum, and the array stays. -/
  | unheld (beyond : kind.bounds.contains sum = false) :
      Accumulates kind elements sum
        (.error ⟨.overflow (.integer kind), some { operation := "accumulate" }⟩,
          .array (.integer kind) elements)

/-- Accumulating the cells that hold the numbers takes their sum, and nothing but their sum. -/
structure AddsUp (kind : IntKind) (elements : List Cell) (numbers : List Int) : Prop where
  holding : List.Forall₂ (Cell.Holds kind) elements numbers
  /-- Every sum on the way is a number of 128 bits. -/
  wide : ∀ count : Nat, sumWide? (elements.take count) = some (numbers.take count).sum
  ends : Accumulates kind elements numbers.sum (Cell.array (.integer kind) elements).accumulated
  /-- In another order the elements come to the same outcome, and leave the same if they leave a
  sum. -/
  reordered : ∀ others : List Cell, others.Perm elements →
    (Cell.array (.integer kind) others).accumulated.1
        = (Cell.array (.integer kind) elements).accumulated.1
      ∧ ((Cell.array (.integer kind) elements).accumulated.1 = .ok () →
          (Cell.array (.integer kind) others).accumulated
            = (Cell.array (.integer kind) elements).accumulated)
  /-- What reducing by addition leaves, where it succeeds, is left here as well. -/
  reduced : ∀ {σ : Type} (state later : σ) (after : Cell),
    ((Cell.reduce fun left right => (pure (kind.added left right) : StateM σ Cell)).apply
        (.array (.integer kind) elements)).run state = ((.ok (), after), later) →
      (Cell.array (.integer kind) elements).accumulated = (.ok (), after)

section Sums

variable {kind : IntKind} {elements : List Cell}

variable (occupied : elements ≠ []) (uniform : ∀ element ∈ elements, element.kind = .integer kind)
  (room : elements.length < 2 ^ (62 : Nat))

include occupied uniform room

theorem accumulated_of_held (held : kind.bounds.contains (elements.map Cell.number).sum = true) :
    (Cell.array (.integer kind) elements).accumulated
      = (.ok (), .array (.integer kind) [.ofWord kind (elements.map Cell.number).sum]) :=
  Edit.applyPure_of_apply (apply_accumulate_of_held occupied uniform room held)

theorem accumulated_of_unheld
    (unheld : kind.bounds.contains (elements.map Cell.number).sum = false) :
    (Cell.array (.integer kind) elements).accumulated
      = (.error ⟨.overflow (.integer kind), some { operation := "accumulate" }⟩,
          .array (.integer kind) elements) :=
  Edit.applyPure_of_apply (apply_accumulate_of_unheld occupied uniform room unheld)

theorem accumulates_of_uniform :
    Accumulates kind elements (elements.map Cell.number).sum
      (Cell.array (.integer kind) elements).accumulated := by
  cases held : kind.bounds.contains (elements.map Cell.number).sum with
  | true =>
      rw [accumulated_of_held occupied uniform room held]
      exact .held held (Cell.holds_ofWord held)
  | false =>
      rw [accumulated_of_unheld occupied uniform room held]
      exact .unheld held

theorem accumulated_of_perm {others : List Cell} (reordered : others.Perm elements) :
    (Cell.array (.integer kind) others).accumulated.1
        = (Cell.array (.integer kind) elements).accumulated.1
      ∧ ((Cell.array (.integer kind) elements).accumulated.1 = .ok () →
          (Cell.array (.integer kind) others).accumulated
            = (Cell.array (.integer kind) elements).accumulated) := by
  have occupied' : others ≠ [] := by
    rintro rfl
    exact occupied reordered.nil_eq.symm
  have uniform' : ∀ element ∈ others, element.kind = .integer kind :=
    fun element present => uniform element (reordered.mem_iff.mp present)
  have room' : others.length < 2 ^ (62 : Nat) := reordered.length_eq ▸ room
  have sums : (others.map Cell.number).sum = (elements.map Cell.number).sum :=
    (reordered.map Cell.number).sum_eq
  cases held : kind.bounds.contains (elements.map Cell.number).sum with
  | true =>
      rw [accumulated_of_held occupied uniform room held,
        accumulated_of_held occupied' uniform' room' (sums ▸ held), sums]
      exact ⟨rfl, fun _ => rfl⟩
  | false =>
      rw [accumulated_of_unheld occupied uniform room held,
        accumulated_of_unheld occupied' uniform' room' (sums ▸ held)]
      exact ⟨rfl, nofun⟩

theorem accumulated_of_reduced {σ : Type} {state later : σ} {after : Cell}
    (reduced : ((Cell.reduce fun left right =>
        (pure (kind.added left right) : StateM σ Cell)).apply
        (.array (.integer kind) elements)).run state = ((.ok (), after), later)) :
    (Cell.array (.integer kind) elements).accumulated = (.ok (), after) := by
  obtain ⟨first, rest, rfl⟩ := List.exists_cons_of_ne_nil occupied
  have reduces := reduces_of_uniform uniform
    (fun left right => (pure (kind.added left right) : StateM σ Cell)) state
  rw [reduced] at reduces
  cases reduces with
  | combined same =>
      -- the last cell holds the sum of all, and so is the cell made for it
      have carries := same rest.length (Nat.le_refl _)
      have total := number_combinedAfter_added state same
      rw [← List.sum_cons, ← List.map_cons] at total
      have held := Cell.contains_number carries
      rw [total] at held
      have made : Cell.ofWord kind ((first :: rest).map Cell.number).sum = _ :=
        Cell.eq_of_number_eq rfl carries ((Cell.holds_ofWord held).number_eq.trans total.symm)
      rw [accumulated_of_held occupied uniform room held, made]

end Sums

/-- **Accumulating an array of integers leaves the sum of all of them if the kind holds it, and
changes nothing otherwise.** -/
theorem accumulating_adds_up (kind : IntKind) (elements : List Cell) (occupied : elements ≠ [])
    (uniform : ∀ element ∈ elements, element.kind = .integer kind)
    (room : elements.length < 2 ^ (62 : Nat)) :
    ∃ numbers : List Int, AddsUp kind elements numbers := by
  refine ⟨elements.map Cell.number, Cell.holds_map_number uniform, ?_, ?_, ?_, ?_⟩
  · intro count
    rw [← List.map_take]
    refine sumWide?_eq (fun cell present => uniform cell (List.mem_of_mem_take present)) ?_
    exact Nat.lt_of_le_of_lt (List.length_take_le' count elements) room
  · exact accumulates_of_uniform occupied uniform room
  · intro others reordered
    exact accumulated_of_perm occupied uniform room reordered
  · intro σ state later after reduced
    exact accumulated_of_reduced occupied uniform room reduced

/-- Three signed bytes. The kind does not hold the sum of the first two, but that of all three. -/
def byteAndBack : List Cell :=
  [.ofWord (.sized .signed .eight) 127, .ofWord (.sized .signed .eight) 1,
    .ofWord (.sized .signed .eight) (-128)]

theorem accumulating_adds_up_bytes :
    byteAndBack ≠ []
      ∧ (∀ element ∈ byteAndBack, element.kind = .integer (.sized .signed .eight))
      ∧ byteAndBack.length < 2 ^ (62 : Nat)
      ∧ ∃ numbers : List Int, AddsUp (.sized .signed .eight) byteAndBack numbers := by
  have uniform : ∀ element ∈ byteAndBack, element.kind = .integer (.sized .signed .eight) := by
    decide
  exact ⟨nofun, uniform, by decide,
    accumulating_adds_up _ byteAndBack nofun uniform (by decide)⟩

/-- Accumulating leaves the sum, though reducing by addition fails on the way. -/
example :
    (Cell.array (.integer (.sized .signed .eight)) byteAndBack).accumulated
        = (.ok (), .array (.integer (.sized .signed .eight)) [.ofWord (.sized .signed .eight) 0])
      ∧ (((Cell.reduce fun left right => (pure (IntKind.added (.sized .signed .eight) left right)
            : StateM Unit Cell)).apply
          (.array (.integer (.sized .signed .eight)) byteAndBack)).run ()).1.1
        = .error (mismatchAt (.integer (.sized .signed .eight)) .invalid 1) := by
  decide

end TaggedCells

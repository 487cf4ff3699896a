import Mathlib.Order.Nat
import TaggedCells.Proofs.Calls
import TaggedCells.Proofs.Cell.Copying
import TaggedCells.Proofs.CellArray.Refusal

/-!
# What reducing does to an array

Reducing calls a function on the first two elements, then on what it made of them and the third
element, and so on. Whatever it makes has to be of the declared kind, and is looked at before the
next call: a cell of another kind is the last one made, and nothing is written. If every cell made
is of the kind, the last of them is left alone in the array (`reducing_combines_from_the_left`). The
first element is what is combined first, so an array that has no other stays as it is.
-/

set_option autoImplicit false

namespace TaggedCells

/-! ## Calls -/

section Calls

variable {σ : Type} (kind : Kind) (combine : Cell → Cell → StateM σ Cell) (first : Nat)
  (start : Cell) (state : σ)

/-- The failure on a cell of another kind that was made with the element at a position. -/
def mismatchAt (kind found : Kind) (index : Nat) : Failure :=
  ⟨.typeMismatch kind found, some { operation := "reduce", index := index }⟩

theorem combineFrom_cons (element : Cell) (rest : List Cell) :
    combineFrom kind combine first start (element :: rest) = (do
      let result ← (combine start element : StateM σ Cell)
      let held ← located (kind.checkCell result) { operation := "reduce", index := first }
      combineFrom kind combine (first + 1) held rest) := by
  unfold combineFrom
  rw [List.zipIdx_cons, List.foldlM_cons, bind_assoc]

variable {kind combine first start state}

/-- A cell of the kind is combined further. -/
theorem run_combineFrom_cons_of_same {element : Cell} {rest : List Cell}
    (same : ((combine start element).run state).1.kind = kind) :
    (combineFrom kind combine first start (element :: rest)).run.run state
      = (combineFrom kind combine (first + 1) ((combine start element).run state).1 rest).run.run
          ((combine start element).run state).2 := by
  have checked : located (kind.checkCell ((combine start element).run state).1)
      { operation := "reduce", index := first } = .ok ((combine start element).run state).1 :=
    located_eq_ok_iff.mpr (if_pos same)
  rw [combineFrom_cons, run_call, lift_bind_of_ok checked]

/-- A cell of another kind ends the calls. -/
theorem run_combineFrom_cons_of_other {element : Cell} {rest : List Cell}
    (other : ((combine start element).run state).1.kind ≠ kind) :
    (combineFrom kind combine first start (element :: rest)).run.run state
      = (.error (mismatchAt kind ((combine start element).run state).1.kind first),
          ((combine start element).run state).2) := by
  have refused : located (kind.checkCell ((combine start element).run state).1)
      { operation := "reduce", index := first }
      = .error (mismatchAt kind ((combine start element).run state).1.kind first) :=
    located_eq_error_iff.mpr ⟨_, if_neg other, rfl⟩
  rw [combineFrom_cons, run_call, lift_bind_of_error refused]
  rfl

/-- If every cell made is of the kind, every element is combined. -/
theorem run_combineFrom_of_same {rest : List Cell}
    (same : ∀ count ≤ rest.length, (combinedAfter combine start state rest count).1.kind = kind) :
    (combineFrom kind combine first start rest).run.run state
      = (.ok (combinedAfter combine start state rest rest.length).1,
          (combinedAfter combine start state rest rest.length).2) := by
  -- each call moves on the position, the cell held and the state of the function
  induction rest generalizing first start state with
  | nil => rfl
  | cons element rest ih =>
      have further : ∀ count ≤ rest.length,
          (combinedAfter combine ((combine start element).run state).1
            ((combine start element).run state).2 rest count).1.kind = kind := by
        intro count inside
        rw [← combinedAfter_cons]
        exact same (count + 1) (Nat.succ_le_succ inside)
      rw [run_combineFrom_cons_of_same (further 0 (Nat.zero_le _)), ih further, List.length_cons,
        combinedAfter_cons]

/-- The calls end with the first cell of another kind. -/
theorem run_combineFrom_of_other {rest : List Cell} {index : Nat} (inside : index < rest.length)
    (earlier : ∀ count ≤ index, (combinedAfter combine start state rest count).1.kind = kind)
    (other : (combinedAfter combine start state rest (index + 1)).1.kind ≠ kind) :
    (combineFrom kind combine first start rest).run.run state
      = (.error (mismatchAt kind (combinedAfter combine start state rest (index + 1)).1.kind
            (first + index)),
          (combinedAfter combine start state rest (index + 1)).2) := by
  induction rest generalizing first start state index with
  | nil => cases inside
  | cons element rest ih =>
      cases index with
      | zero =>
          rw [combinedAfter_cons] at other ⊢
          exact run_combineFrom_cons_of_other other
      | succ index =>
          have further : ∀ count ≤ index,
              (combinedAfter combine ((combine start element).run state).1
                ((combine start element).run state).2 rest count).1.kind = kind := by
            intro count before
            rw [← combinedAfter_cons]
            exact earlier (count + 1) (Nat.succ_le_succ before)
          rw [combinedAfter_cons] at other ⊢
          rw [run_combineFrom_cons_of_same (further 0 (Nat.zero_le _)),
            ih (Nat.lt_of_succ_lt_succ inside) further other, Nat.add_assoc, Nat.add_comm 1 index]

end Calls

/-! ## Runs -/

section Runs

variable {σ : Type} {kind : IntKind} {first : Cell} {rest : List Cell}
  {combine : Cell → Cell → StateM σ Cell} {state : σ}

variable (uniform : ∀ element ∈ first :: rest, element.kind = .integer kind)

include uniform

/-- With no other element the first one is what is combined. -/
theorem plan_reduce :
    (Alteration.reduce combine).plan ⟨.integer kind, first :: rest⟩ = (do
      let combined ← combineFrom (.integer kind) combine 1 first rest
      (Kind.integer kind).checkAll [combined]
      return [combined]) := by
  have known : first.kind = .integer kind := uniform first List.mem_cons_self
  have accepted : CellArray.requireSomeIntegers ⟨.integer kind, first :: rest⟩ "reduce" = .ok () :=
    CellArray.requireSomeIntegers_of_uniform nofun uniform
  refine (lift_bind_of_ok accepted _).trans ?_
  cases rest with
  | nil =>
      have checked : (Kind.integer kind).checkAll [first] = .ok () :=
        Kind.checkAll_eq_ok_iff.mpr uniform
      rw [combineFrom, List.zipIdx_nil, List.foldlM_nil, pure_bind, lift_bind_of_ok checked]
  | cons next rest =>
      have copied : first.copy = .ok first := Cell.copy_of_constructible (known ▸ rfl)
      exact lift_bind_of_ok copied _

theorem run_reduce_of_same
    (same : ∀ count ≤ rest.length,
      (combinedAfter combine first state rest count).1.kind = .integer kind) :
    ((Cell.reduce combine).apply (.array (.integer kind) (first :: rest))).run state
      = ((.ok (), .array (.integer kind) [(combinedAfter combine first state rest rest.length).1]),
          (combinedAfter combine first state rest rest.length).2) := by
  have made : (combineFrom (.integer kind) combine 1 first rest).run.run state = _ :=
    run_combineFrom_of_same same
  have checked : (Kind.integer kind).checkAll
      [(combinedAfter combine first state rest rest.length).1] = .ok () :=
    Kind.checkAll_eq_ok_iff.mpr (List.forall_mem_singleton.mpr (same _ (Nat.le_refl _)))
  have planned : ((Alteration.reduce combine).plan ⟨.integer kind, first :: rest⟩).run.run state
      = (.ok [(combinedAfter combine first state rest rest.length).1],
          (combinedAfter combine first state rest rest.length).2) := by
    rw [plan_reduce uniform, run_bind_of_ok made, lift_bind_of_ok checked]
    rfl
  exact Alteration.run_edit planned

theorem run_reduce_of_other {index : Nat} (inside : index < rest.length)
    (earlier : ∀ count ≤ index,
      (combinedAfter combine first state rest count).1.kind = .integer kind)
    (other : (combinedAfter combine first state rest (index + 1)).1.kind ≠ .integer kind) :
    ((Cell.reduce combine).apply (.array (.integer kind) (first :: rest))).run state
      = ((.error (mismatchAt (.integer kind)
              (combinedAfter combine first state rest (index + 1)).1.kind (index + 1)),
            .array (.integer kind) (first :: rest)),
          (combinedAfter combine first state rest (index + 1)).2) := by
  have ended : (combineFrom (.integer kind) combine 1 first rest).run.run state = _ :=
    run_combineFrom_of_other inside earlier other
  have planned : ((Alteration.reduce combine).plan ⟨.integer kind, first :: rest⟩).run.run state
      = (.error (mismatchAt (.integer kind)
            (combinedAfter combine first state rest (index + 1)).1.kind (index + 1)),
          (combinedAfter combine first state rest (index + 1)).2) := by
    rw [plan_reduce uniform, run_bind_of_error ended, Nat.add_comm 1 index]
  exact Alteration.run_edit planned

end Runs

/-! ## Main statement -/

/-- How reducing an array of at least one cell ends, and the state that the function is left in. -/
inductive Reduces {σ : Type} (kind : IntKind) (first : Cell) (rest : List Cell)
    (combine : Cell → Cell → StateM σ Cell) (state : σ) :
    (Except Failure Unit × Cell) × σ → Prop where
  /-- Every cell made is of the kind, and the last of them is left alone in the array. -/
  | combined
      (same : ∀ count ≤ rest.length,
        (combinedAfter combine first state rest count).1.kind = .integer kind) :
      Reduces kind first rest combine state
        ((.ok (), .array (.integer kind) [(combinedAfter combine first state rest rest.length).1]),
          (combinedAfter combine first state rest rest.length).2)
  /-- The cell that some call makes is the first of another kind, and the last that is made. -/
  | mixed {index : Nat} (later : 0 < index) (inside : index ≤ rest.length)
      (earlier : ∀ count < index,
        (combinedAfter combine first state rest count).1.kind = .integer kind)
      (other : (combinedAfter combine first state rest index).1.kind ≠ .integer kind) :
      Reduces kind first rest combine state
        ((.error ⟨.typeMismatch (.integer kind)
                (combinedAfter combine first state rest index).1.kind,
              some { operation := "reduce", index := index }⟩,
            .array (.integer kind) (first :: rest)),
          (combinedAfter combine first state rest index).2)

/-- Reducing calls a function on the first element and each of the others from the left. -/
structure CombinesFromTheLeft (kind : IntKind) (first : Cell) (rest : List Cell) : Prop where
  /-- The first element is there before any call. Each call is on what was made before and on the
  element that is next. -/
  calls : ∀ {σ : Type} (combine : Cell → Cell → StateM σ Cell) (state : σ),
    combinedAfter combine first state rest 0 = (first, state)
      ∧ ∀ (count : Nat) (inside : count < rest.length),
          combinedAfter combine first state rest (count + 1)
            = (combine (combinedAfter combine first state rest count).1 rest[count]).run
                (combinedAfter combine first state rest count).2
  ends : ∀ {σ : Type} (combine : Cell → Cell → StateM σ Cell) (state : σ),
    Reduces kind first rest combine state
      (((Cell.reduce combine).apply (.array (.integer kind) (first :: rest))).run state)
  /-- There are no calls if there is no other element. -/
  alone : rest = [] → ∀ {σ : Type} (combine : Cell → Cell → StateM σ Cell) (state : σ),
    ((Cell.reduce combine).apply (.array (.integer kind) [first])).run state
      = ((.ok (), .array (.integer kind) [first]), state)

/-- Either all cells made are of the kind or some call makes the first that is not. -/
theorem reduces_of_uniform {σ : Type} {kind : IntKind} {first : Cell} {rest : List Cell}
    (uniform : ∀ element ∈ first :: rest, element.kind = .integer kind)
    (combine : Cell → Cell → StateM σ Cell) (state : σ) :
    Reduces kind first rest combine state
      (((Cell.reduce combine).apply (.array (.integer kind) (first :: rest))).run state) := by
  by_cases same : ∀ count ≤ rest.length,
      (combinedAfter combine first state rest count).1.kind = .integer kind
  · rw [run_reduce_of_same uniform same]
    exact .combined same
  · have strays : ∃ index, index ≤ rest.length
        ∧ (combinedAfter combine first state rest index).1.kind ≠ .integer kind := by
      simpa only [not_forall, exists_prop] using same
    obtain ⟨index, ⟨inside, other⟩, least⟩ := Nat.findX strays
    have earlier : ∀ count < index,
        (combinedAfter combine first state rest count).1.kind = .integer kind := by
      intro count before
      by_contra strayed
      exact least count before ⟨Nat.le_of_lt (Nat.lt_of_lt_of_le before inside), strayed⟩
    cases index with
    | zero => exact absurd (uniform first List.mem_cons_self) other
    | succ index =>
        rw [run_reduce_of_other uniform inside (fun count before => earlier count
          (Nat.lt_succ_of_le before)) other]
        exact .mixed (Nat.succ_pos index) inside earlier other

/-- **Reducing an array of integers combines its elements from the left, or ends at the first cell
made of another kind and changes nothing.** -/
theorem reducing_combines_from_the_left (kind : IntKind) (first : Cell) (rest : List Cell)
    (uniform : ∀ element ∈ first :: rest, element.kind = .integer kind) :
    CombinesFromTheLeft kind first rest := by
  refine ⟨?_, ?_, ?_⟩
  · intro σ combine state
    exact ⟨combinedAfter_zero combine first state rest,
      fun count inside => combinedAfter_succ combine first state inside⟩
  · intro σ combine state
    exact reduces_of_uniform uniform combine state
  · rintro rfl σ combine state
    refine run_reduce_of_same uniform fun count none => ?_
    obtain rfl := Nat.le_zero.mp none
    exact uniform first List.mem_cons_self

/-- Four signed bytes, the greatest and the least of them among them. -/
def fourBytes : List Cell :=
  [.ofWord (.sized .signed .eight) 127, .ofWord (.sized .signed .eight) (-128),
    .ofWord (.sized .signed .eight) 3, .ofWord (.sized .signed .eight) 0]

theorem reducing_combines_from_the_left_bytes :
    (∀ element ∈ Cell.ofWord (.sized .signed .eight) 1 :: fourBytes,
        element.kind = .integer (.sized .signed .eight))
      ∧ CombinesFromTheLeft (.sized .signed .eight) (.ofWord (.sized .signed .eight) 1)
          fourBytes := by
  have uniform : ∀ element ∈ Cell.ofWord (.sized .signed .eight) 1 :: fourBytes,
      element.kind = .integer (.sized .signed .eight) := by
    decide
  exact ⟨uniform, reducing_combines_from_the_left _ _ fourBytes uniform⟩

/-- Keeps the later cell for two calls, and makes nothing of any cells from then on. -/
def laterTwice (_ element : Cell) : StateM Nat Cell :=
  modifyGet fun calls => (if calls < 2 then element else .null, calls + 1)

/-- The third call is the last one, and the array stays. -/
example :
    ((Cell.reduce laterTwice).apply (.array (.integer (.sized .signed .eight))
        (.ofWord (.sized .signed .eight) 1 :: fourBytes))).run 0
      = ((.error (mismatchAt (.integer (.sized .signed .eight)) .null 3),
          .array (.integer (.sized .signed .eight))
            (.ofWord (.sized .signed .eight) 1 :: fourBytes)), 3) := by
  rfl

end TaggedCells

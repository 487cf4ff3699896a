import TaggedCells.Failure.Code
import TaggedCells.Proofs.Calls
import TaggedCells.Proofs.Carriage
import TaggedCells.Proofs.Cell.Integers
import TaggedCells.Proofs.CellArray.Refusal

/-!
# What transforming does to an array

Transforming calls a function on the numbers of an array in order. Each answer becomes a cell before
the next number is looked at, so an answer that the declared kind does not hold is the last one: the
function is not called again, and nothing is written. If all answers are held, they take the place
of the numbers (`transforming_takes_the_answers`).

What an array is left with is again an array of integers, of exactly the answers. So transforming
twice with functions that keep no state is transforming once.
-/

set_option autoImplicit false

namespace TaggedCells

/-! ## The first answer that is not held -/

section Held

variable {kind : IntKind} {numbers : List Int}

/-- The position of the first number that the kind does not hold. -/
def IntKind.unheld? (kind : IntKind) (numbers : List Int) : Option Nat :=
  numbers.findIdx? fun number => !kind.bounds.contains number

theorem IntKind.unheld?_eq_none_iff :
    kind.unheld? numbers = none ↔ ∀ number ∈ numbers, kind.bounds.contains number = true := by
  simp [IntKind.unheld?]

theorem IntKind.unheld?_cons_of_held {number : Int} (held : kind.bounds.contains number = true) :
    kind.unheld? (number :: numbers) = (kind.unheld? numbers).map (· + 1) := by
  simp [IntKind.unheld?, List.findIdx?_cons, held]

theorem IntKind.unheld?_cons_of_unheld {number : Int}
    (unheld : kind.bounds.contains number = false) :
    kind.unheld? (number :: numbers) = some 0 := by
  simp [IntKind.unheld?, List.findIdx?_cons, unheld]

/-- The first number that is not held stands behind numbers that are. -/
theorem IntKind.exists_of_unheld? {index : Nat} (found : kind.unheld? numbers = some index) :
    ∃ number, numbers[index]? = some number ∧ kind.bounds.contains number = false
      ∧ ∀ earlier ∈ numbers.take index, kind.bounds.contains earlier = true := by
  obtain ⟨inside, unheld, before⟩ := List.findIdx?_eq_some_iff_getElem.mp found
  refine ⟨numbers[index], List.getElem?_eq_getElem inside, ?_, ?_⟩
  · simpa using unheld
  · intro earlier present
    obtain ⟨place, bounded, rfl⟩ := List.mem_iff_getElem.mp present
    rw [List.length_take] at bounded
    rw [List.getElem_take]
    simpa using before place (by omega)

end Held

/-! ## Calls -/

section Calls

variable {σ : Type} (kind : IntKind) (f : Int → StateM σ Int) (first : Nat) (state : σ)

/-- The failure on an answer that the kind does not hold. -/
def overflowAt (kind : IntKind) (index : Nat) : Failure :=
  ⟨.overflow (.integer kind), some { operation := "transform", index := index }⟩

/-- The cells of a kind for the answers of a function to the numbers of the given cells, which are
counted from `first`. -/
def transformedFrom {m : Type → Type} [Monad m] (kind : Kind) (f : Int → m Int) (first : Nat)
    (elements : List Cell) : ExceptT Failure m (List Cell) :=
  (elements.zipIdx first).mapM fun (element, index) => do
    let result ← (f element.number : m Int)
    located (Cell.ofInt kind result) { operation := "transform", index := index }

theorem transformedFrom_cons (element : Cell) (rest : List Cell) :
    transformedFrom (.integer kind) f first (element :: rest) = do
      let result ← (f element.number : StateM σ Int)
      let cell ← located (Cell.ofInt (.integer kind) result)
        { operation := "transform", index := first }
      return cell :: (← transformedFrom (.integer kind) f (first + 1) rest) := by
  unfold transformedFrom
  rw [List.zipIdx_cons, List.mapM_cons, bind_assoc]

/-- An answer that is held is followed by the further calls. -/
theorem run_transformedFrom_of_held {element : Cell} {rest : List Cell}
    (held : kind.bounds.contains ((f element.number).run state).1 = true) :
    (transformedFrom (.integer kind) f first (element :: rest)).run.run state
      = (fun (outcome, later) =>
          (outcome.map (Cell.ofWord kind ((f element.number).run state).1 :: ·), later))
        ((transformedFrom (.integer kind) f (first + 1) rest).run.run
          ((f element.number).run state).2) := by
  have made : located (Cell.ofInt (.integer kind) ((f element.number).run state).1)
      { operation := "transform", index := first }
      = .ok (Cell.ofWord kind ((f element.number).run state).1) :=
    located_eq_ok_iff.mpr (Cell.ofInt_of_held held)
  rw [transformedFrom_cons, run_call, lift_bind_of_ok made, bind_pure_comp, ExceptT.run_map,
    StateT.run_map]
  rfl

/-- An answer that is not held ends the calls. -/
theorem run_transformedFrom_of_unheld {element : Cell} {rest : List Cell}
    (unheld : kind.bounds.contains ((f element.number).run state).1 = false) :
    (transformedFrom (.integer kind) f first (element :: rest)).run.run state
      = (.error (overflowAt kind first), ((f element.number).run state).2) := by
  have refused : located (Cell.ofInt (.integer kind) ((f element.number).run state).1)
      { operation := "transform", index := first } = .error (overflowAt kind first) :=
    located_eq_error_iff.mpr ⟨_, Cell.ofInt_of_unheld unheld, rfl⟩
  rw [transformedFrom_cons, run_call, lift_bind_of_error refused]
  rfl

/-- If every answer is held, every number is called on. -/
theorem run_transformedFrom_of_unheld?_eq_none {elements : List Cell}
    (held : kind.unheld? (answers f state (elements.map Cell.number)) = none) :
    (transformedFrom (.integer kind) f first elements).run.run state
      = (.ok ((answers f state (elements.map Cell.number)).map (Cell.ofWord kind)),
          stateAfter f state (elements.map Cell.number)) := by
  -- each call moves on the position and the state of the function
  induction elements generalizing first state with
  | nil => rfl
  | cons element rest ih =>
      rw [List.map_cons, answers_cons] at held
      obtain ⟨here, further⟩ := List.forall_mem_cons.mp (IntKind.unheld?_eq_none_iff.mp held)
      rw [run_transformedFrom_of_held kind f first state here,
        ih _ _ (IntKind.unheld?_eq_none_iff.mpr further), List.map_cons, answers_cons,
        stateAfter_cons]
      rfl

/-- The calls end with the first answer that is not held. -/
theorem run_transformedFrom_of_unheld?_eq_some {elements : List Cell} {index : Nat}
    (unheld : kind.unheld? (answers f state (elements.map Cell.number)) = some index) :
    (transformedFrom (.integer kind) f first elements).run.run state
      = (.error (overflowAt kind (first + index)),
          stateAfter f state ((elements.map Cell.number).take (index + 1))) := by
  induction elements generalizing first state index with
  | nil => cases unheld
  | cons element rest ih =>
      rw [List.map_cons, answers_cons] at unheld
      cases here : kind.bounds.contains ((f element.number).run state).1 with
      | false =>
          rw [IntKind.unheld?_cons_of_unheld here] at unheld
          obtain rfl := Option.some.inj unheld
          rw [run_transformedFrom_of_unheld kind f first state here]
          rfl
      | true =>
          rw [IntKind.unheld?_cons_of_held here] at unheld
          obtain ⟨place, further, rfl⟩ := Option.map_eq_some_iff.mp unheld
          rw [run_transformedFrom_of_held kind f first state here, ih _ _ further,
            List.map_cons, List.take_succ_cons, stateAfter_cons, Nat.add_assoc,
            Nat.add_comm 1 place]
          rfl

end Calls

/-! ## Runs -/

section Runs

variable {σ : Type} {kind : IntKind} {elements : List Cell} {state : σ} {f : Int → StateM σ Int}

variable (occupied : elements ≠ [])
  (uniform : ∀ element ∈ elements, element.kind = .integer kind)

include occupied uniform

theorem plan_transform :
    (Alteration.transform f).plan ⟨.integer kind, elements⟩ = (do
      let results ← transformedFrom (.integer kind) f 0 elements
      (Kind.integer kind).checkAll results
      return results) :=
  lift_bind_of_ok (CellArray.requireSomeIntegers_of_uniform occupied uniform) _

theorem run_transform_of_held
    (held : kind.unheld? (answers f state (elements.map Cell.number)) = none) :
    ((Cell.transform f).apply (.array (.integer kind) elements)).run state
      = ((.ok (), .array (.integer kind)
            ((answers f state (elements.map Cell.number)).map (Cell.ofWord kind))),
          stateAfter f state (elements.map Cell.number)) := by
  have made := run_transformedFrom_of_unheld?_eq_none kind f 0 state held
  have checked : (Kind.integer kind).checkAll
      ((answers f state (elements.map Cell.number)).map (Cell.ofWord kind)) = .ok () := by
    refine Kind.checkAll_eq_ok_iff.mpr fun cell present => ?_
    obtain ⟨answer, -, rfl⟩ := List.mem_map.mp present
    rfl
  have planned : ((Alteration.transform f).plan ⟨.integer kind, elements⟩).run.run state
      = (.ok ((answers f state (elements.map Cell.number)).map (Cell.ofWord kind)),
          stateAfter f state (elements.map Cell.number)) := by
    rw [plan_transform occupied uniform, run_bind_of_ok made, lift_bind_of_ok checked]
    rfl
  exact Alteration.run_edit planned

theorem run_transform_of_unheld {index : Nat}
    (unheld : kind.unheld? (answers f state (elements.map Cell.number)) = some index) :
    ((Cell.transform f).apply (.array (.integer kind) elements)).run state
      = ((.error (overflowAt kind index), .array (.integer kind) elements),
          stateAfter f state ((elements.map Cell.number).take (index + 1))) := by
  have ended := run_transformedFrom_of_unheld?_eq_some kind f 0 state unheld
  have planned : ((Alteration.transform f).plan ⟨.integer kind, elements⟩).run.run state
      = (.error (overflowAt kind index),
          stateAfter f state ((elements.map Cell.number).take (index + 1))) := by
    rw [plan_transform occupied uniform, run_bind_of_error ended, Nat.zero_add]
  exact Alteration.run_edit planned

end Runs

/-! ## Functions without a state -/

section Pure

variable {kind : IntKind} {elements : List Cell} (f : Int → Int)

/-- Transforms with a function that keeps no state. -/
def Cell.transformPurely (f : Int → Int) (cell : Cell) : Except Failure Unit × Cell :=
  (Cell.transform (m := Id) fun number => pure (f number)).applyPure cell

/-- After a first function has made `middle` of the cell, a second one ends as both at once would
have from the start. -/
def Cell.Fuses (f g : Int → Int) (cell middle : Cell) : Prop :=
  (middle.transformPurely g).1 = (cell.transformPurely (g ∘ f)).1
    ∧ ((middle.transformPurely g).1 = .ok () →
        middle.transformPurely g = cell.transformPurely (g ∘ f))

theorem transformPurely_eq_run (cell : Cell) :
    (cell.transformPurely f, ())
      = ((Cell.transform fun number => (pure (f number) : StateM Unit Int)).apply cell).run () := by
  have carried := Alteration.apply_across (.fromNothing (StateM Unit))
    (.transform fun number => pure (f number)) cell
  exact (congrFun carried ()).symm

variable (occupied : elements ≠ [])
  (uniform : ∀ element ∈ elements, element.kind = .integer kind)

include occupied uniform

theorem transformPurely_of_held
    (held : kind.unheld? ((elements.map Cell.number).map f) = none) :
    (Cell.array (.integer kind) elements).transformPurely f
      = (.ok (), .array (.integer kind)
          (((elements.map Cell.number).map f).map (Cell.ofWord kind))) := by
  rw [← answers_pure () f] at held ⊢
  have run := transformPurely_eq_run f (.array (.integer kind) elements)
  rw [run_transform_of_held occupied uniform held] at run
  exact congrArg Prod.fst run

theorem transformPurely_of_unheld {index : Nat}
    (unheld : kind.unheld? ((elements.map Cell.number).map f) = some index) :
    (Cell.array (.integer kind) elements).transformPurely f
      = (.error (overflowAt kind index), .array (.integer kind) elements) := by
  rw [← answers_pure () f] at unheld
  have run := transformPurely_eq_run f (.array (.integer kind) elements)
  rw [run_transform_of_unheld occupied uniform unheld] at run
  exact congrArg Prod.fst run

/-- **Where a first function succeeds, a second one can be fused with it.** -/
theorem fuses_of_ok {f g : Int → Int} {middle : Cell}
    (first : (Cell.array (.integer kind) elements).transformPurely f = (.ok (), middle)) :
    Cell.Fuses f g (.array (.integer kind) elements) middle := by
  cases found : kind.unheld? ((elements.map Cell.number).map f) with
  | some index =>
      rw [transformPurely_of_unheld f occupied uniform found] at first
      cases first
  | none =>
      rw [transformPurely_of_held f occupied uniform found] at first
      obtain rfl := (Prod.mk.inj first).2
      -- the cells in between are of the kind and hold exactly what the first function gave
      have numbers := Cell.map_number_of_holds
        (Cell.holds_map_ofWord (IntKind.unheld?_eq_none_iff.mp found))
      have between : (((elements.map Cell.number).map f).map (Cell.ofWord kind)) ≠ [] := by
        simpa using occupied
      have integers : ∀ cell ∈ ((elements.map Cell.number).map f).map (Cell.ofWord kind),
          cell.kind = .integer kind := by
        intro cell present
        obtain ⟨number, -, rfl⟩ := List.mem_map.mp present
        rfl
      have both : ((((elements.map Cell.number).map f).map (Cell.ofWord kind)).map
          Cell.number).map g = (elements.map Cell.number).map (g ∘ f) := by
        rw [numbers, List.map_map]
      cases second : kind.unheld? ((elements.map Cell.number).map (g ∘ f)) with
      | some index =>
          rw [Cell.Fuses, transformPurely_of_unheld (g ∘ f) occupied uniform second]
          rw [← both] at second
          rw [transformPurely_of_unheld g between integers second]
          exact ⟨rfl, nofun⟩
      | none =>
          rw [Cell.Fuses, transformPurely_of_held (g ∘ f) occupied uniform second]
          rw [← both] at second
          rw [transformPurely_of_held g between integers second, both]
          exact ⟨rfl, fun _ => rfl⟩

end Pure

/-! ## Main statement -/

/-- How transforming the cells that hold the numbers ends, and the state that it leaves the function
in. -/
inductive Transforms {σ : Type} (kind : IntKind) (elements : List Cell) (numbers : List Int)
    (f : Int → StateM σ Int) (state : σ) : (Except Failure Unit × Cell) × σ → Prop where
  /-- The answers to all numbers are held, and take their place. -/
  | held {results : List Cell}
      (within : ∀ answer ∈ answers f state numbers, kind.bounds.contains answer = true)
      (holding : List.Forall₂ (Cell.Holds kind) results (answers f state numbers)) :
      Transforms kind elements numbers f state
        ((.ok (), .array (.integer kind) results), stateAfter f state numbers)
  /-- The answer to some number is the first that is not held, and the last that is asked for. -/
  | unheld {index : Nat} {answer : Int}
      (given : (answers f state numbers)[index]? = some answer)
      (beyond : kind.bounds.contains answer = false)
      (earlier : ∀ before ∈ (answers f state numbers).take index,
        kind.bounds.contains before = true) :
      Transforms kind elements numbers f state
        ((.error ⟨.overflow (.integer kind), some { operation := "transform", index := index }⟩,
            .array (.integer kind) elements),
          stateAfter f state (numbers.take (index + 1)))

/-- Transforming the cells that hold the numbers takes what a function answers to them. -/
structure TakesAnswers (kind : IntKind) (elements : List Cell) (numbers : List Int) : Prop where
  holding : List.Forall₂ (Cell.Holds kind) elements numbers
  ends : ∀ {σ : Type} (f : Int → StateM σ Int) (state : σ),
    Transforms kind elements numbers f state
      (((Cell.transform f).apply (.array (.integer kind) elements)).run state)
  /-- A failure counts as one of range. -/
  code : ∀ {σ : Type} (f : Int → StateM σ Int) (state : σ) (failure : Failure),
    (((Cell.transform f).apply (.array (.integer kind) elements)).run state).1.1 = .error failure →
      failure.code = .badRange
  fused : ∀ (f g : Int → Int) (middle : Cell),
    (Cell.array (.integer kind) elements).transformPurely f = (.ok (), middle) →
      Cell.Fuses f g (.array (.integer kind) elements) middle

theorem transforms_of_uniform {σ : Type} {kind : IntKind} {elements : List Cell}
    (occupied : elements ≠ []) (uniform : ∀ element ∈ elements, element.kind = .integer kind)
    (f : Int → StateM σ Int) (state : σ) :
    Transforms kind elements (elements.map Cell.number) f state
      (((Cell.transform f).apply (.array (.integer kind) elements)).run state) := by
  cases found : kind.unheld? (answers f state (elements.map Cell.number)) with
  | none =>
      have within := IntKind.unheld?_eq_none_iff.mp found
      rw [run_transform_of_held occupied uniform found]
      exact .held within (Cell.holds_map_ofWord within)
  | some index =>
      obtain ⟨answer, given, beyond, earlier⟩ := IntKind.exists_of_unheld? found
      rw [run_transform_of_unheld occupied uniform found]
      exact .unheld given beyond earlier

theorem Transforms.code_eq {σ : Type} {kind : IntKind} {elements : List Cell} {numbers : List Int}
    {f : Int → StateM σ Int} {state : σ} {ended : (Except Failure Unit × Cell) × σ}
    (transforms : Transforms kind elements numbers f state ended) {failure : Failure}
    (failed : ended.1.1 = .error failure) : failure.code = .badRange := by
  cases transforms with
  | held within holding => cases failed
  | unheld given beyond earlier =>
      obtain rfl := Except.error.inj failed
      rfl

/-- **Transforming an array of integers puts the answers of a function in the place of the numbers,
or ends at the first answer that the kind does not hold and changes nothing.** -/
theorem transforming_takes_the_answers (kind : IntKind) (elements : List Cell)
    (occupied : elements ≠ []) (uniform : ∀ element ∈ elements, element.kind = .integer kind) :
    ∃ numbers : List Int, TakesAnswers kind elements numbers := by
  refine ⟨elements.map Cell.number, Cell.holds_map_number uniform, ?_, ?_, ?_⟩
  · exact transforms_of_uniform occupied uniform
  · intro σ f state failure failed
    exact (transforms_of_uniform occupied uniform f state).code_eq failed
  · intro f g middle first
    exact fuses_of_ok occupied uniform first

/-- The least signed byte and the greatest one. -/
def extremeBytes : List Cell :=
  [.ofWord (.sized .signed .eight) (-128), .ofWord (.sized .signed .eight) 127]

theorem transforming_takes_the_answers_bytes :
    extremeBytes ≠ []
      ∧ (∀ element ∈ extremeBytes, element.kind = .integer (.sized .signed .eight))
      ∧ ∃ numbers : List Int, TakesAnswers (.sized .signed .eight) extremeBytes numbers := by
  have occupied : extremeBytes ≠ [] := by decide
  have uniform : ∀ element ∈ extremeBytes, element.kind = .integer (.sized .signed .eight) := by
    decide
  exact ⟨occupied, uniform, transforming_takes_the_answers _ extremeBytes occupied uniform⟩

/-- Adds to a number how many calls there were before. -/
def addCalls (number : Int) : StateM Nat Int :=
  modifyGet fun count : Nat => (number + count, count + 1)

/-- No byte is greater than the greatest, so the second call is the last. -/
example :
    ((Cell.transform addCalls).apply
        (.array (.integer (.sized .signed .eight)) (extremeBytes ++ extremeBytes))).run 0
      = ((.error (overflowAt (.sized .signed .eight) 1),
          .array (.integer (.sized .signed .eight)) (extremeBytes ++ extremeBytes)), 2) := by
  rfl

end TaggedCells

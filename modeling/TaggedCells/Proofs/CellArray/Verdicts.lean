import TaggedCells.Proofs.Always
import TaggedCells.Proofs.Cell.Copying
import TaggedCells.Proofs.CellArray.Building
import TaggedCells.Proofs.CellArray.Refusal

/-!
# Verdicts on integer arrays

Eleven operations work on arrays of integers. Each first looks at the cell and at the array in it,
and what it asks for is the same for all of them: an array, an element unless it is going to sort, a
declared integer kind, and no element of another kind. A cell that lacks something is refused with
the first thing that it lacks (`Refuses`), and nothing else happens. A cell that lacks nothing is
worked on, and a failure that still arises comes from the numbers, or from a function of the caller
(`Fails`).
-/

set_option autoImplicit false

namespace TaggedCells

/-- An operation on an array of integers, with functions of the caller that run in `m`. -/
inductive IntegerOperation (m : Type → Type) where
  | sort (algorithm : SortAlgorithm)
  | transform (f : Int → m Int)
  | filter (keep : Cell → m Bool)
  | reduce (combine : Cell → Cell → m Cell)
  | accumulate
  | split (wanted : Cell → m Bool)
  | visit (visitor : Cell → m Unit)

namespace IntegerOperation

variable {m : Type → Type}

/-- The operation that a failure names. -/
def name : IntegerOperation m → String
  | .sort algorithm => algorithm.operation
  | .transform _ => "transform"
  | .filter _ => "filter"
  | .reduce _ => "reduce"
  | .accumulate => "accumulate"
  | .split _ => "partition"
  | .visit _ => "for_each"

/-- Whether there has to be an element. Sorting does without. -/
def asksForElement : IntegerOperation m → Bool
  | .sort _ => false
  | _ => true

/-- Runs the operation on a cell: whether it failed, and the cell afterwards. -/
def run [Monad m] (cell : Cell) : IntegerOperation m → m (Except Failure Unit × Cell)
  | .sort algorithm => (Cell.sort algorithm).apply cell
  | .transform f => (Cell.transform f).apply cell
  | .filter keep => (Cell.filter keep).apply cell
  | .reduce combine => (Cell.reduce combine).apply cell
  | .accumulate => Cell.accumulate.apply cell
  | .split wanted => (fun outcome => (outcome.map fun _ => (), cell)) <$> (cell.split wanted).run
  | .visit visitor => (fun outcome => (outcome, cell)) <$> (cell.visit visitor).run

/-! ## What is refused -/

/-- The failure that a cell is refused with. -/
inductive Refuses (operation : IntegerOperation m) : Cell → Failure → Prop where
  | arrayless {cell : Cell} {failure : Failure} (lacking : cell.Arrayless operation.name failure) :
      Refuses operation cell failure
  /-- Nothing to work on counts as no input, whatever was declared. -/
  | empty (asks : operation.asksForElement = true) (kind : Kind) :
      Refuses operation (.array kind []) (.ofCause (.nullInput operation.name))
  | undeclared {kind : Kind} {elements : List Cell}
      (occupied : operation.asksForElement = true → elements ≠ [])
      (other : ∀ integer : IntKind, kind ≠ .integer integer) :
      Refuses operation (.array kind elements) (.ofCause (.invalidOperation operation.name kind))
  /-- The first element of another kind is an integer. -/
  | mismatch {declared found : IntKind} {before after : List Cell} {stray : Cell}
      (uniform : ∀ element ∈ before, element.kind = .integer declared)
      (carries : stray.kind = .integer found) (differs : found ≠ declared) :
      Refuses operation (.array (.integer declared) (before ++ stray :: after))
        ⟨.typeMismatch (.integer declared) (.integer found),
          some { operation := operation.name, index := before.length }⟩
  /-- The first element of another kind is no integer. -/
  | meaningless {declared : IntKind} {before after : List Cell} {stray : Cell}
      (uniform : ∀ element ∈ before, element.kind = .integer declared)
      (other : ∀ integer : IntKind, stray.kind ≠ .integer integer) :
      Refuses operation (.array (.integer declared) (before ++ stray :: after))
        ⟨.invalidOperation operation.name stray.kind,
          some { operation := operation.name, index := before.length }⟩

/-- The array is what the operation asks for. -/
structure Accepts (operation : IntegerOperation m) (array : CellArray) : Prop where
  occupied : operation.asksForElement = true → array.elements ≠ []
  declared : ∃ integer : IntKind, array.kind = .integer integer
  uniform : array.Homogeneous

/-- What the operation asks of the array. -/
def check (operation : IntegerOperation m) (array : CellArray) : Except Failure Unit :=
  if operation.asksForElement then array.requireSomeIntegers operation.name
  else array.requireIntegers operation.name

/-- The array that the operation is going to work on. -/
def admitted (operation : IntegerOperation m) (cell : Cell) : Except Failure CellArray :=
  cell.checked operation.name operation.check

section Verdicts

variable {operation : IntegerOperation m} {cell : Cell} {array : CellArray} {failure : Failure}

/-- With an element there, or none asked for, the integers are all that is looked at. -/
theorem check_eq (occupied : operation.asksForElement = true → array.elements ≠ []) :
    operation.check array = array.requireIntegers operation.name := by
  by_cases asks : operation.asksForElement = true
  · have present : array.requireElement operation.name = .ok () :=
      CellArray.requireElement_eq_ok_iff.mpr (occupied asks)
    rw [check, if_pos asks, CellArray.requireSomeIntegers, present]
    rfl
  · rw [check, if_neg asks]

theorem check_of_empty (asks : operation.asksForElement = true) (kind : Kind) :
    operation.check ⟨kind, []⟩ = .error (.ofCause (.nullInput operation.name)) := by
  rw [check, if_pos asks]
  rfl

theorem check_eq_ok_iff : operation.check array = .ok () ↔ operation.Accepts array := by
  constructor
  · intro accepted
    have occupied : operation.asksForElement = true → array.elements ≠ [] := by
      intro asks
      rw [check, if_pos asks] at accepted
      exact (CellArray.requireSomeIntegers_eq_ok_iff.mp accepted).1
    rw [check_eq occupied] at accepted
    obtain ⟨declared, uniform⟩ := CellArray.requireIntegers_eq_ok_iff.mp accepted
    exact ⟨occupied, Kind.isInteger_iff.mp declared, uniform⟩
  · rintro ⟨occupied, declared, uniform⟩
    rw [check_eq occupied]
    exact CellArray.requireIntegers_eq_ok_iff.mpr ⟨Kind.isInteger_iff.mpr declared, uniform⟩

theorem check_of_undeclared {kind : Kind} {elements : List Cell}
    (occupied : operation.asksForElement = true → elements ≠ [])
    (other : ∀ integer : IntKind, kind ≠ .integer integer) :
    operation.check ⟨kind, elements⟩
      = .error (.ofCause (.invalidOperation operation.name kind)) := by
  rw [check_eq occupied]
  cases kind with
  | integer declared => exact absurd rfl (other declared)
  | _ => rfl

variable (operation) in
theorem check_of_stray {declared : IntKind} {before : List Cell} {stray : Cell} (after : List Cell)
    (uniform : ∀ element ∈ before, element.kind = .integer declared)
    (differs : stray.kind ≠ .integer declared) :
    operation.check ⟨.integer declared, before ++ stray :: after⟩
      = .error ⟨if stray.kind.isInteger then .typeMismatch (.integer declared) stray.kind
          else .invalidOperation operation.name stray.kind,
        some { operation := operation.name, index := before.length }⟩ := by
  have found : strayFrom (.integer declared) 0 (before ++ stray :: after)
      = some (0 + before.length, stray.kind) := strayFrom_of_split 0 uniform differs
  have occupied : before ++ stray :: after ≠ [] := List.append_ne_nil_of_right_ne_nil _ nofun
  rw [Nat.zero_add] at found
  rw [check_eq fun _ => occupied, CellArray.requireIntegers, CellArray.stray?, found]
  rfl

/-- The first stray element decides what the failure is. -/
theorem refuses_stray {declared : IntKind} {before after : List Cell} {stray : Cell}
    (uniform : ∀ element ∈ before, element.kind = .integer declared)
    (differs : stray.kind ≠ .integer declared) :
    operation.Refuses (.array (.integer declared) (before ++ stray :: after))
      ⟨if stray.kind.isInteger then .typeMismatch (.integer declared) stray.kind
        else .invalidOperation operation.name stray.kind,
      some { operation := operation.name, index := before.length }⟩ := by
  by_cases numeric : stray.kind.isInteger = true
  · obtain ⟨found, carries⟩ := Kind.isInteger_iff.mp numeric
    rw [if_pos numeric, carries]
    refine .mismatch uniform carries ?_
    rintro rfl
    exact differs carries
  · rw [if_neg numeric]
    refine .meaningless uniform ?_
    intro integer carries
    exact numeric (Kind.isInteger_iff.mpr ⟨integer, carries⟩)

/-- What stands in the way is named. -/
theorem refuses_of_check (refused : operation.check array = .error failure) :
    operation.Refuses array.toCell failure := by
  obtain ⟨kind, elements⟩ := array
  -- the cases are taken in the order of the checks, each with the earlier ones behind it
  by_cases lacking : operation.asksForElement = true ∧ elements = []
  · obtain ⟨asks, rfl⟩ := lacking
    rw [check_of_empty asks] at refused
    obtain rfl := Except.error.inj refused
    exact .empty asks kind
  have occupied : operation.asksForElement = true → elements ≠ [] :=
    fun asks none => lacking ⟨asks, none⟩
  by_cases undeclared : ∀ integer : IntKind, kind ≠ .integer integer
  · rw [check_of_undeclared occupied undeclared] at refused
    obtain rfl := Except.error.inj refused
    exact .undeclared occupied undeclared
  obtain ⟨declared, same⟩ := not_forall.mp undeclared
  obtain rfl := not_not.mp same
  cases found : strayFrom (.integer declared) 0 elements with
  | none =>
      rw [check_eq occupied, CellArray.requireIntegers, CellArray.stray?, found] at refused
      cases refused
  | some place =>
      obtain ⟨before, stray, after, rfl, uniform, differs, -, -⟩ := strayFrom_eq_some_iff.mp found
      rw [check_of_stray operation after uniform differs] at refused
      obtain rfl := Except.error.inj refused
      exact refuses_stray uniform differs

theorem admitted_of_check (refused : operation.check array = .error failure) :
    operation.admitted array.toCell = .error failure :=
  Cell.checked_eq_error_iff.mpr (.inr ⟨array, rfl, refused⟩)

/-- **A cell is refused with what it lacks first.** -/
theorem admitted_eq_error_iff :
    operation.admitted cell = .error failure ↔ operation.Refuses cell failure := by
  constructor
  · intro refused
    rcases Cell.checked_eq_error_iff.mp refused with lacking | ⟨array, rfl, unfit⟩
    · exact .arrayless lacking
    · exact refuses_of_check unfit
  · intro refuses
    cases refuses with
    | arrayless lacking => exact Cell.checked_eq_error_iff.mpr (.inl lacking)
    | empty asks kind => exact admitted_of_check (check_of_empty asks kind)
    | undeclared occupied other => exact admitted_of_check (check_of_undeclared occupied other)
    | @mismatch declared found before after stray uniform carries apart =>
        have numeric : stray.kind.isInteger = true := Kind.isInteger_iff.mpr ⟨found, carries⟩
        have differs : stray.kind ≠ .integer declared := by
          intro same
          exact apart (Kind.integer.inj (carries.symm.trans same))
        have unfit := check_of_stray operation after uniform differs
        rw [if_pos numeric, carries] at unfit
        exact admitted_of_check unfit
    | @meaningless declared before after stray uniform other =>
        have wordless : ¬ stray.kind.isInteger = true := by
          intro numeric
          obtain ⟨integer, carries⟩ := Kind.isInteger_iff.mp numeric
          exact other integer carries
        have unfit := check_of_stray operation after uniform (other declared)
        rw [if_neg wordless] at unfit
        exact admitted_of_check unfit

theorem Accepts.requireSomeIntegers_eq (accepts : operation.Accepts array)
    (asks : operation.asksForElement = true) :
    array.requireSomeIntegers operation.name = .ok () := by
  have checked := check_eq_ok_iff.mpr accepts
  rwa [check, if_pos asks] at checked

theorem admitted_eq_ok_iff :
    operation.admitted cell = .ok array ↔ cell = array.toCell ∧ operation.Accepts array := by
  rw [admitted, Cell.checked_eq_ok_iff, check_eq_ok_iff]

end Verdicts

/-! ## What is not worked on -/

section Refused

variable [Monad m] [LawfulMonad m] {cell : Cell} {failure : Failure}

theorem split_of_refused {wanted : Cell → m Bool}
    (refused : (split wanted).admitted cell = .error failure) :
    cell.split wanted = liftM (Except.error failure : Except Failure (Cell × Cell)) := by
  rcases Cell.checked_eq_error_iff.mp refused with lacking | ⟨array, rfl, unfit⟩
  · exact lift_bind_of_error (Cell.array?_eq_error_iff.mpr lacking) _
  · have parted : array.split wanted
        = liftM (Except.error failure : Except Failure (CellArray × CellArray)) :=
      lift_bind_of_error unfit _
    refine (lift_bind_of_ok (Cell.array?_eq_ok_iff.mpr rfl) _).trans ?_
    rw [parted]
    exact lift_bind_of_error rfl _

theorem visit_of_refused {visitor : Cell → m Unit}
    (refused : (visit visitor).admitted cell = .error failure) :
    cell.visit visitor = liftM (Except.error failure : Except Failure Unit) := by
  rcases Cell.checked_eq_error_iff.mp refused with lacking | ⟨array, rfl, unfit⟩
  · exact lift_bind_of_error (Cell.array?_eq_error_iff.mpr lacking) _
  · have held : array.toCell.array? "for_each" = .ok array := Cell.array?_eq_ok_iff.mpr rfl
    exact (lift_bind_of_ok held _).trans (lift_bind_of_error unfit _)

/-- **What is refused is left alone**: no function of the caller is called, and the cell stays. -/
theorem run_of_refused (operation : IntegerOperation m)
    (refused : operation.admitted cell = .error failure) :
    operation.run cell = pure (.error failure, cell) := by
  cases operation with
  | sort algorithm => exact Alteration.apply_of_refused (.sort algorithm) refused
  | transform f => exact Alteration.apply_of_refused (.transform f) refused
  | filter keep => exact Alteration.apply_of_refused (.filter keep) refused
  | reduce combine => exact Alteration.apply_of_refused (.reduce combine) refused
  | accumulate => exact Alteration.apply_of_refused .accumulate refused
  | split wanted =>
      rw [run, split_of_refused refused]
      exact map_pure _ _
  | visit visitor =>
      rw [run, visit_of_refused refused]
      exact map_pure _ _

end Refused

/-! ## What is worked on -/

/-- The failure of an operation on an array that it accepts. -/
inductive Fails (array : CellArray) : IntegerOperation m → Failure → Prop where
  /-- The function gave a number that the declared kind does not hold. -/
  | unfit (f : Int → m Int) {index : Nat} (inside : index < array.length) :
      Fails array (.transform f)
        ⟨.overflow array.kind, some { operation := "transform", index := index }⟩
  /-- The function gave a cell of another kind. -/
  | mixed (combine : Cell → Cell → m Cell) {index : Nat} {found : Kind} (later : 0 < index)
      (inside : index < array.length) (differs : found ≠ array.kind) :
      Fails array (.reduce combine)
        ⟨.typeMismatch array.kind found, some { operation := "reduce", index := index }⟩
  /-- The sum is no number of 128 bits on the way. -/
  | unbounded : Fails array .accumulate (.ofCause (.overflow array.kind))
  /-- The declared kind does not hold the sum. -/
  | unheld : Fails array .accumulate ⟨.overflow array.kind, some { operation := "accumulate" }⟩

section Accepted

variable [Monad m] [LawfulMonad m] {array : CellArray}

theorem within_located {α : Type} {holds : α → Prop} {fails other : Failure → Prop}
    {outcome : Except Failure α} {context : Context} (known : Within holds fails outcome)
    (placed : ∀ failure, fails failure → other (failure.within context)) :
    Within holds other (located outcome context) := by
  cases outcome with
  | ok value => exact known
  | error failure => exact placed failure known

theorem within_ofInt (kind : IntKind) (number : Int) :
    Within (fun made => made.kind = .integer kind)
      (fun failure => failure = .ofCause (.overflow (.integer kind)))
      (Cell.ofInt (.integer kind) number) := by
  show Within _ _ (do return Cell.ofWord kind (← kind.accept number))
  rw [IntKind.accept]
  split
  · exact rfl
  · exact rfl

theorem within_checkCell (kind : Kind) (cell : Cell) :
    Within (fun checked => checked.kind = kind)
      (fun failure => ∃ found, found ≠ kind ∧ failure = .ofCause (.typeMismatch kind found))
      (kind.checkCell cell) := by
  rw [Kind.checkCell]
  split
  case isTrue same => exact same
  case isFalse differs => exact ⟨cell.kind, differs, rfl⟩

theorem ends_transformed {declared : IntKind} (f : Int → m Int) (elements : List Cell) :
    Ends (fun results => ∀ result ∈ results, result.kind = .integer declared)
      (Fails ⟨.integer declared, elements⟩ (.transform f))
      (transformed (.integer declared) f elements) := by
  refine .mapM ?_
  rintro ⟨element, index⟩ present
  refine (Ends.lift (Always.trivial _)).bind fun number _ => .outcome ?_
  refine within_located (within_ofInt declared number) ?_
  rintro failure rfl
  exact .unfit f (List.mem_zipIdx' present).1

theorem ends_combineFrom {kind : Kind} (combine : Cell → Cell → m Cell) (first : Cell)
    {start : Cell} (known : start.kind = kind) (rest : List Cell) :
    Ends (fun combined => combined.kind = kind) (Fails ⟨kind, first :: rest⟩ (.reduce combine))
      (combineFrom kind combine 1 start rest) := by
  refine .foldlM ?_ known
  rintro held ⟨element, index⟩ present -
  refine (Ends.lift (Always.trivial _)).bind fun result _ => .outcome ?_
  refine within_located (within_checkCell kind result) ?_
  rintro failure ⟨found, differs, rfl⟩
  obtain ⟨later, inside, -⟩ := List.mem_zipIdx present
  refine .mixed combine later ?_ differs
  show index < (first :: rest).length
  rw [List.length_cons]
  omega

/-- A check of cells that are of the kind adds nothing. -/
theorem ends_checked {kind : Kind} {cells : List Cell} {fails : Failure → Prop}
    (uniform : ∀ cell ∈ cells, cell.kind = kind) :
    Ends (fun _ => True) fails (do
      kind.checkAll cells
      return cells : ExceptT Failure m (List Cell)) :=
  (Ends.success (Kind.checkAll_eq_ok_iff.mpr uniform)).bind fun _ _ => .pure trivial

theorem ends_transform {f : Int → m Int} (accepts : (transform f).Accepts array) :
    Ends (fun _ => True) (Fails array (.transform f)) ((Alteration.transform f).plan array) := by
  refine (Ends.success (accepts.requireSomeIntegers_eq rfl)).bind fun _ _ => ?_
  obtain ⟨-, ⟨declared, integral⟩, -⟩ := accepts
  obtain ⟨kind, elements⟩ := array
  obtain rfl : kind = .integer declared := integral
  exact (ends_transformed f elements).bind fun results uniform => ends_checked uniform

theorem ends_reduce {combine : Cell → Cell → m Cell} (accepts : (reduce combine).Accepts array) :
    Ends (fun _ => True) (Fails array (.reduce combine))
      ((Alteration.reduce combine).plan array) := by
  refine (Ends.success (accepts.requireSomeIntegers_eq rfl)).bind fun _ _ => ?_
  obtain ⟨-, ⟨declared, integral⟩, uniform⟩ := accepts
  obtain ⟨kind, elements⟩ := array
  obtain rfl : kind = .integer declared := integral
  match elements with
  | [] => exact .pure trivial
  | [only] => exact .pure trivial
  | first :: next :: rest =>
      -- the function's results are checked one by one, and the last is checked again when written
      have known : first.kind = .integer declared := uniform first List.mem_cons_self
      have copied : first.copy = .ok first := Cell.copy_of_constructible (known ▸ rfl)
      refine (Ends.success copied).bind fun start same => ?_
      obtain rfl := same
      refine (ends_combineFrom combine start known _).bind fun combined carried => ends_checked ?_
      exact List.forall_mem_singleton.mpr carried

theorem ends_accumulate (accepts : (accumulate : IntegerOperation m).Accepts array) :
    Ends (fun _ => True) (Fails array (.accumulate : IntegerOperation m))
      ((Alteration.accumulate : Alteration m).plan array) := by
  refine (Ends.success (accepts.requireSomeIntegers_eq rfl)).bind fun _ _ => ?_
  obtain ⟨-, ⟨declared, integral⟩, -⟩ := accepts
  obtain ⟨kind, elements⟩ := array
  obtain rfl : kind = .integer declared := integral
  cases sumWide? elements with
  | none => exact .outcome .unbounded
  | some sum =>
      refine (Ends.outcome (within_located (within_ofInt declared sum) ?_)).bind
        fun total carried => ends_checked (List.forall_mem_singleton.mpr carried)
      rintro failure rfl
      exact .unheld

/-- Splitting integers pushes every one of them to an array of its kind. -/
theorem ends_split {wanted : Cell → m Bool} (accepts : (split wanted).Accepts array) :
    Ends (fun parts => parts.1.kind = array.kind ∧ parts.2.kind = array.kind)
      (Fails array (.split wanted)) (array.split wanted) := by
  refine (Ends.success (accepts.requireSomeIntegers_eq rfl)).bind fun _ _ => ?_
  obtain ⟨-, ⟨declared, integral⟩, uniform⟩ := accepts
  have made : CellArray.empty array.kind = .ok ⟨array.kind, []⟩ := by
    rw [integral]
    rfl
  refine (Ends.success made).bind ?_
  rintro blank rfl
  refine .foldlM ?_ ⟨rfl, rfl⟩
  rintro ⟨matching, others⟩ element present ⟨here, there⟩
  have same : element.kind = array.kind := uniform element present
  have copied : element.copy = .ok element := by
    refine Cell.copy_of_constructible ?_
    rw [same, integral]
    rfl
  refine (Ends.lift (Always.trivial _)).bind fun isWanted _ => ?_
  refine (Ends.success copied).bind ?_
  rintro _ rfl
  cases isWanted with
  | true =>
      refine (Ends.success (CellArray.pushed_of_eq (same.trans here.symm))).bind ?_
      rintro _ rfl
      exact .pure ⟨here, there⟩
  | false =>
      refine (Ends.success (CellArray.pushed_of_eq (same.trans there.symm))).bind ?_
      rintro _ rfl
      exact .pure ⟨here, there⟩

/-- Failures that are passed on are failures of what has ended. -/
theorem always_of_ends {α : Type} {holds : α → Prop} {fails : Failure → Prop}
    {run : ExceptT Failure m α} (ends : Ends holds fails run)
    {told : Except Failure α → Except Failure Unit × Cell}
    (passed : ∀ value failure, (told (.ok value)).1 ≠ .error failure)
    (kept : ∀ failure, (told (.error failure)).1 = .error failure) :
    Always (fun result => ∀ failure, result.1 = .error failure → fails failure)
      (told <$> run.run) := by
  refine Always.map ends ?_
  intro outcome known failure failed
  cases outcome with
  | ok value => exact absurd failed (passed value failure)
  | error reached =>
      obtain rfl := Except.error.inj ((kept reached).symm.trans failed)
      exact known

theorem always_of_plan {holds : List Cell → Prop} {fails : Failure → Prop} (change : Alteration m)
    (ends : Ends holds fails (change.plan array)) :
    Always (fun result => ∀ failure, result.1 = .error failure → fails failure)
      (change.edit.apply array.toCell) := by
  have held : array.toCell.array? change.operation = .ok array := Cell.array?_eq_ok_iff.mpr rfl
  rw [change.apply_edit, held]
  dsimp only
  refine always_of_ends ends ?_ fun _ => rfl
  intro elements failure failed
  cases failed

/-- **A failure on an array that was accepted is one of the numbers or of the function.** -/
theorem always_fails (operation : IntegerOperation m) (accepts : operation.Accepts array) :
    Always (fun result => ∀ failure, result.1 = .error failure → operation.Fails array failure)
      (operation.run array.toCell) := by
  have held : ∀ name, array.toCell.array? name = .ok array :=
    fun _ => Cell.array?_eq_ok_iff.mpr rfl
  cases operation with
  | sort algorithm =>
      have checked : array.requireIntegers algorithm.operation = .ok () :=
        check_eq_ok_iff.mpr accepts
      have ends : Ends (fun _ => True) (Fails array (.sort algorithm : IntegerOperation m))
          ((Alteration.sort algorithm : Alteration m).plan array) :=
        (Ends.success checked).bind fun _ _ => .pure trivial
      exact always_of_plan (.sort algorithm) ends
  | transform f => exact always_of_plan (.transform f) (ends_transform accepts)
  | filter keep =>
      have ends : Ends (fun _ => True) (Fails array (.filter keep))
          ((Alteration.filter keep).plan array) := by
        refine (Ends.success (accepts.requireSomeIntegers_eq rfl)).bind fun _ _ => ?_
        exact .lift (Always.trivial _)
      exact always_of_plan (.filter keep) ends
  | reduce combine => exact always_of_plan (.reduce combine) (ends_reduce accepts)
  | accumulate => exact always_of_plan .accumulate (ends_accumulate accepts)
  | split wanted =>
      have ends : Ends (fun _ => True) (Fails array (.split wanted))
          (array.toCell.split wanted) := by
        refine (Ends.success (held "partition")).bind ?_
        rintro _ rfl
        exact (ends_split accepts).bind fun _ _ => .pure trivial
      rw [run]
      refine always_of_ends ends ?_ fun _ => rfl
      intro parts failure failed
      cases failed
  | visit visitor =>
      have ends : Ends (fun _ => True) (Fails array (.visit visitor))
          (array.toCell.visit visitor) := by
        refine (Ends.success (held "for_each")).bind ?_
        rintro _ rfl
        refine (Ends.success (accepts.requireSomeIntegers_eq rfl)).bind fun _ _ => ?_
        exact .lift (Always.trivial _)
      rw [run]
      refine always_of_ends ends ?_ fun _ => rfl
      intro value failure failed
      cases failed

end Accepted
end IntegerOperation

/-! ## Main statement -/

/-- **An operation on integers refuses a cell with the first thing that it lacks and nothing else
happens, or the cell lacks nothing**, and then a failure can only come from the numbers or from the
function of the caller. -/
theorem verdicts_come_first {m : Type → Type} [Monad m] [LawfulMonad m]
    (operation : IntegerOperation m) (cell : Cell) :
    (∃ failure, (∀ other, operation.Refuses cell other ↔ other = failure)
        ∧ operation.run cell = pure (.error failure, cell))
      ∨ ∃ array : CellArray, cell = array.toCell ∧ operation.Accepts array
        ∧ (∀ failure, ¬ operation.Refuses cell failure)
        ∧ Always (fun result =>
            ∀ failure, result.1 = .error failure → operation.Fails array failure)
          (operation.run cell) := by
  cases judged : operation.admitted cell with
  | error failure =>
      refine .inl ⟨failure, ?_, operation.run_of_refused judged⟩
      intro other
      rw [← IntegerOperation.admitted_eq_error_iff, judged, Except.error.injEq]
      exact eq_comm
  | ok array =>
      obtain ⟨rfl, accepts⟩ := IntegerOperation.admitted_eq_ok_iff.mp judged
      refine .inr ⟨array, rfl, accepts, ?_, operation.always_fails accepts⟩
      intro failure refuses
      rw [IntegerOperation.admitted_eq_error_iff.mpr refuses] at judged
      cases judged

/-- Of several strays the first is named, and the function that would have counted is not called. -/
theorem verdicts_come_first_counting :
    let counting : IntegerOperation (StateM Nat) := .transform fun number => do
      modify (· + 1)
      return number
    let mixed : Cell := .array (.integer (.sized .unsigned .eight))
      [.ofWord (.sized .unsigned .eight) 1, .bool true, .ofWord (.sized .signed .eight) 2]
    LawfulMonad (StateM Nat)
      ∧ (counting.run mixed).run 0
        = ((.error ⟨.invalidOperation "transform" .bool,
            some { operation := "transform", index := some 1 }⟩, mixed), 0) := by
  intro counting mixed
  refine ⟨inferInstance, ?_⟩
  have plain : ∀ element ∈ [Cell.ofWord (.sized .unsigned .eight) 1],
      element.kind = .integer (.sized .unsigned .eight) := List.forall_mem_singleton.mpr rfl
  have other : ∀ integer : IntKind, (Cell.bool true).kind ≠ .integer integer := nofun
  have refuses : counting.Refuses mixed ⟨.invalidOperation "transform" .bool,
      some { operation := "transform", index := some 1 }⟩ := .meaningless plain other
  rcases verdicts_come_first counting mixed with ⟨failure, decided, refused⟩ | ⟨_, _, _, none, _⟩
  · rw [refused, ← (decided _).mp refuses]
    rfl
  · exact absurd refuses (none _)

/-- Where strings were declared and there are none, there is nothing to transform, and sorting still
looks at what was declared. -/
example :
    (((Cell.transform (m := Id) pure).applyPure (.array .string [])).1,
      ((Cell.sort .merge).applyPure (.array .string [])).1)
      = (.error (.ofCause (.nullInput "transform")),
        .error (.ofCause (.invalidOperation "sort_merge" .string))) := by
  rfl

end TaggedCells

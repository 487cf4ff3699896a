import TaggedCells.Proofs.CellArray.Verdicts
import TaggedCells.Proofs.Search.Endings
import TaggedCells.Proofs.Session.Direct
import TaggedCells.Proofs.Text.Lines

/-!
# Failures on one line

The message of a failure is made of fixed words, names of kinds, numbers, and in some cases the name
of the operation that gave up. So it is on one line if that name is (`Cause.oneLine_message`). Every
function that a session calls names its operation in one word, and passes on only failures of
functions that do the same. Therefore no operation of a session fails with anything else than a
failure on one line (`Operation.always_worded`).
-/

set_option autoImplicit false

namespace TaggedCells

open Text (OneLine)
open Randomness (Generator)

/-! ## Messages -/

/-- The operation that a cause names. -/
def Cause.named? : Cause → Option String
  | .nullInput operation | .invalidOperation operation _ | .unsupported operation _ =>
      some operation
  | _ => none

/-- **The message of a cause is on one line if the operation that it names is.** -/
theorem Cause.oneLine_message {cause : Cause}
    (named : ∀ operation, cause.named? = some operation → OneLine operation) :
    OneLine cause.message := by
  cases cause with
  | nullInput operation =>
      have words : OneLine "null input to " := by decide
      exact words.append (named operation rfl)
  | typeMismatch expected actual =>
      have words : OneLine "type mismatch: expected " := by decide
      have between : OneLine ", got " := by decide
      exact ((words.append expected.oneLine_name).append between).append actual.oneLine_name
  | badRange index length =>
      have words : OneLine "index out of range: " := by decide
      have between : OneLine " (length " := by decide
      have closing : OneLine ")" := by decide
      exact (((words.append (Text.oneLine_repr index)).append between).append
        (Text.oneLine_repr length)).append closing
  | overflow kind =>
      have words : OneLine "value out of range for " := by decide
      exact words.append kind.oneLine_name
  | allocation =>
      have words : OneLine Cause.allocation.message := by decide +kernel
      exact words
  | notFound =>
      have words : OneLine "element not found" := by decide
      exact words
  | invalidOperation operation kind =>
      have words : OneLine " is not defined for " := by decide
      exact ((named operation rfl).append words).append kind.oneLine_name
  | unsupported operation kind =>
      have words : OneLine " does not support " := by decide
      exact ((named operation rfl).append words).append kind.oneLine_name
  | unknown kind =>
      have words : OneLine "unknown kind: " := by decide
      exact words.append kind.oneLine_name

/-- The message of the failure is on one line. -/
def Failure.OneLine (failure : Failure) : Prop := Text.OneLine failure.message

namespace Failure.OneLine

variable {cause : Cause} {context : Option Context}

theorem of_unnamed (unnamed : cause.named? = none) : Failure.OneLine ⟨cause, context⟩ := by
  refine Cause.oneLine_message fun operation named => ?_
  rw [unnamed] at named
  cases named

theorem of_named {operation : String} (named : cause.named? = some operation)
    (line : Text.OneLine operation) : Failure.OneLine ⟨cause, context⟩ := by
  refine Cause.oneLine_message fun other namedToo => ?_
  rw [named] at namedToo
  exact Option.some.inj namedToo ▸ line

end Failure.OneLine

/-- The outcome is worded on one line if it is a failure. -/
def Worded {α : Type} (outcome : Except Failure α) : Prop :=
  Within (fun _ => True) Failure.OneLine outcome

/-- The outcome that an edit comes to is worded on one line if it is a failure. -/
def WordedResult {α : Type} (result : Except Failure α × Cell) : Prop := Worded result.1

theorem worded_of_error {α : Type} {outcome : Except Failure α}
    (failed : ∀ failure, outcome = .error failure → failure.OneLine) : Worded outcome := by
  cases outcome with
  | ok value => exact .intro
  | error failure => exact failed failure rfl

theorem worded_ok {α : Type} (value : α) : Worded (.ok value) := .intro

theorem worded_error {α : Type} {failure : Failure} (line : failure.OneLine) :
    Worded (.error failure : Except Failure α) := line

/-! ## Cells -/

namespace Cell

theorem worded_copy (cell : Cell) : Worded cell.copy := by
  refine worded_of_error fun failure failed => ?_
  obtain ⟨path, cause, ⟨⟨inner, -, refuses⟩, -⟩, rfl⟩ := exists_firstRefusal failed
  cases refuses with
  | invalid => exact .of_named rfl (by decide)
  | unknown => exact .of_unnamed rfl

theorem worded_create (kind : Kind) (source : Cell) : Worded (create kind source) := by
  unfold create
  split
  · exact source.worded_copy
  · exact worded_error (.of_unnamed rfl)

theorem worded_createArray (kind : Kind) (count : Nat) (sources : List Cell) :
    Worded (createArray kind count sources) := by
  by_cases counted : count = sources.length
  · subst counted
    cases storable : kind.isConstructible with
    | false =>
        rw [createArray_of_unstorable storable]
        exact worded_error (.of_unnamed rfl)
    | true =>
        rw [createArray_eq_report storable]
        cases strayFrom kind 0 sources with
        | none => exact worded_ok _
        | some stray => exact worded_error (.of_unnamed rfl)
  · unfold createArray
    rw [if_pos counted]
    exact worded_error (.of_unnamed rfl)

theorem worded_move (cell : Cell) : WordedResult (move.applyPure cell) := by
  cases cell with
  | invalid => exact worded_error (.of_named rfl (by decide))
  | _ => exact worded_ok _

theorem worded_erase (cell : Cell) : WordedResult (erase.applyPure cell) := by
  cases cell with
  | invalid => exact worded_error (.of_named rfl (by decide))
  | _ => exact worded_ok _

/-- A comparison that fails does so under its own name, or names no operation. -/
theorem worded_order (left right : Cell) : Worded (left.order right) := by
  by_cases erased : left.kind = .invalid ∨ right.kind = .invalid
  · rw [order_of_invalid erased]
    exact worded_error (.of_named rfl (by decide))
  obtain ⟨leftPresent, rightPresent⟩ := not_or.mp erased
  by_cases leftUnknown : left.kind = .unknown
  · rw [order_of_unknown_left leftUnknown rightPresent]
    exact worded_error (.of_unnamed rfl)
  by_cases rightUnknown : right.kind = .unknown
  · rw [order_of_unknown_right leftPresent rightUnknown]
    exact worded_error (.of_unnamed rfl)
  by_cases same : left.kind = right.kind
  · by_cases constructible : left.kind.isConstructible = true
    · obtain ⟨verdict, answered⟩ := (ordersTotally constructible).compares left right rfl same.symm
      rw [answered]
      exact worded_ok verdict
    · have compound : left.kind.isCompound = true := by
        cases kind : left.kind with
        | array | map => rfl
        | invalid => exact absurd kind leftPresent
        | unknown => exact absurd kind leftUnknown
        | _ => exact absurd (congrArg Kind.isConstructible kind) constructible
      rw [order_of_compound compound same]
      exact worded_error (.of_named rfl (by decide))
  · rw [order_of_kind_ne ⟨leftPresent, leftUnknown⟩ ⟨rightPresent, rightUnknown⟩ same]
    exact worded_error (.of_unnamed rfl)

theorem Arrayless.oneLine {operation : String} {cell : Cell} {failure : Failure}
    (lacking : cell.Arrayless operation failure) (line : OneLine operation) : failure.OneLine := by
  cases lacking with
  | erased => exact .of_named rfl line
  | other => exact .of_named rfl line

end Cell

/-! ## Searches -/

namespace Search

variable {elements : List Cell} {key : Cell} {failure : Failure}

/-- Some cell cannot be compared with the key, and the comparison fails with this failure. -/
def FailsToCompare (key : Cell) (failure : Failure) : Prop :=
  ∃ element : Cell, element.order key = .error failure

theorem failsToCompare_of_equal {element : Cell} (failed : element.equal key = .error failure) :
    FailsToCompare key failure := by
  refine ⟨element, ?_⟩
  cases answered : element.order key with
  | ok verdict =>
      rw [equal_of_order answered] at failed
      cases failed
  | error other =>
      rw [Cell.equal, answered] at failed
      exact congrArg Except.error (Except.error.inj failed)

theorem failsToCompare_of_firstEqual {placed : List (Cell × Nat)}
    (failed : firstEqual key placed = .error failure) : FailsToCompare key failure := by
  induction placed with
  | nil => cases failed
  | cons entry rest ih =>
      cases answered : entry.1.equal key with
      | error other =>
          simp only [firstEqual, List.findM?, answered] at failed
          obtain rfl := Except.error.inj failed
          exact failsToCompare_of_equal answered
      | ok equal =>
          cases equal with
          | true =>
              rw [firstEqual_cons rest answered] at failed
              cases failed
          | false =>
              have unequal : ∀ other ∈ [entry], other.1.equal key = .ok false :=
                List.forall_mem_singleton.mpr answered
              exact ih ((firstEqual_append unequal).symm.trans failed)

/-- A loop of halving that ends in a failure ends where a comparison fails. -/
theorem failsToCompare_of_lands {judge : Ordering → Heading} {α : Type} {told : Landing → α}
    {landing : Except Failure Landing} (lands : Lands elements key judge landing)
    (failed : told <$> landing = .error failure) : FailsToCompare key failure := by
  cases lands with
  | failed _ refused =>
      obtain rfl := Except.error.inj failed
      exact ⟨_, refused⟩
  | hit | gap => cases failed

theorem failsToCompare_of_byHalving (failed : byHalving elements key = .error failure) :
    FailsToCompare key failure := by
  obtain ⟨landing, -, lands, reached⟩ := exists_landing_byHalving elements key
  exact failsToCompare_of_lands lands (reached.symm.trans failed)

theorem failsToCompare_of_bound {before : Ordering → Bool}
    (failed : bound elements key before = .error failure) : FailsToCompare key failure := by
  obtain ⟨landing, -, lands, reached⟩ := exists_landing_bound elements key before
  exact failsToCompare_of_lands lands (reached.symm.trans failed)

theorem failsToCompare_of_confirm {position : Nat}
    (failed : confirm elements key position = .error failure) : FailsToCompare key failure := by
  unfold confirm at failed
  cases holds : elements[position]? with
  | none =>
      rw [holds] at failed
      cases failed
  | some element =>
      rw [holds] at failed
      rcases bind_eq_error_iff.mp failed with refused | ⟨_, _, returned⟩
      · exact failsToCompare_of_equal refused
      · cases returned

/-- **Looking for a key fails only where a comparison with the key does.** -/
theorem failsToCompare_of_look {search : Search}
    (failed : search.look elements key = .error failure) : FailsToCompare key failure := by
  cases search with
  | linear | linearFirst | linearLast => exact failsToCompare_of_firstEqual failed
  | binary => exact failsToCompare_of_byHalving failed
  | binaryFirst =>
      rcases bind_eq_error_iff.mp failed with unbounded | ⟨position, -, unconfirmed⟩
      · exact failsToCompare_of_bound unbounded
      · exact failsToCompare_of_confirm unconfirmed
  | binaryLast =>
      rcases bind_eq_error_iff.mp failed with unbounded | ⟨position, -, unconfirmed⟩
      · exact failsToCompare_of_bound unbounded
      · cases position with
        | zero => cases unconfirmed
        | succ position => exact failsToCompare_of_confirm unconfirmed

theorem oneLine_operation (search : Search) : OneLine search.operation := by
  cases search <;> decide

theorem worded_find (search : Search) (cell key : Cell) : Worded (search.find cell key) := by
  refine worded_of_error fun failure failed => ?_
  rw [search.find_eq] at failed
  rcases bind_eq_error_iff.mp failed with refused | ⟨array, -, looked⟩
  · cases Search.admitted_eq_error_iff.mp refused with
    | arrayless _ lacking => exact lacking.oneLine search.oneLine_operation
    | erased array => exact .of_named rfl search.oneLine_operation
    | stray | apart => exact .of_unnamed rfl
  · rcases bind_eq_error_iff.mp looked with uncompared | ⟨found, -, ended⟩
    · obtain ⟨element, refused⟩ := failsToCompare_of_look uncompared
      have worded := element.worded_order key
      rw [refused] at worded
      exact worded
    · cases found with
      | some position => cases ended
      | none =>
          obtain rfl := Except.error.inj ended
          exact .of_unnamed rfl

end Search

/-! ## Operations on arrays -/

theorem SortAlgorithm.oneLine_operation (algorithm : SortAlgorithm) :
    OneLine algorithm.operation := by
  cases algorithm <;> decide

namespace IntegerOperation

variable {m : Type → Type} (operation : IntegerOperation m)

theorem oneLine_name : OneLine operation.name := by
  cases operation with
  | sort algorithm => exact algorithm.oneLine_operation
  | _ =>
      rw [name]
      decide

variable {operation} {cell : Cell} {failure : Failure}

theorem Refuses.oneLine (refuses : operation.Refuses cell failure) : failure.OneLine := by
  cases refuses with
  | arrayless lacking => exact lacking.oneLine operation.oneLine_name
  | empty | undeclared | meaningless => exact .of_named rfl operation.oneLine_name
  | mismatch => exact .of_unnamed rfl

theorem Fails.oneLine {array : CellArray} (fails : operation.Fails array failure) :
    failure.OneLine := by
  cases fails <;> exact .of_unnamed rfl

variable [Monad m] [LawfulMonad m] (operation cell)

theorem always_worded :
    Always WordedResult (operation.run cell) := by
  rcases verdicts_come_first operation cell with
    ⟨failure, decided, refused⟩ | ⟨array, -, -, -, ends⟩
  · rw [refused]
    exact .pure (worded_error ((decided failure).mpr rfl).oneLine)
  · exact ends.imp fun result known => worded_of_error fun failure failed =>
      (known failure failed).oneLine

end IntegerOperation

section Arrays

variable {m : Type → Type} [Monad m] [LawfulMonad m] {α : Type}

theorem Ends.worded {holds : α → Prop} {fails : Failure → Prop} {run : ExceptT Failure m α}
    (ends : Ends holds fails run) (lines : ∀ failure, fails failure → failure.OneLine) :
    Ends (fun _ => True) Failure.OneLine run := by
  refine Always.imp ends fun outcome known => ?_
  cases outcome with
  | ok value => exact worded_ok value
  | error failure => exact worded_error (lines failure known)

namespace Cell

theorem worded_split (cell : Cell) (wanted : Cell → m Bool) :
    Ends (fun _ => True) Failure.OneLine (cell.split wanted) := by
  cases judged : (IntegerOperation.split wanted).admitted cell with
  | error failure =>
      rw [IntegerOperation.split_of_refused judged]
      exact .outcome (worded_error (IntegerOperation.admitted_eq_error_iff.mp judged).oneLine)
  | ok array =>
      obtain ⟨rfl, accepts⟩ := IntegerOperation.admitted_eq_ok_iff.mp judged
      refine (Ends.success (Cell.array?_eq_ok_iff.mpr rfl)).bind ?_
      rintro _ rfl
      have parted := (IntegerOperation.ends_split accepts).worded fun _ fails => fails.oneLine
      exact parted.bind fun _ _ => .pure trivial

theorem worded_visit (cell : Cell) (visitor : Cell → m Unit) :
    Ends (fun _ => True) Failure.OneLine (cell.visit visitor) := by
  cases judged : (IntegerOperation.visit visitor).admitted cell with
  | error failure =>
      rw [IntegerOperation.visit_of_refused judged]
      exact .outcome (worded_error (IntegerOperation.admitted_eq_error_iff.mp judged).oneLine)
  | ok array =>
      obtain ⟨rfl, accepts⟩ := IntegerOperation.admitted_eq_ok_iff.mp judged
      refine (Ends.success (Cell.array?_eq_ok_iff.mpr rfl)).bind ?_
      rintro _ rfl
      refine (Ends.success (accepts.requireSomeIntegers_eq rfl)).bind fun _ _ => ?_
      exact .lift (Always.trivial _)

end Cell

theorem CellArray.worded_requireHomogeneous (array : CellArray) (operation : String) :
    Worded (array.requireHomogeneous operation) := by
  refine worded_of_error fun failure failed => ?_
  obtain ⟨before, stray, after, -, -, -, rfl⟩ := requireHomogeneous_eq_error_iff.mp failed
  exact .of_unnamed rfl

/-- An operation on arrays is worded on one line if its name and its plans are. -/
theorem Alteration.always_worded (change : Alteration m) (line : OneLine change.operation)
    (plans : ∀ array, Ends (fun _ => True) Failure.OneLine (change.plan array)) (cell : Cell) :
    Always WordedResult (change.edit.apply cell) := by
  rw [change.apply_edit]
  cases held : cell.array? change.operation with
  | error failure =>
      exact .pure (worded_error ((Cell.array?_eq_error_iff.mp held).oneLine line))
  | ok array =>
      refine Always.map (plans array) fun outcome known => ?_
      cases outcome with
      | ok elements => exact worded_ok ()
      | error failure => exact worded_error known

theorem Cell.always_worded_reverse (cell : Cell) :
    Always WordedResult (Cell.reverse.apply cell : m _) := by
  have line : OneLine "reverse" := by decide
  refine Alteration.always_worded .reverse line (fun array => ?_) cell
  exact (Ends.outcome (array.worded_requireHomogeneous "reverse")).bind fun _ _ => .pure trivial

theorem Cell.always_worded_shuffle (choose : (greatest : Nat) → m (Fin (greatest + 1)))
    (cell : Cell) : Always WordedResult ((Cell.shuffle choose).apply cell) := by
  have line : OneLine "shuffle" := by decide
  refine Alteration.always_worded (.shuffle choose) line (fun array => ?_) cell
  exact (Ends.outcome (array.worded_requireHomogeneous "shuffle")).bind fun _ _ =>
    .lift (Always.trivial _)

end Arrays

/-! ## Operations of a session -/

namespace Operation

variable {m : Type → Type} {α : Type} {cell : Cell}

theorem worded_looked {reply : α → Reply} {outcome : Except Failure α} (worded : Worded outcome) :
    WordedResult (looked cell reply outcome) := by
  cases outcome with
  | ok value => exact worded_ok (reply value)
  | error failure => exact worded

theorem worded_worked {reply : α → Cell → Reply} {result : Except Failure α × Cell}
    (worded : WordedResult result) : WordedResult (worked reply result) := by
  obtain ⟨outcome, after⟩ := result
  cases outcome with
  | ok value => exact worded_ok (reply value after)
  | error failure => exact worded

variable [Monad m] [LawfulMonad m]

/-- **No operation fails with anything else than a failure on one line.** -/
theorem always_worded (algorithm : SortAlgorithm) (operation : Operation m) (cell : Cell)
    (generator : Generator) :
    Always (fun performed => WordedResult performed.1)
      ((operation.direct algorithm cell).run generator) := by
  have alone : ∀ {performed : Except Failure Reply × Cell}, WordedResult performed →
      Always (fun result => WordedResult result.1) (pure (performed, generator) : m _) :=
    fun worded => .pure worded
  cases operation with
  | create kind source => exact alone (worded_looked (Cell.worded_create kind source))
  | createZero kind => exact alone (worded_ok _)
  | createArray kind count sources =>
      exact alone (worded_looked (Cell.worded_createArray kind count sources))
  | copy => exact alone (worded_looked cell.worded_copy)
  | move => exact alone (worded_worked cell.worded_move)
  | erase => exact alone (worded_worked cell.worded_erase)
  | sort =>
      have worded := (IntegerOperation.always_worded (.sort algorithm) cell).from_id
      exact alone (worded_worked worded)
  | sortWith chosen =>
      have worded := (IntegerOperation.always_worded (.sort chosen) cell).from_id
      exact alone (worded_worked worded)
  | searchLinear key => exact alone (worded_looked (Search.linear.worded_find cell key))
  | searchBinary key => exact alone (worded_looked (Search.binary.worded_find cell key))
  | transform f =>
      exact (IntegerOperation.always_worded (.transform f) cell).beside
        (fun _ => worded_worked) generator
  | filter keep =>
      exact (IntegerOperation.always_worded (.filter keep) cell).beside
        (fun _ => worded_worked) generator
  | reduce combine =>
      exact (IntegerOperation.always_worded (.reduce combine) cell).beside
        (fun _ => worded_worked) generator
  | accumulate =>
      have worded := (IntegerOperation.always_worded .accumulate cell).from_id
      exact alone (worded_worked worded)
  | split wanted =>
      exact Always.beside (cell.worded_split wanted) (fun _ => worded_looked) generator
  | visit visitor =>
      exact Always.beside (cell.worded_visit visitor) (fun _ => worded_looked) generator
  | reverse => exact alone (worded_worked cell.always_worded_reverse.from_id)
  | shuffle =>
      have shuffled := cell.always_worded_shuffle (chooseFrom (m := StateM Generator) Generator)
      unfold direct
      rw [StateT.run_map, StateT.run_modifyGet, map_pure]
      exact .pure (worded_worked (shuffled.from_state generator))
  | compare other => exact alone (worded_looked (cell.worded_order other))

end Operation

end TaggedCells

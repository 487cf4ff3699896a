import TaggedCells.Cell.Life
import TaggedCells.CellArray.Builder
import TaggedCells.CellArray.Bulk
import TaggedCells.Proofs.Cell.Copying
import TaggedCells.Proofs.CellArray.Precondition

/-!
# Ways of building an array

An array of given cells can be made at once, through a builder, cell by cell, or out of copies, and
the cells can take the place of those in an array that exists. These ways look at the cells at
different moments: the first before anything is made, the builder when all have been collected,
pushing when a cell arrives, and copying between one copy and the next.

All of them accept the same cells. When they refuse, they blame the first stray cell at the same
position with the same two kinds, or the declared kind itself (`Verdict`); only the operation that a
failure names tells them apart (`ways_of_building_agree`).
-/

set_option autoImplicit false

namespace TaggedCells

/-! ## Outcomes up to the name of the operation -/

/-- The failure without the name of an operation in its context. -/
def Failure.unnamed (failure : Failure) : Failure :=
  { failure with context := failure.context.map fun context => { context with operation := none } }

/-- The outcome, without the name of an operation if it is a failure. -/
def unnamed {α : Type} (outcome : Except Failure α) : Except Failure α :=
  outcome.mapError Failure.unnamed

/-- The outcome of making something from cells of a kind that an operation has looked at for a
stray one. -/
def Kind.report {α : Type} (kind : Kind) (operation : Option String) (made : α) :
    Option (Nat × Kind) → Except Failure α
  | none => .ok made
  | some (index, found) =>
      .error ⟨.typeMismatch kind found, some { operation := operation, index := some index }⟩

theorem unnamed_report {α : Type} (kind : Kind) (operation : Option String) (made : α)
    (stray : Option (Nat × Kind)) :
    unnamed (kind.report operation made stray) = kind.report none made stray := by
  cases stray <;> rfl

theorem map_report {α β : Type} (f : α → β) (kind : Kind) (operation : Option String) (made : α)
    (stray : Option (Nat × Kind)) :
    (kind.report operation made stray).map f = kind.report operation (f made) stray := by
  cases stray <;> rfl

/-- What comes of building an array of a kind from cells, up to the name of the operation. -/
inductive Verdict (kind : Kind) (cells : List Cell) : Except Failure CellArray → Prop where
  | accepted (storable : kind.isConstructible = true) (uniform : ∀ cell ∈ cells, cell.kind = kind) :
      Verdict kind cells (.ok ⟨kind, cells⟩)
  /-- The kind itself is refused, and no cell is looked at. -/
  | refused (unstorable : kind.isConstructible = false) :
      Verdict kind cells (.error ⟨.typeMismatch .array kind, some {}⟩)
  /-- The first cell of another kind is blamed. -/
  | stray (storable : kind.isConstructible = true) (before : List Cell) (cell : Cell)
      (after : List Cell) (parted : cells = before ++ cell :: after)
      (uniform : ∀ earlier ∈ before, earlier.kind = kind) (apart : cell.kind ≠ kind) :
      Verdict kind cells
        (.error ⟨.typeMismatch kind cell.kind, some { index := some before.length }⟩)

/-! ## Each way -/

/-- What a builder is given at a time. -/
inductive Delivery where
  | one (cell : Cell)
  | several (cells : List Cell)

/-- The cells of a delivery, in order. -/
def Delivery.cells : Delivery → List Cell
  | .one cell => [cell]
  | .several cells => cells

/-- The builder after a delivery. -/
def ArrayBuilder.receive (builder : ArrayBuilder) : Delivery → ArrayBuilder
  | .one cell => builder.push cell
  | .several cells => builder.extend cells

namespace CellArray

/-- The array of a kind to which the cells are pushed one after the other, until one is refused. -/
def ofPushes (kind : Kind) (cells : List Cell) : Except Failure CellArray := do
  cells.foldlM pushed (← empty kind)

/-- The array with other elements in place of all there are, as an operation that returns it. -/
def replaced (array : CellArray) (cells : List Cell) : Except Failure CellArray :=
  let (outcome, after) := (replace (m := Id) cells).applyPure array
  outcome.map fun _ => after

end CellArray

section Ways

variable {kind : Kind} {cells : List Cell}

theorem Kind.checkStorable_eq_ok_iff :
    kind.checkStorable = .ok () ↔ kind.isConstructible = true := by
  unfold checkStorable
  cases kind.isConstructible <;> simp [Cause.raiseIn]

theorem Kind.checkAll_eq_report :
    kind.checkAll cells = kind.report none () (strayFrom kind 0 cells) := by
  unfold checkAll
  cases strayFrom kind 0 cells <;> rfl

namespace CellArray

theorem withCapacity_eq_ok {capacity : Nat} {array : CellArray}
    (made : withCapacity kind capacity = .ok array) :
    kind.isConstructible = true ∧ array = ⟨kind, []⟩ := by
  unfold withCapacity at made
  obtain ⟨_, accepted, reserved⟩ := bind_eq_ok_iff.mp made
  split at reserved
  case isTrue => cases reserved
  case isFalse =>
      exact ⟨Kind.checkStorable_eq_ok_iff.mp accepted, (Except.ok.inj reserved).symm⟩

theorem ofList_eq_ok {array : CellArray} (made : ofList kind cells = .ok array) :
    kind.isConstructible = true ∧ (∀ cell ∈ cells, cell.kind = kind) ∧ array = ⟨kind, cells⟩ := by
  unfold ofList at made
  obtain ⟨_, accepted, further⟩ := bind_eq_ok_iff.mp made
  obtain ⟨_, uniform, built⟩ := bind_eq_ok_iff.mp further
  exact ⟨Kind.checkStorable_eq_ok_iff.mp accepted, Kind.checkAll_eq_ok_iff.mp uniform,
    (Except.ok.inj built).symm⟩

theorem ofList_eq_report (storable : kind.isConstructible = true) :
    ofList kind cells = kind.report none ⟨kind, cells⟩ (strayFrom kind 0 cells) := by
  unfold ofList Kind.checkStorable
  rw [if_pos storable, Kind.checkAll_eq_report]
  cases strayFrom kind 0 cells <;> rfl

theorem replaced_eq_report {array : CellArray} (declared : array.kind = kind) :
    array.replaced cells = kind.report none ⟨kind, cells⟩ (strayFrom kind 0 cells) := by
  subst declared
  unfold replaced
  rw [Edit.applyPure_of_apply (apply_replace cells array), Kind.checkAll_eq_report]
  cases strayFrom array.kind 0 cells <;> rfl

theorem pushed_of_eq {array : CellArray} {cell : Cell} (same : cell.kind = array.kind) :
    array.pushed cell = .ok (array.withElements (array.elements ++ [cell])) := by
  unfold pushed
  rw [Edit.applyPure_of_apply (apply_push cell array), Kind.checkCell, if_pos same]
  rfl

theorem pushed_of_ne {array : CellArray} {cell : Cell} (apart : cell.kind ≠ array.kind) :
    array.pushed cell
      = (Cause.typeMismatch array.kind cell.kind).raiseIn
          { operation := "push", index := some array.length } := by
  unfold pushed
  rw [Edit.applyPure_of_apply (apply_push cell array), Kind.checkCell, if_neg apart]
  rfl

theorem foldlM_pushed_eq_report (held : List Cell) :
    cells.foldlM pushed ⟨kind, held⟩
      = kind.report "push" ⟨kind, held ++ cells⟩ (strayFrom kind held.length cells) := by
  induction cells generalizing held with
  | nil =>
      rw [List.append_nil]
      rfl
  | cons cell rest ih =>
      rw [List.foldlM_cons]
      by_cases same : cell.kind = kind
      · rw [pushed_of_eq same, strayFrom, if_pos same]
        show rest.foldlM pushed ⟨kind, held ++ [cell]⟩ = _
        rw [ih, List.append_assoc, List.length_append]
        rfl
      · rw [pushed_of_ne same, strayFrom, if_neg same]
        rfl

theorem ofPushes_eq_report (storable : kind.isConstructible = true) :
    ofPushes kind cells = kind.report "push" ⟨kind, cells⟩ (strayFrom kind 0 cells) := by
  have blank : empty kind = .ok ⟨kind, []⟩ := by
    unfold empty withCapacity Kind.checkStorable
    rw [if_pos storable]
    rfl
  unfold ofPushes
  rw [blank]
  exact foldlM_pushed_eq_report []

end CellArray

theorem ArrayBuilder.foldl_receive (deliveries : List Delivery) (collected : List Cell) :
    deliveries.foldl ArrayBuilder.receive ⟨kind, collected⟩
      = ⟨kind, collected ++ deliveries.flatMap Delivery.cells⟩ := by
  induction deliveries generalizing collected with
  | nil => rw [List.foldl_nil, List.flatMap_nil, List.append_nil]
  | cons delivery rest ih =>
      rw [List.foldl_cons, List.flatMap_cons, ← List.append_assoc]
      cases delivery <;> exact ih _

theorem mapM_zipIdx_eq_report (storable : kind.isConstructible = true) (first : Nat) :
    ((cells.zipIdx first).mapM fun (source, index) => do
        let accepted ← located (kind.checkCell source)
          { operation := "create_array", index := index }
        accepted.copy)
      = kind.report "create_array" cells (strayFrom kind first cells) := by
  induction cells generalizing first with
  | nil => rfl
  | cons cell rest ih =>
      rw [List.zipIdx_cons, List.mapM_cons]
      by_cases same : cell.kind = kind
      · have copied : cell.copy = .ok cell := Cell.copy_of_constructible (same ▸ storable)
        rw [strayFrom, if_pos same, ih (first + 1)]
        dsimp only
        rw [Kind.checkCell, if_pos same]
        show (cell.copy >>= _) = _
        rw [copied]
        cases strayFrom kind (first + 1) rest <;> rfl
      · rw [strayFrom, if_neg same]
        dsimp only
        rw [Kind.checkCell, if_neg same]
        rfl

theorem createArray_eq_report (storable : kind.isConstructible = true) :
    Cell.createArray kind cells.length cells
      = kind.report "create_array" (.array kind cells) (strayFrom kind 0 cells) := by
  unfold Cell.createArray
  rw [if_neg (not_not_intro rfl), if_neg (by rw [storable]; decide), mapM_zipIdx_eq_report storable]
  cases strayFrom kind 0 cells <;> rfl

theorem createArray_of_unstorable (unstorable : kind.isConstructible = false) :
    Cell.createArray kind cells.length cells
      = (Cause.typeMismatch .array kind).raiseIn { operation := "create_array" } := by
  unfold Cell.createArray
  rw [if_neg (not_not_intro rfl), if_pos (by rw [unstorable]; decide)]
  rfl

theorem createArray_eq_ok {count : Nat} {made : Cell}
    (success : Cell.createArray kind count cells = .ok made) :
    kind.isConstructible = true ∧ (∀ cell ∈ cells, cell.kind = kind)
      ∧ made = CellArray.toCell ⟨kind, cells⟩ := by
  by_cases counted : count = cells.length
  · subst counted
    cases storable : kind.isConstructible with
    | false =>
        rw [createArray_of_unstorable storable] at success
        cases success
    | true =>
        rw [createArray_eq_report storable] at success
        cases found : strayFrom kind 0 cells with
        | none =>
            rw [found] at success
            exact ⟨rfl, (strayFrom_eq_none_iff kind 0 cells).mp found,
              (Except.ok.inj success).symm⟩
        | some stray =>
            rw [found] at success
            cases success
  · unfold Cell.createArray at success
    rw [if_pos counted] at success
    cases success

/-! ## Main statement -/

/-- Every way of building an array of the kind from the cells ends as the verdict says. -/
structure BuildsAlike (kind : Kind) (cells : List Cell) (verdict : Except Failure CellArray) :
    Prop where
  reached : Verdict kind cells verdict
  succeeds : (∃ array, verdict = .ok array)
    ↔ kind.isConstructible = true ∧ ∀ cell ∈ cells, cell.kind = kind
  listed : unnamed (CellArray.ofList kind cells) = verdict
  /-- It does not matter how the cells are delivered to a builder. -/
  delivered : ∀ deliveries : List Delivery, deliveries.flatMap Delivery.cells = cells →
    unnamed (deliveries.foldl ArrayBuilder.receive ⟨kind, []⟩).build = verdict
  pushed : unnamed (CellArray.ofPushes kind cells) = verdict
  created : unnamed (Cell.createArray kind cells.length cells) = verdict.map CellArray.toCell
  /-- The cells that the array holds until then do not matter, stray ones or not. -/
  replaced : ∀ array : CellArray, array.kind = kind → array.kind.isConstructible = true →
    unnamed (array.replaced cells) = verdict

/-- The cells are looked at when the kind is one that an array can declare. -/
theorem buildsAlike_of_storable (storable : kind.isConstructible = true) :
    BuildsAlike kind cells (kind.report none ⟨kind, cells⟩ (strayFrom kind 0 cells)) where
  reached := by
    cases found : strayFrom kind 0 cells with
    | none => exact .accepted storable ((strayFrom_eq_none_iff kind 0 cells).mp found)
    | some stray =>
        obtain ⟨index, other⟩ := stray
        obtain ⟨before, cell, after, parted, uniform, apart, rfl, rfl⟩ :=
          exists_of_strayFrom_eq_some found
        rw [Nat.zero_add]
        exact .stray storable before cell after parted uniform apart
  succeeds := by
    rw [← strayFrom_eq_none_iff kind 0 cells]
    cases strayFrom kind 0 cells with
    | none => exact ⟨fun _ => ⟨storable, rfl⟩, fun _ => ⟨_, rfl⟩⟩
    | some stray =>
        constructor
        · rintro ⟨_, impossible⟩
          cases impossible
        · rintro ⟨_, impossible⟩
          cases impossible
  listed := by rw [CellArray.ofList_eq_report storable, unnamed_report]
  delivered := by
    rintro deliveries rfl
    rw [ArrayBuilder.foldl_receive, List.nil_append, ArrayBuilder.build,
      CellArray.ofList_eq_report storable, unnamed_report]
  pushed := by rw [CellArray.ofPushes_eq_report storable, unnamed_report]
  created := by rw [createArray_eq_report storable, unnamed_report, map_report]; rfl
  replaced := by
    intro array declared _
    rw [CellArray.replaced_eq_report declared, unnamed_report]

/-- Whatever the cells, the kind is refused when it is none that an array can declare. -/
theorem buildsAlike_of_unstorable (unstorable : kind.isConstructible = false) :
    BuildsAlike kind cells (.error ⟨.typeMismatch .array kind, some {}⟩) := by
  have refused : kind.checkStorable
      = (Cause.typeMismatch .array kind).raiseIn { operation := "array element kind" } :=
    if_neg (Bool.eq_false_iff.mp unstorable)
  have listed : ∀ elements, CellArray.ofList kind elements
      = (Cause.typeMismatch .array kind).raiseIn { operation := "array element kind" } := by
    intro elements
    unfold CellArray.ofList
    rw [refused]
    rfl
  refine ⟨.refused unstorable, ?_, ?_, ?_, ?_, ?_, ?_⟩
  · constructor
    · rintro ⟨_, impossible⟩
      cases impossible
    · rintro ⟨storable, -⟩
      exact absurd (storable.symm.trans unstorable) nofun
  · rw [listed]
    rfl
  · rintro deliveries -
    rw [ArrayBuilder.foldl_receive, ArrayBuilder.build, listed]
    rfl
  · unfold CellArray.ofPushes CellArray.empty CellArray.withCapacity
    rw [refused]
    rfl
  · rw [createArray_of_unstorable unstorable]
    rfl
  · rintro array rfl storable
    exact absurd (storable.symm.trans unstorable) nofun

end Ways

/-- **All ways of building an array from given cells come to the same**, whether they make it or
refuse the cells. -/
theorem ways_of_building_agree (kind : Kind) (cells : List Cell) :
    ∃ verdict, BuildsAlike kind cells verdict := by
  cases storable : kind.isConstructible with
  | true => exact ⟨_, buildsAlike_of_storable storable⟩
  | false => exact ⟨_, buildsAlike_of_unstorable storable⟩

end TaggedCells

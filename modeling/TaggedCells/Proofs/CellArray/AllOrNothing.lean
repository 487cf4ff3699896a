import TaggedCells.CellMap
import TaggedCells.Proofs.Always
import TaggedCells.Proofs.CellArray.Plans
import TaggedCells.Proofs.CellArray.Precondition
import TaggedCells.Proofs.Sorting.Arrangement

/-!
# All or nothing

An operation that fails leaves what it was given as it was, and one that succeeds on an array
leaves elements of the declared kind only (`changes_are_all_or_nothing`). Neither depends on
the functions that the caller brings along, whatever state they carry.
-/

set_option autoImplicit false

namespace TaggedCells

open Randomness (Generator fisherYates walkDown)

/-! ## Elements that a computation picks or moves -/

section Lists

variable {m : Type → Type} [Monad m] [LawfulMonad m] {α : Type}

theorem always_filterAuxM (keep : α → m Bool) (elements kept : List α) :
    Always (fun result => ∃ chosen : List α, chosen.Sublist elements
      ∧ result = chosen.reverse ++ kept) (elements.filterAuxM keep kept) := by
  -- the elements kept so far are held in the opposite order
  induction elements generalizing kept with
  | nil => exact .pure ⟨[], .slnil, rfl⟩
  | cons element rest ih =>
      refine (Always.trivial (keep element)).bind fun wanted _ => ?_
      cases wanted with
      | true =>
          refine (ih (element :: kept)).imp fun result picked => ?_
          obtain ⟨chosen, within, rfl⟩ := picked
          exact ⟨element :: chosen, within.cons_cons element, by simp⟩
      | false =>
          refine (ih kept).imp fun result picked => ?_
          obtain ⟨chosen, within, rfl⟩ := picked
          exact ⟨chosen, within.cons element, rfl⟩

/-- What a predicate keeps are elements in their order. -/
theorem always_filterM (keep : α → m Bool) (elements : List α) :
    Always (fun kept => kept.Sublist elements) (elements.filterM keep) := by
  refine (always_filterAuxM keep elements []).bind fun result picked => .pure ?_
  obtain ⟨chosen, within, rfl⟩ := picked
  simpa using within

theorem always_walkDown (choose : (greatest : Nat) → m (Fin (greatest + 1))) {length : Nat}
    (position : Nat) (inside : position < length) (elements : Vector α length) :
    Always (fun walked : Vector α length => walked.toList.Perm elements.toList)
      (walkDown choose position inside elements) := by
  induction position generalizing elements with
  | zero => exact .pure (.refl _)
  | succ lower ih =>
      refine (Always.trivial (choose (lower + 1))).bind fun chosen _ => ?_
      refine (ih _ _).imp fun walked kept => kept.trans ?_
      exact Vector.perm_iff_toList_perm.mp (Vector.swap_perm _ _)

/-- Shuffling moves elements and does nothing else. -/
theorem always_shuffled (choose : (greatest : Nat) → m (Fin (greatest + 1)))
    (elements : List α) :
    Always (fun mixed => mixed.Perm elements) (shuffled choose elements) := by
  have walked : Always (fun vector : Vector α elements.toArray.size =>
      vector.toList.Perm elements) (fisherYates choose elements.toArray.toVector) := by
    unfold fisherYates
    by_cases occupied : 0 < elements.toArray.size
    · rw [dif_pos occupied]
      exact always_walkDown choose _ _ elements.toArray.toVector
    · rw [dif_neg occupied]
      exact .pure (.refl _)
  exact walked.bind fun vector kept => .pure kept

end Lists

/-- Putting a rearranged section back leaves elements that were there. -/
theorem mem_of_mem_spliced {α : Type} {start stop : Nat} {elements middle : List α}
    (kept : ∀ element ∈ middle, element ∈ sectionOf start stop elements) {element : α}
    (present : element ∈ spliced start stop elements middle) : element ∈ elements := by
  rcases List.mem_append.mp present with front | after
  · rcases List.mem_append.mp front with before | within
    · exact List.mem_of_mem_take before
    · exact List.mem_of_mem_take (List.mem_of_mem_drop (kept element within))
  · exact List.mem_of_mem_drop after

/-! ## Plans -/

namespace Alteration

variable {m : Type → Type} [Monad m] [LawfulMonad m]

/-- **A plan yields elements of the declared kind.** -/
theorem yields_homogeneous (change : Alteration m) (array : CellArray) :
    Yields (fun elements => (array.withElements elements).Homogeneous) (change.plan array) := by
  cases change with
  | sort algorithm =>
      refine (Yields.outcome _).bind fun _ accepted => .pure fun element present => ?_
      have kept := (algorithm.arrange_arranges Cell.number array.elements).perm
      exact (CellArray.requireIntegers_eq_ok_iff.mp accepted).2 element (kept.mem_iff.mp present)
  | transform f =>
      -- whatever the function gives, the results are checked before they are written
      refine (Yields.outcome _).bind fun _ _ => ?_
      refine (Yields.trivial _).bind fun results _ => ?_
      exact (Yields.outcome _).bind fun _ accepted => .pure (Kind.checkAll_eq_ok_iff.mp accepted)
  | filter keep =>
      refine (Yields.outcome _).bind fun _ accepted => ?_
      refine .lift ((always_filterM keep array.elements).imp fun kept within element present => ?_)
      exact (CellArray.requireSomeIntegers_eq_ok_iff.mp accepted).2.2 element
        (within.mem present)
  | reduce combine =>
      refine (Yields.outcome _).bind fun _ accepted => ?_
      have uniform := (CellArray.requireSomeIntegers_eq_ok_iff.mp accepted).2.2
      obtain ⟨kind, elements⟩ := array
      match elements with
      | [] => exact .pure uniform
      | [only] => exact .pure uniform
      | first :: next :: rest =>
          refine (Yields.outcome _).bind fun start _ => ?_
          refine (Yields.trivial _).bind fun combined _ => ?_
          exact (Yields.outcome _).bind fun _ fits => .pure (Kind.checkAll_eq_ok_iff.mp fits)
  | accumulate =>
      refine (Yields.outcome _).bind fun _ _ => ?_
      cases sumWide? array.elements with
      | none => exact (Yields.outcome _).imp fun _ raised => by cases raised
      | some sum =>
          refine (Yields.outcome _).bind fun total _ => ?_
          exact (Yields.outcome _).bind fun _ fits => .pure (Kind.checkAll_eq_ok_iff.mp fits)
  | reverse =>
      refine (Yields.outcome _).bind fun _ accepted => .pure fun element present => ?_
      exact CellArray.requireHomogeneous_eq_ok_iff.mp accepted element
        (List.mem_reverse.mp present)
  | reverseRange start stop =>
      refine (Yields.outcome _).bind fun _ accepted => ?_
      refine (Yields.outcome _).bind fun _ _ => .pure fun element present => ?_
      exact CellArray.requireHomogeneous_eq_ok_iff.mp accepted element
        (mem_of_mem_spliced (fun _ => List.mem_reverse.mp) present)
  | shuffle choose =>
      refine (Yields.outcome _).bind fun _ accepted => ?_
      have mixed := always_shuffled choose array.elements
      refine .lift (mixed.imp fun result kept element present => ?_)
      exact CellArray.requireHomogeneous_eq_ok_iff.mp accepted element (kept.mem_iff.mp present)
  | shuffleRange start stop choose =>
      refine (Yields.outcome _).bind fun _ accepted => ?_
      refine (Yields.outcome _).bind fun _ _ => ?_
      refine (Yields.lift (always_shuffled choose _)).bind fun mixed kept => .pure ?_
      intro element present
      exact CellArray.requireHomogeneous_eq_ok_iff.mp accepted element
        (mem_of_mem_spliced (fun _ => kept.mem_iff.mp) present)

end Alteration

/-! ## Cells -/

/-- A failure leaves the state as it was. -/
def AllOrNothing {state α : Type} (before : state) (result : Except Failure α × state) : Prop :=
  ∀ failure, result.1 = .error failure → result.2 = before

theorem AllOrNothing.of_ok {state α : Type} {before after : state} {value : α} :
    AllOrNothing before (.ok value, after) := by
  intro failure failed
  cases failed

theorem AllOrNothing.of_same {state α : Type} {before : state} {outcome : Except Failure α} :
    AllOrNothing before (outcome, before) := fun _ _ => rfl

/-- A success leaves an array under the declaration that there was, with elements of the declared
kind only. -/
def KeepsDeclaration (before : Cell) (result : Except Failure Unit × Cell) : Prop :=
  result.1 = .ok () → ∃ (kind : Kind) (elements kept : List Cell),
    before = .array kind elements ∧ result.2 = .array kind kept
      ∧ ∀ element ∈ kept, element.kind = kind

section Runs

variable {m : Type → Type} [Monad m] [LawfulMonad m]

/-- A failure leaves the cell as it was, and a success leaves in its array what the plan yields. -/
theorem Alteration.always_writes (change : Alteration m) {holds : CellArray → List Cell → Prop}
    (yields : ∀ array, Yields (holds array) (change.plan array)) (cell : Cell) :
    Always (fun result => AllOrNothing cell result
        ∧ (result.1 = .ok () → ∃ (kind : Kind) (elements kept : List Cell),
          cell = .array kind elements ∧ result.2 = .array kind kept
            ∧ holds ⟨kind, elements⟩ kept))
      (change.edit.apply cell) := by
  rw [change.apply_edit]
  cases held : cell.array? change.operation with
  | error failure => exact .pure ⟨.of_same, nofun⟩
  | ok array =>
      obtain rfl := Cell.array?_eq_ok_iff.mp held
      refine Always.map (yields array) fun outcome known => ?_
      cases outcome with
      | error failure => exact ⟨.of_same, nofun⟩
      | ok elements =>
          refine ⟨.of_ok, fun _ => ?_⟩
          exact ⟨array.kind, array.elements, elements, rfl, rfl, known elements rfl⟩

theorem Alteration.always_settles (change : Alteration m) (cell : Cell) :
    Always (fun result => AllOrNothing cell result ∧ KeepsDeclaration cell result)
      (change.edit.apply cell) :=
  change.always_writes change.yields_homogeneous cell

/-- Shuffling from a seed is shuffling with the generator that the seed starts. -/
theorem Cell.apply_shuffleSeeded (seed : UInt64) (cell : Cell) :
    (Cell.shuffleSeeded seed : Edit Cell m Unit).apply cell
      = pure (((Alteration.shuffle (m := StateM Generator) (chooseFrom Generator)).edit.apply
          cell).run (Generator.ofSeed seed)).1 := by
  unfold Cell.shuffleSeeded
  simp only [Edit.apply_bind, Edit.apply_get, pure_bind, Edit.apply_set, Edit.apply_lift_outcome]
  rfl

theorem CellArray.always_push (cell : Cell) (array : CellArray) :
    Always (AllOrNothing array) ((push cell : Edit CellArray m Unit).apply array) := by
  rw [apply_push]
  refine .pure ?_
  cases located (array.kind.checkCell cell) { operation := "push", index := array.length } with
  | ok last => exact .of_ok
  | error failure => exact .of_same

theorem CellArray.always_replace (elements : List Cell) (array : CellArray) :
    Always (AllOrNothing array) ((replace elements : Edit CellArray m Unit).apply array) := by
  rw [apply_replace]
  refine .pure ?_
  cases array.kind.checkAll elements with
  | ok accepted => exact .of_ok
  | error failure => exact .of_same

theorem CellMap.always_insert (key value : Cell) (map : CellMap) :
    Always (AllOrNothing map) ((insert key value : Edit CellMap m (Option Cell)).apply map) := by
  rw [apply_insert]
  refine .pure ?_
  by_cases invalid : key.isInvalid = true
  · rw [if_pos invalid]
    exact .of_same
  · rw [if_neg invalid]
    exact .of_ok

end Runs

/-- **A change that fails leaves everything as it was, and a change of an array in a cell that
succeeds keeps the array homogeneous**, whatever functions the caller brings along and whatever
state they start from. -/
theorem changes_are_all_or_nothing {σ : Type} (world : σ) :
    (∀ (change : Alteration (StateM σ)) (cell : Cell),
        AllOrNothing cell ((change.edit.apply cell).run world).1
          ∧ KeepsDeclaration cell ((change.edit.apply cell).run world).1)
      ∧ (∀ (seed : UInt64) (cell : Cell),
          AllOrNothing cell ((Cell.shuffleSeeded seed).applyPure cell)
            ∧ KeepsDeclaration cell ((Cell.shuffleSeeded seed).applyPure cell))
      ∧ (∀ (cell : Cell) (array : CellArray),
          AllOrNothing array ((CellArray.push cell).applyPure array))
      ∧ (∀ (elements : List Cell) (array : CellArray),
          AllOrNothing array ((CellArray.replace elements).applyPure array))
      ∧ ∀ (key value : Cell) (map : CellMap),
          AllOrNothing map ((CellMap.insert key value).applyPure map) := by
  refine ⟨?_, ?_, ?_, ?_, ?_⟩
  · intro change cell
    exact (change.always_settles cell).from_state world
  · intro seed cell
    rw [Edit.applyPure, Cell.apply_shuffleSeeded]
    exact (Alteration.always_settles _ cell).from_state (Generator.ofSeed seed)
  · intro cell array
    exact (CellArray.always_push cell array).from_id
  · intro elements array
    exact (CellArray.always_replace elements array).from_id
  · intro key value map
    exact (CellMap.always_insert key value map).from_id

/-- A function whose second result does not fit leaves the first element as it was. -/
example :
    (Cell.transform (m := Id) fun number => number * 100).applyPure
        (.array (.integer (.sized .signed .eight))
          [.ofWord (.sized .signed .eight) 1, .ofWord (.sized .signed .eight) 2])
      = (.error ⟨.overflow (.integer (.sized .signed .eight)),
          some { operation := "transform", index := some 1 }⟩,
        .array (.integer (.sized .signed .eight))
          [.ofWord (.sized .signed .eight) 1, .ofWord (.sized .signed .eight) 2]) := by
  rfl

end TaggedCells

import TaggedCells.Proofs.Calls
import TaggedCells.Proofs.CellArray.Building
import TaggedCells.Proofs.CellArray.Naming

/-!
# Splitting and filtering

Splitting deals out copies of the elements one by one to two arrays. Filtering asks about all of
them first and writes those that are wanted. Either way the predicate is asked once about each
element and in order, and what comes of the elements is decided by the marks that it gives them
(`marked`). So splitting leaves in the first array what filtering keeps, and in the second what
filtering with the opposite predicate keeps (`splitting_is_filtering`).
-/

set_option autoImplicit false

namespace TaggedCells

/-! ## Marks -/

section Marks

variable {α : Type}

/-- The elements whose mark is set. -/
def marked : List Bool → List α → List α
  | true :: marks, element :: elements => element :: marked marks elements
  | false :: marks, _ :: elements => marked marks elements
  | _, _ => []

@[simp]
theorem marked_nil (elements : List α) : marked [] elements = [] := by
  cases elements <;> rfl

@[simp]
theorem marked_true (marks : List Bool) (element : α) (elements : List α) :
    marked (true :: marks) (element :: elements) = element :: marked marks elements := rfl

@[simp]
theorem marked_false (marks : List Bool) (element : α) (elements : List α) :
    marked (false :: marks) (element :: elements) = marked marks elements := rfl

/-- The elements are dealt out by their marks: each goes to one of two lists, and in both they stay
in order. -/
inductive Parted : List Bool → List α → List α → List α → Prop where
  | nil : Parted [] [] [] []
  | chosen {marks : List Bool} {elements chosen others : List α} (element : α)
      (rest : Parted marks elements chosen others) :
      Parted (true :: marks) (element :: elements) (element :: chosen) others
  | other {marks : List Bool} {elements chosen others : List α} (element : α)
      (rest : Parted marks elements chosen others) :
      Parted (false :: marks) (element :: elements) chosen (element :: others)

/-- Opposite marks leave what the marks take. -/
theorem parted_marked {marks : List Bool} {elements : List α}
    (same : marks.length = elements.length) :
    Parted marks elements (marked marks elements) (marked (marks.map not) elements) := by
  induction marks generalizing elements with
  | nil =>
      obtain rfl := List.length_eq_zero_iff.mp same.symm
      exact .nil
  | cons mark marks ih =>
      obtain ⟨element, rest, rfl⟩ := List.exists_cons_of_length_eq_add_one same.symm
      have further := ih (Nat.succ.inj same)
      cases mark with
      | true => exact .chosen element further
      | false => exact .other element further

end Marks

/-! ## One element after the other -/

section Steps

variable {m : Type → Type} [Monad m]

/-- Copies an element to the first array if it is wanted, and to the second if not. -/
def CellArray.deal (wanted : Cell → m Bool) :
    CellArray × CellArray → Cell → ExceptT Failure m (CellArray × CellArray) :=
  fun (matching, others) element => do
    let isWanted ← (wanted element : m Bool)
    let copied ← element.copy
    if isWanted then return (← matching.pushed copied, others)
    else return (matching, ← others.pushed copied)

theorem CellArray.split_eq (array : CellArray) (wanted : Cell → m Bool) :
    array.split wanted = (do
      array.requireSomeIntegers "partition"
      let blank ← CellArray.empty array.kind
      array.elements.foldlM (CellArray.deal wanted) (blank, blank)) := rfl

variable [LawfulMonad m]

theorem filterAuxM_eq {α : Type} (keep : α → m Bool) (elements kept : List α) :
    elements.filterAuxM keep kept
      = (fun marks => (marked marks elements).reverse ++ kept) <$> elements.mapM keep := by
  induction elements generalizing kept with
  | nil =>
      rw [List.filterAuxM, List.mapM_nil, map_pure]
      rfl
  | cons element rest ih =>
      rw [List.filterAuxM, List.mapM_cons, map_bind]
      refine bind_congr fun mark => ?_
      rw [ih, map_bind, ← bind_pure_comp]
      refine bind_congr fun marks => ?_
      rw [map_pure]
      cases mark with
      | true => simp
      | false => rfl

/-- Filtering asks about all elements and keeps the marked ones. -/
theorem filterM_eq {α : Type} (keep : α → m Bool) (elements : List α) :
    elements.filterM keep = (fun marks => marked marks elements) <$> elements.mapM keep := by
  rw [List.filterM, filterAuxM_eq, bind_map_left, ← bind_pure_comp]
  simp

namespace CellArray

variable {kind : Kind} (storable : kind.isConstructible = true) (wanted : Cell → m Bool)

include storable

/-- An element of the kind of both arrays is copied to one of them. -/
theorem deal_eq {element : Cell} (same : element.kind = kind) (chosen others : List Cell) :
    deal wanted (⟨kind, chosen⟩, ⟨kind, others⟩) element
      = liftM ((fun mark => ((⟨kind, chosen ++ marked [mark] [element]⟩ : CellArray),
          (⟨kind, others ++ marked [!mark] [element]⟩ : CellArray))) <$> wanted element) := by
  have copied : element.copy = .ok element := Cell.copy_of_constructible (same ▸ storable)
  rw [deal, liftM_map, ← bind_pure_comp]
  refine bind_congr fun mark => ?_
  rw [lift_bind_of_ok copied]
  cases mark with
  | true =>
      refine (lift_bind_of_ok (pushed_of_eq same) _).trans ?_
      simp [withElements]
  | false =>
      refine (lift_bind_of_ok (pushed_of_eq same) _).trans ?_
      simp [withElements]

/-- Dealing out elements of the kind of both arrays cannot fail. -/
theorem foldlM_deal_eq {elements : List Cell} (uniform : ∀ element ∈ elements, element.kind = kind)
    (chosen others : List Cell) :
    elements.foldlM (deal wanted) (⟨kind, chosen⟩, ⟨kind, others⟩)
      = liftM ((fun marks => ((⟨kind, chosen ++ marked marks elements⟩ : CellArray),
          (⟨kind, others ++ marked (marks.map not) elements⟩ : CellArray)))
        <$> elements.mapM wanted) := by
  -- what the two arrays hold already stays in front
  induction elements generalizing chosen others with
  | nil =>
      rw [List.foldlM_nil, List.mapM_nil, map_pure, liftM_pure, List.map_nil, marked_nil,
        List.append_nil, List.append_nil]
  | cons element rest ih =>
      obtain ⟨same, further⟩ := List.forall_mem_cons.mp uniform
      rw [List.foldlM_cons, deal_eq storable wanted same, List.mapM_cons, liftM_map, bind_map_left,
        map_bind, liftM_bind]
      refine bind_congr fun mark => ?_
      rw [ih further, bind_pure_comp, Functor.map_map]
      cases mark <;> simp

end CellArray
end Steps

/-! ## Main statement -/

section Runs

variable {σ : Type} {kind : IntKind} {elements : List Cell}

/-- What comes of splitting a cell, and of filtering it, from one state of the predicate. -/
inductive SplitsAsFilters (cell : Cell) (wanted : Cell → StateM σ Bool) (state : σ) : Prop where
  /-- The cell lacks what both ask for. They refuse it alike, but for the name of the operation, and
  do not ask the predicate. -/
  | refused {failure : Failure}
      (refuses : (IntegerOperation.split wanted).Refuses cell failure)
      (split : (cell.split wanted).run.run state = (.error failure, state))
      (filter : ∀ keep : Cell → StateM σ Bool, ((Cell.filter keep).apply cell).run state
        = ((.error (failure.naming "filter"), cell), state))
      (back : (failure.naming "filter").naming "partition" = failure)
  /-- The cell lacks nothing. The predicate is asked once about each element. -/
  | parted {kind : IntKind} {elements chosen others : List Cell}
      (held : cell = .array (.integer kind) elements) (occupied : elements ≠ [])
      (uniform : ∀ element ∈ elements, element.kind = .integer kind)
      (parted : Parted (answers wanted state elements) elements chosen others)
      (split : (cell.split wanted).run.run state
        = (.ok (.array (.integer kind) chosen, .array (.integer kind) others),
          stateAfter wanted state elements))
      (filter : ((Cell.filter wanted).apply cell).run state
        = ((.ok (), .array (.integer kind) chosen), stateAfter wanted state elements))
      (opposite : ((Cell.filter fun element => not <$> wanted element).apply cell).run state
        = ((.ok (), .array (.integer kind) others), stateAfter wanted state elements))

theorem run_split (wanted : Cell → StateM σ Bool) (state : σ) (occupied : elements ≠ [])
    (uniform : ∀ element ∈ elements, element.kind = .integer kind) :
    ((Cell.array (.integer kind) elements).split wanted).run.run state
      = (.ok (.array (.integer kind) (marked (answers wanted state elements) elements),
          .array (.integer kind) (marked ((answers wanted state elements).map not) elements)),
        stateAfter wanted state elements) := by
  have accepted : CellArray.requireSomeIntegers ⟨.integer kind, elements⟩ "partition" = .ok () :=
    CellArray.requireSomeIntegers_of_uniform occupied uniform
  have dealt : CellArray.split ⟨.integer kind, elements⟩ wanted
      = liftM ((fun marks => ((⟨.integer kind, [] ++ marked marks elements⟩ : CellArray),
          (⟨.integer kind, [] ++ marked (marks.map not) elements⟩ : CellArray)))
        <$> elements.mapM wanted) := by
    rw [CellArray.split_eq, lift_bind_of_ok accepted]
    exact CellArray.foldlM_deal_eq rfl wanted uniform [] []
  show (CellArray.split ⟨.integer kind, elements⟩ wanted >>= _).run.run state = _
  rw [dealt]
  rfl

theorem run_filter (keep : Cell → StateM σ Bool) (state : σ) (occupied : elements ≠ [])
    (uniform : ∀ element ∈ elements, element.kind = .integer kind) :
    ((Cell.filter keep).apply (.array (.integer kind) elements)).run state
      = ((.ok (), .array (.integer kind) (marked (answers keep state elements) elements)),
        stateAfter keep state elements) := by
  have accepted : CellArray.requireSomeIntegers ⟨.integer kind, elements⟩ "filter" = .ok () :=
    CellArray.requireSomeIntegers_of_uniform occupied uniform
  have planned : (Alteration.filter keep).plan ⟨.integer kind, elements⟩
      = liftM ((fun marks => marked marks elements) <$> elements.mapM keep) := by
    rw [← filterM_eq]
    exact lift_bind_of_ok accepted _
  have run : ((Alteration.filter keep).plan ⟨.integer kind, elements⟩).run.run state
      = (.ok (marked (answers keep state elements) elements), stateAfter keep state elements) := by
    rw [planned]
    rfl
  exact Alteration.run_edit run

/-- **Splitting a cell refuses what filtering refuses, and otherwise gives what filtering with the
predicate leaves and what filtering with the opposite one leaves.** -/
theorem splitting_is_filtering (cell : Cell) (wanted : Cell → StateM σ Bool) (state : σ) :
    SplitsAsFilters cell wanted state := by
  cases judged : (IntegerOperation.split wanted).admitted cell with
  | error failure =>
      have refused : ∀ keep : Cell → StateM σ Bool,
          (IntegerOperation.filter keep).admitted cell = .error (failure.naming "filter") := by
        intro keep
        have renamed := IntegerOperation.admitted_naming (.split wanted) (.filter keep) rfl cell
        rw [judged] at renamed
        exact renamed
      have back := IntegerOperation.admitted_naming (.filter wanted) (.split wanted) rfl cell
      rw [judged, refused wanted] at back
      refine .refused (IntegerOperation.admitted_eq_error_iff.mp judged) ?_ ?_ ?_
      · rw [IntegerOperation.split_of_refused judged]
        rfl
      · intro keep
        exact congrFun (IntegerOperation.run_of_refused (.filter keep) (refused keep)) state
      · exact (Except.error.inj back).symm
  | ok array =>
      obtain ⟨rfl, accepts⟩ := IntegerOperation.admitted_eq_ok_iff.mp judged
      obtain ⟨kind, elements⟩ := array
      obtain ⟨present, ⟨integer, declared⟩, uniform⟩ := accepts
      obtain rfl : kind = .integer integer := declared
      have occupied : elements ≠ [] := present rfl
      have opposite := run_filter (fun element => not <$> wanted element) state occupied uniform
      rw [answers_map, stateAfter_map] at opposite
      exact .parted rfl occupied uniform (parted_marked (length_answers wanted state elements))
        (run_split wanted state occupied uniform) (run_filter wanted state occupied uniform)
        opposite

end Runs

/-- Wants every second cell that it is asked about. -/
def everySecond (_ : Cell) : StateM Bool Bool := modifyGet fun wants => (wants, !wants)

example :
    ((Cell.array (.integer (.native true)) [.ofWord (.native true) 3, .ofWord (.native true) 1,
        .ofWord (.native true) 2]).split everySecond).run.run true
      = (.ok (.array (.integer (.native true)) [.ofWord (.native true) 3, .ofWord (.native true) 2],
          .array (.integer (.native true)) [.ofWord (.native true) 1]), false) := by
  rfl

end TaggedCells

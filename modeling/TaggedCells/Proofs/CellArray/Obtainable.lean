import TaggedCells.CellArray.Typed
import TaggedCells.Proofs.Cell.Comparability
import TaggedCells.Proofs.CellArray.AllOrNothing
import TaggedCells.Proofs.CellArray.Building
import Mathlib.Logic.Relation

/-!
# Arrays that can be obtained

Only a write to a position can bring a stray element into an array. An array that comes out of the
constructors and of the operations, in whatever order they are called and whatever functions the
caller hands to them, declares a constructible kind, and every element carries it (`Sound`). Some of
the operations look at the elements they are given and some rely on those that are there; either way
a sound array is left sound and keeps its declaration (`Changes.sound`, `Changes.kind_eq`).

The elements of a sound array are scalars of one kind, so the array can be copied and any two of its
elements compared (`obtainable_arrays_are_reliable`).
-/

set_option autoImplicit false

namespace TaggedCells.CellArray

/-- The declared kind is one that arrays can declare, and every element carries it. -/
structure Sound (array : CellArray) : Prop where
  storable : array.kind.isConstructible = true
  homogeneous : array.Homogeneous

/-- One call of an operation turns an array into another in place, whether it succeeds or fails. A
function of the caller may read and change a state of its own. -/
inductive Changes : CellArray → CellArray → Prop where
  | push (cell : Cell) (array : CellArray) : Changes array ((push cell).applyPure array).2
  | retain {σ : Type} (keep : Cell → StateM σ Bool) (world : σ) (array : CellArray) :
      Changes array (((retain keep).apply array).run world).1.2
  | truncate (length : Nat) (array : CellArray) :
      Changes array ((truncate length).applyPure array).2
  | replace (elements : List Cell) (array : CellArray) :
      Changes array ((replace elements).applyPure array).2
  /-- Sorting, transforming, filtering, folding, reversing and shuffling. -/
  | alter {σ : Type} (change : Alteration (StateM σ)) (world : σ) {array after : CellArray}
      (left : ((change.edit.apply array.toCell).run world).1.2 = after.toCell) : Changes array after
  | shuffleSeeded (seed : UInt64) {array after : CellArray}
      (left : ((Cell.shuffleSeeded seed).applyPure array.toCell).2 = after.toCell) :
      Changes array after

/-- The arrays that come of the constructors and the operations. -/
inductive Obtainable : CellArray → Prop where
  | empty {kind : Kind} {array : CellArray} (made : empty kind = .ok array) : Obtainable array
  | withCapacity {kind : Kind} {capacity : Nat} {array : CellArray}
      (made : withCapacity kind capacity = .ok array) : Obtainable array
  | ofTyped {α : Type} [ScalarType α] (values : List α) : Obtainable (ofTyped values)
  | ofList {kind : Kind} {elements : List Cell} {array : CellArray}
      (made : ofList kind elements = .ok array) : Obtainable array
  | build {builder : ArrayBuilder} {array : CellArray} (made : builder.build = .ok array) :
      Obtainable array
  | createArray {kind : Kind} {count : Nat} {sources : List Cell} {array : CellArray}
      (made : Cell.createArray kind count sources = .ok array.toCell) : Obtainable array
  | zero {kind : Kind} {array : CellArray} (made : Cell.zero kind = array.toCell) :
      Obtainable array
  /-- An array anywhere in a copy, where the one at its place in the source can be obtained. -/
  | copy {source copied : Cell} {path : List Cell.Step} {array after : CellArray}
      (origin : Obtainable array) (held : source.at? path = some array.toCell)
      (made : source.copy = .ok copied) (found : copied.at? path = some after.toCell) :
      Obtainable after
  | matching {σ : Type} {array matching others : CellArray} (wanted : Cell → StateM σ Bool)
      (world : σ) (origin : Obtainable array)
      (parted : ((array.toCell.split wanted).run.run world).1
        = .ok (matching.toCell, others.toCell)) : Obtainable matching
  | others {σ : Type} {array matching others : CellArray} (wanted : Cell → StateM σ Bool)
      (world : σ) (origin : Obtainable array)
      (parted : ((array.toCell.split wanted).run.run world).1
        = .ok (matching.toCell, others.toCell)) : Obtainable others
  | change {array after : CellArray} (origin : Obtainable array) (changes : Changes array after) :
      Obtainable after

/-! ## Changes in place -/

section Changes

variable {array after : CellArray}

/-- The second array has the declaration of the first, and is homogeneous if the first is. -/
def StaysSound (array after : CellArray) : Prop :=
  ∃ elements, after = array.withElements elements
    ∧ (array.Homogeneous → (array.withElements elements).Homogeneous)

theorem StaysSound.refl : StaysSound array array := ⟨array.elements, rfl, id⟩

/-- An operation on the cell of an array leaves the cell of an array that stays sound. -/
theorem exists_staysSound {result : Except Failure Unit × Cell}
    (unharmed : AllOrNothing array.toCell result) (kept : KeepsDeclaration array.toCell result) :
    ∃ after : CellArray, result.2 = after.toCell ∧ StaysSound array after := by
  obtain ⟨outcome, left⟩ := result
  cases outcome with
  | error failure => exact ⟨array, unharmed failure rfl, .refl⟩
  | ok _ =>
      obtain ⟨kind, elements, remaining, before, leaves, uniform⟩ := kept rfl
      obtain ⟨rfl, rfl⟩ := Cell.array.inj before
      exact ⟨array.withElements remaining, leaves, remaining, rfl, fun _ => uniform⟩

theorem exists_altered {σ : Type} (change : Alteration (StateM σ)) (world : σ)
    (array : CellArray) :
    ∃ after : CellArray, ((change.edit.apply array.toCell).run world).1.2 = after.toCell
      ∧ StaysSound array after := by
  obtain ⟨unharmed, kept⟩ := (change.always_settles array.toCell).from_state world
  exact exists_staysSound unharmed kept

theorem exists_shuffled (seed : UInt64) (array : CellArray) :
    ∃ after : CellArray, ((Cell.shuffleSeeded seed).applyPure array.toCell).2 = after.toCell
      ∧ StaysSound array after := by
  rw [Edit.applyPure_of_apply (Cell.apply_shuffleSeeded seed array.toCell)]
  exact exists_altered _ _ array

theorem always_retain {m : Type → Type} [Monad m] [LawfulMonad m] (keep : Cell → m Bool)
    (array : CellArray) :
    Always (fun result => StaysSound array result.2) ((retain keep).apply array) := by
  rw [apply_retain, bind_pure_comp]
  refine (always_filterM keep array.elements).map fun elements within => ?_
  exact ⟨elements, rfl, fun uniform element present => uniform element (within.mem present)⟩

theorem eq_of_toCell_eq (same : array.toCell = after.toCell) : array = after := by
  obtain ⟨kinds, elements⟩ := Cell.array.inj same
  cases array
  cases after
  congr

theorem Changes.staysSound (changes : Changes array after) : StaysSound array after := by
  cases changes with
  | push cell =>
      rw [Edit.applyPure_of_apply (apply_push cell array)]
      by_cases same : cell.kind = array.kind
      · rw [Kind.checkCell, if_pos same]
        refine ⟨array.elements ++ [cell], rfl, fun uniform => ?_⟩
        exact List.forall_mem_append.mpr ⟨uniform, List.forall_mem_singleton.mpr same⟩
      · rw [Kind.checkCell, if_neg same]
        exact .refl
  | retain keep world => exact (always_retain keep array).from_state world
  | truncate length =>
      rw [Edit.applyPure_of_apply (apply_truncate length array)]
      exact ⟨array.elements.take length, rfl,
        fun uniform element present => uniform element (List.mem_of_mem_take present)⟩
  | replace elements =>
      rw [Edit.applyPure_of_apply (apply_replace elements array)]
      cases accepted : array.kind.checkAll elements with
      | ok _ => exact ⟨elements, rfl, fun _ => Kind.checkAll_eq_ok_iff.mp accepted⟩
      | error failure => exact .refl
  | alter change world left =>
      obtain ⟨altered, leaves, stays⟩ := exists_altered change world array
      exact eq_of_toCell_eq (leaves.symm.trans left) ▸ stays
  | shuffleSeeded seed left =>
      obtain ⟨mixed, leaves, stays⟩ := exists_shuffled seed array
      exact eq_of_toCell_eq (leaves.symm.trans left) ▸ stays

theorem Changes.kind_eq (changes : Changes array after) : after.kind = array.kind := by
  obtain ⟨elements, rfl, -⟩ := changes.staysSound
  rfl

/-- **A change in place leaves a sound array sound.** -/
theorem Changes.sound (changes : Changes array after) (sound : array.Sound) : after.Sound := by
  obtain ⟨elements, rfl, stays⟩ := changes.staysSound
  exact ⟨sound.storable, stays sound.homogeneous⟩

theorem kind_eq_of_changes (changes : Relation.ReflTransGen Changes array after) :
    after.kind = array.kind := by
  induction changes with
  | refl => rfl
  | tail _ last ih => exact last.kind_eq.trans ih

end Changes

/-! ## Arrays in two parts -/

section Parts

variable {m : Type → Type} [Monad m] [LawfulMonad m] {array : CellArray}

theorem Changes.of_pushed {cell : Cell} {after : CellArray}
    (success : array.pushed cell = .ok after) : Changes array after := by
  have pushes := Changes.push cell array
  unfold pushed at success
  generalize (CellArray.push cell).applyPure array = result at pushes success
  obtain ⟨outcome, left⟩ := result
  cases outcome with
  | error failure => cases success
  | ok _ => exact Except.ok.inj success ▸ pushes

theorem sound_of_withCapacity {kind : Kind} {capacity : Nat}
    (made : withCapacity kind capacity = .ok array) : array.Sound := by
  obtain ⟨storable, rfl⟩ := withCapacity_eq_ok made
  exact ⟨storable, fun _ absent => absurd absent List.not_mem_nil⟩

theorem eq_of_zero {kind : Kind} (made : Cell.zero kind = array.toCell) :
    array = ⟨.integer (.native true), []⟩ := by
  cases kind with
  | array =>
      have same : toCell ⟨.integer (.native true), []⟩ = array.toCell := made
      exact (eq_of_toCell_eq same).symm
  | _ => cases made

/-- Splitting pushes each element to one of two arrays that start without any. -/
theorem yields_split (wanted : Cell → m Bool) (array : CellArray) :
    Yields (fun parts : CellArray × CellArray => parts.1.Sound ∧ parts.2.Sound)
      (array.split wanted) := by
  refine (Yields.outcome _).bind fun _ _ => ?_
  refine (Yields.outcome _).bind fun blank made => ?_
  have sound : blank.Sound := sound_of_withCapacity made
  refine Yields.foldlM (fun parts element known => ?_) ⟨sound, sound⟩ array.elements
  refine (Yields.lift (Always.trivial _)).bind fun isWanted _ => ?_
  refine (Yields.outcome _).bind fun copied _ => ?_
  cases isWanted with
  | true =>
      refine (Yields.outcome _).bind fun matching success => .pure ⟨?_, known.2⟩
      exact (Changes.of_pushed success).sound known.1
  | false =>
      refine (Yields.outcome _).bind fun others success => .pure ⟨known.1, ?_⟩
      exact (Changes.of_pushed success).sound known.2

theorem sound_of_split {σ : Type} {wanted : Cell → StateM σ Bool} {world : σ}
    {matching others : CellArray}
    (parted : ((array.toCell.split wanted).run.run world).1
      = .ok (matching.toCell, others.toCell)) : matching.Sound ∧ others.Sound := by
  have yields : Yields (fun cells : Cell × Cell => ∀ first second : CellArray,
      cells = (first.toCell, second.toCell) → first.Sound ∧ second.Sound)
      (array.toCell.split wanted) := by
    refine (Yields.outcome _).bind fun held _ => ?_
    refine (yields_split wanted held).bind fun parts known => .pure ?_
    rintro first second same
    obtain ⟨firstSame, secondSame⟩ := Prod.mk.inj same
    rw [← eq_of_toCell_eq firstSame, ← eq_of_toCell_eq secondSame]
    exact known
  exact (yields.from_state world) _ parted _ _ rfl

end Parts

/-! ## Obtainable arrays -/

theorem Obtainable.sound {array : CellArray} (obtainable : Obtainable array) : array.Sound := by
  induction obtainable with
  | empty made => exact sound_of_withCapacity made
  | withCapacity made => exact sound_of_withCapacity made
  | ofTyped values =>
      refine ⟨ScalarType.isConstructible_kind, fun element present => ?_⟩
      obtain ⟨value, -, rfl⟩ := List.mem_map.mp present
      exact ScalarType.kind_toCell value
  | ofList made =>
      obtain ⟨storable, uniform, rfl⟩ := ofList_eq_ok made
      exact ⟨storable, uniform⟩
  | build made =>
      obtain ⟨storable, uniform, rfl⟩ := ofList_eq_ok made
      exact ⟨storable, uniform⟩
  | createArray made =>
      obtain ⟨storable, uniform, same⟩ := createArray_eq_ok made
      obtain rfl := eq_of_toCell_eq same
      exact ⟨storable, uniform⟩
  | zero made =>
      obtain rfl := eq_of_zero made
      exact ⟨rfl, fun _ absent => absurd absent List.not_mem_nil⟩
  | copy origin held made found ih =>
      obtain rfl := Cell.eq_of_copy made
      exact eq_of_toCell_eq (Option.some.inj (held.symm.trans found)) ▸ ih
  | matching wanted world origin parted _ => exact (sound_of_split parted).1
  | others wanted world origin parted _ => exact (sound_of_split parted).2
  | change origin changes ih => exact changes.sound ih

theorem Sound.constructible {array : CellArray} (sound : array.Sound) {element : Cell}
    (present : element ∈ array.elements) : element.kind.isConstructible = true := by
  rw [sound.homogeneous element present]
  exact sound.storable

/-- What can be relied on in an array without looking at its elements. -/
structure Reliable (array : CellArray) : Prop extends Sound array where
  /-- No changes in place touch the declaration. -/
  declared : ∀ after, Relation.ReflTransGen Changes array after → after.kind = array.kind
  /-- The cell of the array holds an array after an operation on it, whatever comes of that. -/
  altered : ∀ {σ : Type} (change : Alteration (StateM σ)) (world : σ),
    ∃ after : CellArray, ((change.edit.apply array.toCell).run world).1.2 = after.toCell
  shuffled : ∀ seed, ∃ after : CellArray,
    ((Cell.shuffleSeeded seed).applyPure array.toCell).2 = after.toCell
  scalars : ∀ element ∈ array.elements, element.kind ≠ .array ∧ element.kind ≠ .map
    ∧ element.kind ≠ .invalid ∧ element.kind ≠ .unknown
  copies : array.toCell.copy = .ok array.toCell
  compares : ∀ left ∈ array.elements, ∀ right ∈ array.elements,
    ∃ ordering, left.order right = .ok ordering

/-- **Every array that can be obtained is one that can be relied on**: it declares a constructible
kind for good, and its elements are cells of this kind. -/
theorem obtainable_arrays_are_reliable {array : CellArray} (obtainable : Obtainable array) :
    array.Reliable := by
  have sound := obtainable.sound
  refine { sound with
    declared := fun after => kind_eq_of_changes
    altered := ?_
    shuffled := ?_
    scalars := ?_
    copies := Cell.copy_array_of_constructible fun element => sound.constructible
    compares := ?_ }
  · intro σ change world
    obtain ⟨after, left, -⟩ := exists_altered change world array
    exact ⟨after, left⟩
  · intro seed
    obtain ⟨after, left, -⟩ := exists_shuffled seed array
    exact ⟨after, left⟩
  · intro element present
    have constructible := sound.constructible present
    refine ⟨?_, ?_, ?_, ?_⟩
    all_goals
      intro same
      rw [same] at constructible
      cases constructible
  · intro left leftPresent right rightPresent
    refine Cell.compares_iff.mpr ⟨?_, sound.constructible leftPresent⟩
    exact (sound.homogeneous left leftPresent).trans (sound.homogeneous right rightPresent).symm

/-- Adds to each number how often it was called before. -/
def countingUp : Int → StateM Int Int := fun number => do
  return number + (← getModify (· + 1))

/-- Numbers that were sorted and then counted up. -/
theorem obtainable_arrays_are_reliable_counted :
    Obtainable (ofTyped ([1, 3, 5] : List Int32))
      ∧ (ofTyped ([1, 3, 5] : List Int32)).Reliable := by
  have start : Obtainable (ofTyped ([3, 1, 2] : List Int32)) := .ofTyped _
  have sorted : Changes (ofTyped ([3, 1, 2] : List Int32)) (ofTyped ([1, 2, 3] : List Int32)) :=
    .alter (Alteration.sort (m := StateM Unit) .insertion) () rfl
  have counted : Changes (ofTyped ([1, 2, 3] : List Int32)) (ofTyped ([1, 3, 5] : List Int32)) :=
    .alter (.transform countingUp) 0 rfl
  have obtainable := (start.change sorted).change counted
  exact ⟨obtainable, obtainable_arrays_are_reliable obtainable⟩

end TaggedCells.CellArray

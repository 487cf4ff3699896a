import TaggedCells.Proofs.Search.Agreement
import TaggedCells.Proofs.Search.Admission
import TaggedCells.Proofs.Cell.Comparability
import Mathlib.Data.Nat.Size

/-!
# Halving arrays that are not sorted

A search by halving does not look whether the array is sorted, so nothing can be said of the side
that it gives up. It still ends after as many turns as the length has binary digits, reads no
position outside the array, and finds nothing that is not there (`halving_never_misleads`).

The loop is told once more with every access checked (`descend?`): a position outside the array, a
difference below zero, or a turn more than were granted gives no result at all. What one turn keeps
are the edges of the interval that is left (`Edges`). The element just before it sent the search
above, and the element just after it sent the search below, whatever the other elements would have
answered. When the interval is empty its two edges meet.
-/

set_option autoImplicit false

namespace TaggedCells
namespace Search

open Sorting (minus? minus?_eq_some)

/-! ## The loop with checked accesses -/

/-- Where a probe sends the search. -/
inductive Heading where
  | here
  | above
  | below
  deriving DecidableEq

/-- The search for any element that is equal to the key ends where it meets one. -/
def probing : Ordering → Heading
  | .eq => .here
  | .lt => .above
  | .gt => .below

/-- The search for a boundary goes on until nothing is left. -/
def bounding (before : Ordering → Bool) (verdict : Ordering) : Heading :=
  if before verdict then .above else .below

/-- How the loop ends: at an element, or between two of them. -/
inductive Landing where
  | hit (position : Nat)
  | gap (position : Nat)

namespace Landing

/-- The position of the element that the loop ended at. -/
def hit? : Landing → Option Nat
  | .hit position => some position
  | .gap _ => none

/-- The position that the loop ended at, or behind the gap that it ended in. -/
def position : Landing → Nat
  | .hit position | .gap position => position

end Landing

variable (elements : List Cell) (key : Cell) (judge : Ordering → Heading)

/-- One turn: the position in the middle, and where the element there sends the search. -/
def turn? (low high : Nat) : Option (Except Failure (Nat × Heading)) := do
  let ⟨width, _⟩ ← minus? high low
  let position := low + width / 2
  let element ← elements[position]?
  return (fun verdict => (position, judge verdict)) <$> element.order key

/-- The loop from the interval between two positions, with a number of turns granted to it. -/
def descend? : (turns low high : Nat) → Option (Except Failure Landing)
  | 0, low, high => if low < high then none else some (.ok (.gap low))
  | turns + 1, low, high =>
      if low < high then do
        match ← turn? elements key judge low high with
        | .error failure => some (.error failure)
        | .ok (position, .here) => some (.ok (.hit position))
        | .ok (position, .above) => descend? turns (position + 1) high
        | .ok (position, .below) => descend? turns low position
      else some (.ok (.gap low))

/-- The element at the position sends the search there. -/
def Sends (position : Nat) (heading : Heading) : Prop :=
  ∃ element verdict, elements[position]? = some element ∧ element.order key = .ok verdict
    ∧ judge verdict = heading

/-- The edges of an interval of positions: what stands before it was sent above, and what stands
after it was sent below, as far as the array reaches. -/
structure Edges (low high : Nat) : Prop where
  forward : low ≤ high
  inside : high ≤ elements.length
  lower : low = 0 ∨ Sends elements key judge (low - 1) .above
  upper : high = elements.length ∨ Sends elements key judge high .below

/-- What the end of the loop says of the array. -/
inductive Lands : Except Failure Landing → Prop where
  | failed {element : Cell} {failure : Failure} (present : element ∈ elements)
      (refused : element.order key = .error failure) : Lands (.error failure)
  | hit {position : Nat} (sent : Sends elements key judge position .here) :
      Lands (.ok (.hit position))
  | gap {position : Nat} (edges : Edges elements key judge position position) :
      Lands (.ok (.gap position))

variable {elements key judge}

/-! ### One turn -/

theorem turn?_eq {low high : Nat} (less : low < high) {element : Cell}
    (holds : elements[middle low high]? = some element) :
    turn? elements key judge low high
      = some ((fun verdict => (middle low high, judge verdict)) <$> element.order key) := by
  rw [middle] at holds
  rw [turn?, minus?_eq_some (Nat.sub_add_cancel less.le)]
  simp only [Option.bind_eq_bind, Option.bind_some, holds, middle]
  rfl

/-- A comparison that fails ends the loop. -/
theorem descend?_of_refused {turns low high : Nat} (less : low < high) {element : Cell}
    (holds : elements[middle low high]? = some element) {failure : Failure}
    (refused : element.order key = .error failure) :
    descend? elements key judge (turns + 1) low high = some (.error failure) := by
  rw [descend?, if_pos less, turn?_eq less holds, refused]
  rfl

/-- A comparison decides how the loop goes on. -/
theorem descend?_of_answered {turns low high : Nat} (less : low < high) {element : Cell}
    (holds : elements[middle low high]? = some element) {verdict : Ordering}
    (answered : element.order key = .ok verdict) :
    descend? elements key judge (turns + 1) low high
      = match judge verdict with
        | .here => some (.ok (.hit (middle low high)))
        | .above => descend? elements key judge turns (middle low high + 1) high
        | .below => descend? elements key judge turns low (middle low high) := by
  rw [descend?, if_pos less, turn?_eq less holds, answered]
  cases sent : judge verdict <;> simp [Functor.map, Except.map, sent]

/-- Where nothing is left the loop ends without a turn. -/
theorem descend?_of_empty {turns low high : Nat} (empty : ¬ low < high) :
    descend? elements key judge turns low high = some (.ok (.gap low)) := by
  cases turns <;> rw [descend?, if_neg empty]

namespace Edges

variable {low high : Nat}

theorem whole : Edges elements key judge 0 elements.length :=
  ⟨Nat.zero_le _, Nat.le_refl _, .inl rfl, .inl rfl⟩

theorem exists_middle (edges : Edges elements key judge low high) (less : low < high) :
    ∃ element, elements[middle low high]? = some element := by
  have := edges.inside
  have center : middle low high = low + (high - low) / 2 := rfl
  exact ⟨_, List.getElem?_eq_getElem (by omega)⟩

/-- A turn that sends the search above keeps the edges. -/
theorem above (edges : Edges elements key judge low high) (less : low < high)
    (sent : Sends elements key judge (middle low high) .above) :
    Edges elements key judge (middle low high + 1) high := by
  have center : middle low high = low + (high - low) / 2 := rfl
  exact ⟨by omega, edges.inside, .inr sent, edges.upper⟩

/-- A turn that sends the search below keeps the edges. -/
theorem below (edges : Edges elements key judge low high) (less : low < high)
    (sent : Sends elements key judge (middle low high) .below) :
    Edges elements key judge low (middle low high) := by
  have center : middle low high = low + (high - low) / 2 := rfl
  have := edges.inside
  exact ⟨by omega, by omega, edges.lower, .inr sent⟩

end Edges

/-! ### The whole loop -/

/-- **With enough turns granted the loop ends inside the array**, and what stands at its end is told
by the elements that it compared. -/
theorem exists_landing {turns low high : Nat} (edges : Edges elements key judge low high)
    (granted : high - low < 2 ^ turns) :
    ∃ landing, descend? elements key judge turns low high = some landing
      ∧ Lands elements key judge landing := by
  induction turns generalizing low high with
  | zero =>
      rw [Nat.pow_zero] at granted
      obtain rfl : low = high := by
        have := edges.forward
        omega
      exact ⟨_, descend?_of_empty (Nat.lt_irrefl low), .gap edges⟩
  | succ turns ih =>
      by_cases less : low < high
      · obtain ⟨element, holds⟩ := edges.exists_middle less
        have center : middle low high = low + (high - low) / 2 := rfl
        rw [Nat.pow_succ] at granted
        cases answered : element.order key with
        | error failure =>
            exact ⟨_, descend?_of_refused less holds answered,
              .failed (List.mem_of_getElem? holds) answered⟩
        | ok verdict =>
            rw [descend?_of_answered less holds answered]
            cases sent : judge verdict with
            | here => exact ⟨_, rfl, .hit ⟨element, verdict, holds, answered, sent⟩⟩
            | above =>
                exact ih (edges.above less ⟨element, verdict, holds, answered, sent⟩) (by omega)
            | below =>
                exact ih (edges.below less ⟨element, verdict, holds, answered, sent⟩) (by omega)
      · obtain rfl := Nat.le_antisymm edges.forward (Nat.le_of_not_lt less)
        exact ⟨_, descend?_of_empty less, .gap edges⟩

/-! ### The loops of the searches -/

section Loops

variable {β : Type} (elements key judge)

/-- A loop that goes where its probes send it. -/
structure Obeys (told : Landing → β)
    (loop : (low high : Nat) → high ≤ elements.length → Except Failure β) : Prop where
  ends : ∀ {low high : Nat} (bounded : high ≤ elements.length), ¬ low < high →
    loop low high bounded = .ok (told (.gap low))
  refused : ∀ {low high : Nat} (bounded : high ≤ elements.length), low < high →
    ∀ {element : Cell}, elements[middle low high]? = some element →
      ∀ {failure : Failure}, element.order key = .error failure →
        loop low high bounded = .error failure
  answered : ∀ {low high : Nat} (bounded : high ≤ elements.length)
    (inside : middle low high ≤ elements.length), low < high →
    ∀ {element : Cell}, elements[middle low high]? = some element →
      ∀ {verdict : Ordering}, element.order key = .ok verdict →
        loop low high bounded
          = match judge verdict with
            | .here => .ok (told (.hit (middle low high)))
            | .above => loop (middle low high + 1) high bounded
            | .below => loop low (middle low high) inside

variable {elements key judge}

/-- A loop that goes where its probes send it comes to the same end. -/
theorem Obeys.eq_of_descend? {told : Landing → β}
    {loop : (low high : Nat) → high ≤ elements.length → Except Failure β}
    (obeys : Obeys elements key judge told loop) {turns low high : Nat}
    (bounded : high ≤ elements.length) {landing : Except Failure Landing}
    (ended : descend? elements key judge turns low high = some landing) :
    loop low high bounded = told <$> landing := by
  induction turns generalizing low high with
  | zero =>
      by_cases less : low < high
      · rw [descend?, if_pos less] at ended
        cases ended
      · rw [descend?_of_empty less] at ended
        obtain rfl := Option.some.inj ended
        exact obeys.ends bounded less
  | succ turns ih =>
      by_cases less : low < high
      · have center : middle low high = low + (high - low) / 2 := rfl
        have inside : middle low high < elements.length := by omega
        have holds := List.getElem?_eq_getElem inside
        cases answered : (elements[middle low high]).order key with
        | error failure =>
            rw [descend?_of_refused less holds answered] at ended
            obtain rfl := Option.some.inj ended
            exact obeys.refused bounded less holds answered
        | ok verdict =>
            rw [descend?_of_answered less holds answered] at ended
            rw [obeys.answered bounded inside.le less holds answered]
            cases sent : judge verdict with
            | here =>
                rw [sent] at ended
                obtain rfl := Option.some.inj ended
                rfl
            | above =>
                rw [sent] at ended
                exact ih bounded ended
            | below =>
                rw [sent] at ended
                exact ih inside.le ended
      · rw [descend?_of_empty less] at ended
        obtain rfl := Option.some.inj ended
        exact obeys.ends bounded less

/-- The element in the middle is the one that is read there. -/
theorem get_middle {low high : Nat} (less : low < high) (bounded : high ≤ elements.length)
    {element : Cell} (holds : elements[middle low high]? = some element) :
    elements.get ⟨middle low high, by unfold middle; omega⟩ = element := by
  rw [List.get_eq_getElem]
  exact (List.getElem_eq_iff _).mpr holds

theorem probe_obeys : Obeys elements key probing Landing.hit? (probe elements key) where
  ends bounded empty := by
    rw [probe, dif_neg empty]
    rfl
  refused bounded less element holds failure failed := by
    rw [probe, dif_pos less, get_middle less bounded holds, failed]
    rfl
  answered bounded inside less element holds verdict compared := by
    rw [probe, dif_pos less, get_middle less bounded holds, compared]
    cases verdict <;> rfl

theorem bisect_obeys (before : Ordering → Bool) :
    Obeys elements key (bounding before) Landing.position
      (bisect fun position => before <$> (elements.get position).order key) where
  ends bounded empty := by
    rw [bisect, dif_neg empty]
    rfl
  refused bounded less element holds failure failed := by
    rw [bisect, dif_pos less, get_middle less bounded holds, failed]
    rfl
  answered bounded inside less element holds verdict compared := by
    rw [bisect, dif_pos less, get_middle less bounded holds, compared, bounding]
    simp only [Functor.map, Except.map, bind, Except.bind]
    cases before verdict <;> rfl

/-- As many turns as the length has binary digits are enough for a whole array. -/
theorem exists_landing_of_whole :
    ∃ landing, descend? elements key judge elements.length.size 0 elements.length = some landing
      ∧ Lands elements key judge landing :=
  exists_landing .whole (Nat.lt_size_self _)

variable (elements key)

/-- Searching for any equal element ends as the loop does. -/
theorem exists_landing_byHalving :
    ∃ landing, descend? elements key probing elements.length.size 0 elements.length = some landing
      ∧ Lands elements key probing landing ∧ byHalving elements key = Landing.hit? <$> landing := by
  obtain ⟨landing, ended, lands⟩ := exists_landing_of_whole
  exact ⟨landing, ended, lands, probe_obeys.eq_of_descend? (Nat.le_refl _) ended⟩

/-- Searching for a boundary ends as the loop does. -/
theorem exists_landing_bound (before : Ordering → Bool) :
    ∃ landing, descend? elements key (bounding before) elements.length.size 0 elements.length
        = some landing
      ∧ Lands elements key (bounding before) landing
      ∧ bound elements key before = Landing.position <$> landing := by
  obtain ⟨landing, ended, lands⟩ := exists_landing_of_whole
  exact ⟨landing, ended, lands, (bisect_obeys before).eq_of_descend? (Nat.le_refl _) ended⟩

end Loops

/-! ## What is found -/

section Found

variable (elements key)

/-- The element at the position is equal to the key. -/
def MeetsAt (position : Nat) : Prop :=
  ∃ element, elements[position]? = some element ∧ element.order key = .ok .eq

/-- The test holds of the element just before the position and not of the one at it, as far as there
are such elements. -/
structure Boundary (before : Ordering → Bool) (position : Nat) : Prop where
  within : position ≤ elements.length
  lower : position = 0 ∨ ∃ element verdict, elements[position - 1]? = some element
    ∧ element.order key = .ok verdict ∧ before verdict = true
  upper : position = elements.length ∨ ∃ element verdict, elements[position]? = some element
    ∧ element.order key = .ok verdict ∧ before verdict = false

variable {elements key}

theorem order_eq_of_equal {element : Cell} (equal : element.equal key = .ok true) :
    element.order key = .ok .eq := by
  unfold Cell.equal at equal
  cases answered : element.order key with
  | error failure =>
      rw [answered] at equal
      cases equal
  | ok verdict =>
      rw [answered] at equal
      cases verdict <;> first | rfl | cases equal

theorem meetsAt_of_byHalving {position : Nat}
    (found : byHalving elements key = .ok (some position)) : MeetsAt elements key position := by
  obtain ⟨landing, -, lands, told⟩ := exists_landing_byHalving elements key
  rw [told] at found
  cases lands with
  | failed present refused => cases found
  | gap edges => cases found
  | hit sent =>
      obtain rfl := Option.some.inj (Except.ok.inj found)
      obtain ⟨element, verdict, holds, answered, here⟩ := sent
      cases verdict with
      | eq => exact ⟨element, holds, answered⟩
      | lt => cases here
      | gt => cases here

theorem boundary_of_bound {before : Ordering → Bool} {position : Nat}
    (found : bound elements key before = .ok position) :
    Boundary elements key before position := by
  obtain ⟨landing, -, lands, told⟩ := exists_landing_bound elements key before
  have above : ∀ {verdict}, bounding before verdict = .above → before verdict = true := by
    intro verdict sent
    by_contra fails
    rw [bounding, if_neg fails] at sent
    cases sent
  have below : ∀ {verdict}, bounding before verdict = .below → before verdict = false := by
    intro verdict sent
    by_contra holds
    rw [bounding, if_pos (Bool.eq_true_of_not_eq_false holds)] at sent
    cases sent
  rw [told] at found
  cases lands with
  | failed present refused => cases found
  | hit sent =>
      obtain ⟨element, verdict, -, -, here⟩ := sent
      rw [bounding] at here
      split at here <;> cases here
  | gap edges =>
      obtain rfl := Except.ok.inj found
      refine ⟨edges.inside, edges.lower.imp_right ?_, edges.upper.imp_right ?_⟩
      · rintro ⟨element, verdict, holds, answered, sent⟩
        exact ⟨element, verdict, holds, answered, above sent⟩
      · rintro ⟨element, verdict, holds, answered, sent⟩
        exact ⟨element, verdict, holds, answered, below sent⟩

/-- A position is confirmed by an element that is there and equal to the key. -/
theorem meetsAt_of_confirm {place position : Nat}
    (confirmed : confirm elements key place = .ok (some position)) :
    place = position ∧ MeetsAt elements key position := by
  unfold confirm at confirmed
  cases holds : elements[place]? with
  | none =>
      rw [holds] at confirmed
      cases confirmed
  | some element =>
      rw [holds] at confirmed
      obtain ⟨equal, compared, returned⟩ := bind_eq_ok_iff.mp confirmed
      cases equal with
      | false => cases returned
      | true =>
          obtain rfl := Option.some.inj (Except.ok.inj returned)
          exact ⟨rfl, element, holds, order_eq_of_equal compared⟩

/-- The first of a run is found: what stands before it is less than the key. -/
theorem first_of_firstByHalving {position : Nat}
    (found : firstByHalving elements key = .ok (some position)) :
    MeetsAt elements key position ∧ (position = 0 ∨ ∃ element,
      elements[position - 1]? = some element ∧ element.order key = .ok .lt) := by
  obtain ⟨place, bounded, confirmed⟩ := bind_eq_ok_iff.mp found
  obtain ⟨rfl, meets⟩ := meetsAt_of_confirm confirmed
  refine ⟨meets, (boundary_of_bound bounded).lower.imp_right ?_⟩
  rintro ⟨element, verdict, holds, answered, less⟩
  cases verdict with
  | lt => exact ⟨element, holds, answered⟩
  | eq => cases less
  | gt => cases less

/-- The last of a run is found: what stands after it is greater than the key. -/
theorem last_of_lastByHalving {position : Nat}
    (found : lastByHalving elements key = .ok (some position)) :
    MeetsAt elements key position ∧ (position + 1 = elements.length ∨ ∃ element,
      elements[position + 1]? = some element ∧ element.order key = .ok .gt) := by
  obtain ⟨place, bounded, confirmed⟩ := bind_eq_ok_iff.mp found
  cases place with
  | zero => cases confirmed
  | succ place =>
      obtain ⟨rfl, meets⟩ := meetsAt_of_confirm confirmed
      refine ⟨meets, (boundary_of_bound bounded).upper.imp_right ?_⟩
      rintro ⟨element, verdict, holds, answered, greater⟩
      cases verdict with
      | gt => exact ⟨element, holds, answered⟩
      | eq => cases greater
      | lt => cases greater

end Found

/-! ## Comparisons that cannot fail -/

section Compared

variable (compared : ∀ element ∈ elements, ∃ verdict, element.order key = .ok verdict)

/-- In a homogeneous array of a constructible kind every element can be compared with a key of that
kind. -/
theorem exists_order {array : CellArray} (storable : array.kind.isConstructible = true)
    (uniform : array.Homogeneous) (same : key.kind = array.kind) :
    ∀ element ∈ array.elements, ∃ verdict, element.order key = .ok verdict := by
  intro element present
  exact (Cell.ordersTotally storable).compares element key (uniform element present) same

include compared

/-- The loop does not fail where every comparison gives an answer. -/
theorem Lands.exists_ok {ended : Except Failure Landing} (lands : Lands elements key judge ended) :
    ∃ landing, ended = .ok landing := by
  cases lands with
  | failed present refused =>
      obtain ⟨verdict, answered⟩ := compared _ present
      rw [answered] at refused
      cases refused
  | hit sent => exact ⟨_, rfl⟩
  | gap edges => exact ⟨_, rfl⟩

theorem exists_byHalving : ∃ found, byHalving elements key = .ok found := by
  obtain ⟨_, -, lands, told⟩ := exists_landing_byHalving elements key
  obtain ⟨landing, rfl⟩ := lands.exists_ok compared
  exact ⟨_, told⟩

theorem exists_bound (before : Ordering → Bool) :
    ∃ position, bound elements key before = .ok position := by
  obtain ⟨_, -, lands, told⟩ := exists_landing_bound elements key before
  obtain ⟨landing, rfl⟩ := lands.exists_ok compared
  exact ⟨_, told⟩

end Compared

/-! ## Main statement -/

/-- What searching by halving can be relied on for, in whatever order the elements are. -/
structure Dependable (array : CellArray) (key : Cell) : Prop where
  /-- The search for any equal element ends inside the array after as many turns as the length has
  binary digits. -/
  probes : ∃ landing,
    descend? array.elements key probing array.length.size 0 array.length = some landing
      ∧ byHalving array.elements key = Landing.hit? <$> landing
  /-- So does the search for a boundary. -/
  bounds : ∀ before, ∃ landing,
    descend? array.elements key (bounding before) array.length.size 0 array.length = some landing
      ∧ bound array.elements key before = Landing.position <$> landing
  any : ∀ position, binary.find array.toCell key = .ok position →
    MeetsAt array.elements key position
  first : ∀ position, binaryFirst.find array.toCell key = .ok position →
    MeetsAt array.elements key position ∧ (position = 0 ∨ ∃ element,
      array.elements[position - 1]? = some element ∧ element.order key = .ok .lt)
  last : ∀ position, binaryLast.find array.toCell key = .ok position →
    MeetsAt array.elements key position ∧ (position + 1 = array.length ∨ ∃ element,
      array.elements[position + 1]? = some element ∧ element.order key = .ok .gt)
  boundary : ∀ before position, bound array.elements key before = .ok position →
    Boundary array.elements key before position
  returns : array.kind.isConstructible = true → ∀ before, ∃ position,
    bound array.elements key before = .ok position

end Search

/-- **Halving a homogeneous array never misleads, whatever the order of its elements**: it ends, it
stays inside, and what it finds is there. -/
theorem halving_never_misleads {array : CellArray} {key : Cell} (uniform : array.Homogeneous)
    (same : key.kind = array.kind) : Search.Dependable array key where
  probes := by
    obtain ⟨landing, ended, -, told⟩ := Search.exists_landing_byHalving array.elements key
    exact ⟨landing, ended, told⟩
  bounds before := by
    obtain ⟨landing, ended, -, told⟩ := Search.exists_landing_bound array.elements key before
    exact ⟨landing, ended, told⟩
  any _ found := Search.meetsAt_of_byHalving (Search.look_of_find found)
  first _ found := Search.first_of_firstByHalving (Search.look_of_find found)
  last _ found := Search.last_of_lastByHalving (Search.look_of_find found)
  boundary _ _ := Search.boundary_of_bound
  returns storable := Search.exists_bound (Search.exists_order storable uniform same)

/-- Doubles in no order: an infinity, a number that is not one, and the two zeros. -/
def unsortedDoubles : CellArray :=
  ⟨.double, [.double 0x7FF0000000000000, .double 0x8000000000000000, .double 0xFFF8000000000001,
    .double 0]⟩

theorem halving_never_misleads_unsorted :
    ¬ Cell.Nondecreasing unsortedDoubles.elements
      ∧ (unsortedDoubles.Homogeneous ∧ (Cell.double 0).kind = unsortedDoubles.kind)
      ∧ Search.Dependable unsortedDoubles (.double 0) := by
  have uniform : unsortedDoubles.Homogeneous := by
    unfold CellArray.Homogeneous
    decide
  refine ⟨?_, ⟨uniform, rfl⟩, halving_never_misleads uniform rfl⟩
  unfold Cell.Nondecreasing
  decide

end TaggedCells

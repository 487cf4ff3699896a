import TaggedCells.Proofs.Sorting.Arrangement

/-!
# Sorting in place

The five algorithms as they run on the storage of an array: positions are read, exchanged and
emptied one at a time, and a slice is cut in two where an algorithm works on its parts. Every
access is checked. A position outside the slice, a difference below zero or a cut behind the end
gives no result at all, and so does every run that meets one.

None of the runs meets one: each gives the result of the algorithm on lists
(`inPlace_eq_arrange`). The invariants have one form. The slice is cut at the position that the
run has come to, and the parts are what the algorithm on lists holds at that moment.

Merging empties the positions it has taken elements from. The merged elements fill all of them
again, so no emptied position is left (`mergeInPlace_eq_merging`).
-/

set_option autoImplicit false

namespace TaggedCells
namespace Sorting

variable {α : Type}

/-! ## Checked access -/

/-- The difference of two numbers, if it is not below zero. -/
def minus? (whole part : Nat) : Option { rest : Nat // rest + part = whole } :=
  if fits : part ≤ whole then some ⟨whole - part, Nat.sub_add_cancel fits⟩ else none

/-- Exchanges the elements at two positions, if the slice has both. -/
def exchange? (items : List α) (first second : Nat) : Option (List α) := do
  let left ← items[first]?
  let right ← items[second]?
  return (items.set first right).set second left

/-- The parts of a slice before and from a position, if the slice reaches that far. -/
def split? (items : List α) (place : Nat) :
    Option { parts : List α × List α // parts.1.length = place ∧ parts.1 ++ parts.2 = items } :=
  if fits : place ≤ items.length then
    some ⟨(items.take place, items.drop place), List.length_take_of_le fits,
      List.take_append_drop place items⟩
  else none

theorem minus?_eq_some {whole part rest : Nat} (parts : rest + part = whole) :
    minus? whole part = some ⟨rest, parts⟩ := by
  subst parts
  simp [minus?]

theorem length_exchange? {items exchanged : List α} {first second : Nat}
    (done : exchange? items first second = some exchanged) :
    exchanged.length = items.length := by
  simp only [exchange?, Option.bind_eq_bind, Option.bind_eq_some_iff] at done
  obtain ⟨left, _, right, _, written⟩ := done
  obtain rfl := Option.some.inj written
  simp

theorem exchange?_self (items : List α) {place : Nat} (inside : place < items.length) :
    exchange? items place place = some items := by
  simp [exchange?, inside]

theorem exchange?_comm (items : List α) (first second : Nat) :
    exchange? items first second = exchange? items second first := by
  by_cases same : first = second
  · rw [same]
  · cases left : items[first]? <;> cases right : items[second]? <;>
      simp [exchange?, left, right, List.set_comm _ _ same]

/-- An element changes places with one of those after it, and everything else stays. -/
theorem exchange?_ahead (front : List α) (item : α) {rest : List α} {offset : Nat} {chosen : α}
    (atOffset : rest[offset]? = some chosen) :
    exchange? (front ++ item :: rest) front.length (front.length + 1 + offset)
      = some (front ++ chosen :: rest.set offset item) := by
  have beyond : front.length ≤ front.length + 1 + offset := by omega
  have further : front.length + 1 + offset - front.length = offset + 1 := by omega
  simp [exchange?, List.getElem?_append_right beyond, further, atOffset,
    List.set_append_right _ _ beyond]

theorem exchange?_next (front back : List α) (left right : α) :
    exchange? (front ++ left :: right :: back) front.length (front.length + 1)
      = some (front ++ right :: left :: back) :=
  exchange?_ahead front left (show (right :: back)[0]? = some right from rfl)

/-- Exchanging an element with the first of those just before it turns these by one place. -/
theorem exchange?_turn (front others back : List α) (item : α) :
    exchange? (front ++ others ++ item :: back) front.length (front ++ others).length
      = some (front ++ item :: (turn others ++ back)) := by
  cases others with
  | nil => simp [turn, exchange?_self]
  | cons first others =>
      have atItem : (others ++ item :: back)[others.length]? = some item := by simp
      have ahead := exchange?_ahead front first atItem
      simpa [turn, Nat.add_assoc, Nat.add_comm 1] using ahead

theorem split?_eq_some {items front back : List α} {place : Nat} (size : front.length = place)
    (whole : front ++ back = items) :
    split? items place = some ⟨(front, back), size, whole⟩ := by
  subst size whole
  simp [split?]

variable (key : α → Int)

/-! ## Adjacent exchanges -/

/-- One pass over `count` pairs of neighbours, the first of them at `place`. -/
def bubblePass : (count place : Nat) → Bool → List α → Option (List α × Bool)
  | 0, _, exchanged, items => some (items, exchanged)
  | count + 1, place, exchanged, items => do
      let here ← items[place]?
      let next ← items[place + 1]?
      if key next < key here then
        bubblePass count (place + 1) true (← exchange? items place (place + 1))
      else bubblePass count (place + 1) exchanged items

/-- At most `count` passes, the first of them numbered `pass`: each leaves out as many places at
the end as there were passes before it, and one that exchanges nothing is the last. -/
def bubblePasses : (count pass : Nat) → List α → Option (List α)
  | 0, _, items => some items
  | count + 1, pass, items => do
      let ⟨last, _⟩ ← minus? items.length 1
      let ⟨pairs, _⟩ ← minus? last pass
      let (items, exchanged) ← bubblePass key pairs 0 false items
      if exchanged then bubblePasses count (pass + 1) items else return items

/-- Sorts a slice by adjacent exchanges. -/
def bubbleInPlace (items : List α) : Option (List α) := bubblePasses key items.length 0 items

theorem bubblePass_eq_carry (front elements back : List α) (held : α) (exchanged : Bool) :
    bubblePass key elements.length front.length exchanged (front ++ held :: (elements ++ back))
      = some (front ++ (carry key held elements).passed
          ++ (carry key held elements).carried :: back,
        exchanged || (carry key held elements).exchanged) := by
  induction elements generalizing front held exchanged with
  | nil => simp [bubblePass, carry]
  | cons next rest ih =>
      have swapped := exchange?_next front (rest ++ back) held next
      by_cases smaller : key next < key held
      · have onward := ih (front ++ [next]) held true
        simp only [List.length_append, List.length_singleton, List.append_assoc,
          List.singleton_append] at onward
        simp [bubblePass, carry, smaller, swapped, onward]
      · have onward := ih (front ++ [held]) next exchanged
        simp only [List.length_append, List.length_singleton, List.append_assoc,
          List.singleton_append] at onward
        simp [bubblePass, carry, smaller, onward]

theorem bubblePasses_eq_bubble (elements settled : List α) :
    bubblePasses key elements.length settled.length (elements ++ settled)
      = some (bubble key elements ++ settled) := by
  induction size : elements.length generalizing elements settled with
  | zero =>
      obtain rfl := List.length_eq_zero_iff.mp size
      simp [bubblePasses, bubble]
  | succ count ih =>
      obtain ⟨first, rest, rfl⟩ := List.exists_cons_of_length_eq_add_one size
      obtain rfl : rest.length = count := Nat.succ.inj size
      have whole : rest.length + settled.length + 1 = ((first :: rest) ++ settled).length := by
        simp only [List.length_append, List.length_cons]
        omega
      have passed := bubblePass_eq_carry key [] rest settled first false
      simp only [List.nil_append, List.length_nil, Bool.false_or] at passed
      have onward := ih (carry key first rest).passed
        ((carry key first rest).carried :: settled) (length_carry key first rest)
      rw [bubblePasses, minus?_eq_some whole]
      simp only [Option.bind_eq_bind, Option.bind_some, minus?_eq_some rfl, List.cons_append,
        passed]
      rw [bubble]
      cases moved : (carry key first rest).exchanged with
      | false => simp
      | true => simpa using onward

/-- **Adjacent exchanges in place never leave the slice.** -/
theorem bubbleInPlace_eq_bubble (items : List α) :
    bubbleInPlace key items = some (bubble key items) := by
  simpa [bubbleInPlace] using bubblePasses_eq_bubble key items []

/-! ## Insertion -/

/-- Exchanges the element at a position with the one before it, for as long as there is one and
its key is greater than the bound. -/
def sink (bound : Int) (place : Nat) (items : List α) : Option (List α) :=
  if 0 < place then do
    let ⟨before, _below⟩ ← minus? place 1
    let neighbour ← items[before]?
    if bound < key neighbour then sink bound before (← exchange? items before place)
    else return items
  else return items
  termination_by place

/-- Sinks the elements at `count` positions one after the other, the first of them at `place`. -/
def sinkEach : (count place : Nat) → List α → Option (List α)
  | 0, _, items => some items
  | count + 1, place, items => do
      let item ← items[place]?
      sinkEach count (place + 1) (← sink key (key item) place items)

/-- Sorts a slice by insertion. -/
def insertionInPlace (items : List α) : Option (List α) := sinkEach key (items.length - 1) 1 items

theorem sink_eq_settle (settled back : List α) (item : α) :
    sink key (key item) settled.length (settled.reverse ++ item :: back)
      = some ((settle key item settled).reverse ++ back) := by
  induction settled generalizing back with
  | nil => simp [sink, settle]
  | cons nearest further ih =>
      have swapped := exchange?_next further.reverse back nearest item
      rw [List.length_reverse] at swapped
      have neighbour : (further.reverse ++ nearest :: item :: back)[further.length]?
          = some nearest := by simp
      rw [sink]
      simp only [List.length_cons, Nat.zero_lt_succ, if_true, minus?_eq_some rfl,
        Option.bind_eq_bind, Option.bind_some, List.reverse_cons, List.append_assoc,
        List.singleton_append, neighbour]
      by_cases greater : key item < key nearest
      · simp [settle, greater, swapped, ih (nearest :: back)]
      · simp [settle, greater]

theorem sinkEach_eq_settle (settled elements : List α) :
    sinkEach key elements.length settled.length (settled.reverse ++ elements)
      = some (elements.foldl (fun held item => settle key item held) settled).reverse := by
  induction elements generalizing settled with
  | nil => simp [sinkEach]
  | cons item rest ih =>
      have sunk := sink_eq_settle key settled rest item
      have counted : (settle key item settled).length = settled.length + 1 :=
        (settle_perm key item settled).length_eq
      have onward := ih (settle key item settled)
      rw [counted] at onward
      simp [sinkEach, sunk, onward]

/-- **Insertion in place never leaves the slice.** -/
theorem insertionInPlace_eq_insertion (items : List α) :
    insertionInPlace key items = some (insertion key items) := by
  cases items with
  | nil => simp [insertionInPlace, insertion, sinkEach]
  | cons first rest => simpa [insertionInPlace, insertion, settle] using
      sinkEach_eq_settle key [first] rest

/-! ## Selection -/

/-- The position of a least key among the one at `least` and those at `count` positions, the
first of them at `place`. -/
def leastPlace (items : List α) : (count place least : Nat) → Option Nat
  | 0, _, least => some least
  | count + 1, place, least => do
      let next ← items[place]?
      let held ← items[least]?
      leastPlace items count (place + 1) (if key next < key held then place else least)

/-- Brings a least key to each of `count` positions, the first of them at `place`. -/
def selectEach : (count place : Nat) → List α → Option (List α)
  | 0, _, items => some items
  | count + 1, place, items => do
      let least ← leastPlace key items (items.length - (place + 1)) (place + 1) place
      if least = place then selectEach count (place + 1) items
      else selectEach count (place + 1) (← exchange? items place least)

/-- Sorts a slice by selection. -/
def selectionInPlace (items : List α) : Option (List α) := selectEach key items.length 0 items

theorem leastPlace_eq_leastBelow (front elements : List α) {held : α} {least : Nat}
    (holds : (front ++ elements)[least]? = some held) :
    leastPlace key (front ++ elements) elements.length front.length least
      = some ((leastBelow key held elements).elim least (front.length + ·)) := by
  induction elements generalizing front held least with
  | nil => simp [leastPlace, leastBelow]
  | cons next rest ih =>
      have here : (front ++ next :: rest)[front.length]? = some next := by simp
      have split : front ++ next :: rest = front ++ [next] ++ rest := by simp
      simp only [List.length_cons, leastPlace, here, holds, Option.bind_eq_bind, Option.bind_some]
      by_cases smaller : key next < key held
      · have onward := ih (front ++ [next]) (split ▸ here)
        rw [← split, List.length_append, List.length_singleton] at onward
        rw [if_pos smaller, onward, leastBelow, if_pos smaller]
        cases leastBelow key next rest with
        | none => simp
        | some lower => simp; omega
      · have onward := ih (front ++ [next]) (split ▸ holds)
        rw [← split, List.length_append, List.length_singleton] at onward
        rw [if_neg smaller, onward, leastBelow, if_neg smaller]
        cases leastBelow key held rest with
        | none => simp
        | some lower => simp; omega

theorem selectEach_eq_selection (front elements : List α) :
    selectEach key elements.length front.length (front ++ elements)
      = some (front ++ selection key elements) := by
  induction size : elements.length generalizing front elements with
  | zero =>
      obtain rfl := List.length_eq_zero_iff.mp size
      simp [selectEach, selection]
  | succ count ih =>
      obtain ⟨first, rest, rfl⟩ := List.exists_cons_of_length_eq_add_one size
      obtain rfl : rest.length = count := Nat.succ.inj size
      have others : (front ++ first :: rest).length - (front.length + 1) = rest.length := by
        simp only [List.length_append, List.length_cons]
        omega
      have held : (front ++ [first] ++ rest)[front.length]? = some first := by simp
      have scanned := leastPlace_eq_leastBelow key (front ++ [first]) rest held
      simp only [List.length_append, List.length_singleton, List.append_assoc,
        List.singleton_append] at scanned
      have minimal := leastBelow_spec key first rest
      rw [selectEach, others, scanned, selection]
      cases found : leastBelow key first rest with
      | none => simpa using ih (front ++ [first]) rest rfl
      | some place =>
          rw [found] at minimal
          obtain ⟨least, atPlace, -, -⟩ := minimal
          have swapped := exchange?_ahead front first atPlace
          have elsewhere : front.length + 1 + place ≠ front.length := by omega
          have onward := ih (front ++ [least]) (rest.set place first) (by simp)
          simp only [List.length_append, List.length_singleton, List.append_assoc,
            List.singleton_append] at onward
          simp [elsewhere, swapped, onward, List.getD, atPlace]

/-- **Selection in place never leaves the slice.** -/
theorem selectionInPlace_eq_selection (items : List α) :
    selectionInPlace key items = some (selection key items) :=
  selectEach_eq_selection key [] items

/-! ## Merging -/

/-- Takes the elements at `count` positions out, the first of them at `place`, and leaves the
placeholder at each. -/
def drain (vacant : α) : (count place : Nat) → (merged items : List α) → Option (List α × List α)
  | 0, _, merged, items => some (merged, items)
  | count + 1, place, merged, items => do
      let item ← items[place]?
      drain vacant count (place + 1) (merged ++ [item]) (items.set place vacant)

/-- The number of positions from `start` up to `stop`, if the slice has them all. -/
def span? (items : List α) (start stop : Nat) : Option Nat :=
  if start ≤ stop ∧ stop ≤ items.length then some (stop - start) else none

/-- Takes the smaller of the elements at two positions, one on each side of the middle, until
a side has none left, and then what the other side has left. -/
def mergeFrom (vacant : α) (middle stop front back : Nat) (merged items : List α) :
    Option (List α × List α) :=
  if front < middle ∧ back < stop then do
    let left ← items[front]?
    let right ← items[back]?
    if key right < key left then
      mergeFrom vacant middle stop front (back + 1) (merged ++ [right]) (items.set back vacant)
    else
      mergeFrom vacant middle stop (front + 1) back (merged ++ [left]) (items.set front vacant)
  else do
    let (merged, items) ← drain vacant (← span? items front middle) front merged items
    drain vacant (← span? items back stop) back merged items
  termination_by (middle - front) + (stop - back)

/-- Writes values over the elements, position by position, for as long as there are both. -/
def refill : (items values : List α) → List α
  | _ :: items, value :: values => value :: refill items values
  | items, [] => items
  | [], _ => []

/-- Sorts a slice by merging its sorted halves. -/
def mergeInPlace (vacant : α) (items : List α) : Option (List α) :=
  if items.length < 2 then return items
  else do
    let middle := items.length / 2
    let ⟨(front, back), _cut⟩ ← split? items middle
    let sorted := (← mergeInPlace vacant front) ++ (← mergeInPlace vacant back)
    let (merged, emptied) ← mergeFrom key vacant middle items.length 0 middle [] sorted
    return refill emptied merged
  termination_by items.length
  decreasing_by
    all_goals
      obtain ⟨size, whole⟩ := _cut
      have counted := congrArg List.length whole
      simp only [List.length_append] at counted size
      omega

theorem drain_eq (vacant : α) (front middle back merged : List α) :
    drain vacant middle.length front.length merged (front ++ middle ++ back)
      = some (merged ++ middle, front ++ List.replicate middle.length vacant ++ back) := by
  induction middle generalizing front merged with
  | nil => simp [drain]
  | cons item rest ih =>
      have onward := ih (front ++ [vacant]) (merged ++ [item])
      simp only [List.length_append, List.length_singleton, List.append_assoc, List.cons_append,
        List.nil_append] at onward
      simp [drain, onward, List.replicate_succ]

theorem span?_eq_some {items : List α} {start stop : Nat} (ordered : start ≤ stop)
    (inside : stop ≤ items.length) : span? items start stop = some (stop - start) := by
  simp [span?, ordered, inside]

/-- When a side has none left, the other follows. -/
theorem mergeFrom_exhausted (vacant : α) (before lefts between rights merged : List α)
    (exhausted : lefts = [] ∨ rights = []) :
    ∃ emptied : List α,
      emptied.length = (before ++ lefts ++ between ++ rights).length
        ∧ mergeFrom key vacant (before ++ lefts).length
            (before ++ lefts ++ between ++ rights).length before.length
            (before ++ lefts ++ between).length merged
            (before ++ lefts ++ between ++ rights)
          = some (merged ++ lefts ++ rights, emptied) := by
  have stopped : ¬(before.length < (before ++ lefts).length
      ∧ (before ++ lefts ++ between).length < (before ++ lefts ++ between ++ rights).length) := by
    rcases exhausted with rfl | rfl <;> simp
  have first := drain_eq vacant before lefts (between ++ rights) merged
  have second := drain_eq vacant (before ++ List.replicate lefts.length vacant ++ between) rights []
    (merged ++ lefts)
  refine ⟨before ++ List.replicate lefts.length vacant ++ between
    ++ List.replicate rights.length vacant, by simp, ?_⟩
  rw [mergeFrom, if_neg stopped, span?_eq_some (by simp) (by simp)]
  simp only [List.length_append, List.length_replicate, List.append_assoc, List.append_nil,
    Nat.add_sub_cancel_left, Option.bind_eq_bind, Option.bind_some] at first second ⊢
  rw [first]
  simp only [Option.bind_some]
  have rest : before.length + (lefts.length + (between.length + rights.length))
      - (before.length + (lefts.length + between.length)) = rights.length := by omega
  rw [span?_eq_some (by omega) (by simp), rest, Option.bind_some, second]

/-- What the sides have left is merged behind what has been merged so far. -/
theorem mergeFrom_eq_merge (vacant : α) (before lefts between rights merged : List α) :
    ∃ emptied : List α,
      emptied.length = (before ++ lefts ++ between ++ rights).length
        ∧ mergeFrom key vacant (before ++ lefts).length
            (before ++ lefts ++ between ++ rights).length before.length
            (before ++ lefts ++ between).length merged
            (before ++ lefts ++ between ++ rights)
          = some (merged ++ lefts.merge rights fun left right => !(key right < key left),
            emptied) := by
  -- each step moves one element of a side behind the merged ones and empties its position, which
  -- then belongs to the stretch in front of that side
  induction size : lefts.length + rights.length
      generalizing before lefts between rights merged with
  | zero =>
      obtain rfl := List.length_eq_zero_iff.mp (show lefts.length = 0 by omega)
      simpa using mergeFrom_exhausted key vacant before [] between rights merged (.inl rfl)
  | succ count ih =>
    cases lefts with
    | nil => simpa using mergeFrom_exhausted key vacant before [] between rights merged (.inl rfl)
    | cons left lefts =>
      cases rights with
      | nil =>
          simpa using
            mergeFrom_exhausted key vacant before (left :: lefts) between [] merged (.inr rfl)
      | cons right rights =>
          simp only [List.length_cons] at size
          have running : before.length < (before ++ left :: lefts).length
              ∧ (before ++ left :: lefts ++ between).length
                < (before ++ left :: lefts ++ between ++ right :: rights).length := by simp
          have atFront : (before ++ left :: lefts ++ between ++ right :: rights)[before.length]?
              = some left := by simp
          have atBack : (before ++ left :: lefts ++ between ++ right :: rights)[
              (before ++ left :: lefts ++ between).length]? = some right := by simp
          rw [mergeFrom, if_pos running, atFront, atBack]
          simp only [Option.bind_eq_bind, Option.bind_some]
          by_cases smaller : key right < key left
          · obtain ⟨emptied, sized, onward⟩ := ih before (left :: lefts) (between ++ [vacant])
              rights (merged ++ [right]) (by simp only [List.length_cons]; omega)
            refine ⟨emptied, by simpa using sized, ?_⟩
            have taken : (before ++ left :: lefts ++ between ++ right :: rights).set
                (before ++ left :: lefts ++ between).length vacant
                  = before ++ left :: lefts ++ between ++ vacant :: rights := by
              rw [List.set_append_right _ _ (le_refl _)]
              simp
            rw [if_pos smaller, taken]
            simpa [List.merge, smaller, Nat.add_assoc] using onward
          · obtain ⟨emptied, sized, onward⟩ := ih (before ++ [vacant]) lefts between
              (right :: rights) (merged ++ [left]) (by simp only [List.length_cons]; omega)
            refine ⟨emptied, by simpa using sized, ?_⟩
            rw [if_neg smaller]
            simpa [List.merge, smaller, Nat.add_assoc, Nat.add_comm 1] using onward

theorem refill_eq_values {items values : List α} (size : values.length = items.length) :
    refill items values = values := by
  induction values generalizing items with
  | nil =>
      obtain rfl := List.length_eq_zero_iff.mp size.symm
      rfl
  | cons value rest ih =>
      obtain ⟨item, items, rfl⟩ := List.exists_cons_of_length_eq_add_one size.symm
      rw [refill, ih (Nat.succ.inj size)]

/-- **Merging in place never leaves the slice, and leaves no position empty.** -/
theorem mergeInPlace_eq_merging (vacant : α) (items : List α) :
    mergeInPlace key vacant items = some (merging key items) := by
  induction size : items.length using Nat.strong_induction_on generalizing items with
  | h length ih =>
    rw [mergeInPlace, merging]
    by_cases short : items.length < 2
    · rw [if_pos short, if_pos short]
      rfl
    · rw [if_neg short, if_neg short]
      have half : (items.take (items.length / 2)).length = items.length / 2 := by
        rw [List.length_take]
        omega
      have cut := split?_eq_some half (List.take_append_drop (items.length / 2) items)
      have front := ih _ (by omega) (items.take (items.length / 2)) rfl
      have back := ih _ (by rw [List.length_drop]; omega) (items.drop (items.length / 2)) rfl
      have frontKept := (merging_arranges key (items.take (items.length / 2))).perm
      have backKept := (merging_arranges key (items.drop (items.length / 2))).perm
      have frontSize := frontKept.length_eq.trans half
      have wholeSize := (frontKept.append backKept).length_eq
      rw [List.take_append_drop] at wholeSize
      obtain ⟨emptied, sized, merged⟩ := mergeFrom_eq_merge key vacant []
        (merging key (items.take (items.length / 2))) []
        (merging key (items.drop (items.length / 2))) []
      simp only [List.nil_append, List.append_nil, List.length_nil, frontSize, wholeSize] at merged
      simp only [List.nil_append, List.append_nil] at sized
      simp only [cut, front, back, merged, Option.bind_eq_bind, Option.bind_some]
      refine congrArg some (refill_eq_values ?_)
      rw [sized, (List.merge_perm_append _).length_eq]

/-! ## Partition -/

/-- Exchanges each element of a smaller key than the pivot's with the one at `store`, which then
moves on. -/
def partitionFrom (pivot : Int) : (count place store : Nat) → List α → Option (List α × Nat)
  | 0, _, store, items => some (items, store)
  | count + 1, place, store, items => do
      let item ← items[place]?
      if key item < pivot then
        partitionFrom pivot count (place + 1) (store + 1) (← exchange? items place store)
      else partitionFrom pivot count (place + 1) store items

/-- Parts a slice by the key of its last element, and says where that element has come to. -/
def partition? (items : List α) : Option (List α × Nat) := do
  let ⟨last, _⟩ ← minus? items.length 1
  let pivot ← items[last]?
  let (items, store) ← partitionFrom key (key pivot) last 0 0 items
  return (← exchange? items store last, store)

theorem length_partitionFrom {pivot : Int} {count place store : Nat} {items parted : List α}
    {stored : Nat}
    (done : partitionFrom key pivot count place store items = some (parted, stored)) :
    parted.length = items.length := by
  induction count generalizing place store items with
  | zero =>
      simp only [partitionFrom, Option.some.injEq, Prod.mk.injEq] at done
      rw [done.1]
  | succ count ih =>
      simp only [partitionFrom, Option.bind_eq_bind, Option.bind_eq_some_iff] at done
      obtain ⟨item, -, done⟩ := done
      split at done
      · obtain ⟨exchanged, swapped, done⟩ := Option.bind_eq_some_iff.mp done
        rw [ih done, length_exchange? swapped]
      · exact ih done

theorem length_partition? {items parted : List α} {pivot : Nat}
    (done : partition? key items = some (parted, pivot)) : parted.length = items.length := by
  simp only [partition?, Option.bind_eq_bind, Option.bind_eq_some_iff] at done
  obtain ⟨last, _, held, _, scanned, found, exchanged, swapped, result⟩ := done
  obtain ⟨rfl, _⟩ := Prod.mk.inj (Option.some.inj result)
  rw [length_exchange? swapped, length_partitionFrom key found]

/-- Sorts a slice by partition: the shorter side in a call of its own, the longer one by going on
with this call. -/
def quickInPlace (items : List α) : Option (List α) :=
  if 1 < items.length then
    match _parted : partition? key items with
    | none => none
    | some (parted, place) => do
        let ⟨(left, rest), _cut⟩ ← split? parted place
        let ⟨(pivot, right), _apart⟩ ← split? rest 1
        if left.length < right.length then
          let left ← quickInPlace left
          return left ++ pivot ++ (← quickInPlace right)
        else
          let right ← quickInPlace right
          return (← quickInPlace left) ++ pivot ++ right
  else return items
  termination_by items.length
  decreasing_by
    all_goals
      have size := length_partition? key _parted
      have counted := congrArg List.length _cut.2
      have parts := congrArg List.length _apart.2
      have single := _apart.1
      simp only [List.length_append] at counted parts single
      omega

theorem partitionFrom_eq_scan (pivot : Int) (smaller others elements back : List α) :
    partitionFrom key pivot elements.length (smaller ++ others).length smaller.length
        (smaller ++ others ++ elements ++ back)
      = some ((scan key pivot smaller others elements).1
            ++ (scan key pivot smaller others elements).2 ++ back,
          (scan key pivot smaller others elements).1.length) := by
  induction elements generalizing smaller others with
  | nil => simp [partitionFrom, scan]
  | cons next rest ih =>
      have here : (smaller ++ others ++ next :: rest ++ back)[(smaller ++ others).length]?
          = some next := by simp
      rw [List.length_cons, partitionFrom, here]
      simp only [Option.bind_eq_bind, Option.bind_some]
      by_cases less : key next < pivot
      · have moved := exchange?_turn smaller others (rest ++ back) next
        have onward := ih (smaller ++ [next]) (turn others)
        have counted : (smaller ++ [next] ++ turn others).length
            = (smaller ++ others).length + 1 := by
          simp only [List.length_append, List.length_singleton, length_turn]
          omega
        have stored : (smaller ++ [next]).length = smaller.length + 1 := by simp
        rw [counted, stored] at onward
        rw [if_pos less, scan, if_pos less, exchange?_comm]
        simp only [List.append_assoc, List.cons_append] at moved onward ⊢
        rw [moved]
        exact onward
      · have onward := ih smaller (others ++ [next])
        rw [if_neg less, scan, if_neg less]
        simpa [Nat.add_assoc] using onward

theorem partition?_concat (elements : List α) (pivot : α) :
    partition? key (elements ++ [pivot])
      = some ((sides key pivot elements).1 ++ pivot :: (sides key pivot elements).2,
        (sides key pivot elements).1.length) := by
  have whole : elements.length + 1 = (elements ++ [pivot]).length := by simp
  have held : (elements ++ [pivot])[elements.length]? = some pivot := by simp
  have scanned := partitionFrom_eq_scan key (key pivot) [] [] elements [pivot]
  simp only [List.append_nil, List.nil_append, List.length_nil] at scanned
  have counted := length_scan key (key pivot) [] [] elements
  simp only [List.length_nil, Nat.zero_add] at counted
  have settled := exchange?_turn (scan key (key pivot) [] [] elements).1
    (scan key (key pivot) [] [] elements).2 [] pivot
  rw [List.length_append, counted, List.append_nil] at settled
  rw [partition?, minus?_eq_some whole]
  simp only [Option.bind_eq_bind, Option.bind_some, held, scanned, settled]
  rfl

/-- **Partition in place never leaves the slice.** -/
theorem quickInPlace_eq_quick (items : List α) :
    quickInPlace key items = some (quick key items) := by
  induction size : items.length using Nat.strong_induction_on generalizing items with
  | h length ih =>
    rcases List.eq_nil_or_concat items with rfl | ⟨elements, pivot, rfl⟩
    · simp [quickInPlace, quick_nil]
    · rw [List.concat_eq_append] at size ⊢
      have parted := partition?_concat key elements pivot
      have counted := length_sides key pivot elements
      simp only [List.length_append, List.length_singleton] at size
      have left := ih _ (by omega) (sides key pivot elements).1 rfl
      have right := ih _ (by omega) (sides key pivot elements).2 rfl
      rw [quick_concat]
      by_cases alone : elements = []
      · subst alone
        simp [quickInPlace, sides, scan, turn, quick_nil]
      · have several : 1 < (elements ++ [pivot]).length := by
          have := List.length_pos_iff.mpr alone
          simp only [List.length_append, List.length_singleton]
          omega
        rw [quickInPlace, if_pos several]
        split
        · next none => rw [parted] at none; cases none
        · next found =>
          rw [parted] at found
          obtain ⟨rfl, rfl⟩ := Prod.mk.inj (Option.some.inj found)
          have apart := split?_eq_some (show [pivot].length = 1 from rfl)
            (show [pivot] ++ (sides key pivot elements).2 = pivot :: (sides key pivot elements).2
              from rfl)
          simp only [split?_eq_some rfl rfl, apart, Option.bind_eq_bind, Option.bind_some, left,
            right, ite_self]
          simp

end Sorting

/-- The algorithm on the storage of an array; merging leaves the placeholder where it has taken
an element out. -/
def SortAlgorithm.inPlace {α : Type} (algorithm : SortAlgorithm) (key : α → Int) (vacant : α) :
    List α → Option (List α) :=
  match algorithm with
  | .bubble => Sorting.bubbleInPlace key
  | .insertion => Sorting.insertionInPlace key
  | .selection => Sorting.selectionInPlace key
  | .merge => Sorting.mergeInPlace key vacant
  | .quick => Sorting.quickInPlace key

/-- **No algorithm leaves its slice, and each ends with the arrangement of the algorithm on
lists.** -/
theorem SortAlgorithm.inPlace_eq_arrange {α : Type} (algorithm : SortAlgorithm) (key : α → Int)
    (vacant : α) (items : List α) :
    algorithm.inPlace key vacant items = some (algorithm.arrange key items) := by
  cases algorithm with
  | bubble => exact Sorting.bubbleInPlace_eq_bubble key items
  | insertion => exact Sorting.insertionInPlace_eq_insertion key items
  | selection => exact Sorting.selectionInPlace_eq_selection key items
  | merge => exact Sorting.mergeInPlace_eq_merging key vacant items
  | quick => exact Sorting.quickInPlace_eq_quick key items

end TaggedCells

/-!
# Five ways of sorting

Adjacent exchanges: one pass walks over the elements and carries the largest key met so far to the
end, so each pass settles one more element there. A pass that exchanges nothing has found the
elements in order, and the sort stops with it.

Insertion: the elements are taken in order and each is brought down among those before it, past
every one of a greater key. Selection: the first element of least key is exchanged with the one in
front, and the rest is sorted in the same way.

Merging: the elements are cut in the middle, the halves are sorted, and the sorted halves are
merged. Of two front elements the right one is taken only if its key is smaller.

Partition: the last element is the pivot. A scan over the others exchanges each element of a
smaller key with the first of those that are not smaller, which leaves the smaller ones in front,
and a last exchange puts the pivot between the two sides. Each side is then sorted in the same way:
the shorter one in a call of its own, the longer one by going on with the same call. An exchange
takes the first of the elements that are not smaller and puts it behind them, so that side is
turned by one place at a time.
-/

set_option autoImplicit false

namespace TaggedCells.Sorting

variable {α : Type} (key : α → Int)

/-! ## Adjacent exchanges -/

/-- What a pass leaves: the elements it has passed by, the one it carried to the end, and
whether it exchanged any. -/
structure Pass (α : Type) where
  passed : List α
  carried : α
  exchanged : Bool

/-- Carries an element along. It is exchanged with each next element of a smaller key, and put
down for a next element of no smaller key, which is carried on in its place. -/
def carry (held : α) : List α → Pass α
  | [] => ⟨[], held, false⟩
  | next :: rest =>
      if key next < key held then
        let pass := carry held rest
        ⟨next :: pass.passed, pass.carried, true⟩
      else
        let pass := carry next rest
        ⟨held :: pass.passed, pass.carried, pass.exchanged⟩

/-- A pass leaves as many elements beside the carried one as it met. -/
theorem length_carry (held : α) (elements : List α) :
    (carry key held elements).passed.length = elements.length := by
  induction elements generalizing held with
  | nil => rfl
  | cons next rest step => unfold carry; split <;> simp [step]

/-- Sorts by passes over ever fewer elements, until one exchanges nothing. -/
def bubble : List α → List α
  | [] => []
  | first :: rest =>
      let pass := carry key first rest
      if pass.exchanged then bubble pass.passed ++ [pass.carried]
      else pass.passed ++ [pass.carried]
  termination_by elements => elements.length
  decreasing_by simp [length_carry]

/-! ## Insertion -/

/-- Brings an element down among sorted elements that are listed from the greatest key: it
passes those of a greater key and stays before the first of any other. -/
def settle (item : α) : List α → List α
  | [] => [item]
  | nearest :: further =>
      if key item < key nearest then nearest :: settle item further
      else item :: nearest :: further

/-- Sorts by settling one element after the other. -/
def insertion (elements : List α) : List α :=
  (elements.foldl (fun settled item => settle key item settled) []).reverse

/-! ## Selection -/

/-- The place of the first element of least key among those whose key is below that of the
held element, if there is any below it. -/
def leastBelow (held : α) : List α → Option Nat
  | [] => none
  | next :: rest =>
      if key next < key held then some (((leastBelow next rest).map (· + 1)).getD 0)
      else (leastBelow held rest).map (· + 1)

/-- Sorts by bringing an element of least key to the front. -/
def selection : List α → List α
  | [] => []
  | first :: rest =>
      match leastBelow key first rest with
      | none => first :: selection rest
      | some place => rest.getD place first :: selection (rest.set place first)
  termination_by elements => elements.length

/-! ## Merging -/

/-- Sorts by merging the sorted halves. -/
def merging (elements : List α) : List α :=
  if elements.length < 2 then elements
  else
    let middle := elements.length / 2
    (merging (elements.take middle)).merge (merging (elements.drop middle))
      fun left right => !(key right < key left)
  termination_by elements.length
  decreasing_by all_goals simp; omega

/-! ## Partition -/

/-- Puts the first element behind the others. -/
def turn : List α → List α
  | [] => []
  | first :: rest => rest ++ [first]

theorem length_turn (elements : List α) : (turn elements).length = elements.length := by
  cases elements <;> simp [turn]

/-- Scans elements into the two sides of a pivot key. -/
def scan (pivot : Int) (smaller others : List α) : List α → List α × List α
  | [] => (smaller, others)
  | next :: rest =>
      if key next < pivot then scan pivot (smaller ++ [next]) (turn others) rest
      else scan pivot smaller (others ++ [next]) rest

/-- The two sides that a pivot leaves among the other elements. -/
def sides (pivot : α) (elements : List α) : List α × List α :=
  let (smaller, others) := scan key (key pivot) [] [] elements
  (smaller, turn others)

/-- A scan puts every element on one of the sides. -/
theorem length_scan (pivot : Int) (smaller others elements : List α) :
    (scan key pivot smaller others elements).1.length
      + (scan key pivot smaller others elements).2.length
      = smaller.length + others.length + elements.length := by
  induction elements generalizing smaller others with
  | nil => simp [scan]
  | cons next rest step =>
      unfold scan
      split <;> rw [step] <;> simp [length_turn] <;> omega

/-- The sides have all elements but the pivot. -/
theorem length_sides (pivot : α) (elements : List α) :
    (sides key pivot elements).1.length + (sides key pivot elements).2.length
      = elements.length := by
  have scanned := length_scan key (key pivot) [] [] elements
  simpa [sides, length_turn] using scanned

/-- The two sides of the last element are together one element short. -/
theorem length_sides_last {pivot : α} {elements : List α} (last : elements.getLast? = some pivot) :
    (sides key pivot elements.dropLast).1.length + (sides key pivot elements.dropLast).2.length
      < elements.length := by
  have counted := length_sides key pivot elements.dropLast
  have occupied : elements ≠ [] := fun none => by simp [none] at last
  have := List.length_pos_iff.mpr occupied
  simp only [List.length_dropLast] at counted
  omega

/-- Sorts elements between those settled before them and those settled after them. The shorter
side of the last element is sorted in a call of its own, and this call goes on with the longer
one, so calls nest no deeper than the elements can be halved. -/
def sortBetween (before elements after : List α) : List α :=
  match _last : elements.getLast? with
  | none => before ++ after
  | some pivot =>
      let parts := sides key pivot elements.dropLast
      if parts.1.length < parts.2.length then
        sortBetween (before ++ sortBetween [] parts.1 [] ++ [pivot]) parts.2 after
      else
        sortBetween before parts.1 (pivot :: sortBetween [] parts.2 [] ++ after)
  termination_by elements.length
  decreasing_by
    all_goals
      have := length_sides_last key _last
      omega

/-- Sorts by settling each element between the smaller ones and the others. -/
def quick (elements : List α) : List α := sortBetween key [] elements []

/-- What is settled already stays in place around the sorted elements. -/
theorem sortBetween_eq (before elements after : List α) :
    sortBetween key before elements after = before ++ quick key elements ++ after := by
  unfold quick
  rw [sortBetween.eq_def key before, sortBetween.eq_def key [] elements []]
  split
  · simp
  · next pivot last =>
    have counted := length_sides_last key last
    dsimp only
    split
    · rw [sortBetween_eq _ (sides key pivot elements.dropLast).2,
        sortBetween_eq _ (sides key pivot elements.dropLast).2 []]
      simp
    · rw [sortBetween_eq _ (sides key pivot elements.dropLast).1,
        sortBetween_eq [] (sides key pivot elements.dropLast).1]
      simp
  termination_by elements.length

/-- A sorted sequence has the last element between the sorted sides that it parts. -/
theorem quick_concat (elements : List α) (pivot : α) :
    quick key (elements ++ [pivot])
      = quick key (sides key pivot elements).1
          ++ pivot :: quick key (sides key pivot elements).2 := by
  rw [quick, sortBetween]
  split
  · next none => simp at none
  · next last found =>
    obtain rfl : pivot = last := by simpa using found
    dsimp only
    rw [List.dropLast_concat]
    split <;> simp [sortBetween_eq]

end TaggedCells.Sorting

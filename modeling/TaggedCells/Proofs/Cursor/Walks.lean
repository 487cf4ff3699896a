import TaggedCells.Cursor
import TaggedCells.Words

/-!
# Walks of a cursor

A cursor that is moved about follows a walk over the whole numbers that is put back to the nearest
place of the sequence whenever a step leads out of it (`index_walk`). Where there are elements, the
steps that cannot be undone are exactly those; an empty sequence has one place only, so that there
every step is undone by the opposite one (`next_previous_iff`, `previous_next_iff`).

A cursor can be kept as a bare word beside its sequence. The word is moved by arithmetic that stays
at the least or the greatest word, and the elements from it on are there only if it has not passed
the end. However it is moved, it shows the position of the cursor (`Shows.walk`).
-/

set_option autoImplicit false

namespace TaggedCells

namespace Cursor

/-- A step of a walk. -/
inductive Step where
  | next
  | previous
  deriving DecidableEq

/-- The cursor after a step. -/
def move (cursor : Cursor) : Step → Cursor
  | .next => cursor.next
  | .previous => cursor.previous

/-- The cursor after a walk. -/
def walk (cursor : Cursor) (steps : List Step) : Cursor := steps.foldl move cursor

/-! ## Walks over the whole numbers -/

/-- Which way a step goes. -/
def Step.direction : Step → Int
  | .next => 1
  | .previous => -1

/-- The place nearest to a position: an element of a sequence of so many, or its end. -/
def nearest (length : Nat) (position : Int) : Int := max 0 (min position length)

/-- Where a walk leads from a position when it is put back to the nearest place at every step. -/
def clampedWalk (length : Nat) (position : Int) (steps : List Step) : Int :=
  steps.foldl (fun reached step => nearest length (reached + step.direction))
    (nearest length position)

variable {cursor : Cursor} {identity : Identity} {elements : List Cell}

theorem nearest_index (cursor : Cursor) :
    nearest cursor.elements.length cursor.index = cursor.index := by
  have within := cursor.index_le
  unfold nearest
  omega

theorem index_atIndex (index : Nat) :
    ((atIndex identity elements index).index : Int) = nearest elements.length index := by
  show ((min index elements.length : Nat) : Int) = _
  unfold nearest
  omega

/-- Cursors on one sequence are told apart by their positions. -/
theorem eq_of_index_eq {left right : Cursor} (identities : left.identity = right.identity)
    (sequences : left.elements = right.elements) (positions : left.index = right.index) :
    left = right := by
  cases left
  cases right
  subst identities sequences positions
  rfl

theorem identity_move (step : Step) : (cursor.move step).identity = cursor.identity := by
  cases step <;> rfl

theorem elements_move (step : Step) : (cursor.move step).elements = cursor.elements := by
  cases step <;> rfl

theorem index_move (step : Step) :
    ((cursor.move step).index : Int)
      = nearest cursor.elements.length (cursor.index + step.direction) := by
  cases step with
  | next => exact index_atIndex (cursor.index + 1)
  | previous =>
      have within := cursor.index_le
      show ((min (cursor.index - 1) cursor.elements.length : Nat) : Int)
        = max 0 (min ((cursor.index : Int) + -1) cursor.elements.length)
      omega

theorem walk_concat (steps : List Step) (step : Step) :
    cursor.walk (steps ++ [step]) = (cursor.walk steps).move step := by
  unfold walk
  rw [List.foldl_append]
  rfl

theorem walk_stays (cursor : Cursor) (steps : List Step) :
    (cursor.walk steps).identity = cursor.identity
      ∧ (cursor.walk steps).elements = cursor.elements := by
  induction steps generalizing cursor with
  | nil => exact ⟨rfl, rfl⟩
  | cons step rest ih =>
      obtain ⟨identities, sequences⟩ := ih (cursor.move step)
      exact ⟨identities.trans (identity_move step), sequences.trans (elements_move step)⟩

theorem index_walk (cursor : Cursor) (steps : List Step) :
    ((cursor.walk steps).index : Int) = clampedWalk cursor.elements.length cursor.index steps := by
  unfold clampedWalk
  rw [nearest_index]
  induction steps generalizing cursor with
  | nil => rfl
  | cons step rest ih =>
      have moved := ih (cursor.move step)
      rw [elements_move, index_move] at moved
      exact moved

/-! ## Steps that can be undone -/

theorem isEnd_iff : cursor.isEnd = true ↔ cursor.index = cursor.elements.length := beq_iff_eq

theorem isEnd_eq_false_iff : cursor.isEnd = false ↔ cursor.index < cursor.elements.length := by
  rw [← Bool.not_eq_true, isEnd_iff]
  exact (Nat.lt_iff_le_and_ne.trans (and_iff_right cursor.index_le)).symm

/-- A step forward is undone by one back, except where it leads past the end of some elements. -/
theorem next_previous_iff :
    cursor.next.previous = cursor ↔ cursor.isEnd = false ∨ cursor.elements = [] := by
  have within := cursor.index_le
  have index : cursor.next.previous.index
      = min (min (cursor.index + 1) cursor.elements.length - 1) cursor.elements.length := rfl
  rw [isEnd_eq_false_iff, ← List.length_eq_zero_iff]
  constructor
  · intro undone
    rw [undone] at index
    omega
  · intro inside
    exact eq_of_index_eq rfl rfl (index.trans (by omega))

/-- A step back is undone by one forward, except where it leads out before the first of some
elements. -/
theorem previous_next_iff :
    cursor.previous.next = cursor ↔ cursor.index ≠ 0 ∨ cursor.elements = [] := by
  have within := cursor.index_le
  have index : cursor.previous.next.index
      = min (min (cursor.index - 1) cursor.elements.length + 1) cursor.elements.length := rfl
  rw [← List.length_eq_zero_iff]
  constructor
  · intro undone
    rw [undone] at index
    omega
  · intro inside
    exact eq_of_index_eq rfl rfl (index.trans (by omega))

/-! ## Going through a sequence -/

theorem next_atIndex (index : Nat) :
    (atIndex identity elements index).next = atIndex identity elements (index + 1) := by
  refine eq_of_index_eq rfl rfl ?_
  show min (min index elements.length + 1) elements.length = min (index + 1) elements.length
  omega

/-- So many steps forward from the start lead to the position of their number. -/
theorem walk_replicate_next (count : Nat) :
    (start identity elements).walk (List.replicate count .next)
      = atIndex identity elements count := by
  induction count with
  | zero => rfl
  | succ count ih =>
      rw [List.replicate_succ', walk_concat, ih]
      exact next_atIndex count

theorem current?_atIndex (index : Nat) :
    (atIndex identity elements index).current? = elements[index]? := by
  show elements[min index elements.length]? = elements[index]?
  rcases Nat.lt_or_ge index elements.length with inside | beyond
  · rw [Nat.min_eq_left (Nat.le_of_lt inside)]
  · rw [Nat.min_eq_right beyond, List.getElem?_eq_none (Nat.le_refl _),
      List.getElem?_eq_none beyond]

theorem atIndex_of_length_le {index : Nat} (beyond : elements.length ≤ index) :
    atIndex identity elements index = stop identity elements := by
  refine eq_of_index_eq rfl rfl ?_
  show min index elements.length = min elements.length elements.length
  omega

end Cursor

/-! ## Positions in words -/

/-- A word beside a sequence, for a position on it. -/
structure WordCursor where
  elements : List Cell
  index : UInt64

namespace WordCursor

/-- The difference of two words, or zero. -/
def subSaturating (left right : UInt64) : UInt64 := UInt64.ofNat (left.toNat - right.toNat)

/-- The end position. -/
def endOf (elements : List Cell) : UInt64 := UInt64.ofNat elements.length

/-- A cursor at a position, or at the end if the position lies beyond it. -/
def atIndex (elements : List Cell) (index : UInt64) : WordCursor :=
  ⟨elements, if endOf elements < index then endOf elements else index⟩

/-- A cursor on the elements of the array that a cell holds. -/
def onCell (cell : Cell) (index : UInt64) : Except Failure WordCursor := do
  return atIndex (← cell.array? "cursor").elements index

/-- The cursor after a step. -/
def move (cursor : WordCursor) : Cursor.Step → WordCursor
  | .next => atIndex cursor.elements (addSaturating cursor.index 1)
  | .previous => atIndex cursor.elements (subSaturating cursor.index 1)

/-- The cursor after a walk. -/
def walk (cursor : WordCursor) (steps : List Cursor.Step) : WordCursor := steps.foldl move cursor

/-- The element under the cursor. -/
def current? (cursor : WordCursor) : Option Cell := cursor.elements[cursor.index.toNat]?

/-- Whether the cursor is at the end position. -/
def isEnd (cursor : WordCursor) : Bool := cursor.index == endOf cursor.elements

/-- The elements from the cursor on, where it has not passed the end. -/
def remaining? (cursor : WordCursor) : Option (List Cell) :=
  if cursor.index.toNat ≤ cursor.elements.length then
    some (cursor.elements.drop cursor.index.toNat)
  else none

/-- The word is the position of the cursor. -/
structure Shows (word : WordCursor) (cursor : Cursor) : Prop where
  elements : word.elements = cursor.elements
  index : word.index.toNat = cursor.index

variable {word : WordCursor} {cursor : Cursor} {identity : Identity} {elements : List Cell}

theorem toNat_endOf (fits : elements.length < 2 ^ (64 : Nat)) :
    (endOf elements).toNat = elements.length :=
  UInt64.toNat_ofNat_of_lt' fits

theorem toNat_subSaturating (left right : UInt64) :
    (subSaturating left right).toNat = left.toNat - right.toNat :=
  UInt64.toNat_ofNat_of_lt' (Nat.lt_of_le_of_lt (Nat.sub_le _ _) left.toNat_lt)

theorem toNat_atIndex (fits : elements.length < 2 ^ (64 : Nat)) (index : UInt64) :
    (atIndex elements index).index.toNat = min index.toNat elements.length := by
  have last := toNat_endOf fits
  unfold atIndex
  split
  case isTrue beyond =>
      rw [UInt64.lt_iff_toNat_lt, last] at beyond
      rw [last, Nat.min_eq_right (Nat.le_of_lt beyond)]
  case isFalse within =>
      rw [UInt64.lt_iff_toNat_lt, last, Nat.not_lt] at within
      exact (Nat.min_eq_left within).symm

theorem shows_atIndex (identity : Identity) (fits : elements.length < 2 ^ (64 : Nat))
    (index : UInt64) :
    Shows (atIndex elements index) (.atIndex identity elements index.toNat) :=
  ⟨rfl, toNat_atIndex fits index⟩

namespace Shows

/-- A word that a step would make too great or too small is put back as the position is. -/
theorem move (fits : cursor.elements.length < 2 ^ (64 : Nat)) (shown : Shows word cursor)
    (step : Cursor.Step) : Shows (word.move step) (cursor.move step) := by
  obtain ⟨elements, index⟩ := word
  obtain ⟨rfl, position⟩ := shown
  dsimp only at position
  cases step with
  | next =>
      refine ⟨rfl, (toNat_atIndex fits _).trans ?_⟩
      show min (addSaturating index 1).toNat _ = min (cursor.index + 1) _
      rw [toNat_addSaturating, position]
      have one : (1 : UInt64).toNat = 1 := rfl
      omega
  | previous =>
      refine ⟨rfl, (toNat_atIndex fits _).trans ?_⟩
      show min (subSaturating index 1).toNat _ = min (cursor.index - 1) _
      rw [toNat_subSaturating, position]
      rfl

theorem walk (fits : cursor.elements.length < 2 ^ (64 : Nat)) (shown : Shows word cursor)
    (steps : List Cursor.Step) : Shows (word.walk steps) (cursor.walk steps) := by
  induction steps generalizing word cursor with
  | nil => exact shown
  | cons step rest ih =>
      refine ih ?_ (shown.move fits step)
      rwa [Cursor.elements_move]

theorem current?_eq (shown : Shows word cursor) : word.current? = cursor.current? := by
  rw [current?, shown.elements, shown.index]
  rfl

theorem isEnd_eq (fits : cursor.elements.length < 2 ^ (64 : Nat)) (shown : Shows word cursor) :
    word.isEnd = cursor.isEnd := by
  rw [Bool.eq_iff_iff, Cursor.isEnd_iff, isEnd, beq_iff_eq, ← UInt64.toNat_inj, shown.elements,
    shown.index, toNat_endOf fits]

/-- The word has not passed the end. -/
theorem remaining?_eq (shown : Shows word cursor) : word.remaining? = some cursor.remaining := by
  rw [remaining?, shown.elements, shown.index, if_pos cursor.index_le]
  rfl

end Shows
end WordCursor

/-! ## Main statement -/

namespace Cursor

/-- Where a walk over some elements begins. -/
inductive Origin where
  | start
  | stop
  | atIndex (index : UInt64)
  /-- The elements are those of an array in a cell. -/
  | onCell (kind : Kind) (index : UInt64)

namespace Origin

/-- The position that is asked for, which may lie beyond the end. -/
def position (length : Nat) : Origin → Nat
  | .start => 0
  | .stop => length
  | .atIndex index | .onCell _ index => index.toNat

/-- The cursor that is set there. -/
def cursor (identity : Identity) (elements : List Cell) : Origin → Except Failure Cursor
  | .start => .ok (.start identity elements)
  | .stop => .ok (.stop identity elements)
  | .atIndex index => .ok (.atIndex identity elements index.toNat)
  | .onCell kind index => Cursor.onCell identity (.array kind elements) index.toNat

/-- The word that is set there. -/
def word (elements : List Cell) : Origin → Except Failure WordCursor
  | .start => .ok (.atIndex elements 0)
  | .stop => .ok (.atIndex elements (WordCursor.endOf elements))
  | .atIndex index => .ok (.atIndex elements index)
  | .onCell kind index => WordCursor.onCell (.array kind elements) index

variable (identity : Identity) (elements : List Cell) (origin : Origin)

theorem cursor_eq : origin.cursor identity elements
    = .ok (Cursor.atIndex identity elements (origin.position elements.length)) := by
  cases origin <;> rfl

theorem exists_word (fits : elements.length < 2 ^ (64 : Nat)) :
    ∃ word, origin.word elements = .ok word
      ∧ word.Shows (Cursor.atIndex identity elements (origin.position elements.length)) := by
  cases origin with
  | start => exact ⟨_, rfl, WordCursor.shows_atIndex identity fits 0⟩
  | stop =>
      have shown := WordCursor.shows_atIndex identity fits (WordCursor.endOf elements)
      rw [WordCursor.toNat_endOf fits] at shown
      exact ⟨_, rfl, shown⟩
  | atIndex index => exact ⟨_, rfl, WordCursor.shows_atIndex identity fits index⟩
  | onCell kind index => exact ⟨_, rfl, WordCursor.shows_atIndex identity fits index⟩

end Origin

/-- What can be told of a cursor after a walk over the elements from a position. -/
structure Follows (identity : Identity) (elements : List Cell) (position : Nat)
    (steps : List Step) (cursor : Cursor) : Prop where
  sequence : cursor.identity = identity ∧ cursor.elements = elements
  index : (cursor.index : Int) = clampedWalk elements.length position steps
  within : cursor.index ≤ elements.length
  current : cursor.current? = elements[cursor.index]?
  ended : cursor.current? = none ↔ cursor.isEnd = true
  remaining : elements.take cursor.index ++ cursor.remaining = elements
  /-- The two ends of an empty sequence are one, and every step stays there. -/
  forth : cursor.next.previous = cursor ↔ cursor.isEnd = false ∨ elements = []
  back : cursor.previous.next = cursor ↔ cursor.index ≠ 0 ∨ elements = []

/-- The word answers as the cursor does. -/
structure KeptIn (cursor : Cursor) (word : WordCursor) : Prop where
  index : word.index.toNat = cursor.index
  current : word.current? = cursor.current?
  isEnd : word.isEnd = cursor.isEnd
  remaining : word.remaining? = some cursor.remaining

/-- What walks over the elements come to. -/
structure Walks (identity : Identity) (elements : List Cell) : Prop where
  follows : ∀ (origin : Origin) (steps : List Step),
    ∃ first, origin.cursor identity elements = .ok first
      ∧ Follows identity elements (origin.position elements.length) steps (first.walk steps)
  /-- Positions are kept in words as long as the length is one. -/
  kept : elements.length < 2 ^ (64 : Nat) → ∀ (origin : Origin) (steps : List Step),
    ∃ first word, origin.cursor identity elements = .ok first ∧ origin.word elements = .ok word
      ∧ (first.walk steps).KeptIn (word.walk steps)
  visits : (List.range elements.length).map (fun count =>
      ((start identity elements).walk (List.replicate count .next)).current?)
    = elements.map some
  rests : ∀ count, elements.length ≤ count →
    (start identity elements).walk (List.replicate count .next) = stop identity elements
      ∧ (stop identity elements).isEnd = true

theorem follows_walk (identity : Identity) (elements : List Cell) (position : Nat)
    (steps : List Step) :
    Follows identity elements position steps ((atIndex identity elements position).walk steps) := by
  have index := index_walk (atIndex identity elements position) steps
  unfold clampedWalk at index
  rw [nearest_index, index_atIndex] at index
  obtain ⟨identities, sequences⟩ := walk_stays (atIndex identity elements position) steps
  generalize (atIndex identity elements position).walk steps = cursor at index identities sequences
  obtain rfl : cursor.elements = elements := sequences
  refine ⟨⟨identities, rfl⟩, index, cursor.index_le, rfl, ?_, ?_, next_previous_iff,
    previous_next_iff⟩
  · have within := cursor.index_le
    rw [current?, List.getElem?_eq_none_iff, isEnd_iff]
    omega
  · exact List.take_append_drop cursor.index cursor.elements

/-- **A cursor follows its walk between the two ends of its sequence**, wherever it begins: it is
put back to the nearest place at every step, and a step that would have led out of a sequence with
elements cannot be undone. -/
theorem cursors_walk_between_the_ends (identity : Identity) (elements : List Cell) :
    Walks identity elements := by
  refine ⟨?_, ?_, ?_, ?_⟩
  · intro origin steps
    exact ⟨_, origin.cursor_eq identity elements, follows_walk identity elements _ steps⟩
  · intro fits origin steps
    obtain ⟨word, set, shown⟩ := origin.exists_word identity elements fits
    have walked := shown.walk fits steps
    have still : ((atIndex identity elements (origin.position elements.length)).walk
        steps).elements.length < 2 ^ (64 : Nat) := by
      rwa [(walk_stays _ steps).2]
    exact ⟨_, word, origin.cursor_eq identity elements, set, walked.index, walked.current?_eq,
      walked.isEnd_eq still, walked.remaining?_eq⟩
  · have visited : ∀ count, ((start identity elements).walk (.replicate count .next)).current?
        = elements[count]? := fun count => by rw [walk_replicate_next, current?_atIndex]
    refine List.ext_getElem (by simp) fun place _ inside => ?_
    rw [List.length_map] at inside
    rw [List.getElem_map, List.getElem_map, List.getElem_range, visited,
      List.getElem?_eq_getElem inside]
  · intro count beyond
    refine ⟨?_, isEnd_iff.mpr (Nat.min_self _)⟩
    rw [walk_replicate_next, atIndex_of_length_le beyond]

/-- On an empty sequence the end is the start as well: a step forward from there is undone by one
back, and a step back by one forward. -/
theorem empty_sequence_undoes_steps :
    let cursor := start 0 []
    cursor.isEnd = true ∧ cursor.next.previous = cursor
      ∧ cursor.index = 0 ∧ cursor.previous.next = cursor
      ∧ (¬ ∀ other : Cursor, other.next.previous = other ↔ other.isEnd = false)
      ∧ ¬ ∀ other : Cursor, other.previous.next = other ↔ other.index ≠ 0 := by
  refine ⟨rfl, rfl, rfl, rfl, fun forth => ?_, fun back => ?_⟩
  · exact absurd ((forth (start 0 [])).mp rfl) nofun
  · exact (back (start 0 [])).mp rfl rfl

end Cursor
end TaggedCells

import TaggedCells.CellArray

/-!
# Cursors

A cursor stands on a sequence of cells, at one of its elements or at the end position behind
the last. It can be moved one step either way and stays where it is at both ends.

Cursors are equal when they stand on the same sequence at the same position. Which sequence
that is does not follow from its contents: every sequence has an identity of its own, given by
whoever holds it.
-/

set_option autoImplicit false

namespace TaggedCells

/-- Tells sequences with the same contents apart. -/
abbrev Identity := Nat

/-- A position on a sequence; the length of the sequence is the end position. -/
structure Cursor where
  identity : Identity
  elements : List Cell
  index : Nat
  index_le : index ≤ elements.length

namespace Cursor

/-- A cursor at a position, or at the end if the position lies beyond it. -/
def atIndex (identity : Identity) (elements : List Cell) (index : Nat) : Cursor :=
  ⟨identity, elements, min index elements.length, Nat.min_le_right _ _⟩

/-- A cursor at the first position. -/
def start (identity : Identity) (elements : List Cell) : Cursor :=
  atIndex identity elements 0

/-- A cursor at the end position. -/
def stop (identity : Identity) (elements : List Cell) : Cursor :=
  atIndex identity elements elements.length

/-- A cursor on the elements of the array that a cell holds. -/
def onCell (identity : Identity) (cell : Cell) (index : Nat) : Except Failure Cursor := do
  return atIndex identity (← cell.array? "cursor").elements index

/-- The cursor one step forward. -/
def next (cursor : Cursor) : Cursor :=
  atIndex cursor.identity cursor.elements (cursor.index + 1)

/-- The cursor one step back. -/
def previous (cursor : Cursor) : Cursor :=
  atIndex cursor.identity cursor.elements (cursor.index - 1)

/-- The element under the cursor. -/
def current? (cursor : Cursor) : Option Cell := cursor.elements[cursor.index]?

/-- Whether the cursor is at the end position. -/
def isEnd (cursor : Cursor) : Bool := cursor.index == cursor.elements.length

/-- The elements from the cursor on. -/
def remaining (cursor : Cursor) : List Cell := cursor.elements.drop cursor.index

instance : BEq Cursor :=
  ⟨fun left right => left.identity == right.identity && left.index == right.index⟩

/-- The position and the length in words. -/
def debug (cursor : Cursor) : String :=
  "Cursor \x7b index: " ++ toString cursor.index ++ ", len: " ++ toString cursor.elements.length
    ++ " \x7d"

end Cursor
end TaggedCells

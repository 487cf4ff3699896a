import TaggedCells.Cell.Text
import TaggedCells.Cell.Equality
import TaggedCells.Failure
import TaggedCells.Timing

/-!
# Stamped cells

A cell together with the time that it took to make it. The time is measured by whoever runs
the making; a cell that was not measured carries no time at all.
-/

set_option autoImplicit false

namespace TaggedCells

/-- A cell and the time it took. -/
structure Stamped where
  cell : Cell
  timing : Timing
  deriving DecidableEq

namespace Stamped

/-- A cell that was not measured. -/
def ofCell (cell : Cell) : Stamped := ⟨cell, .zero⟩

/-- A cell that took a measured time. -/
def measured (elapsed : Duration) (cell : Cell) : Stamped := ⟨cell, .ofDuration elapsed⟩

/-- The stamped result of making a cell, if it could be made. -/
def tryMeasured (elapsed : Duration) (making : Except Failure Cell) : Except Failure Stamped :=
  making.map (measured elapsed)

/-- The cell and its timing with their names. -/
def debug (stamped : Stamped) : String :=
  "Stamped \x7b value: " ++ stamped.cell.debug ++ ", timing: " ++ stamped.timing.debug
    ++ " \x7d"

end Stamped
end TaggedCells

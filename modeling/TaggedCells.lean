import TaggedCells.CellArray.Builder
import TaggedCells.CellArray.Typed
import TaggedCells.CellMap
import TaggedCells.Cursor
import TaggedCells.Session
import TaggedCells.Proofs.Sorting.InPlace
import TaggedCells.Proofs.Sorting.IntegerArrays
import TaggedCells.Proofs.Search.Agreement
import TaggedCells.Proofs.Search.Admission
import TaggedCells.Proofs.Search.Halving
import TaggedCells.Proofs.Search.Endings
import TaggedCells.Proofs.CellArray.AllOrNothing
import TaggedCells.Proofs.CellArray.Lengths
import TaggedCells.Proofs.CellArray.Building
import TaggedCells.Proofs.CellArray.Obtainable
import TaggedCells.Proofs.CellArray.Refusal
import TaggedCells.Proofs.CellArray.Verdicts
import TaggedCells.Proofs.CellArray.Shuffling
import TaggedCells.Proofs.CellArray.Transforming
import TaggedCells.Proofs.CellArray.Selecting
import TaggedCells.Proofs.Randomness.Orders
import TaggedCells.Proofs.Randomness.Evenness
import TaggedCells.Proofs.Session.Transparency
import TaggedCells.Proofs.Session.Run
import TaggedCells.Proofs.Session.Chronicle
import TaggedCells.Proofs.Session.Seeds
import TaggedCells.Proofs.Trace.Retention
import TaggedCells.Proofs.Trace.Chronology
import TaggedCells.Proofs.Trace.Muting
import TaggedCells.Proofs.CellMap.Entries
import TaggedCells.Proofs.CellMap.Columns
import TaggedCells.Proofs.CellMap.History
import TaggedCells.Proofs.Cell.Paths
import TaggedCells.Proofs.Cell.Copying
import TaggedCells.Proofs.Cell.Comparability
import TaggedCells.Proofs.Cell.Limits
import TaggedCells.Proofs.Cell.Sameness
import TaggedCells.Proofs.Text.Encoding
import TaggedCells.Proofs.Ieee.Values
import TaggedCells.Proofs.Timing.Totals
import TaggedCells.Proofs.Timing.Splitting
import TaggedCells.Proofs.CellArray.Reducing
import TaggedCells.Proofs.CellArray.Accumulating
import TaggedCells.Proofs.Cell.Unknown
import TaggedCells.Proofs.CellArray.Reversing
import TaggedCells.Proofs.CellMap.Rebuilding
import TaggedCells.Proofs.Cursor.Walks
import TaggedCells.Proofs.Sorting.Nesting
import TaggedCells.Proofs.Trace.Legibility
import TaggedCells.Proofs.Cell.Legibility
import TaggedCells.Proofs.Session.Lines

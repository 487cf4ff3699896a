import TaggedCells.Trace.Event
import TaggedCells.Text.Json
import TaggedCells.Ieee.Rounding

/-!
# Records as text

A record is written as a line for a reader or as a JSON object. The line has the identifier and
the time only on request; the step always stands in front of the event. The object has the
fields of the record first and those of its event after them.

The time on a line is in microseconds, in milliseconds from a thousand of them on and in
seconds from a million on, the latter two with three places. It is worked out in double
precision: the microseconds are rounded to a double precision number, and so is their quotient,
which is then rounded to the three places.
-/

set_option autoImplicit false

namespace TaggedCells.Trace

open Text (fillLeft zeroFilled)

/-! ## Lines -/

/-- What a line shows beside the step and the event. -/
structure LineOptions where
  ids : Bool := false
  timestamps : Bool := false
  deriving DecidableEq, Repr

/-- Microseconds in a larger unit of that many microseconds, with three places. -/
def inUnits (micros size : Nat) : String :=
  let counted := Ieee.double.nearest micros 1
  (Ieee.double.nearest counted.numerator (counted.denominator * size)).fixed 3

/-- A time in nanoseconds, in the unit that suits its size. -/
def timestampText (nanos : Nat) : String :=
  let micros := nanos / 1000
  if 1000000 ≤ micros then inUnits micros 1000000 ++ "s"
  else if 1000 ≤ micros then inUnits micros 1000 ++ "ms"
  else toString micros ++ "us"

/-- An event for a reader. -/
def Event.line : Event → String
  | .create kind => "CREATE " ++ kind.name
  | .copy kind => "COPY " ++ kind.name
  | .move kind => "MOVE " ++ kind.name
  | .erase kind => "ERASE " ++ kind.name
  | .algorithm operation kind before after =>
      let lengths :=
        if before = after then toString before else toString before ++ " -> " ++ toString after
      "  " ++ operation ++ " array<" ++ kind.name ++ "> [" ++ lengths ++ "]"
  | .failure operation code message =>
      "  FAILED " ++ operation ++ " (" ++ code.name ++ "): " ++ message

/-- A record for a reader. -/
def Record.line (options : LineOptions) (record : Record) : String :=
  (if options.ids then "[" ++ zeroFilled 6 record.id ++ "] " else "")
    ++ "S" ++ zeroFilled 4 record.step ++ " "
    ++ (if options.timestamps then fillLeft ' ' 10 (timestampText record.timestamp) ++ " " else "")
    ++ record.event.line

/-! ## Objects -/

/-- The fields of an event. -/
def Event.fields (event : Event) : Text.Json.Object :=
  ("event", .text event.name) ::
    match event with
    | .create kind | .copy kind | .move kind | .erase kind => [("kind", .text kind.name)]
    | .algorithm operation kind before after =>
        [("operation", .text operation), ("kind", .text kind.name),
          ("len_before", .number before), ("len_after", .number after)]
    | .failure operation code message =>
        [("operation", .text operation), ("code", .text code.name), ("message", .text message)]

/-- The fields of a record, those of its event last. -/
def Record.fields (record : Record) : Text.Json.Object :=
  [("id", .number record.id), ("step", .number record.step),
    ("timestamp_ns", .number record.timestamp)] ++ record.event.fields

/-! ## Formats -/

/-- How records are written. -/
inductive Format where
  /-- One line for each record. -/
  | lines (options : LineOptions)
  /-- One object for each record, in outline or compactly. -/
  | objects (outlined : Bool)
  deriving DecidableEq, Repr

namespace Format

/-- Lines with the time, the format of a tracer that is read by people. -/
def human : Format := .lines { timestamps := true }

/-- Compact objects, the format of a tracer that is read by programs. -/
def json : Format := .objects false

/-- One record. -/
def render (format : Format) (record : Record) : String :=
  match format with
  | .lines options => record.line options
  | .objects true => Text.Json.outline "" record.fields
  | .objects false => Text.Json.compact record.fields

/-- Several records: lines one below the other, or an array of objects. -/
def renderAll (format : Format) (records : List Record) : String :=
  match format with
  | .lines options => "\n".intercalate (records.map (Record.line options))
  | .objects true => Text.Json.outlineList (records.map Record.fields)
  | .objects false => Text.Json.compactList (records.map Record.fields)

end Format
end TaggedCells.Trace

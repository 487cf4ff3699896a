import TaggedCells.Trace.Format
import TaggedCells.Proofs.Text.Names
import TaggedCells.Proofs.Text.Objects

/-!
# Records can be read back

The object of a record has the fields of its event behind its own, and events of different sorts
have fields of the same name: an operation stands both in an algorithm event and in a failure, a
kind in five of the six sorts. The field `event` says which sort it is, and with the sort the event
can be read from the fields (`Event.ofFields?_fields`). A compact object determines its fields
whatever texts stand in them, so nothing of a record is lost when it is written as one, and nothing
of a list of records when it is written as an array (`compact_records_lose_nothing`).
-/

set_option autoImplicit false

namespace TaggedCells.Trace

/-- Reads an event from its fields. The first one says of which sort it is, and the number and the
values of the others tell the algorithm and the failure from the steps of a cell's life. -/
def Event.ofFields? : Text.Json.Object → Option Event
  | [(_, .text sort), (_, .text kind)] => do
      let kind ← Text.byName? Kind.all Kind.name kind
      Text.byName? [.create kind, .copy kind, .move kind, .erase kind] Event.name sort
  | [_, (_, .text operation), (_, .text kind), (_, .number before), (_, .number after)] => do
      return .algorithm operation (← Text.byName? Kind.all Kind.name kind) before after
  | [_, (_, .text operation), (_, .text code), (_, .text message)] => do
      return .failure operation (← Text.byName? Code.all Code.name code) message
  | _ => none

theorem Event.ofFields?_fields (event : Event) : ofFields? event.fields = some event := by
  cases event with
  | create kind | copy kind | move kind | erase kind =>
      simp only [fields, ofFields?, kind.byName?_name, Option.bind_eq_bind, Option.bind_some]
      rfl
  | algorithm operation kind before after =>
      simp only [fields, ofFields?, kind.byName?_name, Option.bind_eq_bind, Option.bind_some]
      rfl
  | failure operation code message =>
      simp only [fields, ofFields?, code.byName?_name, Option.bind_eq_bind, Option.bind_some]
      rfl

/-- Reads a record from its fields. -/
def Record.ofFields? : Text.Json.Object → Option Record
  | (_, .number id) :: (_, .number step) :: (_, .number timestamp) :: event => do
      return ⟨id, step, timestamp, ← Event.ofFields? event⟩
  | _ => none

/-- A record can be read back from its fields. -/
theorem Record.ofFields?_fields (record : Record) : ofFields? record.fields = some record := by
  simp only [fields, ofFields?, List.cons_append, List.nil_append, Event.ofFields?_fields,
    Option.bind_eq_bind, Option.bind_some]
  rfl

theorem Record.fields_injective : Function.Injective Record.fields := by
  intro record other same
  have read := congrArg ofFields? same
  rw [ofFields?_fields, ofFields?_fields] at read
  exact Option.some.inj read

/-- **Compact objects lose nothing of the records.** Two records have the same text only if they
are the same record, the text of several records is that of each of them with commas between and
brackets around, and two lists of records have the same text only if they are the same list. -/
theorem compact_records_lose_nothing :
    (∀ record other : Record, Format.json.render record = Format.json.render other ↔ record = other)
      ∧ (∀ records : List Record, Format.json.renderAll records
          = "[" ++ ",".intercalate (records.map Format.json.render) ++ "]")
      ∧ ∀ records others : List Record,
          Format.json.renderAll records = Format.json.renderAll others ↔ records = others := by
  refine ⟨fun record other => ?_, fun records => ?_, fun records others => ?_⟩
  · exact (Text.Json.compact_injective.comp Record.fields_injective).eq_iff
  · change Text.Json.compactList (records.map Record.fields) = _
    rw [Text.Json.compactList, List.map_map]
    rfl
  · have listed : Function.Injective (List.map Record.fields) :=
      List.map_injective_iff.mpr Record.fields_injective
    exact (Text.Json.compactList_injective.comp listed).eq_iff

end TaggedCells.Trace

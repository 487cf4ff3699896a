import TaggedCells.Cell.Life
import TaggedCells.Cell.Equality
import TaggedCells.Proofs.Cell.Paths
import TaggedCells.Proofs.CellArray.Precondition

/-!
# What can be copied

A cell can be copied when nothing that stands in it refuses, at whatever depth, and its copy is the
same cell (`eq_of_copy`). Otherwise the copying ends at the first cell on the walk that refuses.
Every array around that cell puts its own position into the failure in place of the one that came
from inside, and maps let the failure pass, so the position that remains is the one in the outermost
array on the path (`contextAlong`).
-/

set_option autoImplicit false

namespace TaggedCells.Cell

/-- There is a copy of the cell. -/
def Copies (cell : Cell) : Prop := ∃ copied, cell.copy = .ok copied

/-- The cells of which there is never a copy, each with the cause. -/
inductive Refuses : Cell → Cause → Prop where
  | invalid : Refuses .invalid (.nullInput "copy")
  | unknown : Refuses .unknown (.unknown .unknown)

/-- No erased cell stands in the cell, and none that cannot be interpreted. -/
def Readable (cell : Cell) : Prop :=
  ∀ path inner, cell.at? path = some inner → inner ≠ .invalid ∧ inner ≠ .unknown

/-- The cell at the path refuses to be copied, and is met before every other one that does. -/
structure FirstRefusal (cell : Cell) (path : List Step) (cause : Cause) : Prop where
  reached : ∃ inner, cell.at? path = some inner ∧ Refuses inner cause
  first : ∀ other inner otherCause, cell.at? other = some inner → Refuses inner otherCause →
    path = other ∨ Precedes path other

/-- The context of a failure at the end of a path: the element of the outermost array. -/
def contextAlong : List Step → Option Context
  | [] => none
  | .element index :: _ => some { operation := "copy", index := index }
  | .key _ :: path | .value _ :: path => contextAlong path

/-- A failure of a part, as it leaves the cell around it. -/
def Step.around : Step → Failure → Failure
  | .element index, failure => failure.within { operation := "copy", index := index }
  | .key _, failure | .value _, failure => failure

theorem Step.around_contextAlong (step : Step) (path : List Step) (cause : Cause) :
    step.around ⟨cause, contextAlong path⟩ = ⟨cause, contextAlong (step :: path)⟩ := by
  cases step <;> rfl

/-! ## Copies of sequences -/

section Sequences

variable {first : Nat} {failure : Failure}

theorem copyFrom_cons_eq_ok_iff {cell : Cell} {rest copies : List Cell} :
    copyFrom first (cell :: rest) = .ok copies
      ↔ ∃ copied others, cell.copy = .ok copied ∧ copyFrom (first + 1) rest = .ok others
        ∧ copied :: others = copies := by
  rw [copyFrom, bind_eq_ok_iff]
  constructor
  · rintro ⟨copied, here, further⟩
    obtain ⟨others, there, built⟩ := bind_eq_ok_iff.mp further
    exact ⟨copied, others, located_eq_ok_iff.mp here, there, Except.ok.inj built⟩
  · rintro ⟨copied, others, here, there, rfl⟩
    exact ⟨copied, located_eq_ok_iff.mpr here, bind_eq_ok_iff.mpr ⟨others, there, rfl⟩⟩

theorem copyEntries_cons_eq_ok_iff {key value : Cell} {rest copies : List (Cell × Cell)} :
    copyEntries ((key, value) :: rest) = .ok copies
      ↔ ∃ copiedKey copiedValue others, key.copy = .ok copiedKey ∧ value.copy = .ok copiedValue
        ∧ copyEntries rest = .ok others ∧ (copiedKey, copiedValue) :: others = copies := by
  rw [copyEntries, bind_eq_ok_iff]
  constructor
  · rintro ⟨copiedKey, atKey, further⟩
    obtain ⟨copiedValue, atValue, further⟩ := bind_eq_ok_iff.mp further
    obtain ⟨others, there, built⟩ := bind_eq_ok_iff.mp further
    exact ⟨copiedKey, copiedValue, others, atKey, atValue, there, Except.ok.inj built⟩
  · rintro ⟨copiedKey, copiedValue, others, atKey, atValue, there, rfl⟩
    exact ⟨copiedKey, atKey, bind_eq_ok_iff.mpr
      ⟨copiedValue, atValue, bind_eq_ok_iff.mpr ⟨others, there, rfl⟩⟩⟩

/-- With a sequence, each of its cells can be copied. -/
theorem copies_of_copyFrom {elements copies : List Cell}
    (success : copyFrom first elements = .ok copies) : ∀ element ∈ elements, Copies element := by
  induction elements generalizing first copies with
  | nil => exact fun _ present => absurd present List.not_mem_nil
  | cons cell rest ih =>
      obtain ⟨copied, others, here, there, -⟩ := copyFrom_cons_eq_ok_iff.mp success
      exact List.forall_mem_cons.mpr ⟨⟨copied, here⟩, ih there⟩

/-- With entries, each key and each value can be copied. -/
theorem copies_of_copyEntries {entries copies : List (Cell × Cell)}
    (success : copyEntries entries = .ok copies) :
    ∀ entry ∈ entries, Copies entry.1 ∧ Copies entry.2 := by
  induction entries generalizing copies with
  | nil => exact fun _ present => absurd present List.not_mem_nil
  | cons entry rest ih =>
      obtain ⟨copiedKey, copiedValue, others, atKey, atValue, there, -⟩ :=
        copyEntries_cons_eq_ok_iff.mp success
      exact List.forall_mem_cons.mpr ⟨⟨⟨copiedKey, atKey⟩, ⟨copiedValue, atValue⟩⟩, ih there⟩

/-- Elements fail to be copied at the first one that fails, and the failure names its position. -/
theorem exists_of_copyFrom_error {elements : List Cell}
    (failed : copyFrom first elements = .error failure) :
    ∃ (index : Nat) (element : Cell) (inner : Failure),
      elements[index]? = some element ∧ element.copy = .error inner
        ∧ inner.within { operation := "copy", index := some (first + index) } = failure
        ∧ ∀ earlier ∈ elements.take index, Copies earlier := by
  induction elements generalizing first with
  | nil => cases failed
  | cons cell rest ih =>
      rw [copyFrom, bind_eq_error_iff] at failed
      rcases failed with here | ⟨copied, here, further⟩
      · obtain ⟨inner, refused, rfl⟩ := located_eq_error_iff.mp here
        exact ⟨0, cell, inner, rfl, refused, rfl, fun _ absent => absurd absent List.not_mem_nil⟩
      · rcases bind_eq_error_iff.mp further with failed | ⟨others, -, impossible⟩
        · obtain ⟨index, element, inner, found, refused, located, before⟩ := ih failed
          refine ⟨index + 1, element, inner, found, refused, ?_, ?_⟩
          · rwa [Nat.add_comm index, ← Nat.add_assoc]
          · exact List.forall_mem_cons.mpr ⟨⟨copied, located_eq_ok_iff.mp here⟩, before⟩
        · cases impossible

/-- Entries fail to be copied at the first key or value that fails, and the failure passes. -/
theorem exists_of_copyEntries_error {entries : List (Cell × Cell)}
    (failed : copyEntries entries = .error failure) :
    ∃ (index : Nat) (key value : Cell), entries[index]? = some (key, value)
      ∧ (key.copy = .error failure ∨ Copies key ∧ value.copy = .error failure)
      ∧ ∀ earlier ∈ entries.take index, Copies earlier.1 ∧ Copies earlier.2 := by
  induction entries with
  | nil => cases failed
  | cons entry rest ih =>
      obtain ⟨key, value⟩ := entry
      have none_before : ∀ earlier ∈ ((key, value) :: rest).take 0,
          Copies earlier.1 ∧ Copies earlier.2 := fun _ absent => absurd absent List.not_mem_nil
      rw [copyEntries, bind_eq_error_iff] at failed
      rcases failed with atKey | ⟨copiedKey, atKey, further⟩
      · exact ⟨0, key, value, rfl, .inl atKey, none_before⟩
      rcases bind_eq_error_iff.mp further with atValue | ⟨copiedValue, atValue, further⟩
      · exact ⟨0, key, value, rfl, .inr ⟨⟨copiedKey, atKey⟩, atValue⟩, none_before⟩
      rcases bind_eq_error_iff.mp further with failed | ⟨others, -, impossible⟩
      · obtain ⟨index, laterKey, laterValue, found, refused, before⟩ := ih failed
        refine ⟨index + 1, laterKey, laterValue, found, refused, ?_⟩
        exact List.forall_mem_cons.mpr ⟨⟨⟨copiedKey, atKey⟩, ⟨copiedValue, atValue⟩⟩, before⟩
      · cases impossible

end Sequences

/-! ## Copies of cells -/

/-- The contents of a scalar are copied as they are. -/
theorem copy_of_constructible {cell : Cell} (constructible : cell.kind.isConstructible = true) :
    cell.copy = .ok cell := by
  cases cell with
  | array | map | invalid | unknown => cases constructible
  | _ =>
      unfold copy
      rfl

theorem copy_array_eq_ok_iff {kind : Kind} {elements : List Cell} {copied : Cell} :
    copy (.array kind elements) = .ok copied
      ↔ ∃ copies, copyFrom 0 elements = .ok copies ∧ .array kind copies = copied := by
  rw [copy, bind_eq_ok_iff]
  exact exists_congr fun copies => and_congr_right fun _ => ⟨Except.ok.inj, congrArg Except.ok⟩

theorem copy_map_eq_ok_iff {entries : List (Cell × Cell)} {copied : Cell} :
    copy (.map entries) = .ok copied
      ↔ ∃ copies, copyEntries entries = .ok copies ∧ .map copies = copied := by
  rw [copy, bind_eq_ok_iff]
  exact exists_congr fun copies => and_congr_right fun _ => ⟨Except.ok.inj, congrArg Except.ok⟩

mutual

/-- A copy is the same cell. -/
theorem eq_of_copy : ∀ {cell copied : Cell}, cell.copy = .ok copied → copied = cell
  | .array kind elements, copied, success => by
      obtain ⟨copies, listed, rfl⟩ := copy_array_eq_ok_iff.mp success
      rw [eq_of_copyFrom listed]
  | .map entries, copied, success => by
      obtain ⟨copies, listed, rfl⟩ := copy_map_eq_ok_iff.mp success
      rw [eq_of_copyEntries listed]
  | .integer _ _, _, success | .float _, _, success | .double _, _, success
  | .string _, _, success | .char _, _, success | .bool _, _, success | .qbit _, _, success
  | .null, _, success => by
      rw [copy_of_constructible rfl] at success
      exact (Except.ok.inj success).symm

theorem eq_of_copyFrom : ∀ {first : Nat} {elements copies : List Cell},
    copyFrom first elements = .ok copies → copies = elements
  | _, [], _, success => (Except.ok.inj success).symm
  | _, cell :: rest, _, success => by
      obtain ⟨copied, others, here, there, rfl⟩ := copyFrom_cons_eq_ok_iff.mp success
      rw [eq_of_copy here, eq_of_copyFrom there]

theorem eq_of_copyEntries : ∀ {entries copies : List (Cell × Cell)},
    copyEntries entries = .ok copies → copies = entries
  | [], _, success => (Except.ok.inj success).symm
  | (key, value) :: rest, _, success => by
      obtain ⟨copiedKey, copiedValue, others, atKey, atValue, there, rfl⟩ :=
        copyEntries_cons_eq_ok_iff.mp success
      rw [eq_of_copy atKey, eq_of_copy atValue, eq_of_copyEntries there]

end

variable {cell part : Cell} {step : Step} {failure : Failure}

/-- An array of scalars is copied as it is. -/
theorem copy_array_of_constructible {kind : Kind} {elements : List Cell}
    (constructible : ∀ element ∈ elements, element.kind.isConstructible = true) :
    copy (.array kind elements) = .ok (.array kind elements) := by
  have listed : ∀ first, copyFrom first elements = .ok elements := by
    induction elements with
    | nil => exact fun _ => rfl
    | cons cell rest ih =>
        obtain ⟨here, there⟩ := List.forall_mem_cons.mp constructible
        intro first
        exact copyFrom_cons_eq_ok_iff.mpr
          ⟨cell, rest, copy_of_constructible here, ih there (first + 1), rfl⟩
  exact copy_array_eq_ok_iff.mpr ⟨elements, listed 0, rfl⟩

/-- With a cell, all that it holds can be copied. -/
theorem Copies.of_part (copies : Copies cell) (held : cell.part? step = some part) :
    Copies part := by
  obtain ⟨copied, success⟩ := copies
  cases cell with
  | array kind elements =>
      cases step with
      | element index =>
          obtain ⟨copies, listed, -⟩ := copy_array_eq_ok_iff.mp success
          exact copies_of_copyFrom listed part (List.mem_of_getElem? held)
      | key index | value index => cases held
  | map entries =>
      obtain ⟨copies, listed, -⟩ := copy_map_eq_ok_iff.mp success
      cases step with
      | element index => cases held
      | key index =>
          obtain ⟨entry, found, rfl⟩ := Option.map_eq_some_iff.mp held
          exact (copies_of_copyEntries listed entry (List.mem_of_getElem? found)).1
      | value index =>
          obtain ⟨entry, found, rfl⟩ := Option.map_eq_some_iff.mp held
          exact (copies_of_copyEntries listed entry (List.mem_of_getElem? found)).2
  | _ => cases held

/-- The failure comes of the first part of the cell that fails to be copied. -/
def FailsAtPart (cell : Cell) (failure : Failure) : Prop :=
  ∃ step part inner, cell.part? step = some part ∧ part.copy = .error inner
    ∧ step.around inner = failure
    ∧ ∀ earlier other, cell.part? earlier = some other → earlier.place < step.place → Copies other

theorem mem_take_of_getElem? {α : Type} {items : List α} {position bound : Nat} {item : α}
    (found : items[position]? = some item) (within : position < bound) :
    item ∈ items.take bound :=
  List.mem_of_getElem? ((List.getElem?_take_of_lt within).trans found)

theorem array_failsAtPart {kind : Kind} {elements : List Cell}
    (failed : copyFrom 0 elements = .error failure) :
    FailsAtPart (.array kind elements) failure := by
  obtain ⟨index, element, inner, found, refused, located, before⟩ := exists_of_copyFrom_error failed
  rw [Nat.zero_add] at located
  refine ⟨.element index, element, inner, found, refused, located, ?_⟩
  intro earlier other there smaller
  cases earlier with
  | element earlier => exact before other (mem_take_of_getElem? there smaller)
  | key | value => cases there

theorem map_failsAtPart {entries : List (Cell × Cell)}
    (failed : copyEntries entries = .error failure) : FailsAtPart (.map entries) failure := by
  obtain ⟨index, key, value, found, refused, before⟩ := exists_of_copyEntries_error failed
  -- at one entry the key comes before the value, which fails only after the key was copied
  have before_entry : ∀ earlier other, part? (.map entries) earlier = some other →
      earlier.place < 2 * index → Copies other := by
    intro earlier other there smaller
    cases earlier with
    | element => cases there
    | key earlier =>
        obtain ⟨entry, present, rfl⟩ := Option.map_eq_some_iff.mp there
        have within : earlier < index := by simp only [Step.place] at smaller; omega
        exact (before entry (mem_take_of_getElem? present within)).1
    | value earlier =>
        obtain ⟨entry, present, rfl⟩ := Option.map_eq_some_iff.mp there
        have within : earlier < index := by simp only [Step.place] at smaller; omega
        exact (before entry (mem_take_of_getElem? present within)).2
  have key_held : part? (.map entries) (.key index) = some key :=
    Option.map_eq_some_iff.mpr ⟨_, found, rfl⟩
  have value_held : part? (.map entries) (.value index) = some value :=
    Option.map_eq_some_iff.mpr ⟨_, found, rfl⟩
  rcases refused with refused | ⟨keyCopies, refused⟩
  · exact ⟨.key index, key, failure, key_held, refused, rfl, before_entry⟩
  · refine ⟨.value index, value, failure, value_held, refused, rfl, ?_⟩
    intro earlier other there smaller
    rcases Nat.lt_succ_iff_lt_or_eq.mp smaller with smaller | same
    · exact before_entry earlier other there smaller
    · obtain rfl : earlier = .key index := step_eq_of_place there key_held same
      rw [key_held] at there
      exact Option.some.inj there ▸ keyCopies

/-- A cell fails to be copied because it refuses, or at the first of its parts that fails. -/
theorem refuses_or_failsAtPart (failed : cell.copy = .error failure) :
    (∃ cause, Refuses cell cause ∧ failure = ⟨cause, none⟩) ∨ FailsAtPart cell failure := by
  cases cell with
  | invalid => exact .inl ⟨_, .invalid, (Except.error.inj failed).symm⟩
  | unknown => exact .inl ⟨_, .unknown, (Except.error.inj failed).symm⟩
  | array kind elements =>
      rw [copy, bind_eq_error_iff] at failed
      rcases failed with failed | ⟨copies, -, impossible⟩
      · exact .inr (array_failsAtPart failed)
      · cases impossible
  | map entries =>
      rw [copy, bind_eq_error_iff] at failed
      rcases failed with failed | ⟨copies, -, impossible⟩
      · exact .inr (map_failsAtPart failed)
      · cases impossible
  | _ =>
      rw [copy_of_constructible rfl] at failed
      cases failed

/-! ## What stands in a cell -/

theorem Copies.at? {path : List Step} {inner : Cell} (copies : Copies cell)
    (found : cell.at? path = some inner) : Copies inner := by
  induction path generalizing cell with
  | nil => exact Option.some.inj found ▸ copies
  | cons step path ih =>
      obtain ⟨part, held, further⟩ := at?_cons_eq_some_iff.mp found
      exact ih (copies.of_part held) further

theorem Copies.not_refuses {cause : Cause} (copies : Copies cell) : ¬ Refuses cell cause := by
  rintro (_ | _) <;> exact absurd copies.choose_spec nofun

theorem exists_refuses_iff : (∃ cause, Refuses cell cause) ↔ cell = .invalid ∨ cell = .unknown := by
  constructor
  · rintro ⟨cause, _ | _⟩
    · exact .inl rfl
    · exact .inr rfl
  · rintro (rfl | rfl)
    · exact ⟨_, .invalid⟩
    · exact ⟨_, .unknown⟩

theorem Copies.readable (copies : Copies cell) : cell.Readable := by
  intro path inner found
  rw [← not_or, ← exists_refuses_iff]
  rintro ⟨cause, refuses⟩
  exact (copies.at? found).not_refuses refuses

/-- **The copying of a cell fails at the first cell in it that refuses.** -/
theorem exists_firstRefusal (failed : cell.copy = .error failure) :
    ∃ path cause, FirstRefusal cell path cause ∧ failure = ⟨cause, contextAlong path⟩ := by
  induction cell using induction_on_parts generalizing failure with
  | pass cell ih =>
  rcases refuses_or_failsAtPart failed with
    ⟨cause, refuses, rfl⟩ | ⟨step, part, inner, held, refused, rfl, before⟩
  · refine ⟨[], cause, ⟨⟨cell, rfl, refuses⟩, fun other _ _ _ _ => ?_⟩, rfl⟩
    cases other with
    | nil => exact .inl rfl
    | cons => exact .inr .nil
  · obtain ⟨path, cause, ⟨reached, first⟩, rfl⟩ := ih step part held refused
    refine ⟨step :: path, cause, ⟨?_, ?_⟩, step.around_contextAlong path cause⟩
    · rwa [at?_of_part held]
    · intro other refusing otherCause found refuses
      cases other with
      | nil =>
          obtain rfl := Option.some.inj found
          cases refuses <;> cases held
      | cons another other =>
          obtain ⟨sibling, heldToo, further⟩ := at?_cons_eq_some_iff.mp found
          rcases Nat.lt_trichotomy another.place step.place with earlier | same | later
          · have copies := (before another sibling heldToo earlier).at? further
            exact absurd refuses copies.not_refuses
          · obtain rfl := step_eq_of_place heldToo held same
            obtain rfl := Option.some.inj (heldToo.symm.trans held)
            rcases first other refusing otherCause further refuses with rfl | precedes
            · exact .inl rfl
            · exact .inr (.cons precedes)
          · exact .inr (.rel later)

theorem copies_iff_readable : Copies cell ↔ cell.Readable := by
  refine ⟨Copies.readable, fun readable => ?_⟩
  cases outcome : cell.copy with
  | ok copied => exact ⟨copied, outcome⟩
  | error failure =>
      obtain ⟨path, cause, ⟨⟨inner, found, refuses⟩, -⟩, -⟩ := exists_firstRefusal outcome
      exact absurd (exists_refuses_iff.mp ⟨cause, refuses⟩) (not_or.mpr (readable path inner found))

theorem Refuses.unique {cause other : Cause} (refuses : Refuses cell cause)
    (also : Refuses cell other) : cause = other := by
  cases refuses <;> cases also <;> rfl

theorem FirstRefusal.unique {path other : List Step} {cause otherCause : Cause}
    (first : FirstRefusal cell path cause) (also : FirstRefusal cell other otherCause) :
    path = other ∧ cause = otherCause := by
  obtain ⟨⟨inner, found, refuses⟩, earliest⟩ := first
  obtain ⟨⟨another, foundToo, refusesToo⟩, earliestToo⟩ := also
  obtain rfl : path = other := by
    rcases earliest other another otherCause foundToo refusesToo with same | before
    · exact same
    · rcases earliestToo path inner cause found refuses with same | after
      · exact same.symm
      · exact absurd after before.asymm
  obtain rfl := Option.some.inj (found.symm.trans foundToo)
  exact ⟨rfl, refuses.unique refusesToo⟩

theorem FirstRefusal.copy_eq {path : List Step} {cause : Cause}
    (first : FirstRefusal cell path cause) : cell.copy = .error ⟨cause, contextAlong path⟩ := by
  cases outcome : cell.copy with
  | ok copied =>
      obtain ⟨inner, found, refuses⟩ := first.reached
      exact absurd refuses (Copies.at? ⟨copied, outcome⟩ found).not_refuses
  | error failure =>
      obtain ⟨other, otherCause, also, rfl⟩ := exists_firstRefusal outcome
      obtain ⟨rfl, rfl⟩ := first.unique also
      rfl

/-- **A cell is copied as it is when all that stands in it can be read, and otherwise the copying
ends at the first cell in it that refuses**, with the cause of that cell and the position in the
outermost array around it. -/
theorem copying_ends_at_the_first_refusal (cell : Cell) :
    ((∃ copied, cell.copy = .ok copied) ↔ cell.Readable)
      ∧ (∀ copied, cell.copy = .ok copied → same copied cell = true)
      ∧ (¬ cell.Readable → ∃ path cause, FirstRefusal cell path cause)
      ∧ ∀ path cause, FirstRefusal cell path cause →
          cell.copy = .error ⟨cause, contextAlong path⟩ := by
  refine ⟨copies_iff_readable, ?_, ?_, fun _ _ first => first.copy_eq⟩
  · intro copied success
    exact same_iff.mpr (eq_of_copy success)
  · intro unreadable
    cases outcome : cell.copy with
    | ok copied => exact absurd (Copies.readable ⟨copied, outcome⟩) unreadable
    | error failure =>
        obtain ⟨path, cause, first, -⟩ := exists_firstRefusal outcome
        exact ⟨path, cause, first⟩

/-- The array inside the map has its own position replaced by that of the array around the map. -/
example :
    copy (.array .null [.null, .map [(.null, .array .null [.null, .null, .unknown])], .invalid])
      = .error ⟨.unknown .unknown, some { operation := "copy", index := some 1 }⟩ := by
  rfl

end TaggedCells.Cell

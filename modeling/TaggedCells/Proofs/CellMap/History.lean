import TaggedCells.Proofs.CellMap.Columns

/-!
# What a map remembers

A map is determined by the changes made to it, and the part that each change plays can be said
without a map. The value under a key is that of its latest insertion, unless the key was removed
since (`binding`). Its place among the keys is decided by the moment at which it was last inserted
as a new key (`entered`); an insertion under a key that is there moves nothing.

So after any changes, whatever cells are used as keys, the keys are different from each other and
stand in the order of their moments (`maps_remember`). A change answers what was under its key and
leaves the other keys with their values and their order.
-/

set_option autoImplicit false

namespace TaggedCells.CellMap

/-! ## One change -/

section Changes

variable (map : CellMap) (key value : Cell)

theorem isInvalid_iff {cell : Cell} : cell.isInvalid = true ↔ cell = .invalid := by
  cases cell <;> simp [Cell.isInvalid]

theorem make_insert_invalid :
    (Change.insert .invalid value).make map = (Cause.raise (.nullInput "map insert"), map) := rfl

theorem make_insert {key : Cell} (valid : key ≠ .invalid) :
    (Change.insert key value).make map
      = (.ok (map.get? key), ⟨assign key value map.entries⟩) := by
  show Id.run ((CellMap.insert key value).apply map) = _
  rw [apply_insert, if_neg (valid ∘ isInvalid_iff.mp)]
  rfl

theorem make_remove :
    (Change.remove key).make map
      = (.ok (map.get? key), ⟨map.entries.eraseP fun entry => entry.1 == key⟩) := by
  show Id.run ((CellMap.remove key).apply map) = _
  rw [apply_remove]
  rfl

/-- A change leaves the entries under other keys as they are, in their order. -/
theorem others_make (change : Change) :
    others change.key (change.make map).2.entries = others change.key map.entries := by
  cases change with
  | insert key value =>
      by_cases valid : key = .invalid
      · rw [valid]
        rfl
      · rw [make_insert map value valid]
        exact others_assign value
  | remove key =>
      rw [make_remove]
      exact others_eraseP

theorem get?_make_of_ne (change : Change) {other : Cell} (apart : other ≠ change.key) :
    (change.make map).2.get? other = map.get? other := by
  rw [get?, ← lookup_others apart, others_make, lookup_others apart, get?]

theorem get?_eq_none_iff : map.get? key = none ↔ key ∉ map.keys := by
  refine ⟨fun nothing present => ?_, lookup_eq_none⟩
  obtain ⟨before, held, rest, parted, absent⟩ := exists_parted present
  rw [get?, parted, lookup_parted absent] at nothing
  cases nothing

theorem lookup_assign (entries : List (Cell × Cell)) :
    (assign key value entries).lookup key = some value := by
  by_cases present : key ∈ entries.map Prod.fst
  · obtain ⟨before, held, rest, rfl, absent⟩ := exists_parted present
    rw [assign_parted absent, lookup_parted absent]
  · rw [assign_of_absent present, lookup_parted present]

end Changes

/-! ## Histories -/

/-- The value of the latest insertion under the key that no removal of the key follows. An erased
cell is refused as a key. -/
def binding (key : Cell) : List Change → Option Cell
  | [] => none
  | .insert inserted value :: earlier =>
      if inserted = key ∧ inserted ≠ .invalid then some value else binding key earlier
  | .remove removed :: earlier => if removed = key then none else binding key earlier

/-- The number of changes before the key was last inserted as a new one. -/
def entered (key : Cell) : List Change → Option Nat
  | [] => none
  | .insert inserted _ :: earlier =>
      if inserted = key ∧ inserted ≠ .invalid ∧ binding key earlier = none then
        some earlier.length
      else entered key earlier
  | .remove _ :: earlier => entered key earlier

/-- The first key was inserted as a new one before the second was, each time the latest. -/
def EnteredBefore (history : List Change) (first second : Cell) : Prop :=
  ∃ earlier later, entered first history = some earlier ∧ entered second history = some later
    ∧ earlier < later

section Histories

variable {key value : Cell} {earlier : List Change}

theorem entered_lt {history : List Change} {moment : Nat}
    (known : entered key history = some moment) : moment < history.length := by
  induction history with
  | nil => cases known
  | cons change earlier ih =>
      cases change with
      | insert inserted value =>
          rw [entered] at known
          split at known
          · cases known
            exact Nat.lt_succ_self _
          · exact Nat.lt_succ_of_lt (ih known)
      | remove removed => exact Nat.lt_succ_of_lt (ih known)

/-- An insertion under a key that is there, or under an erased cell, brings no key in. -/
theorem entered_insert_of_present (present : key = .invalid ∨ binding key earlier ≠ none)
    (other : Cell) : entered other (.insert key value :: earlier) = entered other earlier := by
  rw [entered, if_neg]
  rintro ⟨rfl, valid, new⟩
  exact present.elim valid (· new)

theorem entered_insert_of_ne {other : Cell} (apart : other ≠ key) :
    entered other (.insert key value :: earlier) = entered other earlier := by
  rw [entered, if_neg fun entering => apart entering.1.symm]

theorem entered_insert_new (value : Cell) (valid : key ≠ .invalid)
    (new : binding key earlier = none) :
    entered key (.insert key value :: earlier) = some earlier.length := by
  rw [entered, if_pos ⟨rfl, valid, new⟩]

end Histories

/-! ## Maps and their histories -/

/-- What a map has of its history. -/
structure Remembers (history : List Change) (map : CellMap) : Prop where
  distinct : map.keys.Nodup
  valid : Cell.invalid ∉ map.keys
  bound : ∀ key, map.get? key = binding key history
  came : ∀ key ∈ map.keys, ∃ moment, entered key history = some moment
  ordered : map.keys.Pairwise (EnteredBefore history)

namespace Remembers

variable {history : List Change} {map : CellMap}

/-- Keys that were there before keep their moments. -/
theorem still {history : List Change} {keys : List Cell} (later : List Change)
    (same : ∀ key ∈ keys, entered key later = entered key history)
    (came : ∀ key ∈ keys, ∃ moment, entered key history = some moment)
    (ordered : keys.Pairwise (EnteredBefore history)) :
    (∀ key ∈ keys, ∃ moment, entered key later = some moment)
      ∧ keys.Pairwise (EnteredBefore later) := by
  refine ⟨fun key present => ?_, ordered.imp_of_mem fun firstIn secondIn before => ?_⟩
  · rw [same key present]
    exact came key present
  · unfold EnteredBefore at before ⊢
    rwa [same _ firstIn, same _ secondIn]

theorem bound_make (remembers : Remembers history map) (change : Change) (key : Cell) :
    (change.make map).2.get? key = binding key (change :: history) := by
  cases change with
  | insert inserted value =>
      rw [binding]
      by_cases here : inserted = key
      · subst here
        by_cases valid : inserted = .invalid
        · rw [if_neg fun accepted => accepted.2 valid, ← remembers.bound, valid]
          rfl
        · rw [if_pos ⟨rfl, valid⟩, make_insert map value valid]
          exact lookup_assign inserted value map.entries
      · rw [if_neg fun accepted => here accepted.1, ← remembers.bound]
        exact get?_make_of_ne map _ (Ne.symm here)
  | remove removed =>
      rw [binding]
      by_cases here : removed = key
      · subst here
        rw [if_pos rfl, make_remove]
        refine lookup_eq_none ?_
        rw [keys_eraseP]
        exact remembers.distinct.not_mem_erase
      · rw [if_neg here, ← remembers.bound]
        exact get?_make_of_ne map _ (Ne.symm here)

theorem insert (remembers : Remembers history map) (key value : Cell) :
    Remembers (.insert key value :: history) ((Change.insert key value).make map).2 := by
  have bound := remembers.bound_make (.insert key value)
  obtain ⟨distinct, valid, boundBefore, came, ordered⟩ := remembers
  by_cases refused : key = .invalid
  · subst refused
    obtain ⟨came, ordered⟩ :=
      still _ (fun other _ => entered_insert_of_present (.inl rfl) other) came ordered
    exact ⟨distinct, valid, bound, came, ordered⟩
  · rw [make_insert map value refused] at bound ⊢
    by_cases present : key ∈ map.keys
    · have keys : CellMap.keys ⟨assign key value map.entries⟩ = map.keys :=
        (keys_assign value).trans (if_pos present)
      have known : binding key history ≠ none := by
        rw [← boundBefore]
        exact fun nothing => (get?_eq_none_iff map key).mp nothing present
      obtain ⟨came, ordered⟩ :=
        still _ (fun other _ => entered_insert_of_present (.inr known) other) came ordered
      exact ⟨keys ▸ distinct, keys ▸ valid, bound, keys ▸ came, keys ▸ ordered⟩
    · have keys : CellMap.keys ⟨assign key value map.entries⟩ = map.keys ++ [key] :=
        (keys_assign value).trans (if_neg present)
      have new : binding key history = none := by
        rw [← boundBefore]
        exact (get?_eq_none_iff map key).mpr present
      have apart : ∀ other ∈ map.keys, other ≠ key := fun other there same =>
        present (same ▸ there)
      have moment := entered_insert_new value refused new
      have newest : ∀ other ∈ map.keys, EnteredBefore (.insert key value :: history) other key := by
        intro other there
        obtain ⟨early, known⟩ := came other there
        exact ⟨early, history.length, (entered_insert_of_ne (apart other there)).trans known,
          moment, entered_lt known⟩
      obtain ⟨came, ordered⟩ :=
        still _ (fun other there => entered_insert_of_ne (apart other there)) came ordered
      refine ⟨?_, ?_, bound, ?_, ?_⟩ <;> rw [keys]
      · refine List.nodup_append.mpr ⟨distinct, List.pairwise_singleton _ key, ?_⟩
        intro other there last single
        rw [List.mem_singleton.mp single]
        exact apart other there
      · rw [List.mem_append, List.mem_singleton, not_or]
        exact ⟨valid, Ne.symm refused⟩
      · intro other there
        rcases List.mem_append.mp there with old | last
        · exact came other old
        · exact ⟨history.length, List.mem_singleton.mp last ▸ moment⟩
      · refine List.pairwise_append.mpr ⟨ordered, List.pairwise_singleton _ _, ?_⟩
        intro other there last single
        rw [List.mem_singleton.mp single]
        exact newest other there

theorem remove (remembers : Remembers history map) (key : Cell) :
    Remembers (.remove key :: history) ((Change.remove key).make map).2 := by
  have bound := remembers.bound_make (.remove key)
  obtain ⟨distinct, valid, -, came, ordered⟩ := remembers
  rw [make_remove] at bound ⊢
  have keys : CellMap.keys ⟨map.entries.eraseP fun entry => entry.1 == key⟩ = map.keys.erase key :=
    keys_eraseP
  have kept : (map.keys.erase key).Sublist map.keys := List.erase_sublist
  obtain ⟨came, ordered⟩ := still (.remove key :: history) (fun _ _ => rfl)
    (fun other there => came other (kept.mem there)) (ordered.sublist kept)
  exact ⟨keys ▸ distinct.sublist kept, keys ▸ fun there => valid (kept.mem there), bound,
    keys ▸ came, keys ▸ ordered⟩

end Remembers

theorem after_remembers (history : List Change) : Remembers history (after history) := by
  induction history with
  | nil => exact ⟨.nil, List.not_mem_nil, fun _ => rfl, fun _ there => (by cases there), .nil⟩
  | cons change earlier ih =>
      cases change with
      | insert key value => exact ih.insert key value
      | remove key => exact ih.remove key

/-! ## Main statement -/

/-- The two columns hold the map, and do what the map does. -/
structure HeldBy (map : CellMap) (columns : Columns) : Prop where
  keys : columns.keys = map.keys
  values : columns.values = map.values
  parallel : columns.keys.length = columns.values.length
  lookup : ∀ key, columns.lookup key = some (map.get? key)
  make : ∀ change, ∃ changed, columns.make change = some ((change.make map).1, changed)
    ∧ changed = .ofMap (change.make map).2

/-- What can be told of a map from the changes that led to it, and what a further change does. -/
structure Keeps (history : List Change) (map : CellMap) : Prop extends Remembers history map where
  /-- The map is held in two columns that are changed apart. -/
  columns : ∃ columns, Columns.after history = some columns ∧ map.HeldBy columns
  refused : ∀ value,
    (Change.insert .invalid value).make map = (Cause.raise (.nullInput "map insert"), map)
  answered : ∀ change : Change, (∀ value, change ≠ .insert .invalid value) →
    (change.make map).1 = .ok (binding change.key history)
  untouched : ∀ (change : Change) (other : Cell), other ≠ change.key →
    (change.make map).2.get? other = map.get? other
  unmoved : ∀ change : Change,
    (change.make map).2.keys.filter (· != change.key) = map.keys.filter (· != change.key)

/-- **A map remembers the latest binding of every key and the order in which the keys came.** -/
theorem maps_remember (history : List Change) : Keeps history (after history) := by
  have remembers := after_remembers history
  refine { remembers with
    columns := ⟨_, Columns.after_eq history, ?_⟩
    refused := make_insert_invalid _
    answered := ?_
    untouched := fun change other apart => get?_make_of_ne _ change apart
    unmoved := ?_ }
  · refine ⟨rfl, rfl, ?_, Columns.lookup_ofMap _, fun change => ?_⟩
    · exact (List.length_map _).trans (List.length_map _).symm
    · exact ⟨_, Columns.make_ofMap _ change, rfl⟩
  · intro change accepted
    rw [← remembers.bound]
    cases change with
    | insert key value =>
        rw [make_insert _ value fun invalid => accepted value (invalid ▸ rfl)]
        rfl
    | remove key =>
        rw [make_remove]
        rfl
  · intro change
    have mapped := congrArg (List.map Prod.fst) (others_make (after history) change)
    unfold others at mapped
    rw [keys, keys, List.filter_map, List.filter_map]
    exact mapped

end TaggedCells.CellMap

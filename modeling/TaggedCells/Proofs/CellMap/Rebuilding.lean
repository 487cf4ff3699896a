import TaggedCells.Proofs.CellMap.History
import Mathlib.Data.List.Induction

/-!
# Maps made of pairs

A map is made of pairs by inserting them one after the other. A key takes its place where it comes
up first among the pairs and its value from where it comes up last, and a single pair with an erased
key refuses them all (`ofPairs_of_valid`, `ofPairs_of_invalid`).

The entries of a map are pairs, too. No key comes up twice among them, so they make the same map
again; and a map into which they are inserted has every one of them already, so it stays as it is
(`maps_are_made_of_their_entries`).
-/

set_option autoImplicit false

namespace TaggedCells.CellMap

/-- Inserts the pairs one after the other, until one is refused. -/
def insertAll (pairs : List (Cell × Cell)) : Edit CellMap Id Unit :=
  pairs.forM fun (key, value) => discard (insert key value)

/-- The entries with the values of the pairs under their keys. -/
def assignAll (pairs entries : List (Cell × Cell)) : List (Cell × Cell) :=
  pairs.foldl (fun reached pair => assign pair.1 pair.2 reached) entries

variable {key value : Cell} {pairs before rest entries : List (Cell × Cell)} {map : CellMap}

/-! ## Inserting one pair after the other -/

theorem insertAll_cons (pair : Cell × Cell) :
    insertAll (pair :: rest) = insert pair.1 pair.2 >>= fun _ => insertAll rest := by
  show (discard (insert pair.1 pair.2) >>= fun _ => insertAll rest) = _
  rw [discard, map_const, Function.comp_apply, bind_map_left]

/-- A pair with a key that is accepted is entered, and the next ones follow. -/
theorem applyPure_insertAll_cons (valid : key ≠ .invalid) :
    (insertAll ((key, value) :: rest)).applyPure map
      = (insertAll rest).applyPure ⟨assign key value map.entries⟩ := by
  have entered : (insert key value : Edit CellMap Id (Option Cell)).apply map
      = pure (.ok (map.get? key), ⟨assign key value map.entries⟩) := by
    rw [apply_insert, if_neg (valid ∘ isInvalid_iff.mp)]
  rw [insertAll_cons]
  exact Edit.apply_bind_of_ok entered _

theorem applyPure_insertAll_invalid :
    (insertAll ((.invalid, value) :: rest)).applyPure map
      = (Cause.raise (.nullInput "map insert"), map) := by
  rw [insertAll_cons]
  rfl

theorem applyPure_insertAll_of_valid (valid : ∀ pair ∈ pairs, pair.1 ≠ .invalid) :
    (insertAll pairs).applyPure map = (.ok (), ⟨assignAll pairs map.entries⟩) := by
  induction pairs generalizing map with
  | nil => rfl
  | cons pair rest ih =>
      obtain ⟨accepted, further⟩ := List.forall_mem_cons.mp valid
      rw [applyPure_insertAll_cons accepted, ih further]
      rfl

/-- A pair with an erased key ends it; the pairs before are entered. -/
theorem applyPure_insertAll_of_invalid (valid : ∀ pair ∈ before, pair.1 ≠ .invalid) :
    (insertAll (before ++ (.invalid, value) :: rest)).applyPure map
      = (Cause.raise (.nullInput "map insert"), ⟨assignAll before map.entries⟩) := by
  induction before generalizing map with
  | nil => exact applyPure_insertAll_invalid
  | cons pair before ih =>
      obtain ⟨accepted, further⟩ := List.forall_mem_cons.mp valid
      rw [List.cons_append, applyPure_insertAll_cons accepted, ih further]
      rfl

theorem ofPairs_eq : ofPairs pairs
    = ((insertAll pairs).applyPure {}).1.map fun _ => ((insertAll pairs).applyPure {}).2 := rfl

theorem ofPairs_of_valid (valid : ∀ pair ∈ pairs, pair.1 ≠ .invalid) :
    ofPairs pairs = .ok ⟨assignAll pairs []⟩ := by
  rw [ofPairs_eq, applyPure_insertAll_of_valid valid]
  rfl

theorem exists_first_invalid (refused : ∃ pair ∈ pairs, pair.1 = .invalid) :
    ∃ before value rest, pairs = before ++ (.invalid, value) :: rest
      ∧ ∀ pair ∈ before, pair.1 ≠ .invalid := by
  have listed : Cell.invalid ∈ pairs.map Prod.fst := List.mem_map.mpr refused
  obtain ⟨before, value, rest, parted, absent⟩ := exists_parted listed
  exact ⟨before, value, rest, parted, fun pair there erased =>
    absent (erased ▸ List.mem_map_of_mem there)⟩

theorem ofPairs_of_invalid (refused : ∃ pair ∈ pairs, pair.1 = .invalid) :
    ofPairs pairs = (Cause.nullInput "map insert").raise := by
  obtain ⟨before, value, rest, rfl, valid⟩ := exists_first_invalid refused
  rw [ofPairs_eq, applyPure_insertAll_of_invalid valid]
  rfl

/-! ## Keys and values of the pairs -/

theorem assignAll_append (later : List (Cell × Cell)) :
    assignAll (pairs ++ later) entries = assignAll later (assignAll pairs entries) :=
  List.foldl_append

/-- The keys stand in the order in which they first come up. -/
theorem keys_assignAll : (assignAll pairs []).map Prod.fst = (pairs.map Prod.fst).eraseDups := by
  -- the last pair decides whether a key is added, so the induction takes it off first
  induction pairs using List.reverseRecOn with
  | nil => rfl
  | append_singleton pairs pair ih =>
      have step : assignAll (pairs ++ [pair]) [] = assign pair.1 pair.2 (assignAll pairs []) :=
        assignAll_append [pair]
      rw [step, keys_assign, ih, List.map_append, List.eraseDups_append]
      simp only [List.mem_eraseDups]
      split
      case isTrue present => simp [List.removeAll, present]
      case isFalse absent => simp [List.removeAll, absent, List.eraseDups_cons]

theorem lookup_assign_of_ne {other : Cell} (apart : other ≠ key) :
    (assign key value entries).lookup other = entries.lookup other := by
  rw [← lookup_others apart, others_assign, lookup_others apart]

theorem lookup_assignAll_of_absent (absent : key ∉ pairs.map Prod.fst) :
    (assignAll pairs entries).lookup key = entries.lookup key := by
  induction pairs generalizing entries with
  | nil => rfl
  | cons pair rest ih =>
      rw [List.map_cons, List.mem_cons, not_or] at absent
      exact (ih absent.2).trans (lookup_assign_of_ne absent.1)

/-- The value under a key is the one that the key comes up with last. -/
theorem lookup_assignAll (absent : key ∉ rest.map Prod.fst) :
    (assignAll (before ++ (key, value) :: rest) entries).lookup key = some value := by
  have step : assignAll (before ++ (key, value) :: rest) entries
      = assignAll rest (assign key value (assignAll before entries)) := assignAll_append _
  rw [step, lookup_assignAll_of_absent absent, lookup_assign]

/-! ## Entries once more -/

/-- Pairs under keys that are new to the entries, and different, are appended. -/
theorem assignAll_of_fresh (distinct : ((entries ++ pairs).map Prod.fst).Nodup) :
    assignAll pairs entries = entries ++ pairs := by
  induction pairs generalizing entries with
  | nil => exact (List.append_nil entries).symm
  | cons pair rest ih =>
      have absent : pair.1 ∉ entries.map Prod.fst := by
        rw [List.map_append, List.nodup_append] at distinct
        exact fun there => distinct.2.2 _ there _ List.mem_cons_self rfl
      show assignAll rest (assign pair.1 pair.2 entries) = _
      rw [assign_of_absent absent, ih (by rwa [List.append_assoc]), List.append_assoc]
      rfl

/-- An entry that is there stays as it is when it is entered again. -/
theorem assign_of_held (distinct : (entries.map Prod.fst).Nodup) (held : (key, value) ∈ entries) :
    assign key value entries = entries := by
  obtain ⟨before, rest, rfl⟩ := List.append_of_mem held
  refine assign_parted (fun there => ?_) value
  rw [List.map_append, List.nodup_append] at distinct
  exact distinct.2.2 _ there _ List.mem_cons_self rfl

theorem assignAll_of_held (distinct : (entries.map Prod.fst).Nodup)
    (held : ∀ pair ∈ pairs, pair ∈ entries) : assignAll pairs entries = entries := by
  induction pairs with
  | nil => rfl
  | cons pair rest ih =>
      obtain ⟨present, further⟩ := List.forall_mem_cons.mp held
      show assignAll rest (assign pair.1 pair.2 entries) = _
      rw [assign_of_held distinct present, ih further]

/-! ## Main statement -/

/-- What comes of making a map of the pairs. -/
structure Gathers (pairs : List (Cell × Cell)) (outcome : Except Failure CellMap) : Prop where
  succeeds : (∃ map, outcome = .ok map) ↔ ∀ pair ∈ pairs, pair.1 ≠ .invalid
  refused : (∃ pair ∈ pairs, pair.1 = .invalid) → outcome = (Cause.nullInput "map insert").raise
  keys : ∀ map, outcome = .ok map → map.keys = (pairs.map Prod.fst).eraseDups
  /-- The value under a key is the one in the last pair with the key. -/
  values : ∀ map, outcome = .ok map → ∀ before key value rest,
    pairs = before ++ (key, value) :: rest → key ∉ rest.map Prod.fst → map.get? key = some value

/-- What comes of the entries of a map, taken as pairs, after the changes that led to the map. -/
structure Reproduces (history : List Change) (map : CellMap) : Prop where
  rebuilt : ofPairs map.entries = .ok map
  /-- The two columns list the same pairs. -/
  listed : ∃ columns, Columns.after history = some columns
    ∧ columns.keys.zip columns.values = map.entries
  /-- It does not matter which of the entries are inserted, how often and in which order. -/
  unchanged : ∀ pairs : List (Cell × Cell), (∀ pair ∈ pairs, pair ∈ map.entries) →
    (insertAll pairs).applyPure map = (.ok (), map)

theorem ofPairs_gathers (pairs : List (Cell × Cell)) : Gathers pairs (ofPairs pairs) := by
  by_cases valid : ∀ pair ∈ pairs, pair.1 ≠ .invalid
  · rw [ofPairs_of_valid valid]
    refine ⟨⟨fun _ => valid, fun _ => ⟨_, rfl⟩⟩, ?_, ?_, ?_⟩
    · rintro ⟨pair, there, erased⟩
      exact absurd erased (valid pair there)
    · rintro map made
      obtain rfl := Except.ok.inj made
      exact keys_assignAll
    · rintro map made before key value rest rfl absent
      obtain rfl := Except.ok.inj made
      exact lookup_assignAll absent
  · have refused : ∃ pair ∈ pairs, pair.1 = .invalid := by
      simpa only [not_forall, not_not, exists_prop] using valid
    rw [ofPairs_of_invalid refused]
    refine ⟨⟨?_, fun accepted => absurd accepted valid⟩, fun _ => rfl, ?_, ?_⟩
    · rintro ⟨map, made⟩
      cases made
    · rintro map made
      cases made
    · rintro map made
      cases made

theorem after_reproduces (history : List Change) : Reproduces history (after history) := by
  obtain ⟨distinct, valid, -⟩ := after_remembers history
  have accepted : ∀ pair ∈ (after history).entries, pair.1 ≠ .invalid := fun pair there erased =>
    valid (erased ▸ List.mem_map_of_mem there)
  refine ⟨?_, ⟨_, Columns.after_eq history, (List.zip_of_prod rfl rfl).symm⟩, ?_⟩
  · have fresh : (([] ++ (after history).entries).map Prod.fst).Nodup := distinct
    rw [ofPairs_of_valid accepted, assignAll_of_fresh fresh]
    rfl
  · intro pairs held
    rw [applyPure_insertAll_of_valid fun pair there => accepted pair (held pair there),
      assignAll_of_held distinct held]

/-- **Pairs make a map with their keys in the order in which they first come up and the values with
which they come up last, if no key is erased; and every map that insertions and removals lead to is
made of its own entries**, which change nothing when they are inserted into it. -/
theorem maps_are_made_of_their_entries :
    (∀ pairs : List (Cell × Cell), Gathers pairs (ofPairs pairs))
      ∧ ∀ history : List Change, Reproduces history (after history) :=
  ⟨ofPairs_gathers, after_reproduces⟩

end TaggedCells.CellMap

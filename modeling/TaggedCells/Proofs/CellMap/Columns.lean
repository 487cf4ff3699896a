import TaggedCells.Proofs.CellMap.Entries

/-!
# Maps in two columns

A map can be kept as a sequence of keys beside a sequence of values. A key is looked up in the one
and its position used in the other, and each column is changed on its own: a value replaced where
it stands, one cell appended to either, or one taken out of either. Such a map would be torn if
the columns ever came to differ in length, and a position past the end of one would bring the
operation down; here that is an operation without a result.

It never happens. Two columns that list the entries of a map answer as the map does, and list its
entries afterwards (`Columns.make_ofMap`).
-/

set_option autoImplicit false

namespace TaggedCells

/-- Keys and values in two sequences. -/
structure Columns where
  keys : List Cell := []
  values : List Cell := []
  deriving DecidableEq

namespace CellMap

/-- A change of a map. -/
inductive Change where
  | insert (key value : Cell)
  | remove (key : Cell)
  deriving DecidableEq

/-- The key that the change is about. -/
def Change.key : Change → Cell
  | .insert key _ => key
  | .remove key => key

/-- What the change answers, and the map afterwards. -/
def Change.make (map : CellMap) : Change → Except Failure (Option Cell) × CellMap
  | .insert key value => (CellMap.insert key value).applyPure map
  | .remove key => (CellMap.remove key).applyPure map

/-- A new map after the changes, which are listed with the latest first. -/
def after : List Change → CellMap
  | [] => {}
  | change :: earlier => (change.make (after earlier)).2

end CellMap

namespace Columns

/-- The entries of a map in two columns. -/
def ofMap (map : CellMap) : Columns := ⟨map.keys, map.values⟩

/-- The position of a key. -/
def position? (columns : Columns) (key : Cell) : Option Nat :=
  columns.keys.findIdx? (· == key)

/-- The value under a key, if the position of the key is one among the values. -/
def lookup (columns : Columns) (key : Cell) : Option (Option Cell) :=
  match columns.position? key with
  | none => some none
  | some index => some <$> columns.values[index]?

/-- Replaces the value under a key, or appends to both columns. -/
def insert (columns : Columns) (key value : Cell) :
    Option (Except Failure (Option Cell) × Columns) :=
  if key.isInvalid then some ((Cause.nullInput "map insert").raise, columns)
  else match columns.position? key with
    | some index => do
        let held ← columns.values[index]?
        return (.ok (some held), { columns with values := columns.values.set index value })
    | none => return (.ok none, ⟨columns.keys ++ [key], columns.values ++ [value]⟩)

/-- Takes the key out of the one column and its value out of the other. -/
def remove (columns : Columns) (key : Cell) : Option (Except Failure (Option Cell) × Columns) :=
  match columns.position? key with
  | some index => do
      let _ ← columns.keys[index]?
      let held ← columns.values[index]?
      return (.ok (some held), ⟨columns.keys.eraseIdx index, columns.values.eraseIdx index⟩)
  | none => return (.ok none, columns)

/-- What the change answers, and the columns afterwards. -/
def make (columns : Columns) : CellMap.Change → Option (Except Failure (Option Cell) × Columns)
  | .insert key value => columns.insert key value
  | .remove key => columns.remove key

/-- New columns after the changes, which are listed with the latest first. -/
def after : List CellMap.Change → Option Columns
  | [] => some {}
  | change :: earlier => do
      let reached ← after earlier
      let (_, columns) ← reached.make change
      return columns

/-! ## Columns of parted entries -/

section Parted

variable {key held : Cell} {before rest : List (Cell × Cell)}

theorem position?_of_absent {map : CellMap} (absent : key ∉ map.keys) :
    (ofMap map).position? key = none :=
  CellMap.findIdx?_of_absent absent

theorem position?_parted (absent : key ∉ before.map Prod.fst) :
    (ofMap ⟨before ++ (key, held) :: rest⟩).position? key = some before.length :=
  CellMap.findIdx?_parted absent

theorem keys_parted :
    (ofMap ⟨before ++ (key, held) :: rest⟩).keys
      = before.map Prod.fst ++ key :: rest.map Prod.fst := by
  rw [ofMap, CellMap.keys, List.map_append, List.map_cons]

theorem values_parted :
    (ofMap ⟨before ++ (key, held) :: rest⟩).values
      = before.map Prod.snd ++ held :: rest.map Prod.snd := by
  rw [ofMap, CellMap.values, List.map_append, List.map_cons]

theorem key_at :
    (ofMap ⟨before ++ (key, held) :: rest⟩).keys[before.length]? = some key := by
  rw [keys_parted, List.getElem?_append_right (by simp)]
  simp

theorem value_at :
    (ofMap ⟨before ++ (key, held) :: rest⟩).values[before.length]? = some held := by
  rw [values_parted, List.getElem?_append_right (by simp)]
  simp

theorem replaced (value : Cell) :
    (⟨(ofMap ⟨before ++ (key, held) :: rest⟩).keys,
        (ofMap ⟨before ++ (key, held) :: rest⟩).values.set before.length value⟩ : Columns)
      = ofMap ⟨before ++ (key, value) :: rest⟩ := by
  rw [keys_parted, values_parted, List.set_append_right _ _ (by simp)]
  simp [ofMap, CellMap.keys, CellMap.values]

theorem taken_out :
    (⟨(ofMap ⟨before ++ (key, held) :: rest⟩).keys.eraseIdx before.length,
        (ofMap ⟨before ++ (key, held) :: rest⟩).values.eraseIdx before.length⟩ : Columns)
      = ofMap ⟨before ++ rest⟩ := by
  rw [keys_parted, values_parted, List.eraseIdx_append_of_length_le (by simp),
    List.eraseIdx_append_of_length_le (by simp)]
  simp [ofMap, CellMap.keys, CellMap.values]

theorem appended (entries : List (Cell × Cell)) (value : Cell) :
    (⟨(ofMap ⟨entries⟩).keys ++ [key], (ofMap ⟨entries⟩).values ++ [value]⟩ : Columns)
      = ofMap ⟨entries ++ [(key, value)]⟩ := by
  simp [ofMap, CellMap.keys, CellMap.values]

end Parted

/-! ## The columns of a map -/

variable (map : CellMap)

theorem lookup_ofMap (key : Cell) : (ofMap map).lookup key = some (map.get? key) := by
  unfold lookup
  by_cases present : key ∈ map.entries.map Prod.fst
  · obtain ⟨before, held, rest, parted, absent⟩ := CellMap.exists_parted present
    obtain rfl : map = ⟨before ++ (key, held) :: rest⟩ := congrArg CellMap.mk parted
    rw [position?_parted absent]
    dsimp only
    rw [value_at, CellMap.get?, CellMap.lookup_parted absent]
    rfl
  · rw [position?_of_absent present, CellMap.get?, CellMap.lookup_eq_none present]

theorem insert_ofMap (key value : Cell) :
    (ofMap map).insert key value
      = some (((CellMap.insert key value).applyPure map).1,
          ofMap ((CellMap.insert key value).applyPure map).2) := by
  rw [Edit.applyPure, CellMap.apply_insert]
  unfold insert
  cases key.isInvalid with
  | true => rfl
  | false =>
      simp only [Bool.false_eq_true, if_false]
      by_cases present : key ∈ map.entries.map Prod.fst
      · obtain ⟨before, held, rest, parted, absent⟩ := CellMap.exists_parted present
        obtain rfl : map = ⟨before ++ (key, held) :: rest⟩ := congrArg CellMap.mk parted
        rw [position?_parted absent]
        dsimp only
        rw [value_at, CellMap.get?, CellMap.lookup_parted absent, CellMap.assign_parted absent]
        exact congrArg (fun columns => some (Except.ok (some held), columns)) (replaced value)
      · rw [position?_of_absent present, CellMap.get?, CellMap.lookup_eq_none present,
          CellMap.assign_of_absent present]
        exact congrArg (fun columns => some (Except.ok none, columns)) (appended map.entries value)

theorem remove_ofMap (key : Cell) :
    (ofMap map).remove key
      = some (((CellMap.remove key).applyPure map).1,
          ofMap ((CellMap.remove key).applyPure map).2) := by
  rw [Edit.applyPure, CellMap.apply_remove]
  unfold remove
  by_cases present : key ∈ map.entries.map Prod.fst
  · obtain ⟨before, held, rest, parted, absent⟩ := CellMap.exists_parted present
    obtain rfl : map = ⟨before ++ (key, held) :: rest⟩ := congrArg CellMap.mk parted
    rw [position?_parted absent]
    dsimp only
    rw [key_at, value_at, CellMap.get?, CellMap.lookup_parted absent, CellMap.eraseP_parted absent]
    exact congrArg (fun columns => some (Except.ok (some held), columns)) taken_out
  · rw [position?_of_absent present, CellMap.get?, CellMap.lookup_eq_none present,
      CellMap.eraseP_of_absent present]
    rfl

/-- **A change of the columns is the change of the map.** -/
theorem make_ofMap (change : CellMap.Change) :
    (ofMap map).make change = some ((change.make map).1, ofMap (change.make map).2) := by
  cases change with
  | insert key value => exact insert_ofMap map key value
  | remove key => exact remove_ofMap map key

/-- The columns never lose their map. -/
theorem after_eq (history : List CellMap.Change) :
    after history = some (ofMap (CellMap.after history)) := by
  induction history with
  | nil => rfl
  | cons change earlier ih =>
      rw [after, ih]
      show ((ofMap (CellMap.after earlier)).make change >>= fun made => some made.2) = _
      rw [make_ofMap]
      rfl

end Columns
end TaggedCells

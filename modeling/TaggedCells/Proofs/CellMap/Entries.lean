import TaggedCells.CellMap
import Mathlib.Data.List.Basic

/-!
# Entries under a key

A key is either absent from a list of entries, or the list can be parted at the first entry under
it (`exists_parted`). On the parted list a look-up, an assignment and a removal are what they say;
everything else about them follows: which keys there are afterwards, and that the entries under
other keys stay as they were, in their order.
-/

set_option autoImplicit false

namespace TaggedCells.CellMap

variable {key held : Cell} {entries before rest : List (Cell × Cell)}

/-! ## Absent keys -/

theorem lookup_eq_none (absent : key ∉ entries.map Prod.fst) : entries.lookup key = none := by
  refine List.lookup_eq_none_iff.mpr fun entry present => ?_
  have apart : key ≠ entry.1 := fun same => absent (same ▸ List.mem_map_of_mem present)
  simpa using apart

theorem assign_of_absent (absent : key ∉ entries.map Prod.fst) (value : Cell) :
    assign key value entries = entries ++ [(key, value)] := by
  induction entries with
  | nil => rfl
  | cons entry rest ih =>
      obtain ⟨present, held⟩ := entry
      rw [List.map_cons, List.mem_cons, not_or] at absent
      rw [assign, if_neg fun same => absent.1 same.symm, ih absent.2, List.cons_append]

theorem eraseP_of_absent (absent : key ∉ entries.map Prod.fst) :
    (entries.eraseP fun entry => entry.1 == key) = entries := by
  refine List.eraseP_of_forall_not fun entry present same => absent ?_
  rw [← beq_iff_eq.mp same]
  exact List.mem_map_of_mem present

/-! ## Keys that are there -/

/-- Entries under a key can be parted at the first of them. -/
theorem exists_parted (present : key ∈ entries.map Prod.fst) :
    ∃ before held rest, entries = before ++ (key, held) :: rest
      ∧ key ∉ before.map Prod.fst := by
  induction entries with
  | nil => cases present
  | cons entry others ih =>
      obtain ⟨first, held⟩ := entry
      by_cases same : key = first
      · subst same
        exact ⟨[], held, others, rfl, List.not_mem_nil⟩
      · rw [List.map_cons, List.mem_cons] at present
        obtain ⟨before, found, rest, rfl, absent⟩ := ih (present.resolve_left same)
        refine ⟨(first, held) :: before, found, rest, rfl, ?_⟩
        rw [List.map_cons, List.mem_cons, not_or]
        exact ⟨same, absent⟩

section Parted

variable (absent : key ∉ before.map Prod.fst)

include absent

theorem lookup_parted : (before ++ (key, held) :: rest).lookup key = some held := by
  refine List.lookup_eq_some_iff.mpr ⟨before, rest, rfl, fun entry present => ?_⟩
  have apart : key ≠ entry.1 := fun same => absent (same ▸ List.mem_map_of_mem present)
  simpa using apart

theorem assign_parted (value : Cell) :
    assign key value (before ++ (key, held) :: rest) = before ++ (key, value) :: rest := by
  induction before with
  | nil => rw [List.nil_append, assign, if_pos rfl, List.nil_append]
  | cons entry before ih =>
      obtain ⟨first, other⟩ := entry
      rw [List.map_cons, List.mem_cons, not_or] at absent
      rw [List.cons_append, assign, if_neg fun same => absent.1 same.symm, ih absent.2,
        List.cons_append]

theorem eraseP_parted :
    ((before ++ (key, held) :: rest).eraseP fun entry => entry.1 == key) = before ++ rest := by
  have elsewhere : ∀ entry ∈ before, ¬(entry.1 == key) = true := fun entry present same =>
    absent (beq_iff_eq.mp same ▸ List.mem_map_of_mem present)
  rw [List.eraseP_append_right _ elsewhere]
  exact congrArg (before ++ ·) (List.eraseP_cons_of_pos (beq_self_eq_true key))

theorem findIdx?_parted :
    ((before ++ (key, held) :: rest).map Prod.fst).findIdx? (· == key)
      = some before.length := by
  rw [List.map_append, List.findIdx?_append, List.findIdx?_eq_none_iff.mpr, List.map_cons,
    List.findIdx?_cons, List.length_map]
  · simp
  · intro other present
    exact beq_eq_false_iff_ne.mpr fun same => absent (same ▸ present)

end Parted

theorem findIdx?_of_absent (absent : key ∉ entries.map Prod.fst) :
    (entries.map Prod.fst).findIdx? (· == key) = none :=
  List.findIdx?_eq_none_iff.mpr fun _ present =>
    beq_eq_false_iff_ne.mpr fun same => absent (same ▸ present)

/-! ## Keys afterwards -/

theorem keys_assign (value : Cell) :
    (assign key value entries).map Prod.fst
      = if key ∈ entries.map Prod.fst then entries.map Prod.fst
        else entries.map Prod.fst ++ [key] := by
  by_cases present : key ∈ entries.map Prod.fst
  · rw [if_pos present]
    obtain ⟨before, held, rest, rfl, absent⟩ := exists_parted present
    rw [assign_parted absent, List.map_append, List.map_append, List.map_cons, List.map_cons]
  · rw [if_neg present, assign_of_absent present, List.map_append]
    rfl

theorem keys_eraseP :
    (entries.eraseP fun entry => entry.1 == key).map Prod.fst
      = (entries.map Prod.fst).erase key := by
  rw [List.erase_eq_eraseP, List.eraseP_map]
  congr 2
  funext entry
  exact Bool.beq_comm

/-! ## Other keys -/

/-- The entries under other keys. -/
def others (key : Cell) (entries : List (Cell × Cell)) : List (Cell × Cell) :=
  entries.filter fun entry => entry.1 != key

theorem others_parted :
    others key (before ++ (key, held) :: rest) = others key before ++ others key rest := by
  unfold others
  rw [List.filter_append, List.filter_cons_of_neg (by simp)]

theorem others_assign (value : Cell) :
    others key (assign key value entries) = others key entries := by
  by_cases present : key ∈ entries.map Prod.fst
  · obtain ⟨before, held, rest, rfl, absent⟩ := exists_parted present
    rw [assign_parted absent, others_parted, others_parted]
  · rw [assign_of_absent present, others_parted]
    exact List.append_nil _

theorem others_eraseP :
    others key (entries.eraseP fun entry => entry.1 == key) = others key entries := by
  by_cases present : key ∈ entries.map Prod.fst
  · obtain ⟨before, held, rest, rfl, absent⟩ := exists_parted present
    rw [eraseP_parted absent, others_parted, others, List.filter_append, ← others, ← others]
  · rw [eraseP_of_absent present]

/-- What is under a key can be looked up among the entries under other keys than another. -/
theorem lookup_others {other : Cell} (apart : other ≠ key) :
    (others key entries).lookup other = entries.lookup other := by
  induction entries with
  | nil => rfl
  | cons entry rest ih =>
      obtain ⟨first, held⟩ := entry
      unfold others at ih ⊢
      by_cases same : first = key
      · have elsewhere : (other == first) = false :=
          beq_eq_false_iff_ne.mpr fun here => apart (here.trans same)
        rw [List.filter_cons_of_neg (by simpa using same), ih, List.lookup_cons, elsewhere]
      · rw [List.filter_cons_of_pos (by simpa using same), List.lookup_cons, List.lookup_cons, ih]

end TaggedCells.CellMap

import TaggedCells.Trace.Buffer
import Mathlib.Order.Lattice.Nat
import Mathlib.Data.List.Basic

/-!
# The summary of a buffer

One pass counts the records by their categories. Every record counts for one category, so the
three counts add up to the length (`total_stats`), and each is the number of records that the
buffer lists for its category (`count_stats`).

The summary takes the span of steps from the two end records. It is the span of all of them
wherever the steps never fall (`steps_stats`).
-/

set_option autoImplicit false

namespace TaggedCells.Trace.Buffer

/-! ## Counting by category -/

/-- Counts the categories of the records into a summary. -/
def counting (records : List Record) (stats : Stats) : Stats :=
  records.foldl (fun stats record => stats.counting record.event.category) stats

theorem count_counting (records : List Record) (stats : Stats) (category : Category) :
    (counting records stats).count category
      = stats.count category
        + records.countP fun record => record.event.category == category := by
  induction records generalizing stats with
  | nil => rfl
  | cons record rest ih =>
      have first : (stats.counting record.event.category).count category
          = stats.count category + if record.event.category == category then 1 else 0 := by
        cases record.event.category <;> cases category <;> rfl
      rw [counting, List.foldl_cons, ← counting, ih, first, List.countP_cons]
      omega

theorem total_counting (records : List Record) (stats : Stats) :
    (counting records stats).lifecycle + (counting records stats).algorithms
        + (counting records stats).failures
      = stats.lifecycle + stats.algorithms + stats.failures + records.length := by
  induction records generalizing stats with
  | nil => rfl
  | cons record rest ih =>
      have first : (stats.counting record.event.category).lifecycle
            + (stats.counting record.event.category).algorithms
            + (stats.counting record.event.category).failures
          = stats.lifecycle + stats.algorithms + stats.failures + 1 := by
        cases record.event.category <;> simp only [Stats.counting] <;> omega
      rw [counting, List.foldl_cons, ← counting, ih, first, List.length_cons]
      omega

/-- Counting leaves what the summary tells of the buffer itself. -/
theorem counting_leaves (records : List Record) (stats : Stats) :
    (counting records stats).length = stats.length
      ∧ (counting records stats).capacity = stats.capacity
      ∧ (counting records stats).evicted = stats.evicted := by
  induction records generalizing stats with
  | nil => exact ⟨rfl, rfl, rfl⟩
  | cons record rest ih =>
      rw [counting, List.foldl_cons, ← counting]
      refine (ih _).imp (·.trans ?_) (·.imp (·.trans ?_) (·.trans ?_)) <;>
        cases record.event.category <;> rfl

variable (buffer : Buffer)

theorem count_stats (category : Category) :
    buffer.stats.count category = (buffer.inCategory category).length := by
  have counted := count_counting buffer.records buffer.blankStats category
  rw [inCategory, ← List.countP_eq_length_filter]
  cases category <;> exact counted.trans (Nat.zero_add _)

theorem length_stats : buffer.stats.length = buffer.records.length :=
  (counting_leaves buffer.records buffer.blankStats).1

theorem capacity_stats : buffer.stats.capacity = buffer.capacity :=
  (counting_leaves buffer.records buffer.blankStats).2.1

theorem evicted_stats : buffer.stats.evicted = buffer.evicted :=
  (counting_leaves buffer.records buffer.blankStats).2.2

theorem total_stats :
    buffer.stats.lifecycle + buffer.stats.algorithms + buffer.stats.failures
      = buffer.stats.length := by
  rw [length_stats]
  exact (total_counting buffer.records buffer.blankStats).trans (Nat.zero_add _)

/-! ## The span of steps -/

/-- The steps of the records, the oldest first. -/
def steps : List Nat := buffer.records.map Record.step

theorem steps_stats_eq_none_iff : buffer.stats.steps = none ↔ buffer.records = [] := by
  unfold stats
  cases buffer.records with
  | nil => exact iff_of_true rfl rfl
  | cons oldest rest => simp [List.getLast?_cons]

theorem max?_eq_getLast? {numbers : List Nat} (rising : numbers.Pairwise (· ≤ ·)) :
    numbers.max? = numbers.getLast? := by
  cases last : numbers.getLast? with
  | none => rw [List.getLast?_eq_none_iff.mp last, List.max?_nil]
  | some greatest =>
      obtain ⟨others, rfl⟩ := List.getLast?_eq_some_iff.mp last
      refine List.max?_eq_some_iff.mpr ⟨List.mem_concat_self, fun number present => ?_⟩
      rcases List.mem_append.mp present with other | same
      · exact (List.pairwise_append.mp rising).2.2 number other greatest (List.mem_singleton_self _)
      · exact (List.mem_singleton.mp same).le

/-- Where the steps never fall, the end records span them all. -/
theorem steps_stats (rising : buffer.steps.Pairwise (· ≤ ·)) :
    buffer.stats.steps = (do
      let least ← buffer.steps.min?
      let greatest ← buffer.steps.max?
      return (least, greatest)) := by
  have least : buffer.steps.min? = buffer.records.head?.map Record.step := by
    rw [List.min?_eq_head? (rising.imp min_eq_left), steps, List.head?_map]
  have greatest : buffer.steps.max? = buffer.records.getLast?.map Record.step := by
    rw [max?_eq_getLast? rising, steps, List.getLast?_map]
  rw [least, greatest]
  show (do
    let oldest ← buffer.records.head?
    let newest ← buffer.records.getLast?
    return (oldest.step, newest.step)) = _
  cases buffer.records.head? <;> cases buffer.records.getLast? <;> rfl

end TaggedCells.Trace.Buffer

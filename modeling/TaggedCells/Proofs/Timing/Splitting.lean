import TaggedCells.Proofs.Timing.Totals

/-!
# Splitting durations

A duration is split into minutes, seconds, milliseconds and microseconds, and what is below a
microsecond is dropped. The components below a minute are each less than one of the next unit, so
there is one timing only that shows what there is of the duration (`shows_iff`). Adding its
components up exceeds no word, so the duration comes back without what was dropped, the longest one
as well. And a timing comes back from the duration that it adds up to if its components are in their
ranges and a word holds its seconds, and otherwise not (`splitting_is_undone`).
-/

set_option autoImplicit false

namespace TaggedCells

/-- The duration without what is below a microsecond. -/
def Duration.truncated (duration : Duration) : Duration where
  seconds := duration.seconds
  nanos := duration.nanos / 1000 * 1000
  nanos_lt := Nat.lt_of_le_of_lt (Nat.div_mul_le_self _ _) duration.nanos_lt

namespace Timing

/-- Each component below the minutes is less than one of the next unit. -/
structure Proper (timing : Timing) : Prop where
  seconds_le : timing.seconds ≤ 59
  milliseconds_le : timing.milliseconds ≤ 999
  microseconds_le : timing.microseconds ≤ 999

/-- The components are in their ranges and add up to the seconds of the duration, and to the whole
microseconds beyond them. -/
structure Shows (timing : Timing) (duration : Duration) : Prop extends Proper timing where
  wholeSeconds_eq : timing.wholeSeconds = duration.seconds.toNat
  wholeMicros_eq : timing.wholeMicros = duration.nanos / 1000

theorem Proper.wholeMicros_lt {timing : Timing} (proper : timing.Proper) :
    timing.wholeMicros < 1000000 := by
  have milliseconds := UInt64.le_iff_toNat_le.mp proper.milliseconds_le
  have microseconds := UInt64.le_iff_toNat_le.mp proper.microseconds_le
  simp only [UInt64.reduceToNat] at milliseconds microseconds
  rw [wholeMicros]
  omega

/-! ## The timing that shows a duration -/

section Splitting

variable {timing : Timing} {duration : Duration}

theorem toNat_subsecondMicros (duration : Duration) :
    duration.subsecondMicros.toNat = duration.nanos / 1000 := by
  refine UInt64.toNat_ofNat_of_lt' ?_
  have below := duration.nanos_lt
  show _ < 2 ^ (64 : Nat)
  unfold nanosPerSecond at below
  omega

theorem ofDuration_shows (duration : Duration) : (ofDuration duration).Shows duration := by
  have micros := toNat_subsecondMicros duration
  have below := duration.nanos_lt
  unfold nanosPerSecond at below
  refine ⟨⟨?_, ?_, ?_⟩, ?_, ?_⟩
  all_goals
    simp only [ofDuration, wholeSeconds, wholeMicros, UInt64.le_iff_toNat_le, UInt64.toNat_div,
      UInt64.toNat_mod, UInt64.reduceToNat, micros]
    omega

/-- Components in their ranges are the quotients and the remainders of what they add up to. -/
theorem Proper.components_eq (proper : timing.Proper) :
    timing.minutes.toNat = timing.wholeSeconds / 60
      ∧ timing.seconds.toNat = timing.wholeSeconds % 60
      ∧ timing.milliseconds.toNat = timing.wholeMicros / 1000
      ∧ timing.microseconds.toNat = timing.wholeMicros % 1000 := by
  obtain ⟨seconds, milliseconds, microseconds⟩ := proper
  simp only [UInt64.le_iff_toNat_le, UInt64.reduceToNat] at seconds milliseconds microseconds
  unfold wholeSeconds wholeMicros
  omega

theorem Proper.eq_of_whole_eq {other : Timing} (proper : timing.Proper) (properly : other.Proper)
    (seconds : timing.wholeSeconds = other.wholeSeconds)
    (micros : timing.wholeMicros = other.wholeMicros) : timing = other := by
  have here := proper.components_eq
  have there := properly.components_eq
  rw [seconds, micros] at here
  cases timing
  cases other
  dsimp only at here there
  simp only [mk.injEq, ← UInt64.toNat_inj]
  omega

/-- **One timing shows a duration, and splitting finds it.** -/
theorem shows_iff : timing.Shows duration ↔ timing = ofDuration duration := by
  constructor
  · intro showing
    have found := ofDuration_shows duration
    exact showing.toProper.eq_of_whole_eq found.toProper
      (showing.wholeSeconds_eq.trans found.wholeSeconds_eq.symm)
      (showing.wholeMicros_eq.trans found.wholeMicros_eq.symm)
  · rintro rfl
    exact ofDuration_shows duration

end Splitting

/-! ## There and back -/

section Back

variable {timing : Timing} {duration : Duration}

/-- Components in their ranges add up to less than a second beyond the whole seconds, so nothing is
cut off if a word holds those. -/
theorem Proper.totalNanos_toDuration (proper : timing.Proper)
    (held : timing.wholeSeconds < 2 ^ (64 : Nat)) :
    timing.toDuration.totalNanos = timing.totalNanos := by
  have micros := proper.wholeMicros_lt
  have reaches : timing.ReachesTotal := reachesTotal_of_lt held (by omega)
  rw [reaches, Duration.totalNanos_longest, totalNanos]
  unfold nanosPerSecond
  omega

theorem Shows.wholeSeconds_lt (shown : timing.Shows duration) :
    timing.wholeSeconds < 2 ^ (64 : Nat) := by
  rw [shown.wholeSeconds_eq]
  exact duration.seconds.toNat_lt

theorem Shows.toDuration_eq (shown : timing.Shows duration) :
    timing.toDuration = duration.truncated := by
  refine Duration.eq_of_totalNanos_eq ?_
  rw [shown.toProper.totalNanos_toDuration shown.wholeSeconds_lt, totalNanos,
    shown.wholeSeconds_eq, shown.wholeMicros_eq]
  rfl

/-- A timing in its ranges shows the duration that it adds up to. -/
theorem Proper.shows_toDuration (proper : timing.Proper)
    (held : timing.wholeSeconds < 2 ^ (64 : Nat)) : timing.Shows timing.toDuration := by
  have total := proper.totalNanos_toDuration held
  have micros := proper.wholeMicros_lt
  have below := timing.toDuration.nanos_lt
  unfold Duration.totalNanos totalNanos at total
  unfold nanosPerSecond at total below
  exact ⟨proper, by omega, by omega⟩

end Back

/-! ## Main statement -/

/-- Splitting the duration puts every component in its range, and adding the components up reaches
their total, which is the duration without what is below a microsecond. -/
structure ComesBack (duration : Duration) : Prop where
  proper : (ofDuration duration).Proper
  exact : (ofDuration duration).toDuration.totalNanos = (ofDuration duration).totalNanos
  back : (ofDuration duration).toDuration = duration.truncated

/-- **A duration comes back from its timing without what is below a microsecond. A timing comes back
from its duration exactly if its components are in their ranges and a word holds its seconds.** -/
theorem splitting_is_undone :
    (∀ duration : Duration, ComesBack duration)
      ∧ ∀ timing : Timing,
        timing.Proper ∧ timing.wholeSeconds < 2 ^ (64 : Nat)
          ↔ ofDuration timing.toDuration = timing := by
  refine ⟨fun duration => ?_, fun timing => ⟨?_, ?_⟩⟩
  · have shown := ofDuration_shows duration
    exact ⟨shown.toProper, shown.toProper.totalNanos_toDuration shown.wholeSeconds_lt,
      shown.toDuration_eq⟩
  · rintro ⟨proper, held⟩
    exact (shows_iff.mp (proper.shows_toDuration held)).symm
  · intro same
    have shown := shows_iff.mpr same.symm
    exact ⟨shown.toProper, shown.wholeSeconds_lt⟩

/-- The longest duration loses what is below a microsecond and nothing else. -/
example : (ofDuration .longest).toDuration = ⟨18446744073709551615, 999999000, by decide⟩ := by
  decide

end Timing
end TaggedCells

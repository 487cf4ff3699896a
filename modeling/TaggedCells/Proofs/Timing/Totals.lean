import TaggedCells.Timing

/-!
# The totals of timings

The components of a timing add up to a number of nanoseconds, which may be more than there are in
any duration. Finding the duration of a timing stays at a largest value three times: once for the
words that hold the seconds and once for the words that hold the microseconds, and again where the
two are put together (`totalNanos_toDuration`). So a timing reaches its total, or the longest
duration in place of a greater one, exactly if neither word was exceeded or the longest duration
came out in the end (`duration_of_timing`). Seconds that exceed their word leave the part below a
second as it is, and the duration then falls short of the longest.
-/

set_option autoImplicit false

namespace TaggedCells.Timing

/-! ## What the components add up to -/

/-- The seconds that the minutes and the seconds add up to. -/
def wholeSeconds (timing : Timing) : Nat := timing.minutes.toNat * 60 + timing.seconds.toNat

/-- The microseconds that the two components below a second add up to. -/
def wholeMicros (timing : Timing) : Nat :=
  timing.milliseconds.toNat * 1000 + timing.microseconds.toNat

/-- The nanoseconds that all components add up to. -/
def totalNanos (timing : Timing) : Nat :=
  timing.wholeSeconds * nanosPerSecond + timing.wholeMicros * 1000

/-- Staying at the greatest word in the middle of a sum does not show in the end. -/
theorem toNat_addSaturating_mulSaturating (count unit rest : UInt64) :
    (addSaturating (mulSaturating count unit) rest).toNat
      = min (count.toNat * unit.toNat + rest.toNat) (2 ^ (64 : Nat) - 1) := by
  rw [toNat_addSaturating, toNat_mulSaturating]
  omega

theorem totalNanos_toDuration (timing : Timing) :
    timing.toDuration.totalNanos
      = min (min timing.wholeSeconds (2 ^ (64 : Nat) - 1) * nanosPerSecond
          + min timing.wholeMicros (2 ^ (64 : Nat) - 1) * 1000) Duration.longest.totalNanos := by
  rw [toDuration, Duration.totalNanos_addSaturating, Duration.totalNanos_ofSeconds,
    Duration.totalNanos_ofMicros, toNat_addSaturating_mulSaturating,
    toNat_addSaturating_mulSaturating]
  rfl

theorem toDuration_eq_longest_iff (timing : Timing) :
    timing.toDuration = .longest
      ↔ Duration.longest.totalNanos ≤ min timing.wholeSeconds (2 ^ (64 : Nat) - 1) * nanosPerSecond
          + min timing.wholeMicros (2 ^ (64 : Nat) - 1) * 1000 := by
  have total := timing.totalNanos_toDuration
  constructor
  · intro longest
    rw [longest] at total
    omega
  · intro beyond
    refine Duration.eq_of_totalNanos_eq ?_
    rw [total, Nat.min_eq_right beyond]

/-! ## Reaching the total -/

/-- The duration of the timing is what its components add up to, or the longest one where there is
none so long. -/
def ReachesTotal (timing : Timing) : Prop :=
  timing.toDuration.totalNanos = min timing.totalNanos Duration.longest.totalNanos

instance (timing : Timing) : Decidable timing.ReachesTotal :=
  inferInstanceAs (Decidable (_ = _))

variable {timing : Timing}

theorem reachesTotal_of_lt (seconds : timing.wholeSeconds < 2 ^ (64 : Nat))
    (micros : timing.wholeMicros < 2 ^ (64 : Nat)) : timing.ReachesTotal := by
  rw [ReachesTotal, totalNanos_toDuration, totalNanos,
    Nat.min_eq_left (Nat.le_sub_one_of_lt seconds), Nat.min_eq_left (Nat.le_sub_one_of_lt micros)]

theorem reachesTotal_of_longest (longest : timing.toDuration = .longest) :
    timing.ReachesTotal := by
  have beyond := timing.toDuration_eq_longest_iff.mp longest
  -- what is cut off from either word makes the sum smaller only
  have cut : min timing.wholeSeconds (2 ^ (64 : Nat) - 1) * nanosPerSecond
      ≤ timing.wholeSeconds * nanosPerSecond := Nat.mul_le_mul_right _ (Nat.min_le_left _ _)
  rw [ReachesTotal, longest, totalNanos, Nat.min_eq_right]
  omega

/-- Where a word is exceeded and the longest duration is not met, nothing makes up for what was cut
off. -/
theorem longest_of_reachesTotal (reaches : timing.ReachesTotal)
    (exceeded : 2 ^ (64 : Nat) ≤ timing.wholeSeconds ∨ 2 ^ (64 : Nat) ≤ timing.wholeMicros) :
    timing.toDuration = .longest := by
  rw [ReachesTotal, totalNanos_toDuration, totalNanos] at reaches
  refine timing.toDuration_eq_longest_iff.mpr ?_
  unfold nanosPerSecond at *
  omega

/-- **A timing has the duration that it adds up to, or the longest one in place of a greater, if the
seconds and the microseconds stay within their words or the longest duration comes out, and not
otherwise.** -/
theorem duration_of_timing (timing : Timing) :
    timing.toDuration.totalNanos
        = min (min timing.wholeSeconds (2 ^ (64 : Nat) - 1) * nanosPerSecond
            + min timing.wholeMicros (2 ^ (64 : Nat) - 1) * 1000) Duration.longest.totalNanos
      ∧ (timing.ReachesTotal
        ↔ (timing.wholeSeconds < 2 ^ (64 : Nat) ∧ timing.wholeMicros < 2 ^ (64 : Nat))
          ∨ timing.toDuration = .longest) := by
  refine ⟨timing.totalNanos_toDuration, ?_, ?_⟩
  · intro reaches
    by_cases within : timing.wholeSeconds < 2 ^ (64 : Nat) ∧ timing.wholeMicros < 2 ^ (64 : Nat)
    · exact .inl within
    · exact .inr (longest_of_reachesTotal reaches (by omega))
  · rintro (⟨seconds, micros⟩ | longest)
    · exact reachesTotal_of_lt seconds micros
    · exact reachesTotal_of_longest longest

/-- One second more than a word of seconds holds is greater than the longest duration, and a
duration shorter than the longest comes out. So many milliseconds as their word holds are a total
that there is a duration of, and a shorter one comes out as well. -/
theorem durations_short_of_totals :
    let minutes : Timing := ⟨307445734561825860, 16, 0, 0⟩
    let milliseconds : Timing := ⟨0, 0, 18446744073709551615, 0⟩
    (Duration.longest.totalNanos < minutes.totalNanos ∧ minutes.toDuration ≠ .longest
        ∧ ¬ minutes.ReachesTotal)
      ∧ milliseconds.totalNanos < Duration.longest.totalNanos
        ∧ milliseconds.toDuration.totalNanos < milliseconds.totalNanos
        ∧ ¬ milliseconds.ReachesTotal := by
  decide

end TaggedCells.Timing

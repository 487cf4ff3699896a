import TaggedCells.Words

/-!
# Timings

A duration is a number of seconds and of nanoseconds below one second. A timing shows a
duration in minutes, seconds, milliseconds and microseconds, each a word of 64 bits; what is
below a microsecond is dropped. A timing can also be put together from any four components,
and its duration is then found by arithmetic that stays at the largest value instead of
exceeding it.
-/

set_option autoImplicit false

namespace TaggedCells

/-! ## Durations -/

/-- The nanoseconds in a second. -/
def nanosPerSecond : Nat := 1000000000

/-- A length of time. -/
structure Duration where
  seconds : UInt64
  nanos : Nat
  nanos_lt : nanos < nanosPerSecond := by decide
  deriving DecidableEq

namespace Duration

/-- No time at all. -/
def zero : Duration := { seconds := 0, nanos := 0 }

/-- The longest duration. -/
def longest : Duration := { seconds := 18446744073709551615, nanos := 999999999 }

/-- A duration of whole seconds. -/
def ofSeconds (seconds : UInt64) : Duration := { seconds := seconds, nanos := 0 }

/-- A duration of microseconds. -/
def ofMicros (micros : UInt64) : Duration where
  seconds := micros / 1000000
  nanos := (micros % 1000000).toNat * 1000
  nanos_lt := by
    have rest : (micros % 1000000).toNat < 1000000 := by
      rw [UInt64.toNat_mod]; exact Nat.mod_lt _ (by decide)
    unfold nanosPerSecond; omega

/-- All nanoseconds of the duration. -/
def totalNanos (duration : Duration) : Nat :=
  duration.seconds.toNat * nanosPerSecond + duration.nanos

/-- The whole microseconds beyond the last whole second. -/
def subsecondMicros (duration : Duration) : UInt64 := UInt64.ofNat (duration.nanos / 1000)

/-- The sum of two durations, or the longest one. -/
def addSaturating (left right : Duration) : Duration :=
  let nanos := left.nanos + right.nanos
  let seconds := left.seconds.toNat + right.seconds.toNat + nanos / nanosPerSecond
  if seconds < 2 ^ (64 : Nat) then
    ⟨UInt64.ofNat seconds, nanos % nanosPerSecond, Nat.mod_lt _ (by decide)⟩
  else longest

/-! ### Durations as numbers of nanoseconds -/

theorem totalNanos_ofSeconds (seconds : UInt64) :
    (ofSeconds seconds).totalNanos = seconds.toNat * nanosPerSecond := Nat.add_zero _

theorem totalNanos_ofMicros (micros : UInt64) :
    (ofMicros micros).totalNanos = micros.toNat * 1000 := by
  simp only [totalNanos, ofMicros, nanosPerSecond, UInt64.toNat_div, UInt64.toNat_mod,
    UInt64.reduceToNat]
  omega

theorem totalNanos_longest :
    longest.totalNanos = 2 ^ (64 : Nat) * nanosPerSecond - 1 := by decide

theorem eq_of_totalNanos_eq {left right : Duration} (same : left.totalNanos = right.totalNanos) :
    left = right := by
  obtain ⟨leftSeconds, leftNanos, leftBelow⟩ := left
  obtain ⟨rightSeconds, rightNanos, rightBelow⟩ := right
  unfold totalNanos nanosPerSecond at same
  unfold nanosPerSecond at leftBelow rightBelow
  dsimp only at same
  obtain rfl : leftSeconds = rightSeconds := UInt64.toNat_inj.mp (by omega)
  obtain rfl : leftNanos = rightNanos := by omega
  rfl

theorem totalNanos_addSaturating (left right : Duration) :
    (left.addSaturating right).totalNanos
      = min (left.totalNanos + right.totalNanos) longest.totalNanos := by
  rw [addSaturating, totalNanos_longest]
  split
  case isTrue fits =>
    rw [totalNanos, UInt64.toNat_ofNat_of_lt' fits]
    unfold totalNanos nanosPerSecond at *
    dsimp only
    omega
  case isFalse exceeds =>
    rw [totalNanos_longest]
    unfold totalNanos nanosPerSecond at *
    omega

end Duration

/-! ## Timings -/

/-- A duration in display components. -/
structure Timing where
  minutes : UInt64
  seconds : UInt64
  milliseconds : UInt64
  microseconds : UInt64
  deriving DecidableEq

namespace Timing

/-- The components of no time at all. -/
def zero : Timing := ⟨0, 0, 0, 0⟩

/-- The components of a duration. -/
def ofDuration (duration : Duration) : Timing where
  minutes := duration.seconds / 60
  seconds := duration.seconds % 60
  milliseconds := duration.subsecondMicros / 1000
  microseconds := duration.subsecondMicros % 1000

/-- The duration that the components add up to. -/
def toDuration (timing : Timing) : Duration :=
  let seconds := addSaturating (mulSaturating timing.minutes 60) timing.seconds
  let micros := addSaturating (mulSaturating timing.milliseconds 1000) timing.microseconds
  (Duration.ofSeconds seconds).addSaturating (Duration.ofMicros micros)

/-- The components with their units. -/
def text (timing : Timing) : String :=
  toString timing.minutes ++ "m " ++ toString timing.seconds ++ "s "
    ++ toString timing.milliseconds ++ "ms " ++ toString timing.microseconds ++ "us"

/-- The components with their names. -/
def debug (timing : Timing) : String :=
  "Timing \x7b minutes: " ++ toString timing.minutes ++ ", seconds: " ++ toString timing.seconds
    ++ ", milliseconds: " ++ toString timing.milliseconds
    ++ ", microseconds: " ++ toString timing.microseconds ++ " \x7d"

end Timing

end TaggedCells

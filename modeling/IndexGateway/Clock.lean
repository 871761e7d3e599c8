/-!
# Time

The gateway measures time on a monotonic clock that counts nanoseconds. Moments
and durations are natural numbers, so that the difference of an earlier and a
later moment is zero and never negative. The clock is part of the state that a
caller passes in; nothing here lets time pass.

The clock has an end, since it counts its seconds in 63 bits. Whatever needs a moment
behind the end breaks off.
-/

namespace IndexGateway

/-- A length of time, in nanoseconds. -/
abbrev Duration := Nat

/-- A reading of the clock, in nanoseconds since it was started. -/
abbrev Moment := Nat

namespace Duration

/-- So many seconds. -/
def ofSeconds (n : Nat) : Duration := n * 1000000000

/-- So many milliseconds. -/
def ofMillis (n : Nat) : Duration := n * 1000000

/-- The whole seconds in a duration. -/
def wholeSeconds (d : Duration) : Nat := d / 1000000000

/-- The whole milliseconds in a duration. -/
def wholeMillis (d : Duration) : Nat := d / 1000000

/-- The least number of whole seconds that is no shorter than a duration. -/
def secondsRoundedUp (d : Duration) : Nat := (d + 999999999) / 1000000000

end Duration

/-- Why something is broken off. -/
inductive Breakdown where
  /-- A moment is needed that the clock cannot tell. -/
  | offClock
  deriving DecidableEq, Repr

namespace Moment

/-- The end of the clock: the first moment that it cannot tell. -/
def horizon : Moment := Duration.ofSeconds (Nat.pow 2 63)

/-- The moment that is a while after another, if the clock can tell it. -/
def after (m : Moment) (d : Duration) : Except Breakdown Moment :=
  if m + d < horizon then .ok (m + d) else .error .offClock

variable {m : Moment} {d : Duration}

theorem after_of_lt (h : m + d < horizon) : after m d = .ok (m + d) := if_pos h

theorem after_of_le (h : horizon ≤ m + d) : after m d = .error .offClock :=
  if_neg (Nat.not_lt.mpr h)

end Moment

end IndexGateway

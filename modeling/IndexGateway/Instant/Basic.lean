import IndexGateway.Instant.Calendar

/-!
# Instants

A point in time, to the nanosecond, as the package index records it. Instants are
counted in seconds from the start of 1970 without leap seconds. A leap second has
no number of its own: it is the time behind a second that is the last of its
minute, and its nanoseconds count on from one billion. Instants are ordered by
their seconds and then by their nanoseconds, so that a leap second comes after the
second to which it belongs.

The years from -262143 to 262142 can be represented.
-/

namespace IndexGateway

/-- A point in time. -/
structure Instant where
  /-- The seconds since the start of 1970. -/
  seconds : Int
  /-- The nanoseconds since that second, from one billion on in a leap second. -/
  nanos : Nat
  /-- The first second is that of the year -262143. -/
  lower : -8334601228800 ≤ seconds
  /-- The last second is that of the year 262142. -/
  upper : seconds ≤ 8210266876799
  /-- There are two seconds' worth of nanoseconds at most. -/
  nanos_lt : nanos < 2000000000
  /-- Only the last second of a minute is followed by a leap second. -/
  leap : 1000000000 ≤ nanos → seconds % 60 = 59
  deriving DecidableEq, Repr

namespace Instant

/-- The instant with the given seconds and nanoseconds, if there is one. -/
def ofParts? (seconds : Int) (nanos : Nat) : Option Instant :=
  if h : -8334601228800 ≤ seconds ∧ seconds ≤ 8210266876799 ∧ nanos < 2000000000 ∧
      (1000000000 ≤ nanos → seconds % 60 = 59) then
    some ⟨seconds, nanos, h.1, h.2.1, h.2.2.1, h.2.2.2⟩
  else none

/-- The start of a second, if it can be represented. -/
def ofSeconds? (seconds : Int) : Option Instant := ofParts? seconds 0

/-- Whether an instant comes after another one. -/
def isAfter (a b : Instant) : Bool :=
  b.seconds < a.seconds || (a.seconds = b.seconds && b.nanos < a.nanos)

/-- The microseconds since the second of an instant, from one million on in a leap second. -/
def micros (t : Instant) : Nat := t.nanos / 1000

/-- The day of an instant. -/
def date (t : Instant) : Calendar.Date := Calendar.ofDayNumber (t.seconds / 86400)

/-- The second of the day of an instant. -/
def secondOfDay (t : Instant) : Nat := (t.seconds % 86400).toNat

end Instant

end IndexGateway

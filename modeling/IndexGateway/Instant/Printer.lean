import IndexGateway.Instant.Basic
import IndexGateway.Text.Numeral

/-!
# Writing instants

An instant is written as a date, a `T`, a time of day and a `Z`. A year outside
0 to 9999 has a sign. A leap second is written as the second 60.

Two forms differ in the fraction. A document shows as many digits as the instant
needs, in groups of three. The time of an upload is shown to the microsecond, with
six digits or none; a leap second always has the six digits, since its
microseconds do not count from zero.
-/

namespace IndexGateway.Instant

open Text

/-- A year, with a sign if it does not have four digits. -/
def yearText (year : Int) : List Char :=
  if 0 ≤ year ∧ year ≤ 9999 then Numeral.padded 4 year.toNat
  else (if year < 0 then '-' else '+') :: Numeral.padded 4 year.natAbs

/-- A date. -/
def dateText (d : Calendar.Date) : List Char :=
  yearText d.year ++ '-' :: Numeral.padded 2 d.month ++ '-' :: Numeral.padded 2 d.day

/-- A time of day, without a fraction. -/
def clockText (t : Instant) : List Char :=
  let s := t.secondOfDay
  let second := s % 60 + t.nanos / 1000000000
  Numeral.padded 2 (s / 3600) ++ ':' :: Numeral.padded 2 (s / 60 % 60) ++ ':' ::
    Numeral.padded 2 second

/-- A date and a time of day, without a fraction. -/
def wholeText (t : Instant) : List Char := dateText t.date ++ 'T' :: t.clockText

/-- As many digits of the second's fraction as it needs, in groups of three. -/
def fractionText (t : Instant) : List Char :=
  let n := t.nanos % 1000000000
  if n = 0 then []
  else if n % 1000000 = 0 then '.' :: Numeral.padded 3 (n / 1000000)
  else if n % 1000 = 0 then '.' :: Numeral.padded 6 (n / 1000)
  else '.' :: Numeral.padded 9 n

/-- An instant as a document shows it. -/
def chars (t : Instant) : List Char := t.wholeText ++ t.fractionText ++ ['Z']

/-- An instant as a document shows it. -/
def text (t : Instant) : String := String.ofList t.chars

/-- The time of an upload, to the microsecond. -/
def uploadChars (t : Instant) : List Char :=
  let fraction :=
    if t.micros = 0 then [] else '.' :: Numeral.padded 6 (t.micros % 1000000)
  t.wholeText ++ fraction ++ ['Z']

/-- The time of an upload, to the microsecond. -/
def uploadText (t : Instant) : String := String.ofList t.uploadChars

end IndexGateway.Instant

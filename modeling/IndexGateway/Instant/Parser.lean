import IndexGateway.Instant.Basic
import IndexGateway.Text.Blank
import IndexGateway.Text.Numeral
import IndexGateway.Text.Reader

/-!
# Reading instants

A document may write an instant more loosely than it is printed. The date and the
time of day are separated by a `T`, a `t` or a space; numbers may have fewer
digits; blanks may stand before numbers and separators; a fraction may have any
number of digits, of which nine count; the distance from UTC is a `Z`, the letters
`UTC`, or a sign, hours and minutes. The second may be 60.

The date has to be on the calendar and the numbers in their ranges, and the
instant has to be one that can be represented.
-/

namespace IndexGateway.Instant

open Text

/-- Reads a number of one digit up to `width` digits, behind any blanks. -/
def readNumber (width : Nat) : Reader Nat := fun text =>
  let text := trimStart text
  match (text.take width).takeWhile Char.isDigit with
  | [] => none
  | digits => some (Numeral.value digits, text.drop digits.length)

/-- Reads a year: up to four digits, or any number of digits behind a sign. -/
def readYear : Reader Int := fun text =>
  match trimStart text with
  | '-' :: rest =>
    match Reader.run1 Char.isDigit rest with
    | none => none
    | some (digits, rest') => some (-(Numeral.value digits : Int), rest')
  | '+' :: rest =>
    match Reader.run1 Char.isDigit rest with
    | none => none
    | some (digits, rest') => some ((Numeral.value digits : Int), rest')
  | text' =>
    match readNumber 4 text' with
    | none => none
    | some (n, rest) => some ((n : Int), rest)

/-- Reads a separator, behind any blanks. -/
def readMark (mark : Char) : Reader Unit := fun text =>
  match trimStart text with
  | c :: rest => if c = mark then some ((), rest) else none
  | [] => none

/-- Reads a date that is on the calendar. -/
def readDate : Reader Calendar.Date := fun text => do
  let (year, text) ← readYear text
  let ((), text) ← readMark '-' text
  let (month, text) ← readNumber 2 text
  let ((), text) ← readMark '-' text
  let (day, text) ← readNumber 2 text
  let date : Calendar.Date := { year, month, day }
  if date.isValid ∧ -262143 ≤ year ∧ year ≤ 262142 then return (date, text) else none

/-- Reads the fraction of a second, if there is one, in nanoseconds. -/
def readFraction : Reader Nat
  | '.' :: rest =>
    match Reader.run1 Char.isDigit rest with
    | none => none
    | some (digits, rest') =>
      some (Numeral.value ((digits ++ List.replicate 9 '0').take 9), rest')
  | text => some (0, text)

/-- Reads a time of day: the second of the day, and the nanoseconds since then. -/
def readClock : Reader (Nat × Nat) := fun text => do
  let (hour, text) ← readNumber 2 text
  let ((), text) ← readMark ':' text
  let (minute, text) ← readNumber 2 text
  let ((), text) ← readMark ':' text
  let (second, text) ← readNumber 2 text
  let (nanos, text) ← readFraction text
  if hour ≤ 23 ∧ minute ≤ 59 ∧ second ≤ 60 then
    let (second, nanos) := if second = 60 then (59, nanos + 1000000000) else (second, nanos)
    return ((hour * 3600 + minute * 60 + second, nanos), text)
  else none

/-- Reads two digits. -/
def readPair : Reader Nat
  | a :: b :: rest =>
    if a.isDigit ∧ b.isDigit then some (Numeral.value [a, b], rest) else none
  | _ => none

/-- Reads hours and minutes behind a sign, in seconds. -/
def readShift : Reader Nat := fun text => do
  let (hours, text) ← readPair text
  let (minutes, text) ← readPair (text.dropWhile fun c => c = ':' || isBlank c)
  if hours ≤ 23 ∧ minutes ≤ 59 then return (hours * 3600 + minutes * 60, text) else none

/-- Whether a text starts with the letters `UTC`, in any case. -/
def startsWithUtc (text : List Char) : Bool :=
  (text.take 3).map Char.toLower = ['u', 't', 'c']

/-- Reads the distance from UTC, in seconds to the east. -/
def readOffset : Reader Int := fun text =>
  let text := trimStart text
  if startsWithUtc text then some (0, text.drop 3)
  else
    match text with
    | [] => none
    | c :: rest =>
      if c = 'Z' ∨ c = 'z' then some (0, rest)
      else if c = '+' then
        match readShift rest with
        | none => none
        | some (n, rest') => some ((n : Int), rest')
      else if c = '-' ∨ c = '−' then
        match readShift rest with
        | none => none
        | some (n, rest') => some (-(n : Int), rest')
      else none

/-- Reads the character between the date and the time of day. -/
def readJoint : Reader Unit
  | c :: rest => if c = 'T' ∨ c = 't' ∨ c = ' ' then some ((), rest) else none
  | [] => none

/-- The instant that a text stands for. -/
def ofChars? (text : List Char) : Option Instant := do
  let (date, text) ← readDate text
  let ((), text) ← readJoint text
  let ((second, nanos), text) ← readClock text
  let (offset, text) ← readOffset text
  if trimStart text = [] then ofParts? (date.dayNumber * 86400 + second - offset) nanos else none

/-- The instant that a text stands for. -/
def ofText? (text : String) : Option Instant := ofChars? text.toList

end IndexGateway.Instant

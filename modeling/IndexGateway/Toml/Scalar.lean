import IndexGateway.Instant.Calendar
import IndexGateway.Text.Numeral
import IndexGateway.Text.Reader
import IndexGateway.Toml.Basic

/-!
# Numbers, truth values and times

The leaves of a document that are not texts. Such a leaf is a word without blanks,
except that a date and a time of day may have a space between them. Digits may be
grouped by underscores, each between two digits.

A whole number is decimal, without leading zeros and with a sign if it is wanted,
or has digits of another base behind `0x`, `0o` or `0b`; it has to be in the signed
64-bit range. A floating-point number that is too large to be one is refused,
unless it is negative. Dates have to be on the calendar.
-/

namespace IndexGateway.Toml

open Text

/-! ### Words -/

/-- Whether a character can be part of a word. -/
def isWordChar (c : Char) : Bool :=
  c.isAlphanum || c = '+' || c = '-' || c = '.' || c = '_' || c = ':'

/-- The digits of a run in which underscores stand between digits only. -/
def ungroup (isDigit : Char → Bool) : List Char → Option (List Char)
  | [] => none
  | [c] => if isDigit c then some [c] else none
  | c :: '_' :: rest => if isDigit c then (ungroup isDigit rest).map (c :: ·) else none
  | c :: rest => if isDigit c then (ungroup isDigit rest).map (c :: ·) else none

/-- A word without its sign, and whether the sign is a minus. -/
def unsign : List Char → Bool × List Char
  | '-' :: rest => (true, rest)
  | '+' :: rest => (false, rest)
  | word => (false, word)

/-- The decimal digits of a run that has no leading zero. -/
def decimalDigits (run : List Char) : Option (List Char) :=
  match ungroup Char.isDigit run with
  | none => none
  | some ['0'] => some ['0']
  | some ('0' :: _) => none
  | some digits => some digits

/-! ### Whole numbers -/

/-- A number of the signed 64-bit range. -/
def int64? (n : Int) : Option Int64 :=
  if -9223372036854775808 ≤ n ∧ n < 9223372036854775808 then some (Int64.ofInt n) else none

/-- Whether a character is a digit of a base up to sixteen. -/
def isBaseDigit (base : Nat) (c : Char) : Bool :=
  match Numeral.hexValue? c with
  | some n => n < base
  | none => false

/-- The value of digits in a base. -/
def baseValue (base : Nat) (digits : List Char) : Nat :=
  digits.foldl (fun n c => base * n + (Numeral.hexValue? c).getD 0) 0

/-- The value of a run of digits in a base. -/
def wholeInBase (base : Nat) (run : List Char) : Option Int64 :=
  match ungroup (isBaseDigit base) run with
  | none => none
  | some digits => int64? (baseValue base digits)

/-- The whole number that a word stands for. -/
def whole? : List Char → Option Int64
  | '0' :: 'x' :: run => wholeInBase 16 run
  | '0' :: 'o' :: run => wholeInBase 8 run
  | '0' :: 'b' :: run => wholeInBase 2 run
  | word =>
    match decimalDigits (unsign word).2 with
    | none => none
    | some digits =>
      let n : Int := Numeral.value digits
      int64? (if (unsign word).1 then -n else n)

/-! ### Floating-point numbers -/

/-- The least whole number that is too large for a double: halfway between the largest double and
the next power of two. -/
def doubleBound : Nat := Nat.pow 2 1024 - Nat.pow 2 970

/-- Whether `c * 10 ^ k`, where `c` has a number of digits, is too large for a double. -/
def isTooLarge (size c : Nat) (k : Int) : Bool :=
  if c = 0 then false
  else if 400 < size + k then true
  else if size + k < 300 then false
  else doubleBound * Nat.pow 10 (-k).toNat ≤ c * Nat.pow 10 k.toNat

/-- The digits behind the point, if a point follows; none if it does not. -/
def fraction? : List Char → Option (List Char × List Char)
  | '.' :: rest =>
    let run := rest.takeWhile fun c => c.isDigit || c = '_'
    (ungroup Char.isDigit run).map fun digits => (digits, rest.drop run.length)
  | rest => some ([], rest)

/-- The exponent of a word's rest, which has to be all of it. -/
def exponent? : List Char → Option Int
  | [] => some 0
  | e :: rest =>
    if e = 'e' || e = 'E' then
      match ungroup Char.isDigit (unsign rest).2 with
      | none => none
      | some digits =>
        let n : Int := Numeral.value digits
        some (if (unsign rest).1 then -n else n)
    else none

/-- Whether a word is a floating-point number. -/
def isFloat (word : List Char) : Bool :=
  let (isNegative, body) := unsign word
  let run := body.takeWhile fun c => c.isDigit || c = '_'
  let rest := body.drop run.length
  if body = ['i', 'n', 'f'] || body = ['n', 'a', 'n'] then true
  else if rest = [] then false
  else
    match decimalDigits run, fraction? rest with
    | some digits, some (more, rest') =>
      match exponent? rest' with
      | none => false
      | some e =>
        let all := digits ++ more
        let magnitude := all.dropWhile (· = '0')
        isNegative || !isTooLarge magnitude.length (Numeral.value all) (e - more.length)
    | _, _ => false

/-! ### Times -/

/-- Reads a number of exactly so many digits. -/
def readDigits (width : Nat) : Reader Nat := fun text =>
  let digits := text.take width
  if digits.length = width ∧ digits.all Char.isDigit then
    some (Numeral.value digits, text.drop width)
  else none

/-- Reads a date that is on the calendar. -/
def readDate : Reader Unit := fun text => do
  let (year, text) ← readDigits 4 text
  let ((), text) ← Reader.exactly ['-'] text
  let (month, text) ← readDigits 2 text
  let ((), text) ← Reader.exactly ['-'] text
  let (day, text) ← readDigits 2 text
  let date : Calendar.Date := { year, month, day }
  if date.isValid then return ((), text) else none

/-- Reads hours and minutes. -/
def readHours : Reader Unit := fun text => do
  let (hour, text) ← readDigits 2 text
  let ((), text) ← Reader.exactly [':'] text
  let (minute, text) ← readDigits 2 text
  if hour ≤ 23 ∧ minute ≤ 59 then return ((), text) else none

/-- The rest of a word behind a fraction of a second, if there is one. -/
def skipFraction : List Char → Option (List Char)
  | '.' :: c :: rest => if c.isDigit then some (rest.dropWhile Char.isDigit) else none
  | rest => some rest

/-- Reads a time of day. -/
def readClock : Reader Unit := fun text => do
  let ((), text) ← readHours text
  let ((), text) ← Reader.exactly [':'] text
  let (second, text) ← readDigits 2 text
  if second ≤ 60 then return ((), ← skipFraction text) else none

/-- Whether the rest of a word is the distance from UTC, or nothing. -/
def isOffset : List Char → Bool
  | [] => true
  | ['Z'] => true
  | ['z'] => true
  | c :: rest => (c = '+' || c = '-') && (readHours rest = some ((), []))

/-- Whether a text is a time of day with its distance from UTC, if that is given. -/
def isClock (text : List Char) : Bool :=
  match readClock text with
  | some ((), rest) => isOffset rest
  | none => false

/-- Whether a word is a date. -/
def isDate (word : List Char) : Bool := readDate word = some ((), [])

/-- Whether a word is a date, a time of day, or both with a letter between them. -/
def isTime (word : List Char) : Bool :=
  match readDate word with
  | some ((), []) => true
  | some ((), mark :: rest) => (mark = 'T' || mark = 't') && isClock rest
  | none => readClock word = some ((), [])

/-! ### Leaves -/

/-- The leaf that a word stands for. -/
def ofWord (word : List Char) : Option Toml :=
  if word = ['t', 'r', 'u', 'e'] then some (.bool true)
  else if word = ['f', 'a', 'l', 's', 'e'] then some (.bool false)
  else if isTime word then some (.time (String.ofList word))
  else if isFloat word then some (.float (String.ofList word))
  else (whole? word).map .int

/-- The words before and behind a space that stands at the front of a text. -/
def secondWord : List Char → List Char × List Char
  | ' ' :: rest => rest.span isWordChar
  | rest => ([], rest)

/-- Reads a leaf that is not a text. -/
def readWord : Reader Toml := fun text =>
  let (word, rest) := text.span isWordChar
  let (clock, rest') := secondWord rest
  if isDate word && !clock.isEmpty then
    if isClock clock then some (.time (String.ofList (word ++ ' ' :: clock)), rest') else none
  else (ofWord word).map fun v => (v, rest)

end IndexGateway.Toml

import IndexGateway.Number.Basic
import IndexGateway.Number.Shortest
import IndexGateway.Text.Numeral
import IndexGateway.Text.Reader

/-!
# Number literals

How a document writes a number, and which number that is.

A literal without fraction and exponent is whole if its value fits 64 bits, and
floating-point otherwise; `-0` is floating-point, since no whole number has a
negative zero. The value of a floating-point literal is found in two steps, each
of which rounds: as many leading digits as fit 64 bits become a double, and that
double is multiplied or divided by a power of ten. A literal that goes beyond the
largest double is refused; one below the smallest is a zero.
-/

namespace IndexGateway.Number

open Text

/-- A number as it is written. -/
structure Literal where
  /-- Whether a minus sign stands in front. -/
  negative : Bool
  /-- The digits before the point. -/
  whole : List Char
  /-- The digits behind the point; none if there is no point. -/
  fraction : List Char
  /-- The exponent, if one is written. -/
  exponent : Option Int
  deriving DecidableEq, Repr

namespace Literal

/-- Reads a run of digits that does not start with a superfluous zero. -/
def readWhole : Reader (List Char) := fun text =>
  match text.takeWhile Char.isDigit with
  | [] => none
  | '0' :: _ :: _ => none
  | digits => some (digits, text.dropWhile Char.isDigit)

/-- Reads a point and the digits behind it, if there is a point. -/
def readFraction : Reader (List Char)
  | '.' :: rest => Reader.run1 Char.isDigit rest
  | text => some ([], text)

/-- Reads the sign and the digits of an exponent. -/
def readExponentValue (text : List Char) : Option (Int × List Char) :=
  let (negative, rest) := match text with
    | '-' :: rest => (true, rest)
    | '+' :: rest => (false, rest)
    | _ => (false, text)
  match Reader.run1 Char.isDigit rest with
  | none => none
  | some (digits, rest') =>
    let n : Int := Numeral.value digits
    some (if negative then -n else n, rest')

/-- Reads an exponent, if there is one. -/
def readExponent : Reader (Option Int) := fun text =>
  match text with
  | c :: rest =>
    if c = 'e' ∨ c = 'E' then
      match readExponentValue rest with
      | none => none
      | some (n, rest') => some (some n, rest')
    else some (none, text)
  | [] => some (none, text)

/-- Reads a number literal. -/
def read : Reader Literal := fun text => do
  let (negative, text) := match text with
    | '-' :: rest => (true, rest)
    | _ => (false, text)
  let (whole, text) ← readWhole text
  let (fraction, text) ← readFraction text
  let (exponent, text) ← readExponent text
  return (⟨negative, whole, fraction, exponent⟩, text)

/-- Appends digits to a significand for as long as it fits 64 bits; returns the digits left over. -/
def absorb : Nat → List Char → Nat × List Char
  | n, [] => (n, [])
  | n, c :: rest =>
    let n' := 10 * n + Numeral.digitValue c
    if n' < UInt64.size then absorb n' rest else (n, c :: rest)

end Literal

/-- Multiplies a magnitude by `10 ^ k`, where `10 ^ |k|` is in the range of doubles; `none` beyond
the largest double. -/
def Binary64.scaleOnce (x : Binary64) (k : Int) : Option Binary64 :=
  match powerOfTen k.natAbs with
  | none => none
  | some p => if 0 ≤ k then x.mul p else x.div p

/-- Multiplies a magnitude by `10 ^ k`; `none` beyond the largest double. A power of ten below the
range of doubles is reached by steps of `10 ^ -308`, of which the first argument allows so many. -/
def Binary64.scaleBySteps : Nat → Binary64 → Int → Option Binary64
  | steps, x, k =>
    if k.natAbs ≤ 308 then x.scaleOnce k
    else if x.isZero then some x
    else if 0 ≤ k then none
    else match steps with
      | 0 => some zero
      | steps + 1 =>
        match x.scaleOnce (-308) with
        | none => none
        | some y => scaleBySteps steps y (k + 308)

/-- Multiplies a magnitude below `2 ^ 64` by `10 ^ k`; `none` beyond the largest double. Nothing is
left of such a magnitude after two steps of `10 ^ -308`. -/
def Binary64.scale (x : Binary64) (k : Int) : Option Binary64 := scaleBySteps 2 x k

namespace Literal

/-- The significand of a literal in 64 bits, and the power of ten that belongs to it: digits
before the point that did not fit count up, digits taken from behind the point count down. -/
def parts (l : Literal) : Nat × Int :=
  let (s, dropped) := absorb 0 l.whole
  let (s', unread) := absorb s l.fraction
  (s', dropped.length - (l.fraction.length - unread.length : Nat) + l.exponent.getD 0)

/-- The floating-point value of a literal. -/
def double? (l : Literal) : Option Binary64 :=
  let (s, k) := l.parts
  match Binary64.nearest s 1 with
  | none => none
  | some x =>
    match x.scale k with
    | none => none
    | some y => some (if l.negative then y.negate else y)

/-- The value of a literal without fraction and exponent, as a whole number if it is one. -/
def whole? (l : Literal) : Option Integer :=
  let n := Numeral.value l.whole
  if l.negative then
    if n = 0 then none else Integer.ofInt? (-n)
  else Integer.ofInt? n

/-- The number that a literal stands for; `none` if it is too large for a double. -/
def number? (l : Literal) : Option Number :=
  match l.fraction, l.exponent, l.whole? with
  | [], none, some n => some (.int n)
  | _, _, _ => l.double?.map .float

end Literal

/-- The text of a number. -/
def text : Number → List Char
  | .int n => Numeral.ofInt n.val
  | .float x => x.text

end IndexGateway.Number

/-!
# Double-precision numbers

A floating-point number of a document is only ever read and written, so it is
held by its 64 bits and handled in exact arithmetic on natural numbers. Nothing
here goes through the machine's floating-point unit: a number is its magnitude
`m · 2 ^ e` with a sign, and the one source of rounding is `nearest`, which takes
a quotient of natural numbers to the nearest double, an exact tie to the even
one.

## The model

`Binary64` holds the bits. `mantissa` and `exponent` give the magnitude; the
format is uniform in this reading, since the exponent field of the subnormal
numbers counts like that of the smallest normal ones and the missing leading bit
is added to the mantissa. Read the other way, a magnitude `m · 2 ^ e` with
`-1074 ≤ e` has the bits `(e + 1074) · 2 ^ 52 + m`, and a mantissa that rounding
carries to `2 ^ 53` lands in the next binade by itself.

Powers of two and ten are taken by `Nat.pow`, which stays the same function whatever
the sign `^` stands for elsewhere.
-/

namespace IndexGateway.Number

/-- A double-precision number, held by its bits. -/
structure Binary64 where
  /-- Sign, biased exponent and fraction, from the highest bit down. -/
  bits : UInt64
  deriving DecidableEq, Repr

namespace Binary64

/-- Whether the sign bit is set; zero has a sign too. -/
def isNegative (x : Binary64) : Bool := x.bits.toNat / Nat.pow 2 63 = 1

/-- The bits of the magnitude. -/
def magnitudeBits (x : Binary64) : Nat := x.bits.toNat % Nat.pow 2 63

/-- The mantissa `m` of the magnitude `m · 2 ^ e`, the leading bit of a normal number included. -/
def mantissa (x : Binary64) : Nat :=
  let field := x.magnitudeBits / Nat.pow 2 52
  if field = 0 then x.magnitudeBits else x.magnitudeBits % Nat.pow 2 52 + Nat.pow 2 52

/-- The exponent `e` of the magnitude `m · 2 ^ e`. -/
def exponent (x : Binary64) : Int :=
  let field : Nat := x.magnitudeBits / Nat.pow 2 52
  if field = 0 then -1074 else (field : Int) - 1075

/-- Whether the number is a zero, of either sign. -/
def isZero (x : Binary64) : Bool := x.magnitudeBits = 0

/-- The number with the opposite sign. -/
def negate (x : Binary64) : Binary64 := ⟨x.bits ^^^ 0x8000000000000000⟩

/-- The positive zero. -/
def zero : Binary64 := ⟨0⟩

/-- A quotient rounded to the nearest whole number, a half to the even one. -/
def roundDiv (num den : Nat) : Nat :=
  let q := num / den
  let r := num % den
  if 2 * r < den then q
  else if den < 2 * r then q + 1
  else if q % 2 = 0 then q else q + 1

/-- The numerator of `num / den · 2 ^ -e` over `scaledDen`. -/
def scaledNum (num : Nat) (e : Int) : Nat := if e < 0 then num * Nat.pow 2 (-e).toNat else num

/-- The denominator of `num / den · 2 ^ -e` over `scaledNum`. -/
def scaledDen (den : Nat) (e : Int) : Nat := if e < 0 then den else den * Nat.pow 2 e.toNat

/-- The exponent of the binade of `num / den`: the quotient has 53 binary digits before the
point when it is counted in units of `2 ^ e`, fewer only for a subnormal number. -/
def binade (num den : Nat) : Int :=
  let estimate : Int := (num.log2 : Int) - den.log2 - 52
  let e := if scaledNum num estimate < Nat.pow 2 52 * scaledDen den estimate then estimate - 1
    else estimate
  max e (-1074)

/-- The double nearest to the quotient `num / den` of positive numbers, an exact tie to the
even one; `none` when that is beyond the largest finite double. -/
def nearest (num den : Nat) : Option Binary64 :=
  if num = 0 then some zero
  else
    let e := binade num den
    let m := roundDiv (scaledNum num e) (scaledDen den e)
    let bits := (e + 1074).toNat * Nat.pow 2 52 + m
    if bits < 2047 * Nat.pow 2 52 then some ⟨bits.toUInt64⟩ else none

/-- The product of two magnitudes, rounded. -/
def mul (x y : Binary64) : Option Binary64 :=
  let e := x.exponent + y.exponent
  nearest (scaledNum (x.mantissa * y.mantissa) (-e)) (scaledDen 1 (-e))

/-- The quotient of two magnitudes, rounded; the divisor is not zero. -/
def div (x y : Binary64) : Option Binary64 :=
  let e := x.exponent - y.exponent
  nearest (scaledNum x.mantissa (-e)) (scaledDen y.mantissa (-e))

/-- The double nearest to a power of ten. -/
def powerOfTen (k : Nat) : Option Binary64 := nearest (Nat.pow 10 k) 1

end Binary64

end IndexGateway.Number

import IndexGateway.Number.Binary64
import IndexGateway.Text.Numeral

/-!
# The fewest digits that read back

A double stands for every real number that rounds to it. Its text is the decimal
with the fewest digits in that interval, and of several such decimals the one
nearest to the double. The interval contains its ends exactly if the mantissa is
even, since a tie rounds to the even neighbour, and it reaches only half as far
down as up at the bottom of a binade.

## The model

Decimals `c · 10 ^ k` with a fixed `k` form a grid. If any point of a grid lies in
the interval, so does one of the two neighbours of the double on that grid;
`onGrid` looks at these two. `decimal` walks from coarse grids to fine ones and
stops at the first that has a point. The finest grid that is needed is that of
`10 ^ -324`, which is finer than the gap between any two doubles.
-/

namespace IndexGateway.Number.Shortest

/-- The reals that round to a double `m · 2 ^ e`, in units of `2 ^ (e - 2)`: the double itself,
the two ends, and whether these belong to the interval. -/
structure Interval where
  /-- The lower end. -/
  low : Nat
  /-- The double. -/
  mid : Nat
  /-- The upper end. -/
  high : Nat
  /-- Whether the ends round to the double as well. -/
  closed : Bool
  /-- The exponent `e - 2` of the unit. -/
  unit : Int

/-- The interval of a positive double. -/
def interval (x : Binary64) : Interval :=
  let m := x.mantissa
  let e := x.exponent
  { low := if m = Nat.pow 2 52 ∧ -1074 < e then 4 * m - 1 else 4 * m - 2
    mid := 4 * m
    high := 4 * m + 2
    closed := m % 2 = 0
    unit := e - 2 }

/-- The factor that takes counts of `2 ^ unit` to the scale on which it and `10 ^ k` are whole. -/
def unitScale (unit k : Int) : Nat := Nat.pow 2 unit.toNat * Nat.pow 10 (-k).toNat

/-- The factor that takes counts of `10 ^ k` to the same scale. -/
def gridScale (unit k : Int) : Nat := Nat.pow 2 (-unit).toNat * Nat.pow 10 k.toNat

/-- Whether `c · 10 ^ k` lies in the interval. -/
def Interval.holds (i : Interval) (k : Int) (c : Nat) : Bool :=
  let point := c * gridScale i.unit k
  let low := i.low * unitScale i.unit k
  let high := i.high * unitScale i.unit k
  if i.closed then low ≤ point ∧ point ≤ high else low < point ∧ point < high

/-- The point `c` of the grid of `10 ^ k` that lies in the interval and is nearest to the double,
the even one of two that are equally near. -/
def Interval.onGrid (i : Interval) (k : Int) : Option Nat :=
  let mid := i.mid * unitScale i.unit k
  let step := gridScale i.unit k
  let c := mid / step
  match i.holds k c && c != 0, i.holds k (c + 1) with
  | false, false => none
  | true, false => some c
  | false, true => some (c + 1)
  | true, true =>
    let below := mid - c * step
    let above := (c + 1) * step - mid
    if below < above then some c
    else if above < below then some (c + 1)
    else if c % 2 = 0 then some c else some (c + 1)

/-- Looks for a point on the grids of `10 ^ (n - 325)` and finer ones. -/
def Interval.search (i : Interval) : Nat → Option (Nat × Int)
  | 0 => none
  | n + 1 =>
    let k : Int := n - 324
    match i.onGrid k with
    | some c => some (c, k)
    | none => i.search n

/-- The digits `c` and the exponent `k` of the shortest decimal `c · 10 ^ k` of a positive double. -/
def decimal (x : Binary64) : Nat × Int :=
  ((interval x).search 634).getD (0, 0)

/-- The text of a positive decimal `c · 10 ^ k`: in plain notation with at least one fractional
digit from `10 ^ -5` up to below `10 ^ 16`, otherwise with a signed exponent. -/
def layout (c : Nat) (k : Int) : List Char :=
  let digits := Text.Numeral.ofNat c
  let point : Int := digits.length + k
  if 0 ≤ k ∧ point ≤ 16 then
    digits ++ List.replicate k.toNat '0' ++ ['.', '0']
  else if 0 < point ∧ point ≤ 16 then
    digits.take point.toNat ++ '.' :: digits.drop point.toNat
  else if -5 < point ∧ point ≤ 0 then
    '0' :: '.' :: List.replicate (-point).toNat '0' ++ digits
  else
    let mantissa := match digits with
      | [d] => [d]
      | d :: more => d :: '.' :: more
      | [] => []
    let exponent := point - 1
    let sign := if exponent < 0 then '-' else '+'
    mantissa ++ 'e' :: sign :: Text.Numeral.ofNat exponent.natAbs

end Shortest

/-- The text of a double: the fewest digits that read back, with a sign if it is negative. -/
def Binary64.text (x : Binary64) : List Char :=
  let magnitude :=
    if x.isZero then ['0', '.', '0']
    else
      let (c, k) := Shortest.decimal x
      Shortest.layout c k
  if x.isNegative then '-' :: magnitude else magnitude

end IndexGateway.Number

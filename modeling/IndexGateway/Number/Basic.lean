import IndexGateway.Number.Binary64

/-!
# Numbers of a document

A number is either whole or floating-point, and the two never turn into each
other: `1` and `1.0` are different values. Whole numbers are those of the signed
and of the unsigned 64-bit range together; the bounds are part of the type, so
that every whole number has a numeral that reads back as itself.
-/

namespace IndexGateway

/-- A whole number from `-2 ^ 63` to `2 ^ 64 - 1`. -/
structure Integer where
  /-- The number. -/
  val : Int
  /-- It is not below the signed range. -/
  lower : -9223372036854775808 ≤ val := by omega
  /-- It is not above the unsigned range. -/
  upper : val < 18446744073709551616 := by omega
  deriving DecidableEq, Repr

namespace Integer

/-- The number as an `Integer`, if it is one. -/
def ofInt? (n : Int) : Option Integer :=
  if h : -9223372036854775808 ≤ n ∧ n < 18446744073709551616 then some ⟨n, h.1, h.2⟩ else none

/-- A signed 64-bit number. -/
def ofInt64 (n : Int64) : Integer :=
  ⟨n.toInt, by have := n.le_toInt; omega, by have := n.toInt_lt; omega⟩

/-- An unsigned 64-bit number. -/
def ofUInt64 (n : UInt64) : Integer :=
  ⟨n.toNat, by omega, by have := n.toNat_lt; omega⟩

/-- The number as a signed 64-bit one, if it is in that range. -/
def toInt64? (n : Integer) : Option Int64 :=
  if n.val < 9223372036854775808 then some (Int64.ofInt n.val) else none

/-- The number as an unsigned 64-bit one, if it is in that range. -/
def toUInt64? (n : Integer) : Option UInt64 :=
  if 0 ≤ n.val then some n.val.toNat.toUInt64 else none

@[simp] theorem toInt64?_ofInt64 (n : Int64) : (ofInt64 n).toInt64? = some n := by
  have hlt : n.toInt < 9223372036854775808 := n.toInt_lt
  simp [toInt64?, ofInt64, hlt]

@[simp] theorem toUInt64?_ofUInt64 (n : UInt64) : (ofUInt64 n).toUInt64? = some n := by
  simp [toUInt64?, ofUInt64]

end Integer

/-- A number of a document. -/
inductive Number where
  /-- A whole number. -/
  | int (n : Integer)
  /-- A floating-point number, which may have a whole value. -/
  | float (x : Number.Binary64)
  deriving DecidableEq, Repr

end IndexGateway

import IndexGateway.Text.Numeral
import IndexGateway.Text.Substitute

/-!
# Hosts that tell their address

Which host a name belongs to is for the system to say. It need not be asked about a host
that is given by its address, or that is the machine itself under the name `localhost`.

An address of 32 bits is written as up to four numbers with points between them, each
a byte, but for the last, which fills the rest. An address of 128 bits is written as
eight groups of hexadecimal digits with colons between them. Two colons stand for
groups of zeros, and the last two groups may be written as four decimal numbers. Such
an address may be put in brackets, and a number behind a percent sign says which
network it belongs to.
-/

namespace IndexGateway.Metrics.Host

open Text

/-! ### Addresses of 32 bits -/

/-- The value of digits to a base, if there are any. -/
def numberTo? (base : Nat) : List Char → Option Nat
  | [] => none
  | digits => digits.foldlM (fun n c => do
      let d ← Numeral.hexValue? c
      if d < base then some (base * n + d) else none) 0

/-- The value of a number: hexadecimal behind `0x`, octal behind another zero, and decimal
otherwise. -/
def number? : List Char → Option Nat
  | '0' :: c :: rest =>
    if c = 'x' || c = 'X' then numberTo? 16 rest else numberTo? 8 (c :: rest)
  | digits => numberTo? 10 digits

/-- Whether a text is an address of 32 bits. -/
def isShort (text : List Char) : Bool :=
  match (text.splitOn '.').mapM number? with
  | none => false
  | some numbers =>
    numbers.length ≤ 4 && numbers.dropLast.all (· < 256) &&
      numbers.getLastD 0 < Nat.pow 256 (5 - numbers.length)

/-! ### Addresses of 128 bits -/

/-- Whether a text is a byte in decimal digits without leading zeros. -/
def isByte (text : List Char) : Bool :=
  !text.isEmpty && text.all Char.isDigit && (text = ['0'] || text.head? ≠ some '0') &&
    Numeral.value text < 256

/-- Whether a text is four bytes in decimal digits. -/
def isQuad (text : List Char) : Bool :=
  (text.splitOn '.').length = 4 && (text.splitOn '.').all isByte

/-- Whether a text is a group of hexadecimal digits. -/
def isGroup (text : List Char) : Bool :=
  !text.isEmpty && text.length ≤ 4 && text.all fun c => (Numeral.hexValue? c).isSome

/-- The number of groups, where four bytes at the end count for two. -/
def groupCount? : List (List Char) → Option Nat
  | [] => some 0
  | [last] => if isGroup last then some 1 else if isQuad last then some 2 else none
  | group :: rest => if isGroup group then (groupCount? rest).map (· + 1) else none

/-- The groups of a text; an empty one has none. -/
def groups (text : List Char) : List (List Char) := if text = [] then [] else text.splitOn ':'

/-- Whether a text is eight groups, of which two colons may stand for one or more. -/
def isGroups (text : List Char) : Bool :=
  match cut? [':', ':'] text with
  | none => groupCount? (groups text) = some 8
  | some (before, after) =>
    match groupCount? (groups before), groupCount? (groups after) with
    | some m, some n => m + n < 8 && !before.contains '.'
    | _, _ => false

/-- Whether a text is the number of a network. -/
def isZone (text : List Char) : Bool :=
  !text.isEmpty && text.all Char.isDigit && Numeral.value text < UInt32.size

/-- Whether a text is an address of 128 bits, perhaps with its network. -/
def isLong (text : List Char) : Bool :=
  match text.span (· ≠ '%') with
  | (address, []) => isGroups address
  | (address, _ :: zone) => isGroups address && isZone zone

/-! ### Hosts -/

/-- The name of the machine itself, in small letters. -/
def ownName : String := "localhost"

/-- Whether a host is given by its address, or is the machine itself. -/
def isAddress (host : String) : Bool :=
  match host.toList with
  | '[' :: rest => rest.getLast? = some ']' && isLong rest.dropLast
  | text => isShort text || isLong text || text.map Char.toLower = ownName.toList

end IndexGateway.Metrics.Host

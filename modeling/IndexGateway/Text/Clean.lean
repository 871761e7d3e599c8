import IndexGateway.Json.Basic
import IndexGateway.Text.Numeral

/-!
# Texts that are safe in a reply

A reply may hold tab, line feed, carriage return and the printable ASCII
characters. A character beyond ASCII is written as a decimal character reference;
an ASCII control character, DEL included, is left out. These are two passes over a
text, and neither builds a new text where it has nothing to do: a text that is clean
already is returned as it is.

Cleaning a value cleans its texts and the keys of its objects. Keys that become
equal are one key: it keeps the first place and the last value.
-/

namespace IndexGateway.Text

/-- The code points that no reply may hold, below the end of the basic plane. -/
def illegalRanges : List (Nat × Nat) :=
  [(0x00, 0x08), (0x0B, 0x0C), (0x0E, 0x1F), (0x7F, 0x84), (0x86, 0x9F), (0xFDD0, 0xFDDF),
    (0xFFFE, 0xFFFF)]

/-- Whether no reply may hold a character: a control character or a non-character. -/
def isIllegal (c : Char) : Bool :=
  let n := c.toNat
  if 0xFFFF < n then 0xFFFE ≤ n % 0x10000
  else illegalRanges.any fun (low, high) => low ≤ n && n ≤ high

/-- Whether a character belongs to ASCII. -/
def isAscii (c : Char) : Bool := c.toNat < 0x80

/-- A character as ASCII: itself, or a decimal reference to it. -/
def reference (c : Char) : List Char :=
  if isAscii c then [c] else '&' :: '#' :: Numeral.ofNat c.toNat ++ [';']

/-- The first pass: a text as ASCII, unless it is ASCII already. -/
def escaped? (s : String) : Option String :=
  if s.toList.all isAscii then none else some (String.ofList (s.toList.flatMap reference))

/-- The second pass: a text without what no reply may hold, unless it holds none of it. -/
def stripped? (s : String) : Option String :=
  if s.toList.any isIllegal then some (String.ofList (s.toList.filter fun c => !isIllegal c))
  else none

/-- What both passes make of a text, unless they leave it as it is. -/
def rebuilt? (s : String) : Option String :=
  if s.isEmpty then none
  else match escaped? s with
    | none => stripped? s
    | some t => some ((stripped? t).getD t)

/-- The clean form of a text. -/
def clean (s : String) : String := (rebuilt? s).getD s

end IndexGateway.Text

namespace IndexGateway.Json

mutual

/-- A value with clean texts and clean keys. -/
def clean : Json → Json
  | .null => .null
  | .bool b => .bool b
  | .num n => .num n
  | .str s => .str (Text.clean s)
  | .arr items => .arr (cleanItems items)
  | .obj fields => .obj (collectFields (cleanEntries fields))

/-- Items, each one clean. -/
def cleanItems : List Json → List Json
  | [] => []
  | v :: rest => v.clean :: cleanItems rest

/-- Entries with clean keys and clean values, keys that became equal not yet put together. -/
def cleanEntries : List (String × Json) → List (String × Json)
  | [] => []
  | (k, v) :: rest => (Text.clean k, v.clean) :: cleanEntries rest

end

end IndexGateway.Json

import IndexGateway.Json.Basic
import IndexGateway.Number.Literal
import IndexGateway.Text.Numeral

/-!
# Writing JSON

Two forms are written. The compact form has no blanks and is what cache keys and
stored responses hold. The pretty form puts every item and field on a line of its
own, two spaces further in than the bracket that holds it, and an empty list or
object on one line.

In texts, the quote, the backslash and the control characters below the space are
escaped, with a short escape where there is one; every other character is written
as it is.
-/

namespace IndexGateway.Json

open Text

/-- The written form of a character inside a text. -/
def escapeChar (c : Char) : List Char :=
  if c = '"' then ['\\', '"']
  else if c = '\\' then ['\\', '\\']
  else if c = '\x08' then ['\\', 'b']
  else if c = '\t' then ['\\', 't']
  else if c = '\n' then ['\\', 'n']
  else if c = '\x0c' then ['\\', 'f']
  else if c = '\r' then ['\\', 'r']
  else if c < ' ' then
    ['\\', 'u', '0', '0', Nat.digitChar (c.toNat / 16), Nat.digitChar (c.toNat % 16)]
  else [c]

/-- A text in quotes. -/
def quote (s : String) : List Char := '"' :: s.toList.flatMap escapeChar ++ ['"']

mutual

/-- The compact form of a value. -/
def chars : Json → List Char
  | .null => ['n', 'u', 'l', 'l']
  | .bool true => ['t', 'r', 'u', 'e']
  | .bool false => ['f', 'a', 'l', 's', 'e']
  | .num n => n.text
  | .str s => quote s
  | .arr [] => ['[', ']']
  | .arr (v :: rest) => '[' :: v.chars ++ itemChars rest
  | .obj [] => ['{', '}']
  | .obj ((k, v) :: rest) => '{' :: quote k ++ ':' :: v.chars ++ fieldChars rest

/-- The items behind the first, with the closing bracket. -/
def itemChars : List Json → List Char
  | [] => [']']
  | v :: rest => ',' :: v.chars ++ itemChars rest

/-- The fields behind the first, with the closing bracket. -/
def fieldChars : List (String × Json) → List Char
  | [] => ['}']
  | (k, v) :: rest => ',' :: quote k ++ ':' :: v.chars ++ fieldChars rest

end

/-- The compact text of a value. -/
def compact (v : Json) : String := String.ofList v.chars

/-- A new line, indented for a depth of nesting. -/
def newLine (depth : Nat) : List Char := '\n' :: List.replicate (2 * depth) ' '

mutual

/-- The pretty form of a value that stands at a depth of nesting. -/
def prettyChars (depth : Nat) : Json → List Char
  | .null => chars .null
  | .bool b => chars (.bool b)
  | .num n => chars (.num n)
  | .str s => chars (.str s)
  | .arr [] => ['[', ']']
  | .arr (v :: rest) =>
    '[' :: newLine (depth + 1) ++ v.prettyChars (depth + 1) ++ prettyItems depth rest
  | .obj [] => ['{', '}']
  | .obj ((k, v) :: rest) =>
    '{' :: newLine (depth + 1) ++ quote k ++ ':' :: ' ' :: v.prettyChars (depth + 1) ++
      prettyFields depth rest

/-- The items behind the first, with the closing bracket. -/
def prettyItems (depth : Nat) : List Json → List Char
  | [] => newLine depth ++ [']']
  | v :: rest => ',' :: newLine (depth + 1) ++ v.prettyChars (depth + 1) ++ prettyItems depth rest

/-- The fields behind the first, with the closing bracket. -/
def prettyFields (depth : Nat) : List (String × Json) → List Char
  | [] => newLine depth ++ ['}']
  | (k, v) :: rest =>
    ',' :: newLine (depth + 1) ++ quote k ++ ':' :: ' ' :: v.prettyChars (depth + 1) ++
      prettyFields depth rest

end

/-- The pretty text of a value. -/
def pretty (v : Json) : String := String.ofList (v.prettyChars 0)

end IndexGateway.Json

import IndexGateway.Text.Numeral
import IndexGateway.Toml.Quoted

/-!
# Writing documents

A document is written as sections of lines that set keys, with an empty line
between sections. A text is written in the plainest of the four forms that shows it
without escapes; only if there is none, it is escaped between double quotes.

A tab needs no escape and does not count when the form is chosen, but between double
quotes it is escaped all the same.
-/

namespace IndexGateway.Toml

open Text

/-- The ways to write a text. -/
inductive Style where
  /-- Between double quotes. -/
  | basic
  /-- Between single quotes. -/
  | literal
  /-- Between three double quotes. -/
  | longBasic
  /-- Between three single quotes. -/
  | longLiteral
  deriving DecidableEq, Repr

/-- The length of the longest run of a character in a text, where the second argument is the length
of the run that ends at the front. -/
def longestRunFrom (c : Char) : Nat → List Char → Nat
  | run, [] => run
  | run, d :: rest =>
    if d = c then longestRunFrom c (run + 1) rest else max run (longestRunFrom c 0 rest)

/-- The length of the longest run of a character in a text. -/
def longestRun (c : Char) (text : List Char) : Nat := longestRunFrom c 0 text

/-- Whether a text holds a control character that has to be escaped; line feeds do not count. -/
def needsEscape (text : List Char) : Bool := text.any fun c => isControl c && c ≠ '\n'

/-- The plainest way to write a text. -/
def Style.ofText (text : List Char) : Style :=
  let hasLineFeed := text.contains '\n'
  let hasBackslash := text.contains '\\'
  let isEscaped := needsEscape text
  if !isEscaped && !hasBackslash && !text.contains '"' && !hasLineFeed then .basic
  else if !isEscaped && !text.contains '\'' && !hasLineFeed then .literal
  else if !isEscaped && !hasBackslash && longestRun '"' text ≤ 2 then .longBasic
  else if !isEscaped && longestRun '\'' text ≤ 2 then .longLiteral
  else if hasLineFeed then .longBasic
  else .basic

/-- The escape of a character other than a quote, if it has one; in texts of several lines, line
feeds have none. -/
def escape? (isLong : Bool) (c : Char) : Option (List Char) :=
  if c = '\x08' then some ['\\', 'b']
  else if c = '\t' then some ['\\', 't']
  else if c = '\n' then (if isLong then none else some ['\\', 'n'])
  else if c = '\x0c' then some ['\\', 'f']
  else if c = '\r' then some ['\\', 'r']
  else if c = '\\' then some ['\\', '\\']
  else if isControl c then
    some ['\\', 'u', '0', '0', (Nat.digitChar (c.toNat / 16)).toUpper,
      (Nat.digitChar (c.toNat % 16)).toUpper]
  else none

/-- The number of double quotes that may stand together without an escape. -/
def quoteLimit (isLong : Bool) : Nat := if isLong then 2 else 0

/-- A text with escapes, where the second argument is the number of plain quotes right before it. -/
def escapeFrom (isLong : Bool) : Nat → List Char → List Char
  | _, [] => []
  | run, c :: rest =>
    if c = '"' then
      if run < quoteLimit isLong then '"' :: escapeFrom isLong (run + 1) rest
      else '\\' :: '"' :: escapeFrom isLong 0 rest
    else
      match escape? isLong c with
      | some e => e ++ escapeFrom isLong 0 rest
      | none => c :: escapeFrom isLong 0 rest

/-- The line feed behind the opening quotes of a text that has lines. -/
def opening (text : List Char) : List Char := if text.contains '\n' then ['\n'] else []

/-- A text in a given style. -/
def Style.write (text : List Char) : Style → List Char
  | .basic => '"' :: escapeFrom false 0 text ++ ['"']
  | .literal => '\'' :: text ++ ['\'']
  | .longBasic => ['"', '"', '"'] ++ opening text ++ escapeFrom true 0 text ++ ['"', '"', '"']
  | .longLiteral => ['\'', '\'', '\''] ++ opening text ++ text ++ ['\'', '\'', '\'']

/-- The written form of a text. -/
def quote (text : List Char) : List Char := (Style.ofText text).write text

/-- A value that can be set on a line of its own. -/
inductive Leaf where
  /-- A text. -/
  | text (s : String)
  /-- A whole number. -/
  | int (n : Int64)
  /-- A truth value. -/
  | bool (b : Bool)
  deriving DecidableEq, Repr

/-- The written form of a value. -/
def Leaf.chars : Leaf → List Char
  | .text s => quote s.toList
  | .int n => Numeral.ofInt n.toInt
  | .bool true => ['t', 'r', 'u', 'e']
  | .bool false => ['f', 'a', 'l', 's', 'e']

/-- The line that sets a key. -/
def lineChars : String × Leaf → List Char
  | (key, value) => key.toList ++ [' ', '=', ' '] ++ value.chars ++ ['\n']

/-- A header and the lines below it. -/
def sectionChars : String × List (String × Leaf) → List Char
  | (name, lines) => '[' :: name.toList ++ [']', '\n'] ++ lines.flatMap lineChars

/-- Sections with an empty line between them. -/
def sectionsChars (sections : List (String × List (String × Leaf))) : List Char :=
  ['\n'].intercalate (sections.map sectionChars)

end IndexGateway.Toml

import IndexGateway.Number.Literal
import IndexGateway.Text.Reader

/-!
# JSON texts as they are written

A JSON text is read in two steps. The first sees the brackets, the literals and
the escapes and yields an *outline*; the second judges what the first leaves
open. An outline keeps a number that is too large for a double, and a text with
half of a surrogate pair, as a hole; it keeps repeated keys; and it may be nested
to any depth. Whoever needs a value then asks for `Json.ofOutline?`, and whoever
decodes a record skips the fields that are not its own without asking, so that a
hole or deep nesting inside a skipped field does no harm.

## The model

The nesting of a text is bounded by its length, which bounds the recursion of the
reader; the limits on nesting that answers show are imposed by the second step.
-/

namespace IndexGateway.Json

open Text

/-- A JSON text as it is written. -/
inductive Outline where
  /-- The null value. -/
  | null
  /-- A truth value. -/
  | bool (b : Bool)
  /-- A number, unless it is too large to be one. -/
  | num (n? : Option Number)
  /-- A text, unless it holds half of a surrogate pair. -/
  | str (s? : Option String)
  /-- The items between brackets. -/
  | arr (items : List Outline)
  /-- The keys and values between braces, repeated keys included. -/
  | obj (entries : List (Option String × Outline))
  deriving Inhabited

namespace Outline

/-- The blanks of the format. -/
def isBlank (c : Char) : Bool := c = ' ' || c = '\t' || c = '\n' || c = '\r'

/-- The rest of a text behind the blanks at its front. -/
def skipBlanks (text : List Char) : List Char := text.dropWhile isBlank

/-- A part of a text between quotes. -/
inductive Piece where
  /-- A character, written as it is or by a short escape. -/
  | char (c : Char)
  /-- A 16-bit unit, written by a numeric escape. -/
  | unit (n : Nat)
  deriving DecidableEq

/-- The character that a short escape stands for. -/
def escaped? (c : Char) : Option Char :=
  if c = '"' then some '"'
  else if c = '\\' then some '\\'
  else if c = '/' then some '/'
  else if c = 'b' then some '\x08'
  else if c = 'f' then some '\x0c'
  else if c = 'n' then some '\n'
  else if c = 'r' then some '\r'
  else if c = 't' then some '\t'
  else none

/-- Reads the parts of a text up to and including the closing quote. -/
def pieces : List Char → Option (List Piece × List Char)
  | [] => none
  | '"' :: rest => some ([], rest)
  | '\\' :: 'u' :: a :: b :: c :: d :: rest =>
    match Numeral.hexValue [a, b, c, d] with
    | none => none
    | some n =>
      match pieces rest with
      | none => none
      | some (more, rest') => some (.unit n :: more, rest')
  | '\\' :: c :: rest =>
    match escaped? c with
    | none => none
    | some e =>
      match pieces rest with
      | none => none
      | some (more, rest') => some (.char e :: more, rest')
  | c :: rest =>
    if c < ' ' then none
    else
      match pieces rest with
      | none => none
      | some (more, rest') => some (.char c :: more, rest')

/-- Whether a unit is the first half of a surrogate pair. -/
def isLead (n : Nat) : Bool := 0xD800 ≤ n && n < 0xDC00

/-- Whether a unit is the second half of a surrogate pair. -/
def isTrail (n : Nat) : Bool := 0xDC00 ≤ n && n < 0xE000

/-- The character that a surrogate pair stands for. -/
def pairedChar (lead trail : Nat) : Char :=
  Char.ofNat (0x10000 + (lead - 0xD800) * 0x400 + (trail - 0xDC00))

/-- Puts the parts of a text together; `none` if half of a surrogate pair stands alone. -/
def joinPieces : List Piece → Option (List Char)
  | [] => some []
  | .char c :: rest => (joinPieces rest).map (c :: ·)
  | .unit n :: .unit m :: rest =>
    if isLead n then
      if isTrail m then (joinPieces rest).map (pairedChar n m :: ·) else none
    else if isTrail n then none
    else (joinPieces (.unit m :: rest)).map (Char.ofNat n :: ·)
  | .unit n :: rest =>
    if isLead n || isTrail n then none else (joinPieces rest).map (Char.ofNat n :: ·)

/-- Reads the rest of a text behind its opening quote. -/
def readText : Reader (Option String) := fun text =>
  match pieces text with
  | none => none
  | some (parts, rest) => some ((joinPieces parts).map String.ofList, rest)

/-- Reads what a reader understands behind a given mark, which may follow blanks. -/
def behind {α : Type} (mark : Char) (reader : Reader α) : Reader α := fun text =>
  match skipBlanks text with
  | c :: rest => if c = mark then reader rest else none
  | [] => none

/-- Reads items, separated by commas, up to and including the closing mark. -/
def separated {α : Type} (item : Reader α) (close : Char) : Reader (List α) := fun text =>
  match behind close (fun rest => some ((), rest)) text with
  | some ((), rest) => some ([], rest)
  | none =>
    match item text with
    | none => none
    | some (first, rest) =>
      match Reader.many (behind ',' item) rest with
      | none => none
      | some (more, rest') =>
        match behind close (fun rest => some ((), rest)) rest' with
        | none => none
        | some ((), rest'') => some (first :: more, rest'')

/-- Reads a key, a colon and a value. -/
def entry (value : Reader Outline) : Reader (Option String × Outline) := fun text =>
  match behind '"' readText text with
  | none => none
  | some (key, rest) =>
    match behind ':' value rest with
    | none => none
    | some (v, rest') => some ((key, v), rest')

/-- Reads the rest of a word whose first letter has been seen, and yields a value for it. -/
def word (rest : String) (value : Outline) : Reader Outline := fun text =>
  match Reader.exactly rest.toList text with
  | none => none
  | some ((), rest') => some (value, rest')

/-- Reads a value nested at most as deep as the first argument says, behind any blanks. -/
def readValue : Nat → Reader Outline
  | 0, _ => none
  | depth + 1, text =>
    match skipBlanks text with
    | [] => none
    | c :: rest =>
      if c = '"' then
        match readText rest with
        | none => none
        | some (s, rest') => some (.str s, rest')
      else if c = '[' then
        match separated (readValue depth) ']' rest with
        | none => none
        | some (items, rest') => some (.arr items, rest')
      else if c = '{' then
        match separated (entry (readValue depth)) '}' rest with
        | none => none
        | some (entries, rest') => some (.obj entries, rest')
      else if c = 'n' then word "ull" .null rest
      else if c = 't' then word "rue" (.bool true) rest
      else if c = 'f' then word "alse" (.bool false) rest
      else
        match Number.Literal.read (c :: rest) with
        | none => none
        | some (literal, rest') => some (.num literal.number?, rest')

/-- Reads a JSON text to its end. -/
def ofChars? (text : List Char) : Option Outline :=
  match readValue (text.length + 1) text with
  | none => none
  | some (outline, rest) => if skipBlanks rest = [] then some outline else none

end Outline

end IndexGateway.Json

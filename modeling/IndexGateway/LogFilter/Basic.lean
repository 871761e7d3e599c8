import IndexGateway.LogFilter.Field
import IndexGateway.Text.Alphanumeric
import IndexGateway.Text.Blank
import IndexGateway.Text.Bytes
import IndexGateway.Text.Numeral
import IndexGateway.Text.Quoted

/-!
# Log filters

A filter says which log entries are written. It is a list of directives with commas
between them. A directive is a level for everything; or the place where entries come
from, perhaps with a span in brackets and a field of the span in braces, and perhaps
with a level behind an equals sign. A word that is no level names a place.

A level is a name in any case or a number from 0 to 5.

## The model

Blanks around a directive are passed over when it is taken apart. The places at which
its parts stand are counted without the blanks, though, and the parts are then taken
from the text with its blanks, at as many bytes from the start. So a directive with
blanks has no level that is good, and its field is taken from further left.
-/

namespace IndexGateway.LogFilter

open Text

/-- Which entries are let through: none, or those of a level and the more important ones. -/
inductive Verbosity where
  /-- No entries. -/
  | off
  /-- Errors. -/
  | error
  /-- Warnings, and what is more important. -/
  | warn
  /-- What operators want to know, and what is more important. -/
  | info
  /-- Steps of the work, and what is more important. -/
  | debug
  /-- Everything. -/
  | trace
  deriving DecidableEq, Repr

/-- A directive. -/
structure Directive where
  /-- The place where entries come from. -/
  target : Option String := none
  /-- The span in which they are made. -/
  span : Option String := none
  /-- The field of the span, perhaps with a value. -/
  field : Option String := none
  /-- Which entries are let through. -/
  level : Verbosity := .trace
  deriving DecidableEq, Repr

/-- The names of the levels, in the order of their numbers. -/
def levelNames : List (String × Verbosity) :=
  [("off", .off), ("error", .error), ("warn", .warn), ("info", .info), ("debug", .debug),
    ("trace", .trace)]

/-- The value of a numeral, which may have a plus sign and leading zeros. -/
def numeral? (word : List Char) : Option Nat :=
  let digits := match word with
    | '+' :: rest => rest
    | _ => word
  if digits.isEmpty || !digits.all Char.isDigit then none else some (Numeral.value digits)

/-- The level of a word that is not empty. -/
def levelOf? (word : List Char) : Option Verbosity :=
  match numeral? word with
  | some n => (levelNames[n]?).map (·.2)
  | none => levelNames.lookup (String.ofList (word.map Char.toLower))

/-- Whether a character can start the name of a place. -/
def startsName (c : Char) : Bool := c = '-' || c = ':' || c = '_' || Alphanumeric.isAlphanumeric c

/-- A directive as it is written. -/
structure Written where
  /-- The text with the blanks around it. -/
  padded : List Char
  /-- The text without them. -/
  text : List Char

/-- The directive that stands in a text with blanks around it. -/
def Written.ofPadded (padded : List Char) : Written := { padded, text := trim padded }

/-- Whether there are blanks around a directive. -/
def Written.isPadded (w : Written) : Bool := w.text.length < w.padded.length

/-- What stands in the text with its blanks in the place of a part of the text without, behind
which the given rest follows. -/
def Written.taken? (w : Written) (part rest : List Char) : Option (List Char) :=
  match dropBytes (byteCount w.text - byteCount (part ++ rest)) w.padded with
  | some text => takeBytes (byteCount part) text
  | none => none

/-- Gives a directive the level behind its equals sign; without any text it lets everything through.
No level is good in a text with blanks around it. -/
def withLevel (w : Written) (d : Directive) (word : List Char) : Option Directive :=
  if w.isPadded then none
  else
    match word with
    | [] => some d
    | _ => (levelOf? word).map fun level => { d with level }

/-- What may follow a span: nothing, or a level. -/
def behindSpan (w : Written) (d : Directive) : List Char → Option Directive
  | [] => some d
  | '=' :: word => withLevel w d word
  | _ => none

/-- A text, if it is not empty. -/
def unlessEmpty : List Char → Option String
  | [] => none
  | cs => some (String.ofList cs)

/-- The text of a field, if it can be asked for. -/
def fieldOf? (w : Written) (part rest : List Char) : Option String :=
  match w.taken? part rest with
  | some text => if isField text then unlessEmpty text else none
  | none => none

/-- A directive from the name of its span on. -/
def spanDirective (w : Written) (target : Option String) (text : List Char) : Option Directive :=
  let (name, rest) := text.span fun c => c ≠ ']' && c ≠ '\x7b'
  match rest with
  | ']' :: rest' => behindSpan w { target, span := some (String.ofList name) } rest'
  | '\x7b' :: rest' =>
    let (part, rest'') := rest'.span fun c => c ≠ '\x7d'
    match fieldOf? w part rest'', rest'' with
    | some field, '\x7d' :: ']' :: tail =>
      behindSpan w { target, span := unlessEmpty name, field } tail
    | _, _ => none
  | _ => none

/-- The directive that is written. -/
def directiveOf? (w : Written) : Option Directive :=
  match w.text with
  | [] => none
  | '[' :: rest => spanDirective w none rest
  | c :: rest =>
    if startsName c then
      let (name, tail) := (c :: rest).span fun c => c ≠ '=' && c ≠ '['
      match tail with
      | [] =>
        match levelOf? name with
        | some level => some { level }
        | none => some { target := some (String.ofList name) }
      | '=' :: word => withLevel w { target := some (String.ofList name) } word
      | _ :: rest' => spanDirective w (some (String.ofList name)) rest'
    else none

/-- The directives of a filter; empty parts do not count. -/
def ofText? (text : String) : Option (List Directive) :=
  ((text.toList.splitOn ',').filter fun part => !part.isEmpty).mapM fun part =>
    directiveOf? (.ofPadded part)

/-- The text for a filter that cannot be taken apart. -/
def invalidMessage (text : String) : String := "invalid log level " ++ Quoted.quote text

end IndexGateway.LogFilter

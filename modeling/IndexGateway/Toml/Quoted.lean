import IndexGateway.Text.Numeral
import IndexGateway.Text.Reader

/-!
# Texts of a document

A text is written in one of four ways. Between single quotes or three of them
everything stands for itself; between double quotes or three of them a backslash
starts an escape. Only the forms with three quotes may go over several lines: a
line end right behind the opening quotes does not count, a carriage return before
a line feed does not either, and between double quotes a backslash at the end of a
line swallows all blanks and line ends behind it. One or two quotes inside are part
of the text, also when they stand right before the closing ones.

Control characters other than the tab have to be escaped.
-/

namespace IndexGateway.Toml

open Text

/-- Whether a character is a blank within a line. -/
def isSpace (c : Char) : Bool := c = ' ' || c = '\t'

/-- Whether a character may only be written by an escape. -/
def isControl (c : Char) : Bool := (c < ' ' && c ≠ '\t') || c = '\x7f'

/-- The rest of a text behind a line end at its front. -/
def behindLineEnd? : List Char → Option (List Char)
  | '\n' :: rest => some rest
  | '\r' :: '\n' :: rest => some rest
  | _ => none

/-- The character that a short escape stands for. -/
def escaped? (c : Char) : Option Char :=
  if c = '"' then some '"'
  else if c = '\\' then some '\\'
  else if c = 'b' then some '\x08'
  else if c = 'f' then some '\x0c'
  else if c = 'n' then some '\n'
  else if c = 'r' then some '\r'
  else if c = 't' then some '\t'
  else none

/-- The character of a code point that is given by hexadecimal digits. -/
def charOf? (digits : List Char) : Option Char :=
  match Numeral.hexValue digits with
  | none => none
  | some n => if h : n.isValidChar then some (Char.ofNatAux n h) else none

/-- Puts a character, if there is one, in front of a text that was read. -/
def prepend (c? : Option Char) (r? : Option (List Char × List Char)) :
    Option (List Char × List Char) :=
  match c?, r? with
  | some c, some (cs, rest) => some (c :: cs, rest)
  | _, _ => none

/-- Reads a text up to and including its closing double quote. -/
def readBasic : Reader (List Char)
  | [] => none
  | '"' :: rest => some ([], rest)
  | '\\' :: 'u' :: a :: b :: c :: d :: rest => prepend (charOf? [a, b, c, d]) (readBasic rest)
  | '\\' :: 'U' :: a :: b :: c :: d :: e :: f :: g :: h :: rest =>
    prepend (charOf? [a, b, c, d, e, f, g, h]) (readBasic rest)
  | '\\' :: c :: rest => prepend (escaped? c) (readBasic rest)
  | c :: rest => if isControl c then none else prepend (some c) (readBasic rest)

/-- Reads a text up to and including its closing single quote. -/
def readLiteral : Reader (List Char)
  | [] => none
  | '\'' :: rest => some ([], rest)
  | c :: rest => if isControl c then none else prepend (some c) (readLiteral rest)

/-- Whether a backslash with the given text behind it stands at the end of a line. -/
def endsLine (text : List Char) : Bool := (behindLineEnd? (text.dropWhile isSpace)).isSome

/-- Reads a text of several lines up to and including its three closing double quotes, where the
first argument says whether blanks and line ends are being swallowed. -/
def readLongBasic : Bool → Reader (List Char)
  | _, [] => none
  | _, '"' :: '"' :: '"' :: '"' :: '"' :: rest => some (['"', '"'], rest)
  | _, '"' :: '"' :: '"' :: '"' :: rest => some (['"'], rest)
  | _, '"' :: '"' :: '"' :: rest => some ([], rest)
  | swallow, '\r' :: '\n' :: rest =>
    if swallow then readLongBasic true rest else prepend (some '\n') (readLongBasic false rest)
  | _, '\\' :: 'u' :: a :: b :: c :: d :: rest =>
    prepend (charOf? [a, b, c, d]) (readLongBasic false rest)
  | _, '\\' :: 'U' :: a :: b :: c :: d :: e :: f :: g :: h :: rest =>
    prepend (charOf? [a, b, c, d, e, f, g, h]) (readLongBasic false rest)
  | _, '\\' :: c :: rest =>
    if endsLine (c :: rest) then readLongBasic true (c :: rest)
    else prepend (escaped? c) (readLongBasic false rest)
  | swallow, c :: rest =>
    if swallow && (isSpace c || c = '\n') then readLongBasic true rest
    else if isControl c && c ≠ '\n' then none
    else prepend (some c) (readLongBasic false rest)

/-- Reads a text of several lines up to and including its three closing single quotes. -/
def readLongLiteral : Reader (List Char)
  | [] => none
  | '\'' :: '\'' :: '\'' :: '\'' :: '\'' :: rest => some (['\'', '\''], rest)
  | '\'' :: '\'' :: '\'' :: '\'' :: rest => some (['\''], rest)
  | '\'' :: '\'' :: '\'' :: rest => some ([], rest)
  | '\r' :: '\n' :: rest => prepend (some '\n') (readLongLiteral rest)
  | c :: rest =>
    if isControl c && c ≠ '\n' then none else prepend (some c) (readLongLiteral rest)

/-- The text behind the line end that may follow three opening quotes. -/
def skipFirstLineEnd (text : List Char) : List Char := (behindLineEnd? text).getD text

/-- Reads a text in quotes of any kind. -/
def readQuoted : Reader (List Char)
  | '"' :: '"' :: '"' :: rest => readLongBasic false (skipFirstLineEnd rest)
  | '\'' :: '\'' :: '\'' :: rest => readLongLiteral (skipFirstLineEnd rest)
  | '"' :: rest => readBasic rest
  | '\'' :: rest => readLiteral rest
  | _ => none

end IndexGateway.Toml

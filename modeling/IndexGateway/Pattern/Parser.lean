import IndexGateway.Pattern.Basic
import IndexGateway.Text.Alphanumeric
import IndexGateway.Text.Blank
import IndexGateway.Text.Numeral
import IndexGateway.Text.Reader

/-!
# Reading search patterns

How a search pattern is written. A backslash makes a sign into a character and some
letters into something else; brackets hold a set; parentheses hold a group, and a
question mark behind the opening one gives it a name or switches flags. A repetition
belongs to the part before it, which has to be there.

A pattern is refused if its parts are nested too deep or if two groups share a name.

## The model

Where the pattern is loose, blanks stand for nothing, and neither does what follows a
hash sign on its line. Whether it is loose is a flag that the pattern switches itself,
so it is passed along as the pattern is read, and returns to what it was at the end of
a group. Brackets and parentheses are read to the depth that a pattern may have, which
bounds the recursion; loops are bounded by the length of the text, since every step
takes a character.
-/

namespace IndexGateway.Pattern

open Text

/-- How deep the parts of a pattern may be nested. -/
def depthLimit : Nat := 250

/-! ### Blanks and comments -/

/-- The rest of a text behind the blanks and comments at its front. The flag says whether the text
starts inside a comment. -/
def behindBlanks : Bool → List Char → List Char
  | _, [] => []
  | true, c :: rest => behindBlanks (c ≠ '\n') rest
  | false, c :: rest =>
    if isBlank c then behindBlanks false rest
    else if c = '#' then behindBlanks true rest
    else c :: rest

/-- The rest of a text behind what stands for nothing. -/
def skip (isLoose : Bool) (text : List Char) : List Char :=
  if isLoose then behindBlanks false text else text

/-! ### Characters and what a backslash makes of them -/

/-- Reads hexadecimal digits, so many as the first argument says. -/
def readDigits (isLoose : Bool) : Nat → Reader (List Char)
  | 0, text => some ([], text)
  | n + 1, text =>
    match skip isLoose text with
    | [] => none
    | c :: rest =>
      if (Numeral.hexValue? c).isSome then
        (readDigits isLoose n rest).map fun (digits, rest') => (c :: digits, rest')
      else none

/-- Reads the code of a character, which has so many digits as the first argument says. -/
def readCode (isLoose : Bool) (width : Nat) : Reader Char := fun text =>
  match readDigits isLoose width text with
  | none => none
  | some (digits, rest) =>
    match Numeral.hexValue digits with
    | none => none
    | some n => if n.isValidChar then some (Char.ofNat n, rest) else none

/-- The character of a letter behind a backslash. -/
def controls : List (Char × Char) :=
  [('a', '\x07'), ('f', '\x0c'), ('t', '\t'), ('n', '\n'), ('r', '\r'), ('v', '\x0b')]

/-- The place of a character behind a backslash. -/
def places : List (Char × Place) :=
  [('A', .textStart), ('z', .textEnd), ('b', .wordEdge), ('B', .noWordEdge), ('<', .wordStart),
    ('>', .wordEnd)]

/-- The family of a letter behind a backslash, and whether what is outside of it is meant. -/
def families : List (Char × Family × Bool) :=
  [('d', .digits, false), ('s', .blanks, false), ('w', .wordParts, false),
    ('D', .digits, true), ('S', .blanks, true), ('W', .wordParts, true)]

/-- The number of digits of a code behind a backslash and a letter. -/
def codeWidths : List (Char × Nat) := [('x', 2), ('u', 4), ('U', 8)]

/-- What a character behind a backslash stands for, if it is not the start of a code. Signs stand
for themselves; other letters and digits stand for nothing. -/
def escaped? (c : Char) : Option Atom :=
  match controls.lookup c, places.lookup c, families.lookup c with
  | some control, _, _ => some (.char { char := control })
  | _, some place, _ => some (.place place)
  | _, _, some (family, negated) => some (.family family negated)
  | none, none, none =>
    if c.toNat < 0x80 && !c.isAlphanum then some (.char { char := c }) else none

/-- Reads what stands behind a backslash. -/
def readEscape (isLoose : Bool) : Reader Atom
  | [] => none
  | c :: rest =>
    match codeWidths.lookup c with
    | some width =>
      (readCode isLoose width rest).map fun (char, rest') =>
        (.char { char, isByte := width = 2 }, rest')
    | none => (escaped? c).map fun a => (a, rest)

/-! ### Sets of characters -/

/-- The names of sets. -/
def setNames : List String :=
  ["alnum", "alpha", "ascii", "blank", "cntrl", "digit", "graph", "lower", "print", "punct",
    "space", "upper", "word", "xdigit"]

/-- Reads the name of a set between colons and a closing bracket, behind the opening bracket. -/
def readNamed : Reader CharSet
  | ':' :: text =>
    let (negated, text') := match text with
      | '^' :: rest => (true, rest)
      | _ => (false, text)
    match text'.span (· ≠ ':') with
    | (name, ':' :: ']' :: rest) =>
      if setNames.contains (String.ofList name) then
        some (.named (String.ofList name) negated, rest)
      else none
    | _ => none
  | _ => none

/-- Reads a character of a set, or what stands behind a backslash. -/
def readMember (isLoose : Bool) : Reader Atom
  | [] => none
  | '\\' :: rest => readEscape isLoose rest
  | c :: rest => some (.char { char := c }, rest)

/-- The set of an atom; places have none. -/
def Atom.set? : Atom → Option CharSet
  | .char l => some (.char l)
  | .family f negated => some (.family f negated)
  | .any | .place _ => none

/-- The characters from one to another, in the order of their codes. -/
def range? : Atom → Atom → Option CharSet
  | .char first, .char last => if first.char ≤ last.char then some (.range first last) else none
  | _, _ => none

/-- The first character of a text; in a loose pattern, the first that is no blank, behind at most
one hash sign. -/
def ahead? (isLoose : Bool) (text : List Char) : Option Char :=
  if isLoose then
    match text.dropWhile isBlank with
    | '#' :: rest => (rest.dropWhile isBlank).head?
    | rest => rest.head?
  else text.head?

/-- Whether a dash, of which the rest of the text is given, stands for itself or starts an
operation, so that it makes no range. -/
def isLoneDash (isLoose : Bool) (rest : List Char) : Bool :=
  ahead? isLoose rest = some ']' || ahead? isLoose rest = some '-'

/-- Reads a character, a family or a range. -/
def readItem (isLoose : Bool) : Reader CharSet := fun text =>
  match readMember isLoose text with
  | none => none
  | some (a, rest) =>
    match skip isLoose rest with
    | '-' :: rest' =>
      if isLoneDash isLoose rest' then a.set?.map fun set => (set, '-' :: rest')
      else
        match readMember isLoose (skip isLoose rest') with
        | none => none
        | some (b, rest'') => (range? a b).map fun set => (set, rest'')
    | rest' => a.set?.map fun set => (set, rest')

/-- A set of which a part has been read. -/
structure SetProgress where
  /-- The left side of an operation, and the operation. -/
  left : Option (CharSet × SetOperation) := none
  /-- The sets behind it, the last one first. -/
  items : List CharSet := []

namespace SetProgress

/-- The set that has been read. -/
def set (s : SetProgress) : CharSet :=
  let right := CharSet.ofList s.items.reverse
  match s.left with
  | none => right
  | some (left, op) => .combined op left right

/-- What has been read, and one more set. -/
def add (s : SetProgress) (item : CharSet) : SetProgress := { s with items := item :: s.items }

/-- What has been read as the left side of an operation. -/
def combine (s : SetProgress) (op : SetOperation) : SetProgress := { left := some (s.set, op) }

end SetProgress

/-- Reads a set that stands in the brackets of another one, behind its opening bracket. -/
def readInner (inner : Reader (CharSet × Bool)) : Reader CharSet := fun text =>
  match readNamed text with
  | some named => some named
  | none => (inner text).map fun ((set, negated), rest) => (.bracketed set negated, rest)

/-- Reads an operation. -/
def readOperation : Reader SetOperation
  | '&' :: '&' :: rest => some (.intersection, rest)
  | '-' :: '-' :: rest => some (.difference, rest)
  | '~' :: '~' :: rest => some (.symmetricDifference, rest)
  | _ => none

/-- Reads the rest of a set, with its closing bracket. -/
def readSetRest (isLoose : Bool) (inner : Reader (CharSet × Bool)) :
    Nat → SetProgress → Reader CharSet
  | 0, _, _ => none
  | n + 1, s, text =>
    match skip isLoose text with
    | [] => none
    | c :: rest =>
      if c = ']' then some (s.set, rest)
      else
        match readOperation (c :: rest) with
        | some (op, rest') => readSetRest isLoose inner n (s.combine op) rest'
        | none =>
          match if c = '[' then readInner inner rest else readItem isLoose (c :: rest) with
          | none => none
          | some (item, rest') => readSetRest isLoose inner n (s.add item) rest'

/-- Reads a dash that stands for itself. -/
def readDash (isLoose : Bool) : Reader CharSet := fun text =>
  match skip isLoose text with
  | '-' :: rest => some (.char { char := '-' }, rest)
  | _ => none

/-- Reads what stands for itself at the front of a set: dashes or, if there are none, a closing
bracket. -/
def readFront (isLoose : Bool) : Reader (List CharSet) := fun text =>
  match Reader.many (readDash isLoose) text with
  | some ([], _) =>
    match skip isLoose text with
    | ']' :: rest => some ([.char { char := ']' }], rest)
    | rest => some ([], rest)
  | dashes => dashes

/-- Reads a set behind its opening bracket, and whether its complement is meant. Brackets are
nested at most as deep as the number says. -/
def readSet (isLoose : Bool) : Nat → Reader (CharSet × Bool)
  | 0, _ => none
  | depth + 1, text =>
    let (negated, text') := match skip isLoose text with
      | '^' :: rest => (true, rest)
      | rest => (false, rest)
    match readFront isLoose text' with
    | none => none
    | some (front, rest) =>
      (readSetRest isLoose (readSet isLoose depth) rest.length { items := front.reverse } rest).map
        fun (set, rest') => ((set, negated), rest')

/-! ### Groups -/

/-- The flags and their letters. -/
def flagLetters : List (Char × Flag) :=
  [('i', .foldsCase), ('m', .eachLine), ('s', .dotTakesAll), ('U', .swapsGreed),
    ('u', .isUnicode), ('R', .twoLineEnds), ('x', .isLoose)]

/-- The switch of some letters; those behind a minus sign switch flags off. No flag is switched
twice, and a minus sign has a letter behind it. -/
def switchOf? (letters : List Char) : Option Switch :=
  match (letters.splitOn '-').mapM fun part => part.mapM (flagLetters.lookup ·) with
  | some [on] => if on.Nodup then some { on } else none
  | some [on, off] => if (on ++ off).Nodup ∧ off ≠ [] then some { on, off } else none
  | _ => none

/-- Whether a character can stand in the name of a group behind the first. -/
def isNamePart (c : Char) : Bool :=
  c = '_' || c = '.' || c = '[' || c = ']' || Alphanumeric.isAlphanumeric c

/-- Whether a text is the name of a group. -/
def isName : List Char → Bool
  | [] => false
  | c :: rest => (c = '_' || Alphanumeric.isLetter c) && rest.all isNamePart

/-- Reads the name of a group, behind the mark that opens it. -/
def readName : Reader GroupKind := fun text =>
  match text.span (· ≠ '>') with
  | (name, '>' :: rest) => if isName name then some (.named (String.ofList name), rest) else none
  | _ => none

/-- Reads flags behind a question mark: those of a group up to a colon, those of the rest of the
group around them up to a closing parenthesis. -/
def readSwitch : Reader (GroupKind ⊕ Switch) := fun text =>
  let (letters, rest) := text.span fun c => c ≠ ':' && c ≠ ')'
  match switchOf? letters, rest with
  | some s, ':' :: rest' => some (.inl (.switched s), rest')
  | some s, ')' :: rest' => if letters = [] then none else some (.inr s, rest')
  | _, _ => none

/-- Reads what stands between an opening parenthesis and the content of the group, or a whole
switch. -/
def readOpening : Reader (GroupKind ⊕ Switch)
  | '?' :: 'P' :: '<' :: rest => (readName rest).map fun (kind, rest') => (.inl kind, rest')
  | '?' :: '<' :: rest => (readName rest).map fun (kind, rest') => (.inl kind, rest')
  | '?' :: rest => readSwitch rest
  | rest => some (.inl .numbered, rest)

/-! ### Patterns -/

/-- A pattern of which a part has been read. -/
structure Progress where
  /-- Whether the pattern is loose here. -/
  isLoose : Bool
  /-- The branches that are complete, the last one first. -/
  branches : List Pattern := []
  /-- The parts of the branch at hand, the last one first. -/
  parts : List Pattern := []

namespace Progress

/-- What has been read, and one more part. -/
def add (s : Progress) (p : Pattern) : Progress := { s with parts := p :: s.parts }

/-- The branch at hand. -/
def branch (s : Progress) : Pattern := ofParts s.parts.reverse

/-- What has been read, at the start of a new branch. -/
def nextBranch (s : Progress) : Progress :=
  { s with branches := s.branch :: s.branches, parts := [] }

/-- The pattern that has been read. -/
def pattern (s : Progress) : Pattern :=
  match s.branches with
  | [] => s.branch
  | branches => .choice (s.branch :: branches).reverse

/-- What has been read, with the last part repeated. A switch cannot be repeated. -/
def repeatLast (s : Progress) (r : Repetition) (isLazy : Bool) : Option Progress :=
  match s.parts with
  | [] | .switch _ :: _ => none
  | p :: parts => some { s with parts := .repeated r isLazy p :: parts }

/-- What has been read, and a switch for the rest. -/
def addSwitch (s : Progress) (change : Switch) : Progress :=
  { s.add (.switch change) with isLoose := change.apply .isLoose s.isLoose }

end Progress

/-- The signs for repetitions. -/
def repetitions : List (Char × Repetition) :=
  [('?', .optional), ('*', .anyNumber), ('+', .atLeastOnce)]

/-- Reads the question mark that makes a repetition lazy, if there is one. -/
def readLazy : List Char → Bool × List Char
  | '?' :: rest => (true, rest)
  | rest => (false, rest)

/-- Reads a group behind its opening parenthesis, or a switch. -/
def readGroup (body : Bool → Reader Pattern) (s : Progress) : Reader Progress := fun text =>
  match readOpening (skip s.isLoose text) with
  | none => none
  | some (.inr change, rest) => some (s.addSwitch change, rest)
  | some (.inl kind, rest) =>
    match body (kind.switch.apply .isLoose s.isLoose) rest with
    | some (p, ')' :: rest') => some (s.add (.group kind p), rest')
    | _ => none

/-- Reads a part that holds no other and starts with the given character. -/
def readAtom (isLoose : Bool) (c : Char) : Reader Atom := fun rest =>
  if c = '\\' then readEscape isLoose rest
  else if c = '.' then some (.any, rest)
  else if c = '^' then some (.place .lineStart, rest)
  else if c = '$' then some (.place .lineEnd, rest)
  else some (.char { char := c }, rest)

/-- Reads a sign and what belongs to it. An opening brace belongs to nothing. -/
def readPart (body : Bool → Reader Pattern) (s : Progress) (c : Char) : Reader Progress :=
  fun rest =>
  if c = '\x7b' then none
  else if c = '|' then some (s.nextBranch, rest)
  else if c = '(' then readGroup body s rest
  else if c = '[' then
    (readSet s.isLoose depthLimit rest).map fun ((set, negated), rest') =>
      (s.add (.oneOf set negated), rest')
  else
    match repetitions.lookup c with
    | some r =>
      let (isLazy, rest') := readLazy rest
      (s.repeatLast r isLazy).map fun s' => (s', rest')
    | none => (readAtom s.isLoose c rest).map fun (a, rest') => (s.add (.atom a), rest')

/-- Reads the rest of a pattern, up to a closing parenthesis or the end. -/
def readRest (body : Bool → Reader Pattern) : Nat → Progress → Reader Pattern
  | 0, s, text => some (s.pattern, text)
  | n + 1, s, text =>
    match skip s.isLoose text with
    | [] => some (s.pattern, [])
    | c :: rest =>
      if c = ')' then some (s.pattern, c :: rest)
      else
        match readPart body s c rest with
        | none => none
        | some (s', rest') => readRest body n s' rest'

/-- Reads a pattern in which groups are nested less deep than the number says. -/
def readBody : Nat → Bool → Reader Pattern
  | 0, _, _ => none
  | depth + 1, isLoose, text => readRest (readBody depth) text.length { isLoose } text

/-- The pattern that a text is. -/
def ofText? (text : List Char) : Option Pattern :=
  match readBody (depthLimit + 1) false text with
  | some (p, []) => if p.depth ≤ depthLimit ∧ p.names.Nodup then some p else none
  | _ => none

end IndexGateway.Pattern

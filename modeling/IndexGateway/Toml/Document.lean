import IndexGateway.Toml.Quoted
import IndexGateway.Toml.Scalar

/-!
# Reading documents

A document is a list of lines that set keys, grouped by headers. Reading it has two
parts: the lines are taken apart, and the tree is built from them. Blank lines and
comments do not count.

Keys are words of letters, digits, underscores and dashes, or texts in quotes; dots
join keys to a path. Lists may go over several lines and end with a comma; tables in
braces may do neither. Paths and nesting are limited.
-/

namespace IndexGateway.Toml

open Text

/-! ### Blanks, comments and line ends -/

/-- The rest of a text behind blanks within a line. -/
def skipSpaces (text : List Char) : List Char := text.dropWhile isSpace

/-- The rest of a text behind blanks, line ends and comments, where the first argument says whether
the front of the text is inside a comment. A comment that holds a control character is not skipped
to its end, so that whatever is read next fails. -/
def skipFillerFrom : Bool → List Char → List Char
  | _, [] => []
  | _, '\r' :: '\n' :: rest => skipFillerFrom false rest
  | inComment, c :: rest =>
    if c = '\n' then skipFillerFrom false rest
    else if inComment then
      if isControl c then c :: rest else skipFillerFrom true rest
    else if isSpace c then skipFillerFrom false rest
    else if c = '#' then skipFillerFrom true rest
    else c :: rest

/-- The rest of a text behind blanks, line ends and comments. -/
def skipFiller (text : List Char) : List Char := skipFillerFrom false text

/-- The rest of a text behind a comment, if one is at its front. -/
def skipComment : List Char → List Char
  | '#' :: rest => rest.dropWhile fun c => !isControl c
  | rest => rest

/-- Reads what may stand at the end of a line: blanks, a comment and the line end, unless the
document ends. -/
def readLineEnd : Reader Unit := fun text =>
  match skipComment (skipSpaces text) with
  | [] => some ((), [])
  | rest => (behindLineEnd? rest).map fun rest' => ((), rest')

/-! ### Keys -/

/-- Whether a character can be part of a key without quotes. -/
def isKeyChar (c : Char) : Bool := c.isAlphanum || c = '_' || c = '-'

/-- Reads a key between blanks. -/
def readKey : Reader String := fun text =>
  let key : Option (List Char × List Char) :=
    match skipSpaces text with
    | '"' :: rest => readBasic rest
    | '\'' :: rest => readLiteral rest
    | rest => Reader.run1 isKeyChar rest
  key.map fun (cs, rest) => (String.ofList cs, skipSpaces rest)

/-- Reads a dot and a key. -/
def readDotted : Reader String
  | '.' :: rest => readKey rest
  | _ => none

/-- The number of keys that a path, and the number of levels that nesting stays below. -/
def depthLimit : Nat := 80

/-- A path, by the keys that lead to a table and the key in that table. -/
structure Path where
  /-- The keys that lead to a table. -/
  outer : List String
  /-- The key in that table. -/
  last : String
  deriving DecidableEq, Repr

/-- The path of a key and further keys behind it. -/
def Path.ofKeys : String → List String → Path
  | first, [] => ⟨[], first⟩
  | first, second :: more => let p := ofKeys second more; ⟨first :: p.outer, p.last⟩

/-- Reads keys joined by dots. -/
def readPath : Reader Path := fun text => do
  let (first, rest) ← readKey text
  let (more, rest) ← Reader.many readDotted rest
  if more.length + 1 < depthLimit then return (Path.ofKeys first more, rest) else none

/-! ### Values -/

/-- An assignment of a node to a path. -/
structure Assignment where
  /-- The path. -/
  path : Path
  /-- The node. -/
  value : Toml

/-- Carries out assignments in a table. -/
def assignAll : List Assignment → Change
  | [], entries => some entries
  | a :: rest, entries =>
    match assign a.path.outer a.path.last a.value entries with
    | none => none
    | some entries' => assignAll rest entries'

/-- Reads a path, an equals sign and a value. -/
def readAssignment (value : Reader Toml) : Reader Assignment := fun text => do
  let (path, rest) ← readPath text
  let ((), rest) ← Reader.exactly ['='] rest
  let (value, rest) ← value (skipSpaces rest)
  return ({ path, value }, skipSpaces rest)

/-- Reads what a reader understands behind a comma. -/
def behindComma {α : Type} (item : Reader α) : Reader α
  | ',' :: rest => item rest
  | _ => none

/-- Reads items with commas between them; there may be none. -/
def readItems {α : Type} (item : Reader α) : Reader (List α) := fun text =>
  match item text with
  | none => some ([], text)
  | some (first, rest) =>
    match Reader.many (behindComma item) rest with
    | none => none
    | some (more, rest') => some (first :: more, rest')

/-- Reads an item of a list, with the filler around it. -/
def readListItem (value : Reader Toml) : Reader Toml := fun text =>
  match value (skipFiller text) with
  | none => none
  | some (v, rest) => some (v, skipFiller rest)

/-- The rest of a text behind the comma that may stand behind the last of some items. -/
def skipLastComma {α : Type} : List α → List Char → List Char
  | _ :: _, ',' :: rest => rest
  | _, rest => rest

/-- Reads the rest of a list behind its opening bracket. -/
def readList (value : Reader Toml) : Reader Toml := fun text =>
  match readItems (readListItem value) text with
  | none => none
  | some (items, rest) =>
    match skipFiller (skipLastComma items rest) with
    | ']' :: rest' => some (.array items, rest')
    | _ => none

/-- Reads the rest of a table in braces behind the opening brace. -/
def readBraces (value : Reader Toml) : Reader Toml := fun text =>
  match readItems (readAssignment value) text with
  | none => none
  | some (assignments, rest) =>
    match skipSpaces rest with
    | '}' :: rest' => (assignAll assignments []).map fun entries => (.table .braces entries, rest')
    | _ => none

/-- Reads a value in which lists and tables are nested at most as deep as the first argument says. -/
def readValue : Nat → Reader Toml
  | _, [] => none
  | depth, c :: rest =>
    if c = '"' || c = '\'' then
      (readQuoted (c :: rest)).map fun (cs, rest') => (.text (String.ofList cs), rest')
    else if c = '[' then
      match depth with
      | 0 => none
      | depth + 1 => readList (readValue depth) rest
    else if c = '{' then
      match depth with
      | 0 => none
      | depth + 1 => readBraces (readValue depth) rest
    else readWord (c :: rest)

/-! ### Documents -/

/-- The header of a table. -/
structure Header where
  /-- Whether the brackets are doubled. -/
  isDoubled : Bool
  /-- The path of the table. -/
  path : Path
  deriving DecidableEq, Repr

/-- A header with the assignments below it. -/
structure Section where
  /-- The header. -/
  header : Header
  /-- The assignments. -/
  assignments : List Assignment

/-- Reads a header with its line end. -/
def readHeader : Reader Header
  | '[' :: '[' :: rest => do
    let (path, rest) ← readPath rest
    let ((), rest) ← Reader.exactly [']', ']'] rest
    let ((), rest) ← readLineEnd rest
    return (⟨true, path⟩, rest)
  | '[' :: rest => do
    let (path, rest) ← readPath rest
    let ((), rest) ← Reader.exactly [']'] rest
    let ((), rest) ← readLineEnd rest
    return (⟨false, path⟩, rest)
  | _ => none

/-- Reads a line that sets a key, behind any filler. -/
def readLine : Reader Assignment := fun text => do
  let (a, rest) ← readAssignment (readValue (depthLimit - 1)) (skipFiller text)
  let ((), rest) ← readLineEnd rest
  return (a, rest)

/-- Reads a header and the lines below it, behind any filler. -/
def readSection : Reader Section := fun text => do
  let (header, rest) ← readHeader (skipFiller text)
  let (assignments, rest) ← Reader.many readLine rest
  return ({ header, assignments }, rest)

/-- Adds a section to a document. -/
def addSection (s : Section) : Change :=
  let fill := assignAll s.assignments
  let change := if s.header.isDoubled then openRow s.header.path.last fill
    else openTable s.header.path.last fill
  within change s.header.path.outer

/-- Adds sections to a document, one after the other. -/
def addSections : List Section → Change
  | [], entries => some entries
  | s :: rest, entries =>
    match addSection s entries with
    | none => none
    | some entries' => addSections rest entries'

/-- The text behind the byte order mark with which a document may begin. -/
def skipMark : List Char → List Char
  | '\ufeff' :: rest => rest
  | rest => rest

/-- The content of a document. -/
def ofChars? (text : List Char) : Option Entries := do
  let (assignments, rest) ← Reader.many readLine (skipMark text)
  let (sections, rest) ← Reader.many readSection rest
  if skipFiller rest = [] then
    addSections sections (← assignAll assignments [])
  else none

/-- The content of a document. -/
def parse? (text : String) : Option Entries := ofChars? text.toList

end IndexGateway.Toml

/-!
# Search patterns

What a search pattern consists of: characters, places, sets of characters, groups,
repetitions, and switches that change how the rest of a group is read.

## The model

A pattern is kept as it is written. Two measures of it matter to its readers: how
deep its parts are nested in each other, and the names of its groups. Parts that
hold no others, such as a character, add nothing to the depth.

There are no counted repetitions, since patterns stand between braces here and
cannot hold braces of their own.
-/

namespace IndexGateway

/-- What can be switched on and off in a pattern. -/
inductive Pattern.Flag where
  /-- The case of letters does not matter. -/
  | foldsCase
  /-- The start and the end of a line count as those of the text. -/
  | eachLine
  /-- A dot stands for a line break too. -/
  | dotTakesAll
  /-- Repetitions take as little as they can unless they say otherwise. -/
  | swapsGreed
  /-- Characters are those of Unicode, and not bytes. -/
  | isUnicode
  /-- A line may end with a carriage return as well. -/
  | twoLineEnds
  /-- Blanks and comments in the pattern are passed over. -/
  | isLoose
  deriving DecidableEq, Repr

/-- Flags to switch on and flags to switch off. -/
structure Pattern.Switch where
  /-- The flags to switch on. -/
  on : List Pattern.Flag := []
  /-- The flags to switch off. -/
  off : List Pattern.Flag := []
  deriving DecidableEq, Repr

/-- The state of a flag behind a switch. -/
def Pattern.Switch.apply (s : Pattern.Switch) (flag : Pattern.Flag) (before : Bool) : Bool :=
  s.on.contains flag || (before && !s.off.contains flag)

/-- A character, and whether it is written as a backslash, an `x` and two digits, which is a byte
where characters are bytes. -/
structure Pattern.Literal where
  /-- The character. -/
  char : Char
  /-- Whether it can be a byte. -/
  isByte : Bool := false
  deriving DecidableEq, Repr

/-- A place in a text. -/
inductive Pattern.Place where
  /-- The start of a line. -/
  | lineStart
  /-- The end of a line. -/
  | lineEnd
  /-- The start of the text. -/
  | textStart
  /-- The end of the text. -/
  | textEnd
  /-- The start or the end of a word. -/
  | wordEdge
  /-- Any place but the start and the end of a word. -/
  | noWordEdge
  /-- The start of a word. -/
  | wordStart
  /-- The end of a word. -/
  | wordEnd
  deriving DecidableEq, Repr

/-- Whether it takes the notion of a word to find a place. -/
def Pattern.Place.isAtWord : Pattern.Place → Bool
  | .lineStart | .lineEnd | .textStart | .textEnd => false
  | .wordEdge | .noWordEdge | .wordStart | .wordEnd => true

/-- A family of characters that has a short form. -/
inductive Pattern.Family where
  /-- Digits. -/
  | digits
  /-- Blanks. -/
  | blanks
  /-- Letters, digits and what else is part of a word. -/
  | wordParts
  deriving DecidableEq, Repr

/-- A part of a pattern that holds no other. -/
inductive Pattern.Atom where
  /-- A character. -/
  | char (l : Pattern.Literal)
  /-- Any character. -/
  | any
  /-- A place. -/
  | place (p : Pattern.Place)
  /-- The characters of a family, or those outside of it. -/
  | family (f : Pattern.Family) (negated : Bool)
  deriving DecidableEq, Repr

/-- How two sets make a third. -/
inductive Pattern.SetOperation where
  /-- What is in both. -/
  | intersection
  /-- What is in the first only. -/
  | difference
  /-- What is in one only. -/
  | symmetricDifference
  deriving DecidableEq, Repr

/-- A set of characters. -/
inductive Pattern.CharSet where
  /-- No characters. -/
  | empty
  /-- One character. -/
  | char (l : Pattern.Literal)
  /-- The characters from one to another. -/
  | range (first last : Pattern.Literal)
  /-- A family, or all but that. -/
  | family (f : Pattern.Family) (negated : Bool)
  /-- A set with a name, or all but that. -/
  | named (name : String) (negated : Bool)
  /-- A set in brackets, or all but that. -/
  | bracketed (set : Pattern.CharSet) (negated : Bool)
  /-- What is in one of several sets. -/
  | union (sets : List Pattern.CharSet)
  /-- What two sets make. -/
  | combined (op : Pattern.SetOperation) (left right : Pattern.CharSet)

/-- How often a part is repeated. -/
inductive Pattern.Repetition where
  /-- Once or not at all. -/
  | optional
  /-- As often as one likes. -/
  | anyNumber
  /-- At least once. -/
  | atLeastOnce
  deriving DecidableEq, Repr

/-- What the brackets around a group are for. -/
inductive Pattern.GroupKind where
  /-- The group is remembered by its number. -/
  | numbered
  /-- The group is remembered by its name. -/
  | named (name : String)
  /-- The group is not remembered; flags are switched inside it. -/
  | switched (s : Pattern.Switch)
  deriving DecidableEq, Repr

/-- The flags that are switched inside a group. -/
def Pattern.GroupKind.switch : Pattern.GroupKind → Pattern.Switch
  | .switched s => s
  | .numbered | .named _ => {}

/-- A search pattern. -/
inductive Pattern where
  /-- Nothing. -/
  | empty
  /-- A part that holds no other. -/
  | atom (a : Pattern.Atom)
  /-- A character of a set, or one outside of it. -/
  | oneOf (set : Pattern.CharSet) (negated : Bool)
  /-- Flags that are switched for the rest of the group. -/
  | switch (s : Pattern.Switch)
  /-- A part that is repeated, as often as it can or, if it is lazy, as seldom. -/
  | repeated (r : Pattern.Repetition) (isLazy : Bool) (p : Pattern)
  /-- A group. -/
  | group (kind : Pattern.GroupKind) (p : Pattern)
  /-- Several parts, one behind the other. -/
  | sequence (parts : List Pattern)
  /-- Several parts, of which one is needed. -/
  | choice (branches : List Pattern)

namespace Pattern

namespace CharSet

/-- The union of sets; a single one is taken as it is. -/
def ofList : List CharSet → CharSet
  | [] => .empty
  | [set] => set
  | sets => .union sets

mutual

/-- How deep brackets, unions and operations of a set are nested. -/
def depth : CharSet → Nat
  | .bracketed set _ => depth set + 1
  | .union sets => depthOfAll sets + 1
  | .combined _ left right => max (depth left) (depth right) + 1
  | .empty | .char _ | .range _ _ | .family _ _ | .named _ _ => 0

/-- The depth of the deepest of some sets. -/
def depthOfAll : List CharSet → Nat
  | [] => 0
  | set :: rest => max (depth set) (depthOfAll rest)

end

end CharSet

/-- Parts one behind the other; a single one is taken as it is. -/
def ofParts : List Pattern → Pattern
  | [] => .empty
  | [p] => p
  | parts => .sequence parts

mutual

/-- How deep the parts of a pattern are nested. -/
def depth : Pattern → Nat
  | .oneOf set _ => set.depth + 1
  | .repeated _ _ p => depth p + 1
  | .group _ p => depth p + 1
  | .sequence parts => depthOfAll parts + 1
  | .choice branches => depthOfAll branches + 1
  | .empty | .atom _ | .switch _ => 0

/-- The depth of the deepest of some patterns. -/
def depthOfAll : List Pattern → Nat
  | [] => 0
  | p :: rest => max (depth p) (depthOfAll rest)

end

mutual

/-- The names of the groups of a pattern. -/
def names : Pattern → List String
  | .group (.named name) p => name :: names p
  | .group .numbered p | .group (.switched _) p | .repeated _ _ p => names p
  | .sequence parts => namesOfAll parts
  | .choice branches => namesOfAll branches
  | .empty | .atom _ | .oneOf _ _ | .switch _ => []

/-- The names of the groups of some patterns. -/
def namesOfAll : List Pattern → List String
  | [] => []
  | p :: rest => names p ++ namesOfAll rest

end

end Pattern

end IndexGateway

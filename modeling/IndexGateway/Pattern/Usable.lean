import IndexGateway.Pattern.Basic

/-!
# Patterns that can be used

Log filters search without knowing the properties of characters: which of them are
letters, digits or blanks, and which belong together in upper and lower case. A
pattern that needs such knowledge is refused.

Where characters are bytes, the ASCII range is known well enough, but a search must
never stop inside a character, so nothing may stand for a byte outside of that range.

## The model

Flags change while a pattern is read from left to right, and return to what they were
at the end of a group. So the check goes through a pattern with the state of the two
flags that matter, and hands that state on to what follows.
-/

namespace IndexGateway.Pattern

/-- The state of the flags that matter. -/
structure Mode where
  /-- Whether characters are those of Unicode, and not bytes. -/
  isUnicode : Bool := true
  /-- Whether the case of letters does not matter. -/
  foldsCase : Bool := false
  deriving DecidableEq, Repr

/-- The state behind a switch. -/
def Mode.switched (m : Mode) (s : Switch) : Mode where
  isUnicode := s.apply .isUnicode m.isUnicode
  foldsCase := s.apply .foldsCase m.foldsCase

/-- Whether a character is in the ASCII range. -/
def Literal.isAscii (l : Literal) : Bool := l.char.toNat < 0x80

/-- Whether a character can be searched for. A code of two digits that is a byte must be in the
ASCII range. -/
def Literal.isUsable (m : Mode) (l : Literal) : Bool :=
  if m.isUnicode then !m.foldsCase else l.isAscii || !l.isByte

/-- Whether a part that holds no other can be searched for. -/
def Atom.isUsable (m : Mode) : Atom → Bool
  | .char l => l.isUsable m
  | .any => m.isUnicode
  | .place p => !(m.isUnicode && p.isAtWord)
  | .family _ negated => !m.isUnicode && !negated

namespace CharSet

mutual

/-- Whether a set can be found out, the members being Unicode characters with their case. -/
def isKnown : CharSet → Bool
  | .family _ _ => false
  | .bracketed set _ => isKnown set
  | .union sets => areKnown sets
  | .combined _ left right => isKnown left && isKnown right
  | .empty | .char _ | .range _ _ | .named _ _ => true

/-- Whether each of some sets can be found out. -/
def areKnown : List CharSet → Bool
  | [] => true
  | set :: rest => isKnown set && areKnown rest

end

mutual

/-- Whether no members are written in a set, so that their case is not asked for. Such a set holds no
characters or all of them, as its brackets and complements have it. -/
def isVoid : CharSet → Bool
  | .bracketed set _ => isVoid set
  | .union sets => areVoid sets
  | .combined _ left right => isVoid left && isVoid right
  | .empty => true
  | .char _ | .range _ _ | .family _ _ | .named _ _ => false

/-- Whether no members are written in some sets. -/
def areVoid : List CharSet → Bool
  | [] => true
  | set :: rest => isVoid set && areVoid rest

end

mutual

/-- Whether a set is one of bytes in the ASCII range. -/
def isAscii : CharSet → Bool
  | .char l => l.isAscii
  | .range first last => first.isAscii && last.isAscii
  | .family _ negated | .named _ negated => !negated
  | .bracketed set negated => isAscii set && !negated
  | .union sets => areAscii sets
  | .combined _ left right => isAscii left && isAscii right
  | .empty => true

/-- Whether each of some sets is one of bytes in the ASCII range. -/
def areAscii : List CharSet → Bool
  | [] => true
  | set :: rest => isAscii set && areAscii rest

end

/-- Whether a set, or its complement, can be searched for. -/
def isUsable (m : Mode) (set : CharSet) (negated : Bool) : Bool :=
  if !m.isUnicode then set.isAscii && !negated
  else if m.foldsCase then set.isVoid
  else set.isKnown

end CharSet

mutual

/-- The state of the flags behind a pattern, if it can be used. -/
def modeBehind : Mode → Pattern → Option Mode
  | m, .empty => some m
  | m, .atom a => if a.isUsable m then some m else none
  | m, .oneOf set negated => if set.isUsable m negated then some m else none
  | m, .switch s => some (m.switched s)
  | m, .repeated _ _ p => modeBehind m p
  | m, .group kind p => (modeBehind (m.switched kind.switch) p).map fun _ => m
  | m, .sequence parts => modeBehindAll m parts
  | m, .choice branches => modeBehindAll m branches

/-- The state of the flags behind some patterns, if they can be used. -/
def modeBehindAll : Mode → List Pattern → Option Mode
  | m, [] => some m
  | m, p :: rest =>
    match modeBehind m p with
    | none => none
    | some m' => modeBehindAll m' rest

end

/-- Whether a pattern can be used. -/
def isUsable (p : Pattern) : Bool := (modeBehind {} p).isSome

end IndexGateway.Pattern

/-!
# Readers

A reader takes what it understands from the front of a text and hands back the
value together with the rest of the text; it fails when the front is something
else. Every text that the gateway takes apart (documents, settings, instants,
patterns) is read by functions of this shape.

## The model

Texts are lists of characters. A reader never looks at what lies before its
input, so readers compose by passing the rest along. Repetition is bounded by a
count that the caller takes from the length of the text: an item that consumes
at least one character cannot be read more often than that, so the bound never
shows.
-/

namespace IndexGateway.Text

/-- Takes a value from the front of a text, and returns it with the rest. -/
abbrev Reader (α : Type) := List Char → Option (α × List Char)

namespace Reader

variable {α : Type}

/-- Reads items until one fails, at most `n` of them. -/
def upTo (item : Reader α) : Nat → Reader (List α)
  | 0, text => some ([], text)
  | n + 1, text =>
    match item text with
    | none => some ([], text)
    | some (a, rest) =>
      match upTo item n rest with
      | none => none
      | some (more, rest') => some (a :: more, rest')

/-- Reads items until one fails. -/
def many (item : Reader α) : Reader (List α) := fun text => upTo item text.length text

/-- Reads the given text. -/
def exactly : List Char → Reader Unit
  | [], text => some ((), text)
  | _ :: _, [] => none
  | c :: cs, d :: rest => if c = d then exactly cs rest else none

/-- Reads at least one character of a class, and all that stand at the front. -/
def run1 (isMember : Char → Bool) : Reader (List Char) := fun text =>
  match text.takeWhile isMember with
  | [] => none
  | cs => some (cs, text.dropWhile isMember)

end Reader

end IndexGateway.Text

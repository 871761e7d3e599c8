/-!
# Replacing a pattern in a text

The first occurrence of a pattern, or every occurrence, is replaced by another
text. Occurrences are found from the left and do not overlap.
-/

namespace IndexGateway.Text

/-- The rest of a text behind a pattern that stands at its front. -/
def behindFront? : List Char → List Char → Option (List Char)
  | [], text => some text
  | _ :: _, [] => none
  | p :: ps, c :: rest => if p = c then behindFront? ps rest else none

/-- The parts of a text before and behind the first occurrence of a pattern. -/
def cut? (pattern : List Char) : List Char → Option (List Char × List Char)
  | [] => if pattern = [] then some ([], []) else none
  | c :: rest =>
    match behindFront? pattern (c :: rest) with
    | some after => some ([], after)
    | none =>
      match cut? pattern rest with
      | some (before, after) => some (c :: before, after)
      | none => none

/-- Whether a pattern occurs in a text. -/
def occursIn (pattern text : List Char) : Bool := (cut? pattern text).isSome

/-- A text with the first occurrence of a pattern replaced. -/
def replaceFirst (pattern new text : List Char) : List Char :=
  match cut? pattern text with
  | some (before, after) => before ++ new ++ after
  | none => text

/-- A text with every occurrence of a pattern replaced, where the first argument counts characters
that belong to an occurrence already replaced. -/
def replaceFrom (pattern new : List Char) : Nat → List Char → List Char
  | _, [] => []
  | skipped + 1, _ :: rest => replaceFrom pattern new skipped rest
  | 0, c :: rest =>
    match behindFront? pattern (c :: rest) with
    | some _ => new ++ replaceFrom pattern new (pattern.length - 1) rest
    | none => c :: replaceFrom pattern new 0 rest

/-- A text with every occurrence of a pattern, which is not empty, replaced. -/
def replaceAll (pattern new text : List Char) : List Char := replaceFrom pattern new 0 text

end IndexGateway.Text

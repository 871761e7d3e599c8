import IndexGateway.Text.Lowercase

/-!
# Names of projects

A project may be asked for under many spellings. Two spellings name the same
project if they agree once letters are taken to lower case and every run of the
separators `-`, `_` and `.` is taken for a single `-`; `canonical` chooses that
form. Separators at the ends of a name are kept.
-/

namespace IndexGateway.ProjectName

/-- Whether a character separates the parts of a name. -/
def isSeparator (c : Char) : Bool := c = '-' || c = '_' || c = '.'

/-- The canonical form of what follows in a name; the first argument tells whether the character
before was a separator. -/
def canonicalFrom : Bool → List Char → List Char
  | _, [] => []
  | afterSeparator, c :: rest =>
    if isSeparator c then
      if afterSeparator then canonicalFrom true rest else '-' :: canonicalFrom true rest
    else Text.Lowercase.ofChar c ++ canonicalFrom false rest

/-- The canonical form of a name. -/
def canonicalChars (name : List Char) : List Char := canonicalFrom false name

/-- The canonical form of a name. -/
def canonical (name : String) : String := String.ofList (canonicalChars name.toList)

end IndexGateway.ProjectName

/-!
# Blank characters

The characters that count as blank when the ends of a text are trimmed: those with
the Unicode property `White_Space`.
-/

namespace IndexGateway.Text

/-- Whether a character is blank: it has the property `White_Space`. -/
def isBlank (c : Char) : Bool :=
  let n := c.toNat
  (9 ≤ n && n ≤ 13) || n = 0x20 || n = 0x85 || n = 0xA0 || n = 0x1680 ||
    (0x2000 ≤ n && n ≤ 0x200A) || n = 0x2028 || n = 0x2029 || n = 0x202F || n = 0x205F ||
    n = 0x3000

/-- Whether a text is empty or holds blank characters only. -/
def isAllBlank (s : String) : Bool := s.toList.all isBlank

/-- A text without the blank characters at its front. -/
def trimStart (text : List Char) : List Char := text.dropWhile isBlank

/-- A text without the blank characters at its end. -/
def trimEnd (text : List Char) : List Char := (text.reverse.dropWhile isBlank).reverse

/-- A text without the blank characters at both ends. -/
def trim (text : List Char) : List Char := trimEnd (trimStart text)

end IndexGateway.Text

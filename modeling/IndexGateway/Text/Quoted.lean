import IndexGateway.Text.Numeral
import IndexGateway.Text.Visible

/-!
# Quoted texts

Texts that come from outside are quoted where a message or a log entry shows them:
in double quotes, with the quote, the backslash and everything that is not visible
escaped. Lists of texts are shown in brackets and sets in braces.
-/

namespace IndexGateway.Text.Quoted

/-- The shown form of a character. -/
def escapeChar (c : Char) : List Char :=
  if c = '\x00' then ['\\', '0']
  else if c = '\t' then ['\\', 't']
  else if c = '\n' then ['\\', 'n']
  else if c = '\r' then ['\\', 'r']
  else if c = '"' then ['\\', '"']
  else if c = '\\' then ['\\', '\\']
  else if ' ' ≤ c ∧ c ≤ '~' then [c]
  else if Visible.isVisible c then [c]
  else '\\' :: 'u' :: '\x7b' :: Numeral.hexOfNat c.toNat ++ ['\x7d']

/-- A text in quotes. -/
def quote (s : String) : String :=
  String.ofList ('"' :: s.toList.flatMap escapeChar ++ ['"'])

/-- Texts in quotes, separated by commas. -/
def quoteAll (texts : List String) : String := ", ".intercalate (texts.map quote)

/-- A list of texts, in brackets. -/
def list (texts : List String) : String := "[" ++ quoteAll texts ++ "]"

/-- A set of texts, in braces. -/
def set (texts : List String) : String := "\x7b" ++ quoteAll texts ++ "\x7d"

end IndexGateway.Text.Quoted

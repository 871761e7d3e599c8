import IndexGateway.Pattern.Parser
import IndexGateway.Pattern.Usable

/-!
# Fields of log filters

A filter may ask for entries made in a span with a certain field, or for those in
which the field has a certain value. A value is a number or a search pattern; what
can be read as neither is refused. Names of fields are not looked at.
-/

namespace IndexGateway.LogFilter

/-- Whether a text is digits, with at most one point before, between or behind them. -/
def isDecimal (text : List Char) : Bool :=
  match text.splitOn '.' with
  | [whole] => !whole.isEmpty && whole.all Char.isDigit
  | [whole, fraction] => !(whole ++ fraction).isEmpty && (whole ++ fraction).all Char.isDigit
  | _ => false

/-- A text without the sign at its front. -/
def withoutSign : List Char → List Char
  | '+' :: rest => rest
  | '-' :: rest => rest
  | text => text

/-- What is counted as a number but has no digits. -/
def limits : List String := ["inf", "infinity", "nan"]

/-- Whether a text is a number. A sign may stand before it and, with a sign of its own, an exponent
behind its digits. -/
def isNumber (text : List Char) : Bool :=
  let number := withoutSign text
  match number.span fun c => c ≠ 'e' && c ≠ 'E' with
  | (mantissa, []) =>
    isDecimal mantissa || limits.contains (String.ofList (number.map Char.toLower))
  | (mantissa, _ :: power) =>
    let digits := withoutSign power
    isDecimal mantissa && !digits.isEmpty && digits.all Char.isDigit

/-- Whether a text is a pattern that can be used. -/
def isPattern (text : List Char) : Bool := (Pattern.ofText? text).any (·.isUsable)

/-- The value in the text of a field: what stands between its first equals sign and the second. -/
def valueOf? (field : List Char) : Option (List Char) :=
  match field.splitOn '=' with
  | _ :: value :: _ => some value
  | _ => none

/-- Whether the text of a field can be asked for. -/
def isField (text : List Char) : Bool :=
  match valueOf? text with
  | some value => isNumber value || isPattern value
  | none => true

end IndexGateway.LogFilter

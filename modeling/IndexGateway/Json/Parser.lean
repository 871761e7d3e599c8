import IndexGateway.Json.Basic
import IndexGateway.Json.Outline

/-!
# Reading JSON values

The value of a JSON text, if it has one. A number that is too large for a double,
half of a surrogate pair and nesting of 128 levels or more leave a text without a
value. A repeated key keeps its first place and takes its last value.
-/

namespace IndexGateway.Json

/-- The number of levels to which lists and objects may be nested. -/
def nestingLimit : Nat := 127

mutual

/-- The value of an outline whose nesting does not exceed the first argument. -/
def ofOutlineWithin? : Nat → Outline → Option Json
  | _, .null => some .null
  | _, .bool b => some (.bool b)
  | _, .num n? => n?.map .num
  | _, .str s? => s?.map .str
  | 0, .arr _ => none
  | depth + 1, .arr items => (itemsWithin? depth items).map .arr
  | 0, .obj _ => none
  | depth + 1, .obj entries => (fieldsWithin? depth entries []).map .obj

/-- The values of items. -/
def itemsWithin? : Nat → List Outline → Option (List Json)
  | _, [] => some []
  | depth, item :: rest =>
    match ofOutlineWithin? depth item with
    | none => none
    | some v => (itemsWithin? depth rest).map (v :: ·)

/-- The fields that entries add to those read before them. -/
def fieldsWithin? :
    Nat → List (Option String × Outline) → List (String × Json) → Option (List (String × Json))
  | _, [], fields => some fields
  | depth, (key?, item) :: rest, fields =>
    match key?, ofOutlineWithin? depth item with
    | some key, some v => fieldsWithin? depth rest (insertField key v fields)
    | _, _ => none

end

/-- The value of an outline. -/
def ofOutline? (outline : Outline) : Option Json := ofOutlineWithin? nestingLimit outline

/-- The value of a JSON text. -/
def parse? (text : String) : Option Json :=
  match Outline.ofChars? text.toList with
  | none => none
  | some outline => ofOutline? outline

end IndexGateway.Json

import IndexGateway.Json.Basic
import IndexGateway.Text.Numeral

/-!
# Types of parameters

A parameter type describes a set of JSON values. Checking a value against a type
does not stop at the first mismatch: it lists every value at any depth that does
not fit, with the path that leads to it. A union is the exception: a value that
fits none of its members counts as one mismatch of the whole union.

## The model

A path is a text whose segments are joined by dots: positions in lists, keys of
mappings, and `[key]` for the key itself. A segment is joined to an empty path
without a dot.
-/

namespace IndexGateway

/-- A set of JSON values. -/
inductive ParamType where
  /-- Every value. -/
  | any
  /-- The truth values. -/
  | bool
  /-- The whole numbers of the signed 64-bit range. -/
  | int
  /-- The texts. -/
  | str
  /-- The null value, and the values of another type. -/
  | optional (inner : ParamType)
  /-- The lists of values of another type. -/
  | list (inner : ParamType)
  /-- The objects with keys of one type and values of another. -/
  | mapping (key value : ParamType)
  /-- The values of any of some types. -/
  | union (members : List ParamType)
  deriving Repr

namespace ParamType

mutual

/-- The name of a type. -/
def text : ParamType → String
  | .any => "any"
  | .bool => "bool"
  | .int => "int"
  | .str => "str"
  | .optional inner => inner.text ++ " | None"
  | .list inner => "list[" ++ inner.text ++ "]"
  | .mapping key value => "mapping[" ++ key.text ++ ", " ++ value.text ++ "]"
  | .union [] => ""
  | .union (first :: more) => first.text ++ alternatives more

/-- The names of the members of a union behind the first. -/
def alternatives : List ParamType → String
  | [] => ""
  | t :: more => " | " ++ t.text ++ alternatives more

end

end ParamType

/-- What is wrong with an argument. -/
inductive Violation.Reason where
  /-- The value is no truth value. -/
  | notBool
  /-- The value is no whole number of the signed 64-bit range. -/
  | notInt
  /-- The value is no text. -/
  | notStr
  /-- The value is no list. -/
  | notList
  /-- The value is no object. -/
  | notMapping
  /-- The value fits no member of a union, whose name is given. -/
  | noMember (union : String)
  /-- There are fewer parameters than positional arguments. -/
  | unexpectedPositional
  /-- There is no parameter of this name. -/
  | unexpectedKeyword
  /-- A parameter without a default got no argument. -/
  | missing
  deriving DecidableEq, Repr

/-- The text for a reason. -/
def Violation.Reason.message : Violation.Reason → String
  | .notBool => "input should be a valid boolean"
  | .notInt => "input should be a valid integer"
  | .notStr => "input should be a valid string"
  | .notList => "input should be a valid list"
  | .notMapping => "input should be a valid dictionary"
  | .noMember union => "input should be " ++ union
  | .unexpectedPositional => "unexpected positional argument"
  | .unexpectedKeyword => "unexpected keyword argument"
  | .missing => "missing required argument"

/-- A problem with the arguments of a call, and where it is. -/
structure Violation where
  /-- The way from the parameter to the value that does not fit. -/
  path : String
  /-- What is wrong there. -/
  reason : Violation.Reason
  deriving DecidableEq, Repr

/-- The text for a violation. -/
def Violation.message (v : Violation) : String := v.path ++ ": " ++ v.reason.message

namespace ParamType

/-- A path one segment longer. -/
def extend (path segment : String) : String :=
  if path = "" then segment else path ++ "." ++ segment

mutual

/-- The violations of a type by a value that stands at a path, in the order of the value. -/
def check : ParamType → Json → String → List Violation
  | .any, _, _ => []
  | .bool, v, path => if v.bool?.isSome then [] else [⟨path, .notBool⟩]
  | .int, v, path => if v.int64?.isSome then [] else [⟨path, .notInt⟩]
  | .str, v, path => if v.text?.isSome then [] else [⟨path, .notStr⟩]
  | .optional inner, v, path =>
    match v with
    | .null => []
    | v => inner.check v path
  | .list inner, v, path =>
    match v with
    | .arr items => items.zipIdx.flatMap fun (item, i) =>
        inner.check item (extend path (String.ofList (Text.Numeral.ofNat i)))
    | _ => [⟨path, .notList⟩]
  | .mapping key value, v, path =>
    match v with
    | .obj fields => fields.flatMap fun (k, item) =>
        key.check (.str k) (extend (extend path k) "[key]") ++ value.check item (extend path k)
    | _ => [⟨path, .notMapping⟩]
  | .union members, v, path =>
    if acceptedByAny members v then [] else [⟨path, .noMember (text (.union members))⟩]

/-- Whether one of some types accepts a value. -/
def acceptedByAny : List ParamType → Json → Bool
  | [], _ => false
  | t :: more, v => (t.check v "").isEmpty || acceptedByAny more v

end

/-- Whether a type accepts a value. -/
def accepts (t : ParamType) (v : Json) : Bool := (t.check v "").isEmpty

end ParamType

end IndexGateway

import IndexGateway.Number.Basic

/-!
# JSON values

Arguments, results and stored responses are JSON values. The order of an
object's fields is part of the value, since answers and cache keys show it, so an
object is a list of fields. An object that was read or built field by field has
each key once: `insertField` gives a key that is there already its new value in
the old place.
-/

namespace IndexGateway

/-- A JSON value. -/
inductive Json where
  /-- The null value. -/
  | null
  /-- A truth value. -/
  | bool (b : Bool)
  /-- A number. -/
  | num (n : Number)
  /-- A text. -/
  | str (s : String)
  /-- A list of values. -/
  | arr (items : List Json)
  /-- A list of named values, in the order in which the names appeared first. -/
  | obj (fields : List (String × Json))
  deriving Inhabited, Repr

namespace Json

/-- The value of a key. -/
def field? (key : String) : List (String × Json) → Option Json
  | [] => none
  | (k, v) :: rest => if k = key then some v else field? key rest

/-- Gives a key a value, in the place of its old value or else behind the other fields. -/
def insertField (key : String) (value : Json) : List (String × Json) → List (String × Json)
  | [] => [(key, value)]
  | (k, v) :: rest => if k = key then (k, value) :: rest else (k, v) :: insertField key value rest

/-- The fields that come from inserting one after the other. -/
def collectFields (entries : List (String × Json)) : List (String × Json) :=
  entries.foldl (fun fields entry => insertField entry.1 entry.2 fields) []

/-- The whole number of a signed 64-bit word. -/
def ofInt64 (n : Int64) : Json := .num (.int (.ofInt64 n))

/-- The whole number of an unsigned 64-bit word. -/
def ofUInt64 (n : UInt64) : Json := .num (.int (.ofUInt64 n))

/-- A text that may be missing. -/
def ofText? : Option String → Json
  | none => .null
  | some s => .str s

/-- A list of texts. -/
def ofTexts (texts : List String) : Json := .arr (texts.map .str)

/-- The text, of a text. -/
def text? : Json → Option String
  | .str s => some s
  | _ => none

/-- The truth value, of a truth value. -/
def bool? : Json → Option Bool
  | .bool b => some b
  | _ => none

/-- The number, of a whole number in the signed 64-bit range. -/
def int64? : Json → Option Int64
  | .num (.int n) => n.toInt64?
  | _ => none

@[simp] theorem int64?_ofInt64 (n : Int64) : (ofInt64 n).int64? = some n := Integer.toInt64?_ofInt64 n

/-- The items, of a list. -/
def items? : Json → Option (List Json)
  | .arr items => some items
  | _ => none

/-- The fields, of an object. -/
def fields? : Json → Option (List (String × Json))
  | .obj fields => some fields
  | _ => none

/-- The texts, of a list of texts. -/
def texts? (v : Json) : Option (List String) :=
  match v.items? with
  | none => none
  | some items => items.mapM text?

end Json

end IndexGateway

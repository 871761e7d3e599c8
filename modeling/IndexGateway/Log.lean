import IndexGateway.Json.Basic

/-!
# Log entries

What the gateway reports about its own work. An entry has a level, a message and
named values; the modules that do the work say what they report. Entries are
plain values: whoever runs the gateway decides what becomes of them.
-/

namespace IndexGateway.Log

/-- How much an entry matters. -/
inductive Level where
  /-- A detail of the work. -/
  | trace
  /-- A step of the work. -/
  | debug
  /-- Something an operator wants to know. -/
  | info
  /-- Something that went wrong and was worked around. -/
  | warn
  deriving DecidableEq, Repr

/-- An entry of the log. -/
structure Entry where
  /-- How much the entry matters. -/
  level : Level
  /-- What happened. -/
  message : String
  /-- To whom or what it happened. -/
  fields : List (String × Json)

/-- The message and the named values of an entry, as one object. -/
def Entry.toJson (e : Entry) : Json := .obj (("message", .str e.message) :: e.fields)

/-- A count as the value of a field. -/
def count (n : Nat) : Json := .ofUInt64 n.toUInt64

end IndexGateway.Log

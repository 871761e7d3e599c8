import IndexGateway.Clock
import IndexGateway.Json.Basic
import IndexGateway.Json.Printer

/-!
# Requests and responses

A request asks an endpoint to run a method with positional and named arguments,
on behalf of a caller. A response is a value, together with the cache tag under
which it may be kept.
-/

namespace IndexGateway

/-- The arguments of a call. -/
structure Params where
  /-- The arguments that are given by their place. -/
  positional : List Json := []
  /-- The arguments that are given by name, each name once, in the order of the call. -/
  keyword : List (String × Json) := []
  deriving Inhabited

namespace Params

/-- Adds a named argument, or gives it a new value. -/
def withKeyword (p : Params) (name : String) (value : Json) : Params :=
  { p with keyword := Json.insertField name value p.keyword }

/-- The number of arguments. -/
def size (p : Params) : Nat := p.positional.length + p.keyword.length

/-- Whether there are no arguments. -/
def isEmpty (p : Params) : Bool := p.positional.isEmpty && p.keyword.isEmpty

/-- The arguments as one value. -/
def toJson (p : Params) : Json :=
  .obj [("positional", .arr p.positional), ("keyword", .obj p.keyword)]

/-- The positional arguments that a value holds; none if it is missing. -/
def positionalOf? : Option Json → Option (List Json)
  | none => some []
  | some v => v.items?

/-- The named arguments that a value holds; none if it is missing. -/
def keywordOf? : Option Json → Option (List (String × Json))
  | none => some []
  | some v => v.fields?

/-- The arguments that a value stands for: an object with the two kinds as fields, of which other
fields are passed over, or a list of the two kinds, of which the last may be missing. -/
def ofJson? : Json → Option Params
  | .obj fields => do
    let positional ← positionalOf? (Json.field? "positional" fields)
    let keyword ← keywordOf? (Json.field? "keyword" fields)
    return { positional, keyword }
  | .arr items =>
    match items with
    | [] => some {}
    | [p] => do return { positional := ← positionalOf? (some p) }
    | [p, k] => do
      return { positional := ← positionalOf? (some p), keyword := ← keywordOf? (some k) }
    | _ => none
  | _ => none

end Params

/-- What a handler gets to know about a call, besides its arguments. -/
structure Call where
  /-- Who calls. -/
  caller : String
  /-- Where the call arrived. -/
  endpoint : String
  /-- The method that is called. -/
  method : String
  /-- The arguments as they were given. -/
  params : Params

/-- A request as it arrives. -/
structure Request where
  /-- Where the request arrived. -/
  endpoint : String
  /-- The method that is called. -/
  method : String
  /-- The arguments. -/
  params : Params := {}
  /-- Who calls. -/
  caller : String := "127.0.0.1"
  /-- The verb of the transport. -/
  verb : String := "POST"

namespace Request

/-- Whether the verb is `POST`; the case of ASCII letters does not matter. -/
def isPost (r : Request) : Bool := r.verb.toList.map Char.toLower = ['p', 'o', 's', 't']

/-- The call that a request asks for. -/
def call (r : Request) : Call :=
  { caller := r.caller, endpoint := r.endpoint, method := r.method, params := r.params }

end Request

/-- The group of stored responses that become stale together, and how long they may be kept. -/
structure CacheTag where
  /-- The name of the group. -/
  name : String
  /-- How long a response may be kept. -/
  ttl : Duration
  deriving DecidableEq, Repr

/-- The result of a call. -/
structure Response where
  /-- The value. -/
  value : Json
  /-- The tag under which the value may be kept, if it may be kept. -/
  cache : Option CacheTag

end IndexGateway

import IndexGateway.CachePolicy
import IndexGateway.Log

/-!
# Methods

A method has a name, the endpoints at which it can be called, the parameters it
declares, perhaps a policy that lets its responses be kept, and a handler that
does its work. A handler gets to see a call only after the arguments were bound
to the parameters.
-/

namespace IndexGateway

/-- What a handler answers. -/
structure Reply where
  /-- A value, or the fault of a call that gets none. -/
  outcome : Except Fault Json
  /-- What the handler reports about its work. -/
  log : List Log.Entry := []

/-- The work of a method. -/
abbrev Handler := Call → Arguments → Reply

/-- A method that can be registered. -/
structure Method where
  /-- The name by which it is called. -/
  name : String
  /-- The endpoints at which it is called, in any order. -/
  aliases : List String := []
  /-- What it says about its arguments. -/
  schema : Schema := .empty
  /-- The permission to keep its responses, if there is one. -/
  cache : Option CachePolicy := none
  /-- Its work. -/
  handler : Handler

namespace Method

/-- The endpoints, in increasing order and each once. -/
def endpoints (m : Method) : List String := (m.aliases.mergeSort fun a b => a ≤ b).eraseReps

/-- Whether the method is called at an endpoint. -/
def isServedAt (m : Method) (endpoint : String) : Bool := m.aliases.contains endpoint

end Method

end IndexGateway

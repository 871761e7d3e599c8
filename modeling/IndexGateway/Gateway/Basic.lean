import IndexGateway.Gateway.Service
import IndexGateway.Text.Quoted

/-!
# The gateway

A gateway knows which methods are served at which endpoints. Methods are
registered one after the other; a method that has no endpoint, or whose name is
taken at one of its endpoints, is refused and changes nothing. A request then
finds its method by endpoint and name.

## The model

The registered methods themselves are the routing table: since no two of them
share a name at an endpoint, at most one matches a request.
-/

namespace IndexGateway

/-- Why a method is not registered. -/
inductive RegistrationError where
  /-- The method has no endpoint. -/
  | noEndpoint (method : String)
  /-- The name is taken at an endpoint. -/
  | taken (endpoint method : String)
  deriving DecidableEq, Repr

/-- The text for an error. -/
def RegistrationError.message : RegistrationError → String
  | .noEndpoint method => "method " ++ method ++ " has no endpoint aliases"
  | .taken endpoint method =>
    "method " ++ method ++ " is already registered on endpoint " ++ endpoint

/-- A gateway. -/
structure Gateway where
  /-- The registered methods, in the order of registration. -/
  services : List Service := []
  /-- The place of the store that methods get when they are registered. -/
  store : Option Nat := none

namespace Gateway

/-! ### Routes -/

/-- The service for a method at an endpoint. -/
def route? (g : Gateway) (endpoint method : String) : Option Service :=
  g.services.find? fun s => s.method.name = method && s.method.isServedAt endpoint

/-- The endpoints, in increasing order. -/
def endpoints (g : Gateway) : List String :=
  ((g.services.flatMap (·.method.aliases)).mergeSort fun a b => a ≤ b).eraseReps

/-- The names of the methods at an endpoint, in increasing order. -/
def methods (g : Gateway) (endpoint : String) : List String :=
  ((g.services.filter (·.method.isServedAt endpoint)).map (·.method.name)).mergeSort
    fun a b => a ≤ b

/-! ### Registration -/

/-- Why a method cannot be registered; of several endpoints at which its name is taken, the first
in order is named. -/
def objection? (g : Gateway) (m : Method) : Option RegistrationError :=
  if m.aliases.isEmpty then some (.noEndpoint m.name)
  else (m.endpoints.find? fun e => (g.route? e m.name).isSome).map (.taken · m.name)

/-- What is logged about a method that is registered. -/
def registeredEntry (m : Method) : Log.Entry :=
  ⟨.debug, "registered method",
    [("method", .str m.name), ("aliases", .str (Text.Quoted.set m.endpoints))]⟩

/-- The gateway with one more method. -/
def accept (g : Gateway) (m : Method) : Gateway :=
  { g with services := g.services ++ [{ number := g.services.length, method := m, store := g.store }] }

/-- Registers a method. -/
def register (g : Gateway) (m : Method) : Except RegistrationError (Gateway × List Log.Entry) :=
  match g.objection? m with
  | some e => .error e
  | none => .ok (g.accept m, [registeredEntry m])

/-- Registers methods up to the first that is refused. -/
def registerAll (g : Gateway) :
    List Method → Option RegistrationError × Gateway × List Log.Entry
  | [] => (none, g, [])
  | m :: rest =>
    match g.register m with
    | .error e => (some e, g, [])
    | .ok (g', log) =>
      let (e?, g'', log') := g'.registerAll rest
      (e?, g'', log ++ log')

/-- Gives the methods that are registered from now on the store at a place. -/
def withStore (g : Gateway) (place : Nat) : Gateway := { g with store := some place }

/-! ### Requests -/

/-- What is logged about a request with another verb than `POST`. -/
def verbEntry (r : Request) : Log.Entry :=
  ⟨.debug, "unsupported verb", [("verb", .str r.verb), ("endpoint", .str r.endpoint)]⟩

/-- What is logged about a request for which there is no method. -/
def unknownEntry (r : Request) : Log.Entry :=
  ⟨.debug, "no such method", [("endpoint", .str r.endpoint), ("method", .str r.method)]⟩

/-- Answers a request at a moment. -/
def dispatch (g : Gateway) (state : State) (now : Moment) (r : Request) : Answer × State :=
  if r.isPost then
    match g.route? r.endpoint r.method with
    | some service => service.serve state now r.call
    | none => (.refusal (.fault (.methodNotFound r.method)) [unknownEntry r], state)
  else (.refusal (.fault .application) [verbEntry r], state)

/-- Answers requests, each at its moment, one after the other. -/
def dispatchAll (g : Gateway) (state : State) :
    List (Moment × Request) → List Answer × State
  | [] => ([], state)
  | (now, r) :: rest =>
    let (answer, state') := g.dispatch state now r
    let (answers, state'') := g.dispatchAll state' rest
    (answer :: answers, state'')

end Gateway

end IndexGateway

import IndexGateway.Cache.Responses
import IndexGateway.Gateway.Method
import IndexGateway.Limiter.Admission
import IndexGateway.Text.Clean

/-!
# Serving one call

A registered method serves a call in stages. The call is counted, and its caller
has to be within the limits; its arguments are bound; a response that is kept is
used if there is one; otherwise the handler runs, its value is cleaned, and the
response is kept if that is allowed. The first stage that fails decides the fault,
and no later stage takes place. Whatever happens, the call is timed at the end.

A store that fails is reported and worked around: the call is answered as if
nothing had been kept.

## The model

The limiter and the stores are a state that is passed along. A service names its
store by its place in the list of stores, so that several services can share one.
-/

namespace IndexGateway

/-- What calls change. -/
structure State where
  /-- The limiter that all calls share. -/
  limiter : Limiter
  /-- The stores, in the order in which they were put to use. -/
  stores : List Store

/-- Where the answer to a call comes from. -/
inductive Origin where
  /-- The call was turned away before a handler or a store was asked. -/
  | gate
  /-- A response that was kept. -/
  | store
  /-- The handler. -/
  | handler
  deriving DecidableEq, Repr

/-- The answer to a call, with what is reported about it. -/
structure Answer where
  /-- The response, or how a call ends that gets none. -/
  result : Except Ending Response
  /-- Where it comes from. -/
  origin : Origin
  /-- What was counted and timed, in order. -/
  events : List Metrics.Event := []
  /-- What was logged, in order. -/
  log : List Log.Entry := []

namespace Answer

/-- The answer to a call that is turned away. -/
def refusal (ending : Ending) (log : List Log.Entry) : Answer :=
  { result := .error ending, origin := .gate, log }

/-- An answer in front of which something was logged. -/
def after (earlier : List Log.Entry) (a : Answer) : Answer := { a with log := earlier ++ a.log }

end Answer

/-- A method as it is registered. -/
structure Service where
  /-- The number of methods that were registered before. -/
  number : Nat
  /-- The method. -/
  method : Method
  /-- The place of the store for its responses, if it has one. -/
  store : Option Nat

namespace Service

/-- What is logged about arguments that do not fit. -/
def rejectionEntry (s : Service) (caller : String) (fault : Fault) : Log.Entry :=
  ⟨.debug, "rejected call arguments",
    [("method", .str s.method.name), ("caller", .str caller), ("fault", .str fault.message)]⟩

/-- What is logged about a store that failed. -/
def storeEntry (s : Service) (message : String) (e : StoreError) : Log.Entry :=
  ⟨.warn, message, [("method", .str s.method.name), ("err", .str e.message)]⟩

/-- What is logged about a look-up, if it failed. -/
def lookupLog (s : Service) : Except StoreError (Option Json) → List Log.Entry
  | .error e => [s.storeEntry "response cache lookup failed" e]
  | .ok _ => []

/-- What is logged about keeping a response, if that failed. -/
def keepLog (s : Service) : Except StoreError Bool → List Log.Entry
  | .error e => [s.storeEntry "response cache store failed" e]
  | .ok _ => []

/-- The answer of the handler, cleaned. -/
def compute (s : Service) (call : Call) (args : Arguments) (tag : Option CacheTag) : Answer :=
  let reply := s.method.handler call args
  { result := match reply.outcome with
      | .ok value => .ok { value := value.clean, cache := tag }
      | .error fault => .error fault
    origin := .handler
    log := reply.log }

/-- The answer from a store or else of the handler, with the store afterwards. -/
def answerThrough (s : Service) (store : Store) (now : Moment) (call : Call) (args : Arguments)
    (tag : CacheTag) : Answer × Store :=
  match store.get now s.method.name call.params with
  | (.ok (some value), store', log) =>
    ({ result := .ok { value, cache := some tag }, origin := .store, log }, store')
  | (missed, store', log) =>
    let computed := (s.compute call args (some tag)).after (log ++ s.lookupLog missed)
    match computed.result with
    | .error _ => (computed, store')
    | .ok response =>
      let (kept, store'') := store'.put now s.method.name call.params response
      ({ computed with log := computed.log ++ s.keepLog kept }, store'')

/-- The answer to a call whose arguments are bound, with the stores afterwards. -/
def answerBound (s : Service) (stores : List Store) (now : Moment) (call : Call)
    (args : Arguments) : Answer × List Store :=
  match s.method.cache with
  | none => (s.compute call args none, stores)
  | some policy =>
    let tag := policy.resolve args
    match s.store with
    | none => (s.compute call args (some tag), stores)
    | some place =>
      match stores[place]? with
      | none => (s.compute call args (some tag), stores)
      | some store =>
        let (answer, store') := s.answerThrough store now call args tag
        (answer, stores.set place store')

/-- The answer to a call whose caller is admitted, with the stores afterwards. -/
def answerAdmitted (s : Service) (stores : List Store) (now : Moment) (call : Call) :
    Answer × List Store :=
  match s.method.schema.bind call.params with
  | .error fault => (.refusal fault [s.rejectionEntry call.caller fault], stores)
  | .ok args => s.answerBound stores now call args

/-- The tags of a service's events. -/
def eventTags (s : Service) : List Metrics.Tag := [⟨Metrics.methodTagName, s.method.name⟩]

/-- Serves a call at a moment. -/
def serve (s : Service) (state : State) (now : Moment) (call : Call) : Answer × State :=
  let decision := Admission.judge state.limiter now call.caller
  let (answer, stores) :=
    match decision.refused with
    | some ending => (Answer.refusal ending [], state.stores)
    | none => s.answerAdmitted state.stores now call
  ({ answer.after decision.log with
      events := [.increment Metrics.callName s.eventTags, decision.event,
        .timing Metrics.timingName 0 s.eventTags] },
    { limiter := decision.limiter, stores })

end Service

end IndexGateway

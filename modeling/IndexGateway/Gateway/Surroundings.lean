import IndexGateway.Gateway.Basic

/-!
# A gateway in any surroundings

A gateway knows the parts around it by what they answer: a limiter, the stores, the
handlers of its methods. To one part, the sink for events, it only ever tells something.
Here the stages of a call are told over parts of any kind, one act after the other, each
in the world that the act before it left behind.

## The model

An act that fails ends what it belongs to, and what was done by then stays done. A
call is timed when it is left, whichever way it is left.

The limiter and the stores of a `State` are surroundings too (`Surroundings.own`); in
them and with a sink that keeps the events in order, a gateway does what
`Gateway.dispatchAll` says.
-/

namespace IndexGateway

/-- **The parts around a gateway**, a limiter of type `L` and the rest of type `R`: for each question
what is answered, and what becomes of the part that is asked. -/
structure Surroundings (L R : Type) where
  /-- Takes note of a call. -/
  hit : L → Moment → String → L
  /-- Whether a caller is within the limits. -/
  test : L → Moment → String → Bool × L
  /-- How long a caller has to wait, if that is known. -/
  resetsIn : L → Moment → String → Except Breakdown (Option Duration) × L
  /-- Looks up the response to a call in the store at a place. -/
  lookup : R → Nat → Moment → String → Params → Except StoreError (Option Json) × R
  /-- Stores the response to a call, if it may be kept, in the store at a place. -/
  keep : R → Nat → Moment → String → Params → Response → Except StoreError Bool × R
  /-- Lets a handler do its work. -/
  handle : R → Service → Call → Arguments → Except Fault Json × R

/-- What a gateway can change: the limiter, the sink for events, and the rest. -/
structure World (L R S : Type) where
  /-- The limiter. -/
  limiter : L
  /-- What stores and handlers change. -/
  rest : R
  /-- Where events go. -/
  sink : S

/-- Something that is done: it has a value or ends without one, and changes a state. -/
abbrev Act (σ α : Type) := ExceptT Ending (StateM σ) α

namespace Act

variable {L R S σ α : Type}

/-- Asks for something that is answered with a value or a fault. -/
def ask (question : σ → Except Fault α × σ) : Act σ α := fun state =>
  let (answer, state') := question state
  (answer.mapError .fault, state')

/-- Asks the limiter. -/
def limiter (question : L → α × L) : Act (World L R S) α := fun w =>
  let (answer, limiter) := question w.limiter
  (.ok answer, { w with limiter })

/-- Does something that limiter and sink have no part in. -/
def rest (x : Act R α) : Act (World L R S) α := fun w =>
  let (result, rest) := x.run w.rest
  (result, { w with rest })

/-- Emits an event. -/
def emit (emit : S → Metrics.Event → S) (e : Metrics.Event) : Act (World L R S) Unit := fun w =>
  (.ok (), { w with sink := emit w.sink e })

/-- Does something and times it at the end, whatever came of it. -/
def timed (emit : S → Metrics.Event → S) (tags : List Metrics.Tag) (x : Act (World L R S) α) :
    Act (World L R S) α := fun w =>
  let (result, w') := x.run w
  (result, { w' with sink := emit w'.sink (.timing Metrics.timingName 0 tags) })

end Act

namespace Surroundings

/-- The limiter and the stores of a `State`, and the handlers that the methods have. -/
def own : Surroundings Limiter (List Store) where
  hit := Limiter.hit
  test limiter now caller := (limiter.test now caller, limiter.refresh now caller)
  resetsIn limiter now caller := (limiter.resetsIn now caller, limiter.refresh now caller)
  lookup stores place now method params :=
    match stores[place]? with
    | none => (.ok none, stores)
    | some store =>
      let (found, store', _) := store.get now method params
      (found, stores.set place store')
  keep stores place now method params response :=
    match stores[place]? with
    | none => (.ok false, stores)
    | some store =>
      let (kept, store') := store.put now method params response
      (kept, stores.set place store')
  handle stores s call args := ((s.method.handler call args).outcome, stores)

variable {L R S : Type} (W : Surroundings L R) (emit : S → Metrics.Event → S)

/-! ### Stages -/

/-- Counts a call against its caller and lets only those pass that are within the limits. -/
def throttle (now : Moment) (caller : String) : Act (World L R S) Unit := do
  Act.limiter fun limiter => ((), W.hit limiter now caller)
  if ← Act.limiter fun limiter => W.test limiter now caller then
    Act.emit emit (.increment Metrics.admittedName [])
  else
    Act.emit emit (.increment Metrics.exceededName [])
    let wait ← Act.limiter fun limiter => W.resetsIn limiter now caller
    throw (Admission.ending wait)

/-- The answer of the handler, cleaned. -/
def compute (s : Service) (call : Call) (args : Arguments) (tag : Option CacheTag) :
    Act R Response := do
  let value ← Act.ask fun rest => W.handle rest s call args
  return { value := value.clean, cache := tag }

/-- The answer from a store or else of the handler, which is then kept there. -/
def answerThrough (s : Service) (place : Nat) (now : Moment) (call : Call) (args : Arguments)
    (tag : CacheTag) : Act R Response := do
  match ← modifyGet fun rest => W.lookup rest place now s.method.name call.params with
  | .ok (some value) => return { value, cache := some tag }
  | _ =>
    let response ← W.compute s call args (some tag)
    let _ ← modifyGet fun rest => W.keep rest place now s.method.name call.params response
    return response

/-- The answer to a call whose arguments are bound. -/
def answerBound (s : Service) (now : Moment) (call : Call) (args : Arguments) : Act R Response :=
  match s.method.cache, s.store with
  | some policy, some place => W.answerThrough s place now call args (policy.resolve args)
  | policy?, _ => W.compute s call args (policy?.map (·.resolve args))

/-- The answer to a call whose caller is admitted. -/
def answerAdmitted (s : Service) (now : Moment) (call : Call) : Act R Response := do
  let args ← Act.ask fun rest => (s.method.schema.bind call.params, rest)
  W.answerBound s now call args

/-- Serves a call at a moment. -/
def serve (s : Service) (now : Moment) (call : Call) : Act (World L R S) Response := do
  Act.emit emit (.increment Metrics.callName s.eventTags)
  Act.timed emit s.eventTags do
    W.throttle emit now call.caller
    Act.rest (W.answerAdmitted s now call)

/-! ### Requests -/

/-- Answers a request at a moment. -/
def dispatch (g : Gateway) (now : Moment) (r : Request) : Act (World L R S) Response :=
  if r.isPost then
    match g.route? r.endpoint r.method with
    | some s => W.serve emit s now r.call
    | none => throw (.fault (.methodNotFound r.method))
  else throw (.fault .application)

/-- Answers requests, each at its moment, one after the other. -/
def dispatchAll (g : Gateway) (w : World L R S) :
    List (Moment × Request) → List (Except Ending Response) × World L R S
  | [] => ([], w)
  | (now, r) :: run =>
    let (result, w') := (W.dispatch emit g now r).run w
    let (results, w'') := dispatchAll g w' run
    (result :: results, w'')

end Surroundings

end IndexGateway

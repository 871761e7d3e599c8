import IndexGateway.Legacy.Table
import IndexGateway.Settings.Basic

/-!
# The application

The application is a gateway that serves the table of methods as the settings say:
with or without a limiter, with or without room for responses, over the package
index of a file or an empty one. It is not put together if metrics are to be sent to
a host that the system cannot resolve.
-/

namespace IndexGateway

/-- What the files hold that can be read. -/
abbrev Files := String → Option String

/-- Which hosts the system can resolve. -/
abbrev Hosts := String → Bool

/-- A gateway at work. -/
structure Application where
  /-- The gateway. -/
  gateway : Gateway
  /-- What calls change. -/
  state : State

namespace Application

/-- Why an application cannot be put together. -/
inductive BuildError where
  /-- The settings cannot work. -/
  | settings (flaw : Settings.Flaw)
  /-- The host of the agent cannot be resolved. -/
  | agent
  /-- The file of the package index cannot be read, or holds no index. -/
  | index (path : String)
  /-- A method was refused. -/
  | methods (e : RegistrationError)
  deriving DecidableEq, Repr

/-- The text for an error. -/
def BuildError.message : BuildError → String
  | settings flaw => flaw.message
  | agent => "failed to create statsd sink"
  | index path => "failed to load package index from " ++ path
  | methods _ => "failed to register legacy methods"

/-! ### Putting it together -/

/-- The limiter that settings ask for. -/
def limiterOf (settings : Settings) (now : Moment) : Limiter :=
  if settings.quota.enabled then
    .window (.start settings.quota.requests.toNat settings.quota.window now)
  else .unlimited

/-- The stores that settings ask for: one, or none. -/
def storesOf (settings : Settings) : List Store :=
  if settings.room.enabled then [.cached (.empty settings.room.capacity.toNat)] else []

/-- The gateway before methods are registered. -/
def bareGateway (settings : Settings) : Gateway :=
  if settings.room.enabled then { store := some 0 } else {}

/-- The package index of a file, or an empty one if no file is named. -/
def loadIndex (files : Files) : Option String → Except BuildError Catalog
  | none => .ok Catalog.empty
  | some path =>
    match (files path).map Catalog.ofText with
    | some (.ok c) => .ok c
    | _ => .error (.index path)

/-- What is logged about the place where metrics are sent. -/
def agentLog (settings : Settings) : List Log.Entry :=
  if settings.agent.enabled then
    [⟨.debug, "Created statsd sink",
      [("host", .str settings.agent.host), ("port", Log.count settings.agent.port.toNat)]⟩]
  else []

/-- What is logged about the limiter. -/
def limiterLog (settings : Settings) : List Log.Entry :=
  if settings.quota.enabled then
    [⟨.debug, "Created sliding window rate limiter",
      [("requests", Log.count settings.quota.requests.toNat)]⟩]
  else []

/-- What is logged about the package index. -/
def indexEntry (c : Catalog) : Log.Entry :=
  ⟨.debug, "Loaded package index", [("projects", Log.count c.size)]⟩

/-- What is logged about the room for responses. -/
def roomLog (settings : Settings) : List Log.Entry :=
  if settings.room.enabled then
    [⟨.debug, "Created response cache", [("capacity", Log.count settings.room.capacity.toNat)]⟩]
  else []

/-- The application over an index. -/
def serving (settings : Settings) (c : Catalog) (now : Moment) :
    Except BuildError Application × List Log.Entry :=
  match Legacy.register (bareGateway settings) (.ok c) settings.links with
  | (some e, _, log) => (.error (.methods e), log)
  | (none, gateway, log) =>
    (.ok { gateway, state := { limiter := limiterOf settings now, stores := storesOf settings } },
      log)

/-- Whether there is a place for metrics, if settings ask for one. -/
def hasAgent (hosts : Hosts) (settings : Settings) : Bool :=
  !settings.agent.enabled || hosts settings.agent.host

/-- Puts an application together. Metrics are sent where the settings say, unless somebody else
takes them. -/
def build (files : Files) (hosts : Hosts) (settings : Settings) (index : Option String)
    (sendsMetrics : Bool) (now : Moment) : Except BuildError Application × List Log.Entry :=
  match settings.flaw? with
  | some flaw => (.error (.settings flaw), [])
  | none =>
    if sendsMetrics && !hasAgent hosts settings then (.error .agent, [])
    else
      let before := (if sendsMetrics then agentLog settings else []) ++ limiterLog settings
      match loadIndex files index with
      | .error e => (.error e, before)
      | .ok c =>
        let (app, log) := serving settings c now
        (app, before ++ indexEntry c :: roomLog settings ++ log)

/-! ### At work -/

/-- Answers a request. -/
def call (app : Application) (now : Moment) (r : Request) : Answer × Application :=
  let (answer, state) := app.gateway.dispatch app.state now r
  (answer, { app with state })

/-- The cache of responses, if there is one. -/
def cache? (app : Application) : Option Cache :=
  match app.state.stores with
  | .cached cache :: _ => some cache
  | _ => none

/-- Gives up all responses of a tag; returns their number, if there is a cache. -/
def purge (app : Application) (tag : String) : Option Nat × Application × List Log.Entry :=
  match app.state.stores with
  | .cached cache :: rest =>
    let (removed, cache', log) := Responses.purge cache tag
    (some removed, { app with state := { app.state with stores := .cached cache' :: rest } }, log)
  | _ => (none, app, [])

/-- The endpoints with the methods that are served there. -/
def routes (app : Application) : List (String × List String) :=
  app.gateway.endpoints.map fun e => (e, app.gateway.methods e)

/-- The endpoints and methods as lines. -/
def renderRoutes (app : Application) : String :=
  String.join (app.routes.map fun (e, methods) => e ++ ": " ++ ", ".intercalate methods ++ "\n")

end Application

end IndexGateway

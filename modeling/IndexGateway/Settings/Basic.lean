import IndexGateway.Clock
import IndexGateway.Legacy.Links
import IndexGateway.Log
import IndexGateway.Text.Blank
import IndexGateway.Text.Numeral

/-!
# Settings

What an operator can choose: how links are built, how many calls a caller may make,
where metrics are sent, how many responses are kept, and what is logged. Everything
has a default. Some choices can be written down but cannot work; the first of them
is reported.
-/

namespace IndexGateway

namespace Settings

/-- How many calls a caller may make. -/
structure Quota where
  /-- Whether callers are limited at all. -/
  enabled : Bool := true
  /-- The number of calls within a window. -/
  requests : UInt32 := 3600
  /-- The length of the window, in seconds. -/
  windowSeconds : UInt64 := 3600
  deriving DecidableEq, Repr

/-- Where metrics are sent. -/
structure Agent where
  /-- Whether metrics are sent at all. -/
  enabled : Bool := false
  /-- The host of the agent. -/
  host : String := "127.0.0.1"
  /-- The port of the agent. -/
  port : UInt16 := 8125
  /-- What stands before every name. -/
  stem : String := "warehouse"
  deriving DecidableEq, Repr

/-- How many responses are kept. -/
structure Room where
  /-- Whether responses are kept at all. -/
  enabled : Bool := true
  /-- The number of responses for which there is room. -/
  capacity : UInt64 := 10000
  deriving DecidableEq, Repr

/-- How log entries are written. -/
inductive LogFormat where
  /-- As lines for people. -/
  | text
  /-- As JSON objects. -/
  | json
  deriving DecidableEq, Repr

/-- What is logged. -/
structure Logging where
  /-- Which entries are written. -/
  level : String := "info"
  /-- How they are written. -/
  format : LogFormat := .text
  deriving DecidableEq, Repr

/-- The links that are built unless something else is chosen. -/
def defaultLinks : Legacy.Links :=
  ⟨"pypi.org", "https://files.pythonhosted.org/packages/" ++ String.ofList Legacy.Links.placeholder⟩

end Settings

/-- All settings. -/
structure Settings where
  /-- How links are built. -/
  links : Legacy.Links := Settings.defaultLinks
  /-- How many calls a caller may make. -/
  quota : Settings.Quota := {}
  /-- Where metrics are sent. -/
  agent : Settings.Agent := {}
  /-- How many responses are kept. -/
  room : Settings.Room := {}
  /-- What is logged. -/
  logging : Settings.Logging := {}
  deriving DecidableEq, Repr

namespace Settings

/-- Why settings cannot work. -/
inductive Flaw where
  /-- There is no domain. -/
  | blankDomain
  /-- The links to files have no place for the path. -/
  | noPlaceholder
  /-- No call would be admitted. -/
  | noRequests
  /-- The window has no length. -/
  | noWindow
  /-- There is no agent to send metrics to. -/
  | blankHost
  /-- There is no room for responses. -/
  | noRoom
  /-- It is not said what is logged. -/
  | blankLevel
  deriving DecidableEq, Repr

/-- The text for a flaw. -/
def Flaw.message : Flaw → String
  | blankDomain => "gateway.domain must not be empty"
  | noPlaceholder =>
    "gateway.files_url must contain a " ++ String.ofList Legacy.Links.placeholder ++ " placeholder"
  | noRequests => "rate_limit.requests must be greater than zero"
  | noWindow => "rate_limit.window_secs must be greater than zero"
  | blankHost => "metrics.host must not be empty when metrics are enabled"
  | noRoom => "cache.capacity must be greater than zero when the cache is enabled"
  | blankLevel => "logging.level must not be empty"

/-- Whether settings have a flaw. -/
def has (s : Settings) : Flaw → Bool
  | .blankDomain => Text.isAllBlank s.links.domain
  | .noPlaceholder => !Text.occursIn Legacy.Links.placeholder s.links.filesUrl.toList
  | .noRequests => s.quota.enabled && s.quota.requests = 0
  | .noWindow => s.quota.enabled && s.quota.windowSeconds = 0
  | .blankHost => s.agent.enabled && Text.isAllBlank s.agent.host
  | .noRoom => s.room.enabled && s.room.capacity = 0
  | .blankLevel => Text.isAllBlank s.logging.level

/-- The flaws, in the order in which they are looked for. -/
def flaws : List Flaw :=
  [.blankDomain, .noPlaceholder, .noRequests, .noWindow, .blankHost, .noRoom, .blankLevel]

/-- The first flaw of settings. -/
def flaw? (s : Settings) : Option Flaw := flaws.find? s.has

/-- The length of the window. -/
def Quota.window (q : Quota) : Duration := Duration.ofSeconds q.windowSeconds.toNat

/-- What is logged about settings when they are put to use. -/
def summary (s : Settings) : List Log.Entry :=
  let links : Log.Entry := ⟨.info, "gateway settings",
    [("domain", .str s.links.domain), ("files_url", .str s.links.filesUrl)]⟩
  let quota : Log.Entry :=
    if s.quota.enabled then
      ⟨.info, "rate limiting enabled", [("requests", Log.count s.quota.requests.toNat),
        ("window_secs", Log.count s.quota.windowSeconds.toNat)]⟩
    else ⟨.info, "rate limiting disabled", []⟩
  let agent : List Log.Entry :=
    if s.agent.enabled then
      [⟨.info, "statsd metrics enabled", [("host", .str s.agent.host),
        ("port", Log.count s.agent.port.toNat), ("prefix", .str s.agent.stem)]⟩]
    else []
  let room : List Log.Entry :=
    if s.room.enabled then
      [⟨.info, "response cache enabled", [("capacity", Log.count s.room.capacity.toNat)]⟩]
    else []
  [links, quota] ++ agent ++ room

end Settings

end IndexGateway

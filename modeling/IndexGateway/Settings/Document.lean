import IndexGateway.Settings.Basic
import IndexGateway.Toml.Document
import IndexGateway.Toml.Printer

/-!
# Settings as documents

Settings are read from a TOML document with a table for each group, in which
anything may be missing and what is not known is passed over. A group may also be
written as a list of its values in order; and a date in its place stands for a group
that sets nothing. Values are never turned from one kind into another.

Every setting is written, so that a document shows the defaults as well. Only a
number beyond the signed 64-bit range cannot be written.
-/

namespace IndexGateway.Settings

/-! ### Reading -/

/-- The nodes that a group gives for the settings of the given names. -/
def group (names : List String) : Option Toml → Option (List (Option Toml))
  | none => some (names.map fun _ => none)
  | some (.table _ entries) => some (names.map fun name => Toml.Entries.find? name entries)
  | some (.array items) =>
    some ((items.map some ++ names.map fun _ => none).take names.length)
  | some (.time _) => some (names.map fun _ => none)
  | some _ => none

/-- The value of a setting, which has a default. -/
def value {α : Type} (default : α) (read : Toml → Option α) : Option Toml → Option α
  | none => some default
  | some node => read node

/-- A text. -/
def text : Toml → Option String
  | .text s => some s
  | _ => none

/-- A truth value. -/
def bool : Toml → Option Bool
  | .bool b => some b
  | _ => none

/-- A whole number from zero up to a bound. -/
def below (bound : Nat) : Toml → Option Nat
  | .int n => if 0 ≤ n.toInt ∧ n.toInt < bound then some n.toInt.toNat else none
  | _ => none

/-- The format of a name. -/
def LogFormat.ofName? (name : String) : Option LogFormat :=
  if name = "text" then some .text
  else if name = "json" then some .json
  else none

/-- Whether a node is a list or a table without content. -/
def isVoid : Toml → Bool
  | .array [] => true
  | .table _ [] => true
  | _ => false

/-- A format: its name, or a table with one entry, its name as the key of nothing. -/
def format : Toml → Option LogFormat
  | .text s => LogFormat.ofName? s
  | .table _ [(name, node)] => if isVoid node then LogFormat.ofName? name else none
  | _ => none

/-- The names of the settings for links. -/
def linksNames : List String := ["domain", "files_url"]

/-- The names of the settings for the quota. -/
def quotaNames : List String := ["enabled", "requests", "window_secs"]

/-- The names of the settings for metrics. -/
def agentNames : List String := ["enabled", "host", "port", "prefix"]

/-- The names of the settings for responses. -/
def roomNames : List String := ["enabled", "capacity"]

/-- The names of the settings for the log. -/
def loggingNames : List String := ["level", "format"]

/-- Reads how links are built. -/
def readLinks (node : Option Toml) : Option Legacy.Links := do
  let [domain, filesUrl] ← group linksNames node | none
  return {
    domain := ← value defaultLinks.domain text domain
    filesUrl := ← value defaultLinks.filesUrl text filesUrl }

/-- Reads how many calls a caller may make. -/
def readQuota (node : Option Toml) : Option Quota := do
  let [enabled, requests, window] ← group quotaNames node | none
  return {
    enabled := ← value true bool enabled
    requests := ← value 3600 (fun v => (below UInt32.size v).map (·.toUInt32)) requests
    windowSeconds := ← value 3600 (fun v => (below UInt64.size v).map (·.toUInt64)) window }

/-- Reads where metrics are sent. -/
def readAgent (node : Option Toml) : Option Agent := do
  let [enabled, host, port, stem] ← group agentNames node | none
  return {
    enabled := ← value false bool enabled
    host := ← value "127.0.0.1" text host
    port := ← value 8125 (fun v => (below UInt16.size v).map (·.toUInt16)) port
    stem := ← value "warehouse" text stem }

/-- Reads how many responses are kept. -/
def readRoom (node : Option Toml) : Option Room := do
  let [enabled, capacity] ← group roomNames node | none
  return {
    enabled := ← value true bool enabled
    capacity := ← value 10000 (fun v => (below UInt64.size v).map (·.toUInt64)) capacity }

/-- Reads what is logged. -/
def readLogging (node : Option Toml) : Option Logging := do
  let [level, style] ← group loggingNames node | none
  return {
    level := ← value "info" text level
    format := ← value .text format style }

/-- The settings of a document. -/
def ofEntries? (entries : Toml.Entries) : Option Settings := do
  return {
    links := ← readLinks (entries.find? "gateway")
    quota := ← readQuota (entries.find? "rate_limit")
    agent := ← readAgent (entries.find? "metrics")
    room := ← readRoom (entries.find? "cache")
    logging := ← readLogging (entries.find? "logging") }

/-- The settings that a text stands for. -/
def ofText? (s : String) : Option Settings :=
  match Toml.parse? s with
  | none => none
  | some entries => ofEntries? entries

/-! ### Writing -/

/-- A number as a value, if it is in the signed range. -/
def count (n : Nat) : Option Toml.Leaf := (Toml.int64? n).map .int

/-- The name of a format. -/
def LogFormat.name : LogFormat → String
  | .text => "text"
  | .json => "json"

/-- The groups of settings with their values. -/
def sections (s : Settings) : Option (List (String × List (String × Toml.Leaf))) := do
  let requests ← count s.quota.requests.toNat
  let window ← count s.quota.windowSeconds.toNat
  let port ← count s.agent.port.toNat
  let capacity ← count s.room.capacity.toNat
  return [
    ("gateway", linksNames.zip [.text s.links.domain, .text s.links.filesUrl]),
    ("rate_limit", quotaNames.zip [.bool s.quota.enabled, requests, window]),
    ("metrics", agentNames.zip [.bool s.agent.enabled, .text s.agent.host, port, .text s.agent.stem]),
    ("cache", roomNames.zip [.bool s.room.enabled, capacity]),
    ("logging", loggingNames.zip [.text s.logging.level, .text s.logging.format.name])]

/-- The text of settings, if they can be written. -/
def toText? (s : Settings) : Option String :=
  s.sections.map fun sections => String.ofList (Toml.sectionsChars sections)

end IndexGateway.Settings

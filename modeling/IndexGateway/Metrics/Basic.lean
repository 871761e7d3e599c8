import IndexGateway.Clock

/-!
# Metrics

Each call is counted and timed. The gateway emits events and does not look at
what becomes of them: a recorder keeps them in order and can count them, other
sinks forward or drop them.
-/

namespace IndexGateway.Metrics

/-- A name and a value that say more about an event. -/
structure Tag where
  /-- The name. -/
  name : String
  /-- The value. -/
  value : String
  deriving DecidableEq, Repr

/-- The text of a tag. -/
def Tag.text (t : Tag) : String := t.name ++ ":" ++ t.value

/-- Something that is counted or timed. -/
inductive Event where
  /-- One more of something. -/
  | increment (name : String) (tags : List Tag)
  /-- The time that something took. -/
  | timing (name : String) (elapsed : Duration) (tags : List Tag)
  deriving DecidableEq, Repr

namespace Event

/-- The name of what is counted or timed. -/
def name : Event → String
  | .increment name _ => name
  | .timing name _ _ => name

/-- The tags. -/
def tags : Event → List Tag
  | .increment _ tags => tags
  | .timing _ _ tags => tags

/-- Whether the event counts something. -/
def isIncrement : Event → Bool
  | .increment _ _ => true
  | .timing _ _ _ => false

end Event

/-- Counts the calls of a method. -/
def callName : String := "xmlrpc.call"

/-- Times the calls of a method. -/
def timingName : String := "xmlrpc.timing"

/-- Counts the calls that were admitted. -/
def admittedName : String := "xmlrpc.ratelimiter.hit"

/-- Counts the calls that were turned away because of the caller's quota. -/
def exceededName : String := "xmlrpc.ratelimiter.exceeded"

/-- The tag that holds the name of the method. -/
def methodTagName : String := "rpc_method"

/-- How often something was counted. -/
def count (events : List Event) (name : String) : Nat :=
  events.countP fun e => e.isIncrement && e.name = name

/-- How often something was counted with a tag of the given text. -/
def countTagged (events : List Event) (name tag : String) : Nat :=
  events.countP fun e => e.isIncrement && e.name = name && e.tags.any (·.text = tag)

/-- How often something was timed. -/
def timings (events : List Event) (name : String) : Nat :=
  events.countP fun e => !e.isIncrement && e.name = name

end IndexGateway.Metrics

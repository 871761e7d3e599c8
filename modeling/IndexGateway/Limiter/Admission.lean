import IndexGateway.Fault
import IndexGateway.Limiter.Basic
import IndexGateway.Log
import IndexGateway.Metrics.Basic
import IndexGateway.Text.Numeral

/-!
# Admission

Every call counts against its caller, also one that is turned away. A caller who
is turned away is told, in whole seconds, when to try again. If the clock cannot tell
when that is, the call is broken off.
-/

namespace IndexGateway.Admission

/-- The text for a caller who is turned away. -/
def refusalText : String :=
  "The action could not be performed because there were too many requests by the client."

/-- The wait that is announced: whole seconds, rounded up, and at least one. -/
def announcedSeconds (wait : Duration) : Nat := max 1 wait.secondsRoundedUp

/-- The fault for a caller who is turned away, with the wait if it is known. -/
def refusal (wait : Option Duration) : Fault :=
  .wrapped .tooManyRequests <|
    match wait with
    | none => refusalText
    | some d =>
      refusalText ++ " Limit may reset in " ++
        String.ofList (Text.Numeral.ofNat (announcedSeconds d)) ++ " seconds."

/-- How a call ends that is turned away, by what the limiter says about the wait. -/
def ending : Except Breakdown (Option Duration) → Ending
  | .ok wait => .fault (refusal wait)
  | .error why => .breakdown why

/-- What is logged about a caller who is turned away. -/
def refusalEntry (caller : String) : Log.Entry :=
  ⟨.debug, "rate limit exceeded", [("caller", .str caller)]⟩

/-- What is logged about a call that is turned away; nothing if it is broken off. -/
def refusalLog (caller : String) : Except Breakdown (Option Duration) → List Log.Entry
  | .ok _ => [refusalEntry caller]
  | .error _ => []

/-- The outcome of asking for admission. -/
structure Decision where
  /-- The limiter afterwards. -/
  limiter : Limiter
  /-- How the call ends, if it is turned away. -/
  refused : Option Ending
  /-- The event to count. -/
  event : Metrics.Event
  /-- What is logged. -/
  log : List Log.Entry

/-- Counts a call against its caller and decides whether it may go on. -/
def judge (limiter : Limiter) (now : Moment) (caller : String) : Decision :=
  let counted := limiter.hit now caller
  let tested := counted.refresh now caller
  if counted.test now caller then
    { limiter := tested, refused := none, event := .increment Metrics.admittedName [], log := [] }
  else
    let wait := tested.resetsIn now caller
    { limiter := tested.refresh now caller
      refused := some (ending wait)
      event := .increment Metrics.exceededName []
      log := refusalLog caller wait }

end IndexGateway.Admission

import IndexGateway.Clock
import Std.Data.HashMap

/-!
# Sliding windows

A limiter counts the recent hits of each caller. A hit is recent while less than
the length of the window has passed since it. A caller is within its quota as long
as it has no more recent hits than the quota allows.

## The model

For each caller the limiter keeps the moments of its hits, oldest first. No more
than one hit beyond the quota is kept, since further ones cannot change an answer:
a caller who keeps hitting does not cost memory. Hits that are no longer recent are
dropped when their caller is looked at, and a caller without hits is forgotten. A
caller who stays away is forgotten by a sweep over the whole table, which the first
hit after each full window triggers.
-/

namespace IndexGateway

/-- The recent hits of callers, and what they are measured against. -/
structure SlidingWindow where
  /-- The number of recent hits that a caller may have. -/
  quota : Nat
  /-- How long a hit is recent. -/
  length : Duration
  /-- The moments of each caller's hits, oldest first. -/
  hitsOf : Std.HashMap String (List Moment)
  /-- When the whole table was last swept. -/
  sweptAt : Moment

namespace SlidingWindow

/-- A limiter without hits, started at a moment. -/
def start (quota : Nat) (length : Duration) (now : Moment) : SlidingWindow :=
  { quota, length, hitsOf := ∅, sweptAt := now }

/-- The quota of a limiter that was not configured. -/
def defaultQuota : Nat := 3600

/-- The window of a limiter that was not configured: an hour. -/
def defaultLength : Duration := Duration.ofSeconds (60 * 60)

/-- Whether a hit is recent. -/
def isRecent (w : SlidingWindow) (now hit : Moment) : Bool := now - hit < w.length

/-- The hits that are left once those at the front that are no longer recent are dropped. -/
def recent (w : SlidingWindow) (now : Moment) (hits : List Moment) : List Moment :=
  hits.dropWhile fun hit => !w.isRecent now hit

/-- The hits of a caller that are kept, recent or not. -/
def kept (w : SlidingWindow) (caller : String) : List Moment := (w.hitsOf[caller]?).getD []

/-- Drops the hits that are no longer recent, of all callers, and forgets callers without hits. -/
def sweep (w : SlidingWindow) (now : Moment) : SlidingWindow :=
  { w with
    hitsOf := w.hitsOf.filterMap fun _ hits =>
      match w.recent now hits with
      | [] => none
      | hits' => some hits'
    sweptAt := now }

/-- The last hits, one more than the quota allows. -/
def trim (w : SlidingWindow) (hits : List Moment) : List Moment :=
  hits.drop (hits.length - (w.quota + 1))

/-- Sweeps the table if a full window has passed since it was last swept. -/
def sweepIfDue (w : SlidingWindow) (now : Moment) : SlidingWindow :=
  if w.length ≤ now - w.sweptAt then w.sweep now else w

/-- Records a hit of a caller. -/
def hit (w : SlidingWindow) (now : Moment) (caller : String) : SlidingWindow :=
  let w := w.sweepIfDue now
  { w with hitsOf := w.hitsOf.insert caller (w.trim (w.recent now (w.kept caller) ++ [now])) }

/-- Drops the hits of a caller that are no longer recent; a caller without hits is forgotten. -/
def refresh (w : SlidingWindow) (now : Moment) (caller : String) : SlidingWindow :=
  match w.hitsOf[caller]? with
  | none => w
  | some hits =>
    match w.recent now hits with
    | [] => { w with hitsOf := w.hitsOf.erase caller }
    | hits' => { w with hitsOf := w.hitsOf.insert caller hits' }

/-- The number of recent hits of a caller, counted up to one more than the quota allows. -/
def hits (w : SlidingWindow) (now : Moment) (caller : String) : Nat :=
  (w.recent now (w.kept caller)).length

/-- Whether a caller is within its quota. -/
def test (w : SlidingWindow) (now : Moment) (caller : String) : Bool :=
  w.hits now caller ≤ w.quota

/-- How long it takes until the oldest of some hits is no longer recent. The question is broken off
if the clock cannot tell when that is. -/
def untilOver (length : Duration) (now : Moment) :
    List Moment → Except Breakdown (Option Duration)
  | [] => .ok none
  | oldest :: _ => (Moment.after oldest length).map fun moment => some (moment - now)

/-- How long it takes until the oldest hit that counts is no longer recent, if the caller has used
up its quota. -/
def resetsIn (w : SlidingWindow) (now : Moment) (caller : String) :
    Except Breakdown (Option Duration) :=
  let hits := w.recent now (w.kept caller)
  if hits.length < w.quota then .ok none else untilOver w.length now hits

/-- The number of callers in the table. -/
def tracked (w : SlidingWindow) : Nat := w.hitsOf.size

/-- Forgets the hits of a caller. -/
def clear (w : SlidingWindow) (caller : String) : SlidingWindow :=
  { w with hitsOf := w.hitsOf.erase caller }

end SlidingWindow

end IndexGateway

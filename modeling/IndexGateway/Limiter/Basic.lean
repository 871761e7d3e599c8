import IndexGateway.Limiter.SlidingWindow

/-!
# Limiters

The gateway asks a limiter three things: to take note of a call, whether its
caller is within the limits, and when a caller that is not may try again. Besides
the sliding window there are a limiter without limits and one whose answers are
laid down.

A question may change the limiter, since looking at a caller is the occasion to
drop what it does not need any more.
-/

namespace IndexGateway

/-- What decides how many calls a caller may make. -/
inductive Limiter where
  /-- Every caller may make any number of calls. -/
  | unlimited
  /-- Recent calls count against a quota. -/
  | window (w : SlidingWindow)
  /-- The answers are laid down, whatever calls are made. -/
  | fixed (allow : Bool) (resetsIn : Option Duration)

namespace Limiter

/-- Takes note of a call. -/
def hit (limiter : Limiter) (now : Moment) (caller : String) : Limiter :=
  match limiter with
  | .window w => .window (w.hit now caller)
  | other => other

/-- Drops what an answer about a caller does not need any more. -/
def refresh (limiter : Limiter) (now : Moment) (caller : String) : Limiter :=
  match limiter with
  | .window w => .window (w.refresh now caller)
  | other => other

/-- Whether a caller is within the limits. -/
def test (limiter : Limiter) (now : Moment) (caller : String) : Bool :=
  match limiter with
  | .unlimited => true
  | .window w => w.test now caller
  | .fixed allow _ => allow

/-- How long a caller has to wait, if that is known. -/
def resetsIn (limiter : Limiter) (now : Moment) (caller : String) :
    Except Breakdown (Option Duration) :=
  match limiter with
  | .unlimited => .ok none
  | .window w => w.resetsIn now caller
  | .fixed _ resetsIn => .ok resetsIn

end Limiter

end IndexGateway

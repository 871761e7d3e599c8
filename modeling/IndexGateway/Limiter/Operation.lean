import IndexGateway.Limiter.SlidingWindow

/-!
# Operations on a sliding window

What can be asked of a sliding window, as data: an operation yields an answer and
the window afterwards. Questions about a caller drop its hits that are no longer
recent on the way, so they may change the table, but never a later answer.
-/

namespace IndexGateway.SlidingWindow

/-- Something that is asked of a sliding window. -/
inductive Operation where
  /-- Record a hit of a caller. -/
  | hit (caller : String)
  /-- Tell whether a caller is within its quota. -/
  | test (caller : String)
  /-- Tell how long a caller has to wait. -/
  | resetsIn (caller : String)
  /-- Tell how many recent hits of a caller are kept. -/
  | hits (caller : String)
  /-- Tell how many callers are in the table. -/
  | tracked
  /-- Forget the hits of a caller. -/
  | clear (caller : String)
  /-- Forget all callers without recent hits, and tell how many are left. -/
  | purgeIdle
  deriving DecidableEq, Repr

/-- What an operation yields. -/
inductive Answer where
  /-- Nothing. -/
  | done
  /-- Yes or no. -/
  | verdict (isWithin : Bool)
  /-- A wait, if there is one. -/
  | wait (d : Option Duration)
  /-- A number. -/
  | number (n : Nat)
  /-- Nothing, since the operation is broken off. -/
  | breakdown (why : Breakdown)
  deriving DecidableEq, Repr

/-- What the question for a wait yields. -/
def Answer.ofWait : Except Breakdown (Option Duration) → Answer
  | .ok d => .wait d
  | .error why => .breakdown why

/-- Carries out an operation at a moment. One that is broken off leaves the limiter as it would
have been left otherwise. -/
def perform (w : SlidingWindow) (now : Moment) : Operation → Answer × SlidingWindow
  | .hit caller => (.done, w.hit now caller)
  | .test caller => (.verdict (w.test now caller), w.refresh now caller)
  | .resetsIn caller => (.ofWait (w.resetsIn now caller), w.refresh now caller)
  | .hits caller => (.number (w.hits now caller), w.refresh now caller)
  | .tracked => (.number w.tracked, w)
  | .clear caller => (.done, w.clear caller)
  | .purgeIdle => (.number (w.sweep now).tracked, w.sweep now)

/-- Carries out operations, each at its moment, and collects the answers. -/
def performAll (w : SlidingWindow) : List (Moment × Operation) → List Answer × SlidingWindow
  | [] => ([], w)
  | (now, op) :: rest =>
    let (answer, w') := w.perform now op
    let (answers, w'') := performAll w' rest
    (answer :: answers, w'')

end IndexGateway.SlidingWindow

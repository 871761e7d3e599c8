import IndexGateway.Proofs.Gateway.Routing
import IndexGateway.Proofs.Gateway.Surroundings

/-!
# Calls in the accounts

Of the requests that reach a gateway, some are calls: they have the verb `POST`, and there
is a method for them. Every call is counted, judged by the limiter and timed, once each
and in this order, whatever is answered to it: the value of a handler or a store, or the
fault of any stage. Other requests leave no trace in the accounts.

## The model

The limiter is of any kind, also one that writes down what it is told
(`Surroundings.tallied`), and so is the sink for events. What happens to them in a run is
therefore told by the limiter's own part of it (`Surroundings.judgeAll`), and by the list of
events that the sink is given (`Metrics.blocks`).

## What is proved

* `exists_dispatchAll` — the answers to a run come about without the sink, the limiter is
  told and asked about the calls only, and the sink is given the blocks of the calls.
* `every_call_counted_once` — that, with what it means for the counters, for any
  surroundings and for those that a gateway has of its own.
-/

namespace IndexGateway

open Metrics (Event)

/-! ### Events -/

namespace Metrics

/-- The events of calls, some of which are admitted. -/
def blocks (calls : List (Moment × Request)) (admitted : List Bool) : List Event :=
  (List.zipWith (fun call admitted => block call.2.method admitted) calls admitted).flatten

theorem blocks_cons (call : Moment × Request) (calls : List (Moment × Request)) (ok : Bool)
    (admitted : List Bool) :
    blocks (call :: calls) (ok :: admitted) = block call.2.method ok ++ blocks calls admitted := rfl

theorem count_append (earlier later : List Event) (name : String) :
    count (earlier ++ later) name = count earlier name + count later name :=
  List.countP_append

theorem timings_append (earlier later : List Event) (name : String) :
    timings (earlier ++ later) name = timings earlier name + timings later name :=
  List.countP_append

theorem count_block (method : String) (admitted : Bool) :
    count (block method admitted) callName = 1 ∧
      count (block method admitted) admittedName + count (block method admitted) exceededName = 1 ∧
      timings (block method admitted) timingName = 1 := by
  cases admitted <;> exact ⟨rfl, rfl, rfl⟩

/-- **The accounts balance**: there are as many calls as were admitted or turned away, and as many as
were timed. -/
theorem count_blocks {calls : List (Moment × Request)} {admitted : List Bool}
    (h : admitted.length = calls.length) :
    count (blocks calls admitted) callName = calls.length ∧
      count (blocks calls admitted) admittedName + count (blocks calls admitted) exceededName =
        calls.length ∧
      timings (blocks calls admitted) timingName = calls.length := by
  induction calls generalizing admitted with
  | nil =>
    obtain rfl := List.length_eq_zero_iff.mp h
    exact ⟨rfl, rfl, rfl⟩
  | cons call calls ih =>
    obtain ⟨ok, admitted, rfl⟩ := List.exists_cons_of_length_eq_add_one h
    obtain ⟨hcalls, hjudged, htimed⟩ := ih (Nat.succ.inj h)
    obtain ⟨hcall, hverdict, htiming⟩ := count_block call.2.method ok
    simp only [blocks_cons, count_append, timings_append, List.length_cons]
    omega

end Metrics

/-! ### Calls -/

/-- Whether a request is a call: it has the verb `POST`, and a route. -/
def Gateway.isCall (g : Gateway) (r : Request) : Bool :=
  r.isPost && (g.route? r.endpoint r.method).isSome

/-- The calls among timed requests. -/
def Gateway.calls (g : Gateway) (run : List (Moment × Request)) : List (Moment × Request) :=
  run.filter fun timed => g.isCall timed.2

namespace Surroundings

variable {L R S : Type} {W : Surroundings L R} {emit : S → Event → S} {g : Gateway} {now : Moment}
  {r : Request} {w : World L R S}

theorem run_dispatch_of_not_isCall (h : g.isCall r = false) : (W.dispatch emit g now r).run w =
    (.error (.fault (if r.isPost then .methodNotFound r.method else .application)), w) := by
  refine run_dispatch_of_not_routed fun hpost => ?_
  unfold Gateway.isCall at h
  rw [hpost] at h
  simpa using h

/-- **What a call does**, whatever stage it gets to: the limiter judges it, and its events are
emitted. -/
theorem run_dispatch_of_isCall {s : Service} (h : g.isCall r = true)
    (hroute : g.route? r.endpoint r.method = some s) : (W.dispatch emit g now r).run w =
      let (refused, limiter) := W.judge w.limiter now r.caller
      let (result, rest) := W.answer refused s now r.call w.rest
      (result, { limiter, rest, sink := (Metrics.block r.method refused.isNone).foldl emit w.sink }) := by
  have hpost : r.isPost = true := (Bool.and_eq_true_iff.mp h).1
  have hname : s.method.name = r.method := (Gateway.mem_of_route? hroute).2.1
  rw [run_dispatch_of_routed hpost hroute, run_serve, hname]
  rfl

/-! ### The limiter's part of a run -/

/-- What a limiter says about calls, each at its moment, one after the other: whether they are
admitted. -/
def judgeAll (W : Surroundings L R) (limiter : L) : List (Moment × Request) → List Bool × L
  | [] => ([], limiter)
  | (now, r) :: calls =>
    let (refused, limiter') := W.judge limiter now r.caller
    let (admitted, limiter'') := W.judgeAll limiter' calls
    (refused.isNone :: admitted, limiter'')

theorem length_judgeAll (W : Surroundings L R) (limiter : L) (calls : List (Moment × Request)) :
    (W.judgeAll limiter calls).1.length = calls.length := by
  induction calls generalizing limiter with
  | nil => rfl
  | cons call calls ih => exact congrArg (· + 1) (ih _)

/-- The surroundings with a limiter that also writes down for whom it takes note of calls. -/
def tallied (W : Surroundings L R) : Surroundings (L × List String) R :=
  { W with
    hit := fun (limiter, callers) now caller => (W.hit limiter now caller, callers ++ [caller])
    test := fun (limiter, callers) now caller =>
      let (within, limiter') := W.test limiter now caller
      (within, limiter', callers)
    resetsIn := fun (limiter, callers) now caller =>
      let (wait, limiter') := W.resetsIn limiter now caller
      (wait, limiter', callers) }

theorem judge_tallied (W : Surroundings L R) (limiter : L) (callers : List String) (now : Moment)
    (caller : String) : W.tallied.judge (limiter, callers) now caller =
      ((W.judge limiter now caller).1, (W.judge limiter now caller).2, callers ++ [caller]) := by
  unfold judge tallied
  dsimp only
  split <;> rfl

/-- **A limiter takes note of each call once**, for its caller. -/
theorem judgeAll_tallied (W : Surroundings L R) (limiter : L) (callers : List String)
    (calls : List (Moment × Request)) : W.tallied.judgeAll (limiter, callers) calls =
      ((W.judgeAll limiter calls).1, (W.judgeAll limiter calls).2,
        callers ++ calls.map (·.2.caller)) := by
  induction calls generalizing limiter callers with
  | nil => rw [List.map_nil, List.append_nil]; rfl
  | cons call calls ih =>
    obtain ⟨now, r⟩ := call
    rw [judgeAll, judge_tallied]
    dsimp only
    rw [ih, List.append_assoc]
    rfl

/-! ### Runs -/

/-- **What a run does.** The answers and the rest of the world come about without the sink; the
limiter goes through what it says about the calls, and the sink is given their events. -/
theorem exists_dispatchAll (W : Surroundings L R) (g : Gateway) (limiter : L) (rest : R)
    (run : List (Moment × Request)) : ∃ results rest', ∀ {S : Type} (emit : S → Event → S) (sink : S),
      W.dispatchAll emit g ⟨limiter, rest, sink⟩ run =
        (results, ⟨(W.judgeAll limiter (g.calls run)).2, rest',
          (Metrics.blocks (g.calls run) (W.judgeAll limiter (g.calls run)).1).foldl emit sink⟩) := by
  induction run generalizing limiter rest with
  | nil => exact ⟨[], rest, fun _ _ => rfl⟩
  | cons timed run ih =>
    obtain ⟨now, r⟩ := timed
    cases hcall : g.isCall r with
    | false =>
      have hcalls : g.calls ((now, r) :: run) = g.calls run :=
        List.filter_cons_of_neg (by simpa using hcall)
      obtain ⟨results, rest', hrun⟩ := ih limiter rest
      refine ⟨.error (.fault (if r.isPost then .methodNotFound r.method else .application)) :: results, rest',
        fun emit sink => ?_⟩
      rw [dispatchAll, run_dispatch_of_not_isCall hcall, hcalls]
      dsimp only
      rw [hrun]
    | true =>
      have hcalls : g.calls ((now, r) :: run) = (now, r) :: g.calls run :=
        List.filter_cons_of_pos hcall
      obtain ⟨s, hroute⟩ := Option.isSome_iff_exists.mp (Bool.and_eq_true_iff.mp hcall).2
      obtain ⟨results, rest', hrun⟩ := ih (W.judge limiter now r.caller).2
        (W.answer (W.judge limiter now r.caller).1 s now r.call rest).2
      refine ⟨(W.answer (W.judge limiter now r.caller).1 s now r.call rest).1 :: results, rest',
        fun emit sink => ?_⟩
      rw [dispatchAll, run_dispatch_of_isCall hcall hroute, hcalls, judgeAll]
      dsimp only
      rw [hrun, Metrics.blocks_cons, List.foldl_append]

end Surroundings

/-- **Every call is counted once, whatever is answered to it.** For every gateway, in any surroundings
and with any sink for events, and for every run of requests:

* the sink is given one block of events for each call, in order: the call is counted for its
  method, counted as admitted or as turned away, and timed for its method; other requests
  emit nothing;
* the limiter goes through judging the calls, in order and nothing else; in particular it takes
  note of each once, for its caller;
* at the end, the calls are as many as those that were admitted and those that were turned away
  together, and as many as were timed;
* the answers, the limiter and the rest of the world are the same with any other sink.

And this is so of a gateway in the surroundings that it has of its own. -/
theorem Gateway.every_call_counted_once (g : Gateway) (run : List (Moment × Request)) :
    (∀ {L R S : Type} (W : Surroundings L R) (emit : S → Event → S) (w : World L R S),
      let (admitted, limiter) := W.judgeAll w.limiter (g.calls run)
      let events := Metrics.blocks (g.calls run) admitted
      let (results, after) := W.dispatchAll emit g w run
      after.sink = events.foldl emit w.sink ∧
      after.limiter = limiter ∧
      (W.tallied.dispatchAll emit g ⟨(w.limiter, []), w.rest, w.sink⟩ run).2.limiter =
        (limiter, (g.calls run).map (·.2.caller)) ∧
      admitted.length = (g.calls run).length ∧
      Metrics.count events Metrics.callName = (g.calls run).length ∧
      Metrics.count events Metrics.callName =
        Metrics.count events Metrics.admittedName + Metrics.count events Metrics.exceededName ∧
      Metrics.count events Metrics.callName = Metrics.timings events Metrics.timingName ∧
      ∀ {S' : Type} (emit' : S' → Event → S') (sink' : S'),
        let (results', after') := W.dispatchAll emit' g ⟨w.limiter, w.rest, sink'⟩ run
        results' = results ∧ after'.limiter = after.limiter ∧ after'.rest = after.rest) ∧
    ∀ state : State,
      let (admitted, limiter) := Surroundings.own.judgeAll state.limiter (g.calls run)
      let (answers, after) := g.dispatchAll state run
      answers.flatMap (·.events) = Metrics.blocks (g.calls run) admitted ∧
      after.limiter = limiter ∧
      ∀ {S : Type} (emit : S → Event → S) (sink : S),
        Surroundings.own.dispatchAll emit g ⟨state.limiter, state.stores, sink⟩ run =
          (answers.map (·.result),
            ⟨after.limiter, after.stores, (answers.flatMap (·.events)).foldl emit sink⟩) := by
  constructor
  · intro L R S W emit w
    obtain ⟨results, rest, hrun⟩ := W.exists_dispatchAll g w.limiter w.rest run
    obtain ⟨results', rest', hrun'⟩ := W.tallied.exists_dispatchAll g (w.limiter, []) w.rest run
    have hlength := W.length_judgeAll w.limiter (g.calls run)
    obtain ⟨hcalls, hjudged, htimed⟩ := Metrics.count_blocks hlength
    dsimp only
    rw [hrun, hrun', W.judgeAll_tallied]
    refine ⟨rfl, rfl, rfl, hlength, hcalls, hcalls.trans hjudged.symm, hcalls.trans htimed.symm,
      fun emit' sink' => ?_⟩
    rw [hrun]
    exact ⟨rfl, rfl, rfl⟩
  · intro state
    obtain ⟨results, rest, hrun⟩ := Surroundings.own.exists_dispatchAll g state.limiter state.stores run
    -- a sink that stacks up the events tells which they were
    have hsame := (Surroundings.dispatchAll_own (fun stack e => e :: stack) g state [] run).symm.trans
      (hrun _ _)
    have hlimiter := congrArg (·.2.limiter) hsame
    have hsink := congrArg (·.2.sink) hsame
    simp only [List.foldl_flip_cons_eq_append', List.append_nil] at hsink
    exact ⟨List.reverse_inj.mp hsink, hlimiter, fun emit sink =>
      Surroundings.dispatchAll_own emit g state sink run⟩

end IndexGateway

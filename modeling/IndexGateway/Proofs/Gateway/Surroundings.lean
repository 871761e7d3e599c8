import IndexGateway.Gateway.Surroundings

/-!
# What a call does to its surroundings

Serving a call comes apart into three things that have nothing to do with each other
(`run_serve`). The limiter is told and asked about the call, and nothing else is
(`judge`). If the caller is admitted, the answer is worked out from the rest of the world.
And three events are emitted (`block`), of which one depends on what the limiter said,
and none on the answer.

In its own surroundings a gateway does what `Gateway.dispatchAll` says (`dispatchAll_own`).
-/

namespace IndexGateway

open Metrics (Event)

/-! ### Acts -/

namespace Act

section

variable {σ α β : Type}

theorem run_bind (x : Act σ α) (f : α → Act σ β) (state : σ) : (x >>= f).run state =
    match x.run state with
    | (.ok a, state') => (f a).run state'
    | (.error ending, state') => (.error ending, state') := by
  rw [ExceptT.run_bind]
  change (ExceptT.bindCont f (x.run state).1) (x.run state).2 = _
  generalize x.run state = done
  obtain ⟨result, state'⟩ := done
  cases result <;> rfl

theorem run_ask (question : σ → Except Fault α × σ) (state : σ) :
    (ask question).run state = ((question state).1.mapError .fault, (question state).2) := rfl

theorem run_modifyGet (f : σ → α × σ) (state : σ) :
    (modifyGet f : Act σ α).run state = (.ok (f state).1, (f state).2) := rfl

end

section World

variable {L R S α : Type} (emit : S → Event → S) (w : World L R S)

theorem run_limiter (question : L → α × L) : (limiter question).run w =
    (.ok (question w.limiter).1, { w with limiter := (question w.limiter).2 }) := rfl

theorem run_emit (e : Event) : (Act.emit emit e).run w = (.ok (), { w with sink := emit w.sink e }) :=
  rfl

theorem run_timed (tags : List Metrics.Tag) (x : Act (World L R S) α) : (timed emit tags x).run w =
    ((x.run w).1,
      { (x.run w).2 with sink := emit (x.run w).2.sink (.timing Metrics.timingName 0 tags) }) := rfl

end World

end Act

/-- The events of a call: it is counted, it is counted once more as admitted or as turned away, and it
is timed. -/
def Metrics.block (method : String) (admitted : Bool) : List Event :=
  [.increment callName [⟨methodTagName, method⟩],
    .increment (if admitted then admittedName else exceededName) [],
    .timing timingName 0 [⟨methodTagName, method⟩]]

namespace Surroundings

variable {L R S : Type} {W : Surroundings L R} {emit : S → Event → S} {g : Gateway} {s : Service}
  {now : Moment} {call : Call} {args : Arguments} {r : Request} {w : World L R S}

/-! ### Serving -/

/-- What a limiter is told and asked about a call: it takes note of it, says whether the caller is
within the limits, and if not, how long it has to wait. By this the call ends if it is turned
away. -/
def judge (W : Surroundings L R) (limiter : L) (now : Moment) (caller : String) : Option Ending × L :=
  let (within, tested) := W.test (W.hit limiter now caller) now caller
  if within then (none, tested)
  else
    let (wait, asked) := W.resetsIn tested now caller
    (some (Admission.ending wait), asked)

/-- What is answered to a call, with the rest of the world afterwards. -/
def answer (W : Surroundings L R) (refused : Option Ending) (s : Service) (now : Moment) (call : Call)
    (rest : R) : Except Ending Response × R :=
  match refused with
  | some ending => (.error ending, rest)
  | none => (W.answerAdmitted s now call).run rest

theorem run_throttle (W : Surroundings L R) (emit : S → Event → S) (now : Moment) (caller : String)
    (w : World L R S) : (W.throttle emit now caller).run w =
      ((W.judge w.limiter now caller).1.elim (.ok ()) .error,
        { w with
          limiter := (W.judge w.limiter now caller).2
          sink := emit w.sink (.increment (if (W.judge w.limiter now caller).1.isNone then
            Metrics.admittedName else Metrics.exceededName) []) }) := by
  unfold throttle judge
  simp only [Act.run_bind, Act.run_limiter]
  -- on what the limiter says depends both what is done and what is expected
  split
  · rw [Act.run_emit]
    rfl
  · rw [Act.run_bind, Act.run_emit]
    rfl

/-- **What serving a call does**: the limiter is asked about it, the answer is worked out from the rest
of the world, and the three events of a call are emitted, whatever is answered. -/
theorem run_serve (W : Surroundings L R) (emit : S → Event → S) (s : Service) (now : Moment)
    (call : Call) (w : World L R S) : (W.serve emit s now call).run w =
      let (refused, limiter) := W.judge w.limiter now call.caller
      let (result, rest) := W.answer refused s now call w.rest
      (result, { limiter, rest, sink := (Metrics.block s.method.name refused.isNone).foldl emit w.sink }) := by
  unfold serve
  simp only [Act.run_bind, Act.run_emit, Act.run_timed, run_throttle]
  generalize W.judge w.limiter now call.caller = judged
  obtain ⟨refused, limiter⟩ := judged
  cases refused <;> rfl

/-! ### Requests -/

theorem run_dispatch_of_routed (hpost : r.isPost = true)
    (hroute : g.route? r.endpoint r.method = some s) :
    (W.dispatch emit g now r).run w = (W.serve emit s now r.call).run w := by
  unfold dispatch
  rw [if_pos hpost, hroute]

/-- A request that is no call is answered with a fault, and nothing is done. -/
theorem run_dispatch_of_not_routed (h : r.isPost = true → g.route? r.endpoint r.method = none) :
    (W.dispatch emit g now r).run w =
      (.error (.fault (if r.isPost then .methodNotFound r.method else .application)), w) := by
  unfold dispatch
  cases hpost : r.isPost with
  | false => rfl
  | true =>
    rw [h hpost]
    rfl

/-! ### The surroundings that a gateway has of its own -/

section Own

variable {stores : List Store} {place : Nat} {tag : CacheTag}

theorem judge_own (limiter : Limiter) (now : Moment) (caller : String) :
    own.judge limiter now caller =
      ((Admission.judge limiter now caller).refused, (Admission.judge limiter now caller).limiter) := by
  unfold judge Admission.judge own
  dsimp only
  split <;> rfl

theorem event_judge (limiter : Limiter) (now : Moment) (caller : String) :
    (Admission.judge limiter now caller).event =
      .increment (if (Admission.judge limiter now caller).refused.isNone then Metrics.admittedName
        else Metrics.exceededName) [] := by
  unfold Admission.judge
  dsimp only
  split <;> rfl

theorem run_compute_own (s : Service) (call : Call) (args : Arguments) (tag : Option CacheTag)
    (stores : List Store) :
    (own.compute s call args tag).run stores = ((s.compute call args tag).result, stores) := by
  unfold compute Service.compute
  rw [Act.run_bind, Act.run_ask]
  unfold own
  dsimp only
  cases (s.method.handler call args).outcome <;> rfl

theorem run_answerThrough_own_of_none (h : stores[place]? = none) :
    (own.answerThrough s place now call args tag).run stores =
      ((s.compute call args (some tag)).result, stores) := by
  have hlookup : own.lookup stores place now s.method.name call.params = (.ok none, stores) := by
    unfold own
    dsimp only
    rw [h]
  have hkeep : ∀ response, own.keep stores place now s.method.name call.params response =
      (.ok false, stores) := by
    intro response
    unfold own
    dsimp only
    rw [h]
  unfold answerThrough
  rw [Act.run_bind, Act.run_modifyGet, hlookup]
  dsimp only
  rw [Act.run_bind, run_compute_own]
  cases (s.compute call args (some tag)).result with
  | error fault => rfl
  | ok response =>
    dsimp only
    rw [Act.run_bind, Act.run_modifyGet, hkeep]
    rfl

theorem run_answerThrough_own {store : Store} (h : stores[place]? = some store) :
    (own.answerThrough s place now call args tag).run stores =
      ((s.answerThrough store now call args tag).1.result,
        stores.set place (s.answerThrough store now call args tag).2) := by
  have hlookup : own.lookup stores place now s.method.name call.params =
      ((store.get now s.method.name call.params).1,
        stores.set place (store.get now s.method.name call.params).2.1) := by
    unfold own
    dsimp only
    rw [h]
  have hkeep : ∀ store' response,
      own.keep (stores.set place store') place now s.method.name call.params response =
        ((store'.put now s.method.name call.params response).1,
          stores.set place (store'.put now s.method.name call.params response).2) := by
    intro store' response
    have hlt : place < stores.length := (List.getElem?_eq_some_iff.mp h).1
    unfold own
    dsimp only
    rw [List.getElem?_set_self hlt]
    dsimp only
    rw [List.set_set]
  unfold answerThrough Service.answerThrough
  rw [Act.run_bind, Act.run_modifyGet, hlookup]
  generalize store.get now s.method.name call.params = looked
  obtain ⟨found, store', log⟩ := looked
  rcases found with e | _ | value
  case ok.some => rfl
  -- after a failure and a miss alike, the handler is asked
  all_goals
    dsimp only
    rw [Act.run_bind, run_compute_own]
    unfold Answer.after
    dsimp only
    cases (s.compute call args (some tag)).result with
    | error fault => rfl
    | ok response =>
      dsimp only
      rw [Act.run_bind, Act.run_modifyGet, hkeep]
      rfl

theorem run_answerAdmitted_own (s : Service) (now : Moment) (call : Call) (stores : List Store) :
    (own.answerAdmitted s now call).run stores =
      ((s.answerAdmitted stores now call).1.result, (s.answerAdmitted stores now call).2) := by
  unfold answerAdmitted Service.answerAdmitted
  rw [Act.run_bind, Act.run_ask]
  cases s.method.schema.bind call.params with
  | error fault => rfl
  | ok args =>
    dsimp only
    unfold answerBound Service.answerBound
    cases hpolicy : s.method.cache with
    | none => exact run_compute_own s call args none stores
    | some policy =>
      cases hplace : s.store with
      | none => exact run_compute_own s call args _ stores
      | some place =>
        dsimp only
        cases hstore : stores[place]? with
        | none => exact run_answerThrough_own_of_none hstore
        | some store => exact run_answerThrough_own hstore

theorem run_serve_own (emit : S → Event → S) (s : Service) (now : Moment) (call : Call)
    (state : State) (sink : S) :
    (own.serve emit s now call).run ⟨state.limiter, state.stores, sink⟩ =
      let (answer, state') := s.serve state now call
      (answer.result, ⟨state'.limiter, state'.stores, answer.events.foldl emit sink⟩) := by
  rw [run_serve, judge_own]
  unfold Service.serve answer
  dsimp only
  rw [event_judge]
  cases (Admission.judge state.limiter now call.caller).refused with
  | some fault => rfl
  | none =>
    dsimp only
    rw [run_answerAdmitted_own]
    rfl

theorem run_dispatch_own (emit : S → Event → S) (g : Gateway) (now : Moment) (r : Request)
    (state : State) (sink : S) :
    (own.dispatch emit g now r).run ⟨state.limiter, state.stores, sink⟩ =
      let (answer, state') := g.dispatch state now r
      (answer.result, ⟨state'.limiter, state'.stores, answer.events.foldl emit sink⟩) := by
  unfold dispatch Gateway.dispatch
  split
  · cases g.route? r.endpoint r.method with
    | none => rfl
    | some s => exact run_serve_own emit s now r.call state sink
  · rfl

/-- **In its own surroundings a gateway does what it does**: the answers are those of
`Gateway.dispatchAll`, and so are limiter, stores and events. -/
theorem dispatchAll_own (emit : S → Event → S) (g : Gateway) (state : State) (sink : S)
    (run : List (Moment × Request)) :
    own.dispatchAll emit g ⟨state.limiter, state.stores, sink⟩ run =
      let (answers, state') := g.dispatchAll state run
      (answers.map (·.result),
        ⟨state'.limiter, state'.stores, (answers.flatMap (·.events)).foldl emit sink⟩) := by
  induction run generalizing state sink with
  | nil => rfl
  | cons timed run ih =>
    obtain ⟨now, r⟩ := timed
    rw [dispatchAll, run_dispatch_own, Gateway.dispatchAll]
    dsimp only
    rw [ih, List.flatMap_cons, List.foldl_append, List.map_cons]

end Own

end Surroundings

end IndexGateway

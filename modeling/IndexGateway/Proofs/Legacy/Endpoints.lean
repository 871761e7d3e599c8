import IndexGateway.Proofs.Gateway.Surroundings
import IndexGateway.Proofs.Legacy.Methods
import Mathlib.Data.List.Forall2

/-!
# The endpoints of the table

All methods of the table are served at the same endpoints, and an endpoint is no more than
a name for the way to them. Where some requests of a run arrive at another endpoint of the
table, nothing else is different: a quota that is used up at one endpoint is used up at all,
and a response that is kept for one is found from all.

## The model

Two runs are related request by request (`SameButEndpoint`). The index that the methods ask
may be part of the world around the gateway and change with it (`handling`).

## What is proved

* `handler_withEndpoint` — no handler looks at the endpoint.
* `route?_withEndpoint` — a method is served at all endpoints of the table, or at none.
* `run_eq_of_sameButEndpoint` — related runs have the same answers and events, and the same
  limiter and stores at the end.
-/

namespace IndexGateway

/-- A call that arrives at another endpoint. -/
def Call.withEndpoint (call : Call) (endpoint : String) : Call := { call with endpoint }

/-- An answer without what was logged. -/
def Answer.unlogged (a : Answer) : Answer := { a with log := [] }

/-- A request that arrives at another endpoint. -/
def Request.withEndpoint (r : Request) (endpoint : String) : Request := { r with endpoint }

/-! ### Services that do not look at the endpoint -/

namespace Service

variable {s : Service}

/-- The handler does not look at the endpoint of a call. -/
def IsBlind (s : Service) : Prop :=
  ∀ (call : Call) (endpoint : String) (args : Arguments),
    s.method.handler (call.withEndpoint endpoint) args = s.method.handler call args

theorem serve_withEndpoint (h : s.IsBlind) (state : State) (now : Moment) (call : Call)
    (endpoint : String) : s.serve state now (call.withEndpoint endpoint) = s.serve state now call := by
  have hcompute : ∀ args tag,
      s.compute (call.withEndpoint endpoint) args tag = s.compute call args tag := by
    intro args tag
    unfold compute
    rw [h]
  have hadmitted : s.answerAdmitted state.stores now (call.withEndpoint endpoint) =
      s.answerAdmitted state.stores now call := by
    unfold answerAdmitted answerBound answerThrough
    simp only [hcompute]
    rfl
  unfold serve
  rw [hadmitted]
  rfl

end Service

/-- The handlers do not look at the endpoint of a call, in surroundings of any kind. -/
theorem Surroundings.serve_withEndpoint {L R S : Type} {W : Surroundings L R} {s : Service}
    {call : Call} {endpoint : String}
    (h : ∀ rest args, W.handle rest s (call.withEndpoint endpoint) args = W.handle rest s call args)
    (emit : S → Metrics.Event → S) (now : Moment) :
    W.serve emit s now (call.withEndpoint endpoint) = W.serve emit s now call := by
  have hcompute : ∀ args tag,
      W.compute s (call.withEndpoint endpoint) args tag = W.compute s call args tag := by
    intro args tag
    unfold compute
    simp only [h]
  have hadmitted : W.answerAdmitted s now (call.withEndpoint endpoint) = W.answerAdmitted s now call := by
    unfold answerAdmitted answerBound answerThrough
    simp only [hcompute]
    rfl
  unfold serve
  rw [hadmitted]
  rfl

/-- Predicates that agree on a list find the same there. -/
theorem find?_congr_of_mem {α : Type} {p q : α → Bool} {l : List α} (h : ∀ a ∈ l, p a = q a) :
    l.find? p = l.find? q := by
  induction l with
  | nil => rfl
  | cons a l ih =>
    obtain ⟨ha, hl⟩ := List.forall_mem_cons.mp h
    rw [List.find?_cons, List.find?_cons, ha, ih hl]

namespace Legacy

variable {source : Catalog.Source} {links : Links} {R : Type}

/-! ### Handlers of the table -/

theorem Query.handler_withEndpoint (q : Query) (call : Call) (endpoint : String) (args : Arguments) :
    q.handler source links (call.withEndpoint endpoint) args = q.handler source links call args := rfl

/-- **No handler of the table looks at the endpoint.** -/
theorem handler_withEndpoint {m : Method} (h : m ∈ methods source links) (call : Call)
    (endpoint : String) (args : Arguments) :
    m.handler (call.withEndpoint endpoint) args = m.handler call args := by
  obtain ⟨m', hm', rfl⟩ := List.mem_map.mp h
  rcases mem_table hm' with ⟨q, rfl⟩ | ⟨retired, rfl⟩
  · exact q.handler_withEndpoint call endpoint args
  · rfl

/-- The work of the methods of the table where the index is part of the world: what it says to a
method that asks, and what becomes of it, is up to the index. -/
def handling (index : R → String → Arguments → Catalog.Source × R) (links : Links) (rest : R)
    (s : Service) (call : Call) (args : Arguments) : Except Fault Json × R :=
  let (source, rest') := index rest s.method.name args
  let method? := (methods source links).find? (·.name = s.method.name)
  (method?.elim (.error .application) fun m => (m.handler call args).outcome, rest')

theorem handling_withEndpoint (index : R → String → Arguments → Catalog.Source × R) (links : Links)
    (rest : R) (s : Service) (call : Call) (endpoint : String) (args : Arguments) :
    handling index links rest s (call.withEndpoint endpoint) args =
      handling index links rest s call args := by
  unfold handling
  dsimp only
  generalize index rest s.method.name args = asked
  cases hfound : (methods asked.1 links).find? (·.name = s.method.name) with
  | none => rfl
  | some m =>
    have hm : m ∈ methods asked.1 links := List.mem_of_find?_eq_some hfound
    simp only [Option.elim_some, handler_withEndpoint hm]

/-- Where the index stays what it is, the work is that of the service's own handler. -/
theorem handling_constant {s : Service} (h : s.method ∈ methods source links) (rest : R) (call : Call)
    (args : Arguments) : handling (fun rest _ _ => (source, rest)) links rest s call args =
      ((s.method.handler call args).outcome, rest) := by
  unfold handling
  dsimp only
  cases hfound : (methods source links).find? (·.name = s.method.name) with
  | none => exact absurd (List.find?_eq_none.mp hfound s.method h) (by simp)
  | some m =>
    have hname : m.name = s.method.name := by simpa using List.find?_some hfound
    obtain rfl : m = s.method :=
      List.inj_on_of_nodup_map nodup_names_methods (List.mem_of_find?_eq_some hfound) h hname
    rfl

/-! ### Requests -/

/-- All methods that a gateway serves are of the table. -/
def ServesTable (source : Catalog.Source) (links : Links) (g : Gateway) : Prop :=
  ∀ s ∈ g.services, s.method ∈ methods source links

section Served

variable {g : Gateway} {r : Request} {endpoint : String}

/-- **A method is served at all endpoints of the table, or at none.** -/
theorem route?_withEndpoint (hg : ServesTable source links g) (hr : r.endpoint ∈ endpoints)
    (h : endpoint ∈ endpoints) :
    g.route? (r.withEndpoint endpoint).endpoint r.method =
      g.route? r.endpoint r.method := by
  refine find?_congr_of_mem fun s hs => ?_
  have haliases : s.method.aliases = endpoints := aliases_of_mem_methods (hg s hs)
  unfold Method.isServedAt
  rw [haliases, List.contains_iff_mem.mpr hr]
  exact congrArg (_ && ·) (List.contains_iff_mem.mpr h)

theorem dispatch_withEndpoint (hg : ServesTable source links g) (hr : r.endpoint ∈ endpoints)
    (h : endpoint ∈ endpoints) (state : State) (now : Moment) :
    let answered := g.dispatch state now (r.withEndpoint endpoint)
    let answered' := g.dispatch state now r
    answered.1.unlogged = answered'.1.unlogged ∧ answered.2 = answered'.2 := by
  unfold Gateway.dispatch
  dsimp only
  rw [show (r.withEndpoint endpoint).isPost = r.isPost from rfl,
    show (r.withEndpoint endpoint).method = r.method from rfl, route?_withEndpoint hg hr h]
  split
  · cases hroute : g.route? r.endpoint r.method with
    | none => exact ⟨rfl, rfl⟩
    | some s =>
      have hblind : s.IsBlind := handler_withEndpoint (hg s (Gateway.mem_services_of_route? hroute))
      dsimp only
      rw [show (r.withEndpoint endpoint).call = r.call.withEndpoint endpoint from rfl,
        Service.serve_withEndpoint hblind]
      exact ⟨rfl, rfl⟩
  · exact ⟨rfl, rfl⟩

/-- In surroundings with an index of any kind, nothing at all is different. -/
theorem dispatch_handling_withEndpoint {L S : Type} {W : Surroundings L R}
    {index : R → String → Arguments → Catalog.Source × R} (hW : W.handle = handling index links)
    (hg : ServesTable source links g) (hr : r.endpoint ∈ endpoints) (h : endpoint ∈ endpoints)
    (emit : S → Metrics.Event → S) (now : Moment) :
    W.dispatch emit g now (r.withEndpoint endpoint) =
      W.dispatch emit g now r := by
  unfold Surroundings.dispatch
  rw [show (r.withEndpoint endpoint).isPost = r.isPost from rfl,
    show (r.withEndpoint endpoint).method = r.method from rfl, route?_withEndpoint hg hr h]
  cases g.route? r.endpoint r.method with
  | none => rfl
  | some s =>
    have hhandle : ∀ rest args,
        W.handle rest s (r.call.withEndpoint endpoint) args = W.handle rest s r.call args := by
      rw [hW]
      exact fun rest args => handling_withEndpoint index links rest s r.call endpoint args
    dsimp only
    rw [show (r.withEndpoint endpoint).call = r.call.withEndpoint endpoint from rfl,
      Surroundings.serve_withEndpoint hhandle]

end Served

/-! ### Runs -/

/-- Two timed requests that are the same but for the endpoint, where both endpoints are of the
table. -/
inductive SameButEndpoint : Moment × Request → Moment × Request → Prop where
  /-- The endpoint is the same too. -/
  | same (timed : Moment × Request) : SameButEndpoint timed timed
  /-- The endpoint is another one of the table. -/
  | moved {now : Moment} {r : Request} {endpoint : String} (before : r.endpoint ∈ endpoints)
    (after : endpoint ∈ endpoints) : SameButEndpoint (now, r) (now, r.withEndpoint endpoint)

namespace SameButEndpoint

variable {g : Gateway} {timed timed' : Moment × Request} {run run' : List (Moment × Request)}

theorem dispatch (hg : ServesTable source links g) (h : SameButEndpoint timed timed') (state : State) :
    let answered := g.dispatch state timed.1 timed.2
    let answered' := g.dispatch state timed'.1 timed'.2
    answered.1.unlogged = answered'.1.unlogged ∧ answered.2 = answered'.2 := by
  cases h with
  | same => exact ⟨rfl, rfl⟩
  | @moved now r endpoint before after =>
    obtain ⟨hanswer, hstate⟩ := dispatch_withEndpoint hg before after state now
    exact ⟨hanswer.symm, hstate.symm⟩

theorem dispatchAll (hg : ServesTable source links g) (h : List.Forall₂ SameButEndpoint run run')
    (state : State) :
    let answered := g.dispatchAll state run
    let answered' := g.dispatchAll state run'
    answered.1.map Answer.unlogged = answered'.1.map Answer.unlogged ∧ answered.2 = answered'.2 := by
  induction h generalizing state with
  | nil => exact ⟨rfl, rfl⟩
  | @cons timed timed' run run' hsame hrest ih =>
    obtain ⟨hanswer, hstate⟩ := hsame.dispatch hg state
    obtain ⟨now, r⟩ := timed
    obtain ⟨now', r'⟩ := timed'
    -- the rest of both runs starts in the same state
    rw [Gateway.dispatchAll, Gateway.dispatchAll]
    dsimp only at hanswer hstate ⊢
    rw [hstate, List.map_cons, List.map_cons, hanswer]
    obtain ⟨hanswers, hend⟩ := ih (g.dispatch state now' r').2
    exact ⟨congrArg (_ :: ·) hanswers, hend⟩

section Handling

variable {L S : Type} {W : Surroundings L R} {index : R → String → Arguments → Catalog.Source × R}

theorem dispatch_handling (hW : W.handle = handling index links) (hg : ServesTable source links g)
    (h : SameButEndpoint timed timed') (emit : S → Metrics.Event → S) (w : World L R S) :
    (W.dispatch emit g timed.1 timed.2).run w =
      (W.dispatch emit g timed'.1 timed'.2).run w := by
  cases h with
  | same => rfl
  | moved before after => rw [dispatch_handling_withEndpoint hW hg before after]

theorem dispatchAll_handling (hW : W.handle = handling index links) (hg : ServesTable source links g)
    (h : List.Forall₂ SameButEndpoint run run') (emit : S → Metrics.Event → S) (w : World L R S) :
    W.dispatchAll emit g w run =
      W.dispatchAll emit g w run' := by
  induction h generalizing w with
  | nil => rfl
  | @cons timed timed' run run' hsame hrest ih =>
    have hstep := hsame.dispatch_handling hW hg emit w
    obtain ⟨now, r⟩ := timed
    obtain ⟨now', r'⟩ := timed'
    rw [Surroundings.dispatchAll, Surroundings.dispatchAll]
    dsimp only at hstep ⊢
    rw [hstep]
    exact congrArg (fun rest => (_ :: rest.1, rest.2)) (ih _)

end Handling

end SameButEndpoint

/-- **At whichever endpoints of the table requests arrive, nothing else is different.** Let two runs
of timed requests be the same but for endpoints of the table. A gateway that serves the table
gives the same answers to both, from the same origins and with the same events, and limiter and
stores are the same at the end; and so it is with a limiter, stores, an index and a sink for
events of any other kind. With an index that stays what it is, the handlers do there what they do in
the gateway. -/
theorem run_eq_of_sameButEndpoint {run run' : List (Moment × Request)}
    (h : List.Forall₂ SameButEndpoint run run') (store : Option Nat) (source : Catalog.Source)
    (links : Links) :
    let g := (register { store } source links).2.1
    (∀ state : State,
      (g.dispatchAll state run).1.map Answer.unlogged =
        (g.dispatchAll state run').1.map Answer.unlogged ∧
      (g.dispatchAll state run).2 = (g.dispatchAll state run').2) ∧
    (∀ {L R S : Type} (W : Surroundings L R) (index : R → String → Arguments → Catalog.Source × R)
      (emit : S → Metrics.Event → S) (w : World L R S),
      let W' := { W with handle := handling index links }
      W'.dispatchAll emit g w run = W'.dispatchAll emit g w run') ∧
    ∀ {R : Type} (rest : R), ∀ s ∈ g.services, ∀ call args,
      handling (fun rest _ _ => (source, rest)) links rest s call args =
        ((s.method.handler call args).outcome, rest) := by
  obtain ⟨log, heq⟩ := @register_eq source links { store } rfl
  dsimp only
  rw [heq]
  have hg : ServesTable source links (Gateway.acceptAll { store } (methods source links)) :=
    fun s => method_mem_methods rfl
  exact ⟨SameButEndpoint.dispatchAll hg h, fun W index emit w =>
    SameButEndpoint.dispatchAll_handling rfl hg h emit w, fun rest s hs call args =>
    handling_constant (hg s hs) rest call args⟩

/-- A listing that was kept for one endpoint is found from the others, in whatever order they are
used; and where two calls are within the limits, the third is turned away at each endpoint. -/
theorem run_eq_of_sameButEndpoint_listing :
    let listing (endpoint : String) : Request := { endpoint, method := "list_packages" }
    let run := [(1, listing "RPC2"), (2, listing "pypi"), (3, listing "pypi_slash")]
    let run' := [(1, listing "pypi_slash"), (2, listing "RPC2"), (3, listing "pypi_slash")]
    let g := (register { store := some 0 } (.ok Catalog.empty) ⟨"pypi.test", ""⟩).2.1
    let state : State := { limiter := .unlimited, stores := [.cached (.empty 0)] }
    let twice : Surroundings Nat Unit :=
      { hit := fun calls _ _ => calls + 1
        test := fun calls _ _ => (calls ≤ 2, calls)
        resetsIn := fun calls _ _ => (.ok none, calls)
        lookup := fun _ _ _ _ _ => (.ok none, ())
        keep := fun _ _ _ _ _ _ => (.ok false, ())
        handle := handling (fun _ _ _ => (.ok Catalog.empty, ())) ⟨"pypi.test", ""⟩ }
    let record (events : List Metrics.Event) (e : Metrics.Event) := events ++ [e]
    List.Forall₂ SameButEndpoint run run' ∧
    (g.dispatchAll state run).1.map (·.origin) = [.handler, .store, .store] ∧
    (g.dispatchAll state run).1.map Answer.unlogged = (g.dispatchAll state run').1.map Answer.unlogged ∧
    (twice.dispatchAll record g ⟨0, (), []⟩ run).1.map (·.isOk) = [true, true, false] ∧
    twice.dispatchAll record g ⟨0, (), []⟩ run = twice.dispatchAll record g ⟨0, (), []⟩ run' := by
  intro listing run run' g state twice record
  have hmoved : List.Forall₂ SameButEndpoint run run' :=
    .cons (.moved (by decide) (by decide)) <| .cons (.moved (by decide) (by decide)) <|
      .cons (.same _) .nil
  have hg : g = Gateway.acceptAll { store := some 0 } (methods (.ok Catalog.empty) ⟨"pypi.test", ""⟩) := by
    obtain ⟨log, heq⟩ := @register_eq (.ok Catalog.empty) ⟨"pypi.test", ""⟩ { store := some 0 } rfl
    exact congrArg (·.2.1) heq
  obtain ⟨hown, hany, -⟩ := run_eq_of_sameButEndpoint hmoved (some 0) (.ok Catalog.empty) ⟨"pypi.test", ""⟩
  refine ⟨hmoved, ?_, (hown state).1, ?_, hany twice _ record _⟩
  · rw [hg]
    decide +kernel
  · rw [hg]
    decide +kernel

end Legacy

end IndexGateway

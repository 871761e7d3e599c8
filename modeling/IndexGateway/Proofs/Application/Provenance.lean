import IndexGateway.Proofs.Application.Remembering
import IndexGateway.Proofs.Cache.Recency
import IndexGateway.Proofs.Gateway.Sanitized

/-!
# Where kept responses come from

A response that is served from a store was once the answer of a handler, to an earlier
request with the same key.

## The model

A run of an application does to each of its caches what some history of cache operations
does, and every put of that history keeps the value that a handler had for a request of
the run (`exists_history`). What is known about caches after histories is so known about
caches in a run.

## What is proved

A key tells the name of a method and the arguments, and no more. So a kept response may
be that of another method, if it has the same name and is registered at other endpoints
(`stored_of_other_method`); but it is always that of a method of this name, called with
these arguments, and that of the very method that is called if no other method of this
name keeps responses (`exists_handled_of_stored`). This does not depend on what the
handlers remember, nor on the limiter.
-/

namespace IndexGateway

open Json

/-- A store that holds nothing yet. -/
def Store.IsFresh : Store → Prop
  | .cached cache => ∃ capacity, cache = .empty capacity
  | .outOfOrder _ => True

namespace Application

variable {app : Application} {events : List Event} {now : Moment} {r : Request} {s : Service}
  {args : Arguments} {value : Json} {place : Nat} {cache : Cache}

/-! ### Runs -/

/-- The application after events. -/
def after (app : Application) (events : List Event) : Application :=
  events.foldl (fun app e => (app.step e).2) app

theorem after_append (app : Application) (events more : List Event) :
    app.after (events ++ more) = (app.after events).after more :=
  List.foldl_append

theorem after_append_singleton (app : Application) (events : List Event) (e : Event) :
    app.after (events ++ [e]) = ((app.after events).step e).2 :=
  after_append app events [e]

theorem gateway_step (app : Application) (e : Event) : (app.step e).2.gateway = app.gateway := by
  cases e with
  | request now r => rfl
  | purge tag =>
    unfold step purge
    dsimp only
    split <;> rfl

/-- The methods stay the same. -/
theorem gateway_after (app : Application) (events : List Event) :
    (app.after events).gateway = app.gateway := by
  induction events using List.reverseRecOn with
  | nil => rfl
  | append_singleton events e ih => rw [after_append_singleton, gateway_step, ih]

/-- A purge purges a cache or leaves it. -/
theorem stores_purge_cases {tag : String}
    (h : (app.purge tag).2.1.state.stores[place]? = some (.cached cache)) :
    app.state.stores[place]? = some (.cached cache) ∨
    ∃ before, app.state.stores[place]? = some (.cached before) ∧ cache = (before.purge tag).2 := by
  unfold purge at h
  split at h
  · next before rest hstores =>
    rw [hstores]
    cases place with
    | zero =>
      right
      refine ⟨before, rfl, ?_⟩
      cases h
      rfl
    | succ place => exact .inl h
  · exact .inl h

/-- What a purge does to an application with one cache. -/
theorem purge_of_stores (h : app.state.stores = [.cached cache]) (tag : String) :
    (app.purge tag).2.1 =
      { app with state := { app.state with stores := [.cached (cache.purge tag).2] } } := by
  unfold purge
  rw [h]
  rfl

/-- An application with one cache still has one after an event. -/
theorem exists_stores_step (h : app.state.stores = [.cached cache]) (e : Event) :
    ∃ cache', (app.step e).2.state.stores = [.cached cache'] := by
  cases e with
  | purge tag =>
    refine ⟨(cache.purge tag).2, ?_⟩
    show (app.purge tag).2.1.state.stores = _
    rw [purge_of_stores h]
  | request now r =>
    show ∃ cache', (app.gateway.dispatch app.state now r).2.stores = [.cached cache']
    rcases app.gateway.dispatch_cases app.state now r with
      ⟨-, hsame⟩ | ⟨_, _, _, place, _, cache', -, hlooked, -, hset⟩
    · exact ⟨cache, hsame.trans h⟩
    · rw [h] at hset hlooked
      obtain ⟨rfl, -⟩ := hlooked.of_singleton
      exact ⟨cache', hset⟩

theorem exists_stores_after (h : app.state.stores = [.cached cache]) (events : List Event) :
    ∃ cache', (app.after events).state.stores = [.cached cache'] := by
  induction events using List.reverseRecOn with
  | nil => exact ⟨cache, h⟩
  | append_singleton events e ih =>
    obtain ⟨cache', hcache'⟩ := ih
    rw [after_append_singleton]
    exact exists_stores_step hcache' e

/-! ### Handled requests -/

/-- **A request of a run was answered by the handler of a service**, which had a value for it. -/
structure Handled (app : Application) (events : List Event) (s : Service) (r : Request)
    (args : Arguments) (value : Json) : Prop where
  /-- It was made in the run, and answered by the handler with the clean value. -/
  answered : ∃ earlier now later tag, events = earlier ++ .request now r :: later ∧
    ((app.after earlier).call now r).1.origin = .handler ∧
    ((app.after earlier).call now r).1.result = .ok ⟨value.clean, tag⟩
  /-- It is routed to the service. -/
  routed : app.gateway.route? r.endpoint r.method = some s
  /-- Its arguments are bound. -/
  bound : s.method.schema.bind r.params = .ok args
  /-- The handler has the value for them. -/
  outcome : (s.method.handler r.call args).outcome = .ok value

theorem Handled.append (h : app.Handled events s r args value) (more : List Event) :
    app.Handled (events ++ more) s r args value where
  answered := by
    obtain ⟨earlier, now, later, tag, rfl, horigin, hresult⟩ := h.answered
    exact ⟨earlier, now, later ++ more, tag, by simp, horigin, hresult⟩
  routed := h.routed
  bound := h.bound
  outcome := h.outcome

/-- A text under a key and a tag is what is kept at a place of a handled request. -/
def Keeps (app : Application) (events : List Event) (place : Nat) (key text : String)
    (tag : CacheTag) : Prop :=
  ∃ s r policy args value, app.Handled events s r args value ∧ s.store = some place ∧
    s.method.cache = some policy ∧ key = s.key r.call ∧ text = value.clean.compact ∧
    tag = policy.resolve args

theorem Keeps.append {key text : String} {tag : CacheTag} (h : app.Keeps events place key text tag)
    (more : List Event) : app.Keeps (events ++ more) place key text tag := by
  obtain ⟨s, r, policy, args, value, hhandled, hkept⟩ := h
  exact ⟨s, r, policy, args, value, hhandled.append more, hkept⟩

/-- What happened in the rest of a run happened in the run. -/
theorem Handled.prepend {more : List Event} (h : (app.after events).Handled more s r args value) :
    app.Handled (events ++ more) s r args value where
  answered := by
    obtain ⟨earlier, now, later, tag, rfl, horigin, hresult⟩ := h.answered
    rw [← after_append] at horigin hresult
    exact ⟨events ++ earlier, now, later, tag, by simp, horigin, hresult⟩
  routed := by
    rw [← gateway_after app events]
    exact h.routed
  bound := h.bound
  outcome := h.outcome

theorem Keeps.prepend {more : List Event} {key text : String} {tag : CacheTag}
    (h : (app.after events).Keeps more place key text tag) :
    app.Keeps (events ++ more) place key text tag := by
  obtain ⟨s, r, policy, args, value, hhandled, hkept⟩ := h
  exact ⟨s, r, policy, args, value, hhandled.prepend, hkept⟩

/-! ### Runs as histories of caches -/

/-- **An event does to a cache what some operations do**, and a put among them keeps the value of the
event's request. -/
theorem exists_operations {e : Event} (h : (app.step e).2.state.stores[place]? = some (.cached cache)) :
    ∃ before ops, app.state.stores[place]? = some (.cached before) ∧ cache = before.performAll ops ∧
      ∀ stored key text tag, (stored, Cache.Operation.put key text tag) ∈ ops →
        app.Keeps [e] place key text tag := by
  cases e with
  | purge tag =>
    rcases stores_purge_cases h with hsame | ⟨before, hbefore, rfl⟩
    · exact ⟨cache, [], hsame, rfl, nofun⟩
    · refine ⟨before, [(0, .purge tag)], hbefore, rfl, fun stored key text tag' hmem => ?_⟩
      cases List.mem_singleton.mp hmem
  | request now r =>
    have hstores : (app.gateway.dispatch app.state now r).2.stores[place]? = some (.cached cache) := h
    rcases app.gateway.dispatch_cases app.state now r with
      ⟨-, hsame⟩ | ⟨s, policy, args, place', before, cache', hroute, hlooked, hthrough, hset⟩
    · rw [hsame] at hstores
      exact ⟨cache, [], hstores, rfl, nofun⟩
    rw [hset, List.getElem?_set] at hstores
    split at hstores
    · next hplace =>
      subst hplace
      rw [if_pos (List.getElem?_eq_some_iff.mp hlooked.cached).1] at hstores
      obtain rfl : cache' = cache := Store.cached.inj (Option.some.inj hstores)
      generalize horigin : (app.gateway.dispatch app.state now r).1.origin = origin at hthrough
      generalize hresult : (app.gateway.dispatch app.state now r).1.result = result at hthrough
      cases hthrough with
      | found => exact ⟨before, _, hlooked.cached, rfl, by simp⟩
      | failed => exact ⟨before, _, hlooked.cached, rfl, by simp⟩
      | @computed value houtcome =>
        refine ⟨before, _, hlooked.cached, rfl, fun stored key text tag hmem => ?_⟩
        obtain ⟨rfl, rfl, rfl, rfl⟩ : stored = now ∧ key = s.key r.call ∧
            text = value.clean.compact ∧ tag = policy.resolve args := by simpa using hmem
        have hanswered : app.Handled [.request stored r] s r args value :=
          ⟨⟨[], stored, [], _, rfl, horigin, hresult⟩, hroute, hlooked.bound, houtcome⟩
        exact ⟨s, r, policy, args, value, hanswered, hlooked.store, hlooked.policy, rfl, rfl, rfl⟩
    · exact ⟨cache, [], hstores, rfl, nofun⟩

/-- **A run does to a cache what a history does**, and every put of the history keeps the value of a
handled request. The induction is on the run, from its end. -/
theorem exists_history (h : (app.after events).state.stores[place]? = some (.cached cache)) :
    ∃ start history, app.state.stores[place]? = some (.cached start) ∧
      cache = start.performAll history ∧
      ∀ stored key text tag, (stored, Cache.Operation.put key text tag) ∈ history →
        app.Keeps events place key text tag := by
  induction events using List.reverseRecOn generalizing cache with
  | nil => exact ⟨cache, [], h, rfl, nofun⟩
  | append_singleton events e ih =>
    rw [after_append_singleton] at h
    obtain ⟨before, ops, hbefore, rfl, hops⟩ := exists_operations h
    obtain ⟨start, history, hstart, rfl, hkeeps⟩ := ih hbefore
    refine ⟨start, history ++ ops, hstart, (Cache.performAll_append start history ops).symm,
      fun stored key text tag hmem => ?_⟩
    rcases List.mem_append.mp hmem with hmem | hmem
    · exact (hkeeps stored key text tag hmem).append [e]
    · exact (hops stored key text tag hmem).prepend

/-! ### Entries in a run -/

section Fresh

variable (fresh : ∀ store ∈ app.state.stores, store.IsFresh)

include fresh

theorem exists_history_of_fresh
    (h : (app.after events).state.stores[place]? = some (.cached cache)) :
    ∃ capacity history, cache = (Cache.empty capacity).performAll history ∧
      ∀ stored key text tag, (stored, Cache.Operation.put key text tag) ∈ history →
        app.Keeps events place key text tag := by
  obtain ⟨start, history, hstart, hcache, hkeeps⟩ := exists_history h
  obtain ⟨capacity, rfl⟩ := fresh _ (List.mem_of_getElem? hstart)
  exact ⟨capacity, history, hcache, hkeeps⟩

/-- In a run, the entries and tags of every cache stay in step. -/
theorem isInStep_after (h : (app.after events).state.stores[place]? = some (.cached cache)) :
    cache.IsInStep := by
  obtain ⟨capacity, history, rfl, -⟩ := exists_history_of_fresh fresh h
  exact (Cache.isInStep_empty capacity).performAll history

/-- **Every entry keeps the value of a handled request**, under its key and its tag. -/
theorem keeps_of_mem {key : String} {c : CacheEntry}
    (h : (app.after events).state.stores[place]? = some (.cached cache))
    (hmem : (key, c) ∈ cache.entries) :
    ∃ tag, app.Keeps events place key c.value tag ∧ c.tag = tag.name := by
  obtain ⟨capacity, history, rfl, hkeeps⟩ := exists_history_of_fresh fresh h
  obtain ⟨stored, text, tag, since, ⟨⟨before, rfl⟩, -⟩, -, rfl⟩ :=
    Cache.exists_latestPut_of_mem capacity hmem
  exact ⟨tag, hkeeps stored key text tag (by simp), rfl⟩

/-- **What is served from a store was once handled**: by a service for a method of the same name, with
the same place for responses, and with arguments that have the same text. -/
theorem exists_handled_of_origin (horigin : ((app.after events).call now r).1.origin = .store) :
    ∃ s response, app.gateway.route? r.endpoint r.method = some s ∧
      ((app.after events).call now r).1.result = .ok response ∧
      ∃ s' r' args value, app.Handled events s' r' args value ∧
        s'.method.name = s.method.name ∧ s'.method.cache.isSome ∧ s'.store = s.store ∧
        Alike r'.params.toJson r.params.toJson ∧ parse? value.clean.compact = some response.value := by
  have hgateway := gateway_after app events
  have horigin' : ((app.after events).gateway.dispatch (app.after events).state now r).1.origin = .store :=
    horigin
  rcases (app.after events).gateway.dispatch_cases (app.after events).state now r with
    ⟨hnot, -⟩ | ⟨s, policy, args, place, cache, cache', hroute, hlooked, hthrough, -⟩
  · exact absurd horigin' hnot
  · rw [horigin'] at hthrough
    generalize hresult : ((app.after events).gateway.dispatch (app.after events).state now r).1.result
      = result at hthrough
    cases hthrough with
    | @found text value hserved hreadable =>
      obtain ⟨c, hmem, rfl⟩ := Cache.exists_mem_of_get hserved
      obtain ⟨tag, ⟨s', r', policy', args', v, hhandled, hstore, hpolicy, hkey, htext, -⟩, -⟩ :=
        keeps_of_mem fresh hlooked.cached hmem
      obtain ⟨hname, halike⟩ := alike_of_responseKey_eq hkey.symm
      refine ⟨s, _, ?_, hresult, s', r', args', v, hhandled, hname, ?_, ?_, halike, ?_⟩
      · rw [← hgateway]
        exact hroute
      · rw [hpolicy]
        rfl
      · rw [hstore, hlooked.store]
      · rw [← htext]
        exact hreadable

end Fresh

/-! ### Methods with the same name -/

/-- **Methods of different names do not answer with each other's responses.** Let methods be registered
that share one store, which starts empty, and let something happen to the gateway. Let a request be
answered from the store then: with a value that is kept for it, and no handler does any work. The value
is read back from what the handler of a registered method of the same name had for an earlier request
with the same arguments, in the world in which it was asked; it is that value as it was cleaned, if
there are no floating-point numbers in it. If no other registered method of the name keeps responses,
the handler is that of the method that is called.

The limiter may be of any kind, and the handlers may remember what they like. And it is so for an
application, of which every answer tells where it comes from. -/
theorem exists_handled_of_stored (methods : List Method) (capacity : Nat) (events : List Event)
    (now : Moment) (r : Request) :
    let gateway := ((({} : Gateway).withStore 0).registerAll methods).2.1
    (∀ {L R S : Type} (W : Surroundings L R) (emit : S → Metrics.Event → S) (limiter : L) (rest : R)
      (sink : S) (s : Service) (args : Arguments) (value : Json),
      let start : World L (List Store × R) S := ⟨limiter, ([.cached (.empty capacity)], rest), sink⟩
      let before := W.after emit gateway start events
      let (result, w) := (W.withStores.dispatch emit gateway now r).run before
      W.Reaches gateway before.limiter now r s args →
      s.kept? before.rest.1 now r.call = some value →
      result = .ok ⟨value, s.method.cache.map (·.resolve args)⟩ ∧ w.rest.2 = before.rest.2 ∧
      ∃ s' r' args' value', W.Handled emit gateway start events s' r' args' value' ∧
        s'.method.name = s.method.name ∧ Alike r'.params.toJson r.params.toJson ∧
        parse? value'.clean.compact = some value ∧
        (IsFloatless value' → value = value'.clean) ∧
        ((∀ other ∈ gateway.services, other.method.name = s.method.name →
          other.method.cache.isSome → other = s) → s' = s)) ∧
    ∀ limiter : Limiter,
      let app : Application := { gateway, state := { limiter, stores := [.cached (.empty capacity)] } }
      let answer := ((app.after events).call now r).1
      answer.origin = .store →
      ∃ s response, gateway.route? r.endpoint r.method = some s ∧ answer.result = .ok response ∧
        ∃ s' r' args value, app.Handled events s' r' args value ∧
          s'.method.name = s.method.name ∧ Alike r'.params.toJson r.params.toJson ∧
          parse? value.clean.compact = some response.value ∧
          (IsFloatless value → response.value = value.clean) ∧
          ((∀ other ∈ gateway.services, other.method.name = s.method.name →
            other.method.cache.isSome → other = s) → s' = s) := by
  intro gateway
  constructor
  · intro L R S W emit limiter rest sink s args value start before hreaches hkept
    have fresh : ∀ cache, .cached cache ∈ start.rest.1 → cache.entries = [] := by
      intro cache hmem
      obtain rfl : cache = .empty capacity := Store.cached.inj (List.mem_singleton.mp hmem)
      rfl
    obtain ⟨hresult, hrest⟩ := Surroundings.run_dispatch_of_kept hreaches hkept emit
    obtain ⟨s', r', args', value', hhandled, hname, hcache, halike, hread⟩ :=
      Surroundings.exists_handled_of_kept fresh hkept
    refine ⟨hresult, hrest, s', r', args', value', hhandled, hname, halike, hread,
      fun hfloatless => (isClean_clean hfloatless).eq_of_parse? hread, fun hunique => ?_⟩
    obtain ⟨earlier, now', later, -, hreaches', -⟩ := hhandled
    exact hunique s' (Gateway.mem_services_of_route? hreaches'.routed) hname hcache
  · intro limiter app answer horigin
    have fresh : ∀ store ∈ app.state.stores, store.IsFresh :=
      List.forall_mem_singleton.mpr ⟨capacity, rfl⟩
    obtain ⟨s, response, hroute, hresult, s', r', args, value, hhandled, hname, hcache, -, halike,
      hread⟩ := exists_handled_of_origin fresh horigin
    refine ⟨s, response, hroute, hresult, s', r', args, value, hhandled, hname, halike, hread,
      fun hfloatless => (isClean_clean hfloatless).eq_of_parse? hread, fun hunique => ?_⟩
    exact hunique s' (Gateway.mem_services_of_route? hhandled.routed) hname hcache

/-- A method that is asked twice answers from the store the second time, also if its handler would say
something else by then. -/
theorem exists_handled_of_stored_twice :
    let method : Method :=
      { name := "m", aliases := ["a"], cache := some .allProjects
        handler := fun _ _ => { outcome := .ok .null } }
    let gateway := ((({} : Gateway).withStore 0).registerAll [method]).2.1
    let asked : Request := { endpoint := "a", method := "m" }
    let events : List Event := [.request 0 asked]
    let W : Surroundings Unit Nat :=
      { hit := fun _ _ _ => (), test := fun _ _ _ => (true, ()), resetsIn := fun _ _ _ => (.ok none, ())
        lookup := fun n _ _ _ _ => (.ok none, n), keep := fun n _ _ _ _ _ => (.ok false, n)
        handle := fun n _ _ _ => (.ok (.bool (n = 0)), n + 1) }
    let start : World Unit (List Store × Nat) Unit := ⟨(), ([.cached (.empty 1)], 0), ()⟩
    let app : Application :=
      { gateway, state := { limiter := .unlimited, stores := [.cached (.empty 1)] } }
    let answer := ((app.after events).call 1 asked).1
    (∃ s, gateway.route? asked.endpoint asked.method = some s ∧
      ((W.withStores.dispatch (fun _ _ => ()) gateway 1 asked).run
        (W.after (fun _ _ => ()) gateway start events)).1 =
          .ok ⟨.bool true, s.method.cache.map (·.resolve ⟨[]⟩)⟩ ∧
      ∃ s' r' args' value', W.Handled (fun _ _ => ()) gateway start events s' r' args' value' ∧
        parse? value'.clean.compact = some (.bool true)) ∧
    answer.origin = .store ∧
    ∃ s response, gateway.route? asked.endpoint asked.method = some s ∧
      answer.result = .ok response ∧
      ∃ s' r' args value, app.Handled events s' r' args value ∧
        s'.method.name = s.method.name ∧ Alike r'.params.toJson asked.params.toJson ∧
        parse? value.clean.compact = some response.value ∧
        (IsFloatless value → response.value = value.clean) ∧
        ((∀ other ∈ gateway.services, other.method.name = s.method.name →
          other.method.cache.isSome → other = s) → s' = s) := by
  intro method gateway asked events W start app answer
  obtain ⟨hany, hown⟩ := exists_handled_of_stored [method] 1 events 1 asked
  have hroute : gateway.route? asked.endpoint asked.method = some ⟨0, method, some 0⟩ := by
    simp [gateway, method, asked, Gateway.registerAll, Gateway.register, Gateway.objection?,
      Gateway.accept, Gateway.route?, Gateway.withStore, Method.endpoints, Method.isServedAt,
      List.eraseReps, List.eraseRepsBy, List.eraseRepsBy.loop]
  have hreaches : W.Reaches gateway () 1 asked ⟨0, method, some 0⟩ ⟨[]⟩ :=
    ⟨by decide, hroute, rfl, rfl⟩
  have hkept : ((⟨0, method, some 0⟩ : Service).kept?
      (W.after (fun _ _ => ()) gateway start events).rest.1 1 asked.call).bind Json.bool? = some true := by
    decide +kernel
  have horigin : answer.origin = .store := by decide +kernel
  refine ⟨?_, horigin, hown .unlimited horigin⟩
  obtain ⟨value, hvalue, htrue⟩ := Option.bind_eq_some_iff.mp hkept
  obtain rfl : value = .bool true := by
    cases value with
    | bool b => exact congrArg Json.bool (Option.some.inj htrue)
    | _ => cases htrue
  obtain ⟨hresult, -, s', r', args', value', hhandled, -, -, hread, -⟩ :=
    hany W (fun _ _ => ()) () 0 () ⟨0, method, some 0⟩ ⟨[]⟩ (.bool true) hreaches hvalue
  exact ⟨_, hroute, hresult, s', r', args', value', hhandled, hread⟩

/-- **A method can answer with the response of another**, if both have the same name, are registered at
different endpoints and take the same store: the second answers with what the first has said, which
its own handler never says. -/
theorem stored_of_other_method :
    let keeping (endpoint : String) (spoken : Bool) : Method :=
      { name := "m", aliases := [endpoint], cache := some .allProjects
        handler := fun _ _ => { outcome := .ok (.bool spoken) } }
    let registered := (({} : Gateway).withStore 0).registerAll [keeping "a" true, keeping "b" false]
    let app : Application :=
      { gateway := registered.2.1, state := { limiter := .unlimited, stores := [.cached (.empty 1)] } }
    let asked (endpoint : String) : Request := { endpoint, method := "m" }
    let answer := ((app.after [.request 0 (asked "a")]).call 1 (asked "b")).1
    registered.1 = none ∧
    (∃ s, registered.2.1.route? "b" "m" = some s ∧
      ∀ call args, (s.method.handler call args).outcome = .ok (.bool false)) ∧
    answer.origin = .store ∧
    ∃ response, answer.result = .ok response ∧ response.value = .bool true := by
  intro keeping registered app asked answer
  have hregistered : registered.1 = none := by decide +kernel
  have hroute : registered.2.1.route? "b" "m" = some ⟨1, keeping "b" false, some 0⟩ := by
    simp [registered, keeping, Gateway.registerAll, Gateway.register, Gateway.objection?,
      Gateway.accept, Gateway.route?, Gateway.withStore, Method.endpoints, Method.isServedAt,
      List.eraseReps, List.eraseRepsBy, List.eraseRepsBy.loop]
  have horigin : answer.origin = .store := by decide +kernel
  have hspoken : answer.result.toOption.bind (·.value.bool?) = some true := by decide +kernel
  refine ⟨hregistered, ⟨_, hroute, fun call args => rfl⟩, horigin, ?_⟩
  cases hresult : answer.result with
  | error fault =>
    rw [hresult] at hspoken
    cases hspoken
  | ok response =>
    rw [hresult] at hspoken
    have hbool : response.value.bool? = some true := hspoken
    refine ⟨response, rfl, ?_⟩
    cases hvalue : response.value with
    | bool b =>
      rw [hvalue] at hbool
      cases hbool
      rfl
    | _ =>
      rw [hvalue] at hbool
      cases hbool

end Application

end IndexGateway

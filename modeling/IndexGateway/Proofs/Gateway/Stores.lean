import IndexGateway.Gateway.Basic
import IndexGateway.Cache.Operation
import IndexGateway.Proofs.Cache.Entries

/-!
# What serving a call does to the stores

Most calls leave the stores alone: they are turned away, or their method keeps no
responses, or it has no store that works. A call that does reach a cache looks up its
key; if nothing is found and the handler has a value, it puts the value there. This is
said once (`Service.serve_cases`), and what holds of the stores in a run is derived from
it. What is in a cache shows in the answer to a call only through what the key of the call
serves (`Gateway.answer_dispatch_congr`).
-/

namespace IndexGateway

open Json

namespace Service

variable {s : Service} {state : State} {now : Moment} {call : Call} {args : Arguments}
  {cache : Cache}

/-- The key under which the response to a call is looked up. -/
def key (s : Service) (call : Call) : String := responseKey s.method.name call.params

/-! ### Through a cache -/

/-- **What comes of looking up a call in a cache**: a text is found and is that of a value; or the
handler has a fault; or it has a value, which is cleaned and put there. -/
inductive Through (s : Service) (cache : Cache) (now : Moment) (call : Call) (args : Arguments)
    (tag : CacheTag) : Origin → Except Ending Response → Cache → Prop where
  /-- The value of a text that is found. -/
  | found {text : String} {value : Json} (served : (cache.get now (s.key call)).1 = some text)
      (readable : parse? text = some value) :
      Through s cache now call args tag .store (.ok ⟨value, some tag⟩)
        (cache.performAll [(now, .get (s.key call))])
  /-- A fault of the handler. -/
  | failed {fault : Fault} (outcome : (s.method.handler call args).outcome = .error fault) :
      Through s cache now call args tag .handler (.error fault)
        (cache.performAll [(now, .get (s.key call))])
  /-- A value of the handler. -/
  | computed {value : Json} (outcome : (s.method.handler call args).outcome = .ok value) :
      Through s cache now call args tag .handler (.ok ⟨value.clean, some tag⟩)
        (cache.performAll [(now, .get (s.key call)), (now, .put (s.key call) value.clean.compact tag)])

theorem answerThrough_cached (s : Service) (cache : Cache) (now : Moment) (call : Call)
    (args : Arguments) (tag : CacheTag) :
    ∃ answer cache', s.answerThrough (.cached cache) now call args tag = (answer, .cached cache') ∧
      s.Through cache now call args tag answer.origin answer.result cache' := by
  have hcache := Responses.cache_get cache now s.method.name call.params
  unfold answerThrough Store.get
  dsimp only
  generalize hfound : Responses.get cache now s.method.name call.params = looked at hcache
  obtain ⟨found, cache', log⟩ := looked
  obtain rfl : cache' = (cache.get now (s.key call)).2 := hcache
  dsimp only
  split
  · next value store' log' heq =>
    obtain ⟨rfl, rfl, rfl⟩ : found = .ok (some value) ∧ _ = store' ∧ log = log' := by simpa using heq
    obtain ⟨text, htext, hparse⟩ := Responses.exists_of_get (congrArg Prod.fst hfound)
    exact ⟨_, _, rfl, .found htext hparse⟩
  · next missed store' log' hmissed heq =>
    obtain ⟨-, rfl, -⟩ : found = missed ∧ _ = store' ∧ log = log' := by simpa using heq
    cases houtcome : (s.method.handler call args).outcome with
    | error fault =>
      unfold compute Answer.after
      simp only [houtcome]
      exact ⟨_, _, rfl, .failed houtcome⟩
    | ok value =>
      unfold compute Answer.after
      simp only [houtcome]
      exact ⟨_, _, rfl, .computed houtcome⟩

/-- A store that is out of order is left as it is. -/
theorem answerThrough_outOfOrder (s : Service) (reason : String) (now : Moment) (call : Call)
    (args : Arguments) (tag : CacheTag) :
    (s.answerThrough (.outOfOrder reason) now call args tag).1.origin = .handler ∧
      (s.answerThrough (.outOfOrder reason) now call args tag).2 = .outOfOrder reason := by
  unfold answerThrough Store.get compute Answer.after
  dsimp only
  split <;> exact ⟨rfl, rfl⟩

/-! ### Serving -/

/-- A call that is looked up in the cache at a place: its method keeps responses under a tag, its
arguments are bound, and this is the place of the service's store. -/
structure IsLookedUp (s : Service) (stores : List Store) (call : Call) (policy : CachePolicy)
    (args : Arguments) (place : Nat) (cache : Cache) : Prop where
  /-- The method keeps responses. -/
  policy : s.method.cache = some policy
  /-- The arguments are bound. -/
  bound : s.method.schema.bind call.params = .ok args
  /-- The service has a place for responses. -/
  store : s.store = some place
  /-- There is a cache at this place. -/
  cached : stores[place]? = some (.cached cache)

/-- Where there is one store, it is the one that is asked. -/
theorem IsLookedUp.of_singleton {policy : CachePolicy} {place : Nat} {cache' : Cache}
    (h : s.IsLookedUp [.cached cache] call policy args place cache') : place = 0 ∧ cache' = cache := by
  have hcached := h.cached
  cases place with
  | zero => exact ⟨rfl, (Store.cached.inj (Option.some.inj hcached)).symm⟩
  | succ place => cases hcached

theorem answerAdmitted_cases (s : Service) (stores : List Store) (now : Moment) (call : Call) :
    ((s.answerAdmitted stores now call).1.origin ≠ .store ∧
      (s.answerAdmitted stores now call).2 = stores) ∨
    ∃ policy args place cache cache', s.IsLookedUp stores call policy args place cache ∧
      s.Through cache now call args (policy.resolve args) (s.answerAdmitted stores now call).1.origin
        (s.answerAdmitted stores now call).1.result cache' ∧
      (s.answerAdmitted stores now call).2 = stores.set place (.cached cache') := by
  unfold answerAdmitted
  cases hargs : s.method.schema.bind call.params with
  | error fault => exact .inl ⟨nofun, rfl⟩
  | ok args =>
    dsimp only
    unfold answerBound
    cases hpolicy : s.method.cache with
    | none => exact .inl ⟨nofun, rfl⟩
    | some policy =>
      dsimp only
      cases hplace : s.store with
      | none => exact .inl ⟨nofun, rfl⟩
      | some place =>
        dsimp only
        cases hstore : stores[place]? with
        | none => exact .inl ⟨nofun, rfl⟩
        | some store =>
          dsimp only
          cases store with
          | outOfOrder reason =>
            left
            obtain ⟨horigin, hsame⟩ :=
              s.answerThrough_outOfOrder reason now call args (policy.resolve args)
            rw [horigin, hsame]
            refine ⟨nofun, ?_⟩
            obtain ⟨hlt, hget⟩ := List.getElem?_eq_some_iff.mp hstore
            rw [← hget, List.set_getElem_self]
          | cached cache =>
            right
            obtain ⟨answer, cache', heq, hthrough⟩ :=
              s.answerThrough_cached cache now call args (policy.resolve args)
            rw [heq]
            exact ⟨policy, args, place, cache, cache', ⟨hpolicy, hargs, hplace, hstore⟩, hthrough, rfl⟩

/-- **What serving a call does to the stores**: nothing, and then the answer does not come from one;
or the call is looked up in the cache of the service. -/
theorem serve_cases (s : Service) (state : State) (now : Moment) (call : Call) :
    ((s.serve state now call).1.origin ≠ .store ∧ (s.serve state now call).2.stores = state.stores) ∨
    ∃ policy args place cache cache', s.IsLookedUp state.stores call policy args place cache ∧
      s.Through cache now call args (policy.resolve args) (s.serve state now call).1.origin
        (s.serve state now call).1.result cache' ∧
      (s.serve state now call).2.stores = state.stores.set place (.cached cache') := by
  unfold serve
  dsimp only
  cases (Admission.judge state.limiter now call.caller).refused with
  | some fault => exact .inl ⟨nofun, rfl⟩
  | none => exact s.answerAdmitted_cases state.stores now call

/-! ### Caches that serve the same -/

theorem answerThrough_congr (s : Service) {cache' : Cache} (args : Arguments) (tag : CacheTag)
    (h : (cache.get now (s.key call)).1 = (cache'.get now (s.key call)).1) :
    (s.answerThrough (.cached cache) now call args tag).1 =
      (s.answerThrough (.cached cache') now call args tag).1 := by
  obtain ⟨hfound, hlog⟩ := Responses.get_congr h
  unfold answerThrough Store.get
  dsimp only
  generalize Responses.get cache now s.method.name call.params = looked at hfound hlog
  generalize Responses.get cache' now s.method.name call.params = looked' at hfound hlog
  obtain ⟨found, after, log⟩ := looked
  obtain ⟨found', after', log'⟩ := looked'
  obtain rfl : found = found' := hfound
  obtain rfl : log = log' := hlog
  have hkept : ∀ (cache cache' : Cache) (response : Response),
      ((Store.cached cache).put now s.method.name call.params response).1 =
        ((Store.cached cache').put now s.method.name call.params response).1 := by
    intro cache cache' response
    unfold Store.put Responses.put
    cases response.cache <;> rfl
  rcases found with e | _ | value
  case ok.some => rfl
  -- what is computed after a failure or a miss does not depend on the cache
  all_goals
    dsimp only
    generalize (s.compute call args (some tag)).after _ = computed
    obtain ⟨result, origin, events, log⟩ := computed
    cases result with
    | error fault => rfl
    | ok response =>
      dsimp only
      rw [hkept after after' response]

/-- **Caches that serve the same for a call answer it alike.** -/
theorem answer_serve_congr (s : Service) (limiter : Limiter) {cache' : Cache}
    (h : ∀ args, s.method.cache.isSome → s.method.schema.bind call.params = .ok args →
      (cache.get now (s.key call)).1 = (cache'.get now (s.key call)).1) :
    (s.serve ⟨limiter, [.cached cache]⟩ now call).1 =
      (s.serve ⟨limiter, [.cached cache']⟩ now call).1 := by
  have hadmitted : (s.answerAdmitted [.cached cache] now call).1 =
      (s.answerAdmitted [.cached cache'] now call).1 := by
    unfold answerAdmitted
    cases hargs : s.method.schema.bind call.params with
    | error fault => rfl
    | ok args =>
      dsimp only
      unfold answerBound
      cases hpolicy : s.method.cache with
      | none => rfl
      | some policy =>
        dsimp only
        match s.store with
        | none => rfl
        | some (_ + 1) => rfl
        | some 0 =>
          exact s.answerThrough_congr args (policy.resolve args)
            (h args (by rw [hpolicy]; rfl) hargs)
  unfold serve
  dsimp only
  cases (Admission.judge limiter now call.caller).refused with
  | some fault => rfl
  | none =>
    dsimp only
    rw [hadmitted]

end Service

namespace Gateway

/-- **What dispatching a request does to the stores**: nothing, and then the answer does not come from
one; or the request has a route, and its call is looked up in the cache of the service. -/
theorem dispatch_cases (g : Gateway) (state : State) (now : Moment) (r : Request) :
    ((g.dispatch state now r).1.origin ≠ .store ∧
      (g.dispatch state now r).2.stores = state.stores) ∨
    ∃ s policy args place cache cache', g.route? r.endpoint r.method = some s ∧
      s.IsLookedUp state.stores r.call policy args place cache ∧
      s.Through cache now r.call args (policy.resolve args) (g.dispatch state now r).1.origin
        (g.dispatch state now r).1.result cache' ∧
      (g.dispatch state now r).2.stores = state.stores.set place (.cached cache') := by
  unfold dispatch
  split
  · split
    · next s hroute =>
      rcases s.serve_cases state now r.call with h |
        ⟨policy, args, place, cache, cache', hlooked, hthrough, hstores⟩
      · exact .inl h
      · exact .inr ⟨s, policy, args, place, cache, cache', hroute, hlooked, hthrough, hstores⟩
    · exact .inl ⟨nofun, rfl⟩
  · exact .inl ⟨nofun, rfl⟩

/-- **Caches that serve the same for a request answer it alike.** -/
theorem answer_dispatch_congr (g : Gateway) (limiter : Limiter) {cache cache' : Cache} {now : Moment}
    {r : Request}
    (h : ∀ s args, g.route? r.endpoint r.method = some s → s.method.cache.isSome →
      s.method.schema.bind r.params = .ok args →
      (cache.get now (s.key r.call)).1 = (cache'.get now (s.key r.call)).1) :
    (g.dispatch ⟨limiter, [.cached cache]⟩ now r).1 =
      (g.dispatch ⟨limiter, [.cached cache']⟩ now r).1 := by
  unfold dispatch
  split
  · split
    · next s hroute => exact s.answer_serve_congr limiter fun args => h s args hroute
    · rfl
  · rfl

end Gateway

end IndexGateway

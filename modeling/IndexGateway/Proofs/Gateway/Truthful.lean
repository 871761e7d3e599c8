import IndexGateway.Gateway.Basic
import IndexGateway.Proofs.Cache.Entries
import IndexGateway.Proofs.Cache.Key
import IndexGateway.Proofs.Json.Cleaned
import IndexGateway.Proofs.Json.ReadBack

/-!
# Stores that tell the truth

A store does not change the answers of a gateway as long as each of its entries says
what the handler would say: the entry under the key of a call is the text of the
clean value that the handler has for it. Such a store is *truthful*.

Stores stay truthful if handlers are *reproducible*: calls with the same key are
answered alike by the handlers of all methods whose responses are kept, and what
they answer survives being written and read again.

## What is proved

Serving a call with truthful stores has the result, and leaves the limiter, that it
has without any store, and leaves truthful stores (`Service.serve_of_isTruthful`); so does
dispatching a request (`Gateway.dispatch_of_isTruthful`). Answers of stores out of order,
entries that expired, entries that made room for others and purged tags need no
argument of their own: they are all misses.
-/

namespace IndexGateway

open Json

/-! ### Reproducible methods -/

/-- What makes it safe to answer a call with a kept response of an earlier one. -/
structure Gateway.IsReproducible (g : Gateway) : Prop where
  /-- Calls with the same key are answered alike, when the arguments of both can be bound. -/
  outcome_eq : ∀ s ∈ g.services, ∀ s' ∈ g.services, s.method.cache.isSome → s'.method.cache.isSome →
    ∀ {call call' : Call} {args args' : Arguments}, s.method.schema.bind call.params = .ok args →
      s'.method.schema.bind call'.params = .ok args' →
      responseKey s.method.name call.params = responseKey s'.method.name call'.params →
      (s.method.handler call args).outcome = (s'.method.handler call' args').outcome
  /-- Answers survive being written and read again. -/
  readable : ∀ s ∈ g.services, s.method.cache.isSome →
    ∀ {call : Call} {args : Arguments} {value : Json}, s.method.schema.bind call.params = .ok args →
      (s.method.handler call args).outcome = .ok value →
      IsFloatless value ∧ value.nesting ≤ nestingLimit

/-! ### Truthful stores -/

/-- Every entry holds what the handler of each method would answer to each call with its key. -/
def Cache.IsTruthful (g : Gateway) (cache : Cache) : Prop :=
  ∀ e ∈ cache.entries, ∀ s ∈ g.services, s.method.cache.isSome →
    ∀ {call : Call} {args : Arguments}, s.method.schema.bind call.params = .ok args →
      e.1 = responseKey s.method.name call.params →
      ∃ value, (s.method.handler call args).outcome = .ok value ∧
        parse? e.2.value = some value.clean

/-- A cache in a store is truthful; a store that is out of order holds nothing. -/
def Store.IsTruthful (g : Gateway) : Store → Prop
  | .cached cache => cache.IsTruthful g
  | .outOfOrder _ => True

/-- Every store is truthful. -/
def State.IsTruthful (g : Gateway) (state : State) : Prop := ∀ store ∈ state.stores, store.IsTruthful g

theorem isTruthful_empty (g : Gateway) (capacity : Nat) : (Cache.empty capacity).IsTruthful g :=
  fun _ h => nomatch h

/-- A cache whose entries are those of a truthful cache is truthful. -/
theorem Cache.IsTruthful.of_subset {g : Gateway} {cache cache' : Cache} (h : cache.IsTruthful g)
    (hsub : ∀ e ∈ cache'.entries, e ∈ cache.entries) : cache'.IsTruthful g :=
  fun e he => h e (hsub e he)

/-! ### Looking up and keeping -/

section Through

variable {g : Gateway} {s : Service} {call : Call} {args : Arguments} {now : Moment}

/-- What a truthful store has for a call is what the handler would say. -/
theorem Store.IsTruthful.get {store : Store} (h : store.IsTruthful g) (hs : s ∈ g.services)
    (hcache : s.method.cache.isSome) (hargs : s.method.schema.bind call.params = .ok args)
    {value : Json} (hvalue : (store.get now s.method.name call.params).1 = .ok (some value)) :
    ∃ v, (s.method.handler call args).outcome = .ok v ∧ v.clean = value := by
  cases store with
  | outOfOrder reason => cases hvalue
  | cached cache =>
    obtain ⟨text, hget, hparse⟩ := Responses.exists_of_get hvalue
    obtain ⟨c, hmem, rfl⟩ := Cache.exists_mem_of_get hget
    obtain ⟨v, hv, hparse'⟩ := h _ hmem s hs hcache hargs rfl
    exact ⟨v, hv, Option.some.inj (hparse'.symm.trans hparse)⟩

/-- A look-up leaves a truthful store. -/
theorem Store.IsTruthful.after_get {store : Store} (h : store.IsTruthful g) (method : String)
    (params : Params) : (store.get now method params).2.1.IsTruthful g := by
  cases store with
  | outOfOrder reason => exact h
  | cached cache =>
    have hsub : ∀ e ∈ (Responses.get cache now method params).2.1.entries, e ∈ cache.entries := by
      rw [Responses.cache_get]
      exact fun e he => Cache.mem_entries_get he
    exact h.of_subset hsub

/-- Keeping the clean value of a handler leaves a truthful store. -/
theorem Store.IsTruthful.after_put {store : Store} (h : store.IsTruthful g)
    (hg : g.IsReproducible) (hs : s ∈ g.services) (hcache : s.method.cache.isSome)
    (hargs : s.method.schema.bind call.params = .ok args) {value : Json}
    (hvalue : (s.method.handler call args).outcome = .ok value) (tag : Option CacheTag) :
    (store.put now s.method.name call.params ⟨value.clean, tag⟩).2.IsTruthful g := by
  cases store with
  | outOfOrder reason => exact h
  | cached cache =>
    cases tag with
    | none => exact h
    | some tag =>
      intro e he s' hs' hcache' call' args' hargs' hkey
      rcases Cache.mem_entries_put he with rfl | he
      · obtain ⟨hfloatless, hnesting⟩ := hg.readable s hs hcache hargs hvalue
        have hparse := parse?_compact hfloatless.clean (hasDistinctKeys_clean value)
        rw [if_pos (Nat.le_trans (nesting_clean_le value) hnesting)] at hparse
        have hsame := hg.outcome_eq s hs s' hs' hcache hcache' hargs hargs' hkey
        exact ⟨value, hsame.symm.trans hvalue, hparse⟩
      · exact h e he s' hs' hcache' hargs' hkey

end Through

/-! ### Serving with and without stores -/

/-- The state without its stores. -/
def State.withoutStores (state : State) : State := { state with stores := [] }

namespace Service

variable {g : Gateway} {s : Service} {call : Call} {args : Arguments} {now : Moment}

theorem result_compute_eq_ok_iff {tag : Option CacheTag} {response : Response} :
    (s.compute call args tag).result = .ok response ↔
      ∃ v, (s.method.handler call args).outcome = .ok v ∧ response = ⟨v.clean, tag⟩ := by
  unfold compute
  dsimp only
  cases (s.method.handler call args).outcome with
  | error fault => simp
  | ok v => simp [eq_comm]

theorem answerThrough_of_isTruthful (hg : g.IsReproducible) (hs : s ∈ g.services)
    (hcache : s.method.cache.isSome) (hargs : s.method.schema.bind call.params = .ok args)
    {store : Store} (h : store.IsTruthful g) (tag : CacheTag) :
    (s.answerThrough store now call args tag).1.result = (s.compute call args (some tag)).result ∧
      (s.answerThrough store now call args tag).2.IsTruthful g := by
  have hafter := @Store.IsTruthful.after_get g now store h s.method.name call.params
  unfold answerThrough
  split
  · next value store' log hget =>
    rw [hget] at hafter
    obtain ⟨v, hv, hclean⟩ := h.get hs hcache hargs (congrArg Prod.fst hget)
    refine ⟨?_, hafter⟩
    rw [← hclean]
    exact (result_compute_eq_ok_iff.mpr ⟨v, hv, rfl⟩).symm
  · next missed store' log hmiss hget =>
    rw [hget] at hafter
    dsimp only
    split
    · exact ⟨rfl, hafter⟩
    · next response hresult =>
      obtain ⟨v, hv, rfl⟩ := result_compute_eq_ok_iff.mp hresult
      exact ⟨rfl, hafter.after_put hg hs hcache hargs hv (some tag)⟩

/-- Without stores, the handler answers every call. -/
theorem answerBound_nil : s.answerBound [] now call args =
    (s.compute call args (s.method.cache.map (·.resolve args)), []) := by
  unfold answerBound
  cases s.method.cache with
  | none => rfl
  | some policy => cases s.store <;> rfl

theorem answerBound_of_isTruthful (hg : g.IsReproducible) (hs : s ∈ g.services)
    (hargs : s.method.schema.bind call.params = .ok args) {stores : List Store}
    (h : ∀ store ∈ stores, store.IsTruthful g) :
    (s.answerBound stores now call args).1.result = (s.answerBound [] now call args).1.result ∧
      ∀ store ∈ (s.answerBound stores now call args).2, store.IsTruthful g := by
  rw [answerBound_nil]
  unfold answerBound
  cases hcache : s.method.cache with
  | none => exact ⟨rfl, h⟩
  | some policy =>
    dsimp only
    cases s.store with
    | none => exact ⟨rfl, h⟩
    | some place =>
      dsimp only
      cases hstore : stores[place]? with
      | none => exact ⟨rfl, h⟩
      | some store =>
        have hthrough := @answerThrough_of_isTruthful g s call args now hg hs (by rw [hcache]; rfl)
          hargs store (h store (List.mem_of_getElem? hstore)) (policy.resolve args)
        refine ⟨hthrough.1, fun other hother => ?_⟩
        rcases List.mem_or_eq_of_mem_set hother with hother | rfl
        · exact h other hother
        · exact hthrough.2

theorem answerAdmitted_of_isTruthful (hg : g.IsReproducible) (hs : s ∈ g.services)
    {stores : List Store} (h : ∀ store ∈ stores, store.IsTruthful g) (call : Call) :
    (s.answerAdmitted stores now call).1.result = (s.answerAdmitted [] now call).1.result ∧
      ∀ store ∈ (s.answerAdmitted stores now call).2, store.IsTruthful g := by
  unfold answerAdmitted
  cases hargs : s.method.schema.bind call.params with
  | error fault => exact ⟨rfl, h⟩
  | ok args => exact answerBound_of_isTruthful hg hs hargs h

theorem answerAdmitted_nil (call : Call) : (s.answerAdmitted [] now call).2 = [] := by
  unfold answerAdmitted
  split
  · rfl
  · rw [answerBound_nil]

/-- Whoever is refused gets the fault; whoever is admitted gets the answer. -/
theorem result_serve (s : Service) (state : State) (now : Moment) (call : Call) :
    (s.serve state now call).1.result =
      match (Admission.judge state.limiter now call.caller).refused with
      | some fault => .error fault
      | none => (s.answerAdmitted state.stores now call).1.result := by
  unfold serve
  dsimp only
  cases (Admission.judge state.limiter now call.caller).refused <;> rfl

theorem limiter_serve (s : Service) (state : State) (now : Moment) (call : Call) :
    (s.serve state now call).2.limiter = (Admission.judge state.limiter now call.caller).limiter := by
  unfold serve
  rfl

theorem stores_serve (s : Service) (state : State) (now : Moment) (call : Call) :
    (s.serve state now call).2.stores =
      match (Admission.judge state.limiter now call.caller).refused with
      | some _ => state.stores
      | none => (s.answerAdmitted state.stores now call).2 := by
  unfold serve
  dsimp only
  cases (Admission.judge state.limiter now call.caller).refused <;> rfl

theorem stores_serve_nil (s : Service) {state : State} (h : state.stores = []) (now : Moment)
    (call : Call) : (s.serve state now call).2.stores = [] := by
  rw [stores_serve, h]
  split
  · rfl
  · exact answerAdmitted_nil call

/-- **Serving a call with truthful stores** has the same result as serving it without stores. -/
theorem serve_of_isTruthful (hg : g.IsReproducible) (hs : s ∈ g.services) {state : State}
    (h : state.IsTruthful g) (now : Moment) (call : Call) :
    (s.serve state now call).1.result = (s.serve state.withoutStores now call).1.result ∧
      (s.serve state now call).2.withoutStores = (s.serve state.withoutStores now call).2 ∧
      (s.serve state now call).2.IsTruthful g := by
  obtain ⟨hresult, hstores⟩ := @answerAdmitted_of_isTruthful g s now hg hs state.stores h call
  refine ⟨?_, ?_, ?_⟩
  · rw [result_serve, result_serve, hresult]
    rfl
  · have hnil : (s.serve state.withoutStores now call).2.stores = [] := s.stores_serve_nil rfl now call
    rw [State.withoutStores, limiter_serve, ← hnil]
    rfl
  · unfold State.IsTruthful
    rw [stores_serve]
    split
    · exact h
    · exact hstores

end Service

namespace Gateway

theorem mem_services_of_route? {g : Gateway} {endpoint method : String} {s : Service}
    (h : g.route? endpoint method = some s) : s ∈ g.services :=
  List.mem_of_find?_eq_some h

/-- **Dispatching a request with truthful stores** has the same result as dispatching it without
stores. -/
theorem dispatch_of_isTruthful {g : Gateway} (hg : g.IsReproducible) {state : State}
    (h : state.IsTruthful g) (now : Moment) (r : Request) :
    (g.dispatch state now r).1.result = (g.dispatch state.withoutStores now r).1.result ∧
      (g.dispatch state now r).2.withoutStores = (g.dispatch state.withoutStores now r).2 ∧
      (g.dispatch state now r).2.IsTruthful g := by
  unfold dispatch
  by_cases hpost : r.isPost = true
  · rw [if_pos hpost, if_pos hpost]
    cases hroute : g.route? r.endpoint r.method with
    | none => exact ⟨rfl, rfl, h⟩
    | some s => exact Service.serve_of_isTruthful hg (mem_services_of_route? hroute) h now r.call
  · rw [if_neg hpost, if_neg hpost]
    exact ⟨rfl, rfl, h⟩

end Gateway

/-! ### Gateways without stores -/

/-- The service without a place for its responses. -/
def Service.withoutStore (s : Service) : Service := { s with store := none }

/-- The gateway whose methods were registered without a store. -/
def Gateway.withoutStore (g : Gateway) : Gateway where
  services := g.services.map Service.withoutStore
  store := none

/-- Where there are no stores, it does not matter which one a service would use. -/
theorem Service.serve_withoutStore (s : Service) {state : State} (h : state.stores = [])
    (now : Moment) (call : Call) : s.withoutStore.serve state now call = s.serve state now call := by
  have hadmitted : s.withoutStore.answerAdmitted [] now call = s.answerAdmitted [] now call := by
    unfold answerAdmitted
    simp only [answerBound_nil]
    rfl
  unfold serve
  rw [h, hadmitted]
  rfl

theorem Gateway.route?_withoutStore (g : Gateway) (endpoint method : String) :
    g.withoutStore.route? endpoint method = (g.route? endpoint method).map Service.withoutStore :=
  List.find?_map

theorem Gateway.dispatch_withoutStore (g : Gateway) {state : State} (h : state.stores = [])
    (now : Moment) (r : Request) :
    g.withoutStore.dispatch state now r = g.dispatch state now r := by
  unfold dispatch
  rw [route?_withoutStore]
  cases g.route? r.endpoint r.method with
  | none => rfl
  | some s =>
    dsimp only [Option.map_some]
    rw [s.serve_withoutStore h]

end IndexGateway

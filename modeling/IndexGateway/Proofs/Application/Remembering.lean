import IndexGateway.Proofs.Application.Room
import IndexGateway.Proofs.Cache.Key
import IndexGateway.Proofs.Gateway.WithStores
import Mathlib.Data.List.Induction

/-!
# Kept responses of handlers that remember

A handler may remember what it was asked and answer otherwise the next time. What it said
is kept all the same, and served to later calls without asking it again. So where a kept
response comes from is a matter of the world in which its handler was asked.

## The model

Requests are answered and tags are purged, in any surroundings with the stores of a
gateway (`Surroundings.after`). A request of a run is *handled* (`Surroundings.Handled`) if
it gets to a service for which nothing is kept, and the handler has a value in the world
that the events before it have left.

## What is proved

* `holds_step` — what an event puts into the stores is the value of a request that it
  handles.
* `exists_handled_of_kept` — hence what is kept for a call is the value of a request that
  was handled in the run, with the same key.
-/

namespace IndexGateway

open Json

namespace Surroundings

variable {L R S : Type} (W : Surroundings L R) (emit : S → Metrics.Event → S) (g : Gateway)
  (w : World L (List Store × R) S)

/-! ### Runs -/

/-- The stores after all responses of a tag are given up in the first one, if that is a cache. -/
def purgeFirst (tag : String) : List Store → List Store
  | .cached cache :: stores => .cached (cache.purge tag).2 :: stores
  | stores => stores

/-- The world after an event. -/
def step : Application.Event → World L (List Store × R) S
  | .request now r => ((W.withStores.dispatch emit g now r).run w).2
  | .purge tag => { w with rest := (purgeFirst tag w.rest.1, w.rest.2) }

/-- The world after events. -/
def after (events : List Application.Event) : World L (List Store × R) S :=
  events.foldl (W.step emit g) w

/-- **A request gets to a service**: it is posted and routed there, its caller is admitted, and its
arguments are bound. -/
structure Reaches (limiter : L) (now : Moment) (r : Request) (s : Service) (args : Arguments) :
    Prop where
  /-- The verb is `POST`. -/
  post : r.isPost = true
  /-- It is routed to the service. -/
  routed : g.route? r.endpoint r.method = some s
  /-- The limiter admits the caller. -/
  admitted : (W.judge limiter now r.caller).1 = none
  /-- The arguments are bound. -/
  bound : s.method.schema.bind r.params = .ok args

/-- **A request of a run was answered by the handler of a service**, which had a value for it in the
world that it found. -/
def Handled (events : List Application.Event) (s : Service) (r : Request) (args : Arguments)
    (value : Json) : Prop :=
  ∃ earlier now later, events = earlier ++ .request now r :: later ∧
    let before := W.after emit g w earlier
    W.Reaches g before.limiter now r s args ∧ s.kept? before.rest.1 now r.call = none ∧
      (W.handle before.rest.2 s r.call args).1 = .ok value

/-- A text under a key is what is kept of a handled request. -/
def Keeps (events : List Application.Event) (key text : String) : Prop :=
  ∃ s r args value, W.Handled emit g w events s r args value ∧ s.method.cache.isSome ∧
    key = s.key r.call ∧ text = value.clean.compact

variable {W emit g w} {now : Moment} {r : Request} {s : Service} {args : Arguments} {value : Json}
  {K : String → String → Prop} {events : List Application.Event}

theorem after_append_singleton (events : List Application.Event) (e : Application.Event) :
    W.after emit g w (events ++ [e]) = W.step emit g (W.after emit g w events) e := by
  unfold after
  rw [List.foldl_append]
  rfl

theorem Handled.append (h : W.Handled emit g w events s r args value)
    (more : List Application.Event) : W.Handled emit g w (events ++ more) s r args value := by
  obtain ⟨earlier, now, later, rfl, hhandled⟩ := h
  exact ⟨earlier, now, later ++ more, by simp, hhandled⟩

theorem Keeps.append {key text : String} (h : W.Keeps emit g w events key text)
    (more : List Application.Event) : W.Keeps emit g w (events ++ more) key text := by
  obtain ⟨s, r, args, value, hhandled, hkept⟩ := h
  exact ⟨s, r, args, value, hhandled.append more, hkept⟩

/-! ### One event -/

/-- A request that gets to a service is answered there. -/
theorem run_dispatch_of_reaches (h : W.Reaches g w.limiter now r s args)
    (emit : S → Metrics.Event → S) :
    ((W.withStores.dispatch emit g now r).run w).1 =
        ((W.withStores.answerBound s now r.call args).run w.rest).1 ∧
      ((W.withStores.dispatch emit g now r).run w).2.rest =
        ((W.withStores.answerBound s now r.call args).run w.rest).2 := by
  have hadmitted : (W.withStores.judge w.limiter now r.call.caller).1 = none := h.admitted
  have hbound : s.method.schema.bind r.call.params = .ok args := h.bound
  rw [run_dispatch_of_routed h.post h.routed, run_serve]
  unfold answer
  dsimp only
  rw [hadmitted]
  dsimp only
  unfold answerAdmitted
  rw [Act.run_bind, Act.run_ask, hbound]
  exact ⟨rfl, rfl⟩

/-- Any other request leaves stores and handlers as they are. -/
theorem rest_of_not_reaches (h : ∀ s args, ¬ W.Reaches g w.limiter now r s args) :
    ((W.withStores.dispatch emit g now r).run w).2.rest = w.rest := by
  by_cases hcall : r.isPost = true ∧ ∃ s, g.route? r.endpoint r.method = some s
  · obtain ⟨hpost, s, hroute⟩ := hcall
    rw [run_dispatch_of_routed hpost hroute, run_serve]
    dsimp only
    cases hjudged : (W.withStores.judge w.limiter now r.call.caller).1 with
    | some ending => rfl
    | none =>
      unfold answer answerAdmitted
      dsimp only
      rw [Act.run_bind, Act.run_ask]
      cases hbound : s.method.schema.bind r.call.params with
      | error fault => rfl
      | ok args => exact absurd ⟨hpost, hroute, hjudged, hbound⟩ (h s args)
  · rw [run_dispatch_of_not_routed fun hpost => ?_]
    simpa [hpost, Option.eq_none_iff_forall_ne_some] using hcall

theorem holds_purgeFirst (tag : String) {stores : List Store} (h : ∀ store ∈ stores, store.Holds K) :
    ∀ store ∈ purgeFirst tag stores, store.Holds K := by
  unfold purgeFirst
  split
  · next cache stores =>
    rw [List.forall_mem_cons] at h ⊢
    refine ⟨fun cache' hcache' e hmem => ?_, h.2⟩
    obtain rfl : (cache.purge tag).2 = cache' := Store.cached.inj hcache'
    exact h.1 cache rfl e (Cache.mem_entries_purge hmem)
  · exact h

/-- **What an event puts into the stores** is the value of the request that it handles. -/
theorem holds_step (h : ∀ store ∈ w.rest.1, store.Holds K) (e : Application.Event)
    (hvalue : ∀ now r s args value, e = .request now r → W.Reaches g w.limiter now r s args →
      s.kept? w.rest.1 now r.call = none → s.method.cache.isSome →
      (W.handle w.rest.2 s r.call args).1 = .ok value → K (s.key r.call) value.clean.compact) :
    ∀ store ∈ (W.step emit g w e).rest.1, store.Holds K := by
  cases e with
  | purge tag => exact holds_purgeFirst tag h
  | request now r =>
    show ∀ store ∈ ((W.withStores.dispatch emit g now r).run w).2.rest.1, store.Holds K
    by_cases hreaches : ∃ s args, W.Reaches g w.limiter now r s args
    · obtain ⟨s, args, hreaches⟩ := hreaches
      rw [(run_dispatch_of_reaches hreaches emit).2]
      cases hkept : s.kept? w.rest.1 now r.call with
      | some value =>
        obtain ⟨stores', hrun, hholds⟩ := run_answerBound_of_kept W hkept args w.rest.2
        rw [hrun]
        exact hholds K h
      | none =>
        obtain ⟨stores', hrun, hholds⟩ := run_answerBound_of_not_kept W hkept args w.rest.2
        rw [hrun]
        exact hholds K h fun value => hvalue now r s args value rfl hreaches hkept
    · rw [rest_of_not_reaches fun s args hreach => hreaches ⟨s, args, hreach⟩]
      exact h

/-! ### A run -/

/-- **Every entry keeps the value of a handled request.** The induction is on the run, from its end. -/
theorem holds_after (fresh : ∀ cache, .cached cache ∈ w.rest.1 → cache.entries = [])
    (events : List Application.Event) :
    ∀ store ∈ (W.after emit g w events).rest.1, store.Holds (W.Keeps emit g w events) := by
  induction events using List.reverseRecOn with
  | nil =>
    exact fun store hmem =>
      Store.holds_of_entries_eq_nil fun cache hcache => fresh cache (hcache ▸ hmem)
  | append_singleton events e ih =>
    rw [after_append_singleton]
    refine holds_step (fun store hmem => (ih store hmem).imp fun key text h => h.append [e]) e ?_
    rintro now r s args value rfl hreaches hkept hcache hvalue
    exact ⟨s, r, args, value, ⟨events, now, [], rfl, hreaches, hkept, hvalue⟩, hcache, rfl, rfl⟩

/-- **What is kept for a call was once handled**: by a service for a method of the same name that keeps
responses, with arguments that have the same text. -/
theorem exists_handled_of_kept (fresh : ∀ cache, .cached cache ∈ w.rest.1 → cache.entries = [])
    (hkept : s.kept? (W.after emit g w events).rest.1 now r.call = some value) :
    ∃ s' r' args v, W.Handled emit g w events s' r' args v ∧ s'.method.name = s.method.name ∧
      s'.method.cache.isSome ∧ Alike r'.params.toJson r.params.toJson ∧
      parse? v.clean.compact = some value := by
  obtain ⟨_, ⟨s', r', args, v, hhandled, hcache, hkey, rfl⟩, hread⟩ :=
    Service.exists_of_kept? (holds_after fresh events) hkept
  obtain ⟨hname, halike⟩ := alike_of_responseKey_eq hkey.symm
  exact ⟨s', r', args, v, hhandled, hname, hcache, halike, hread⟩

/-- A call for which a value is kept is answered with it, and no handler does any work. -/
theorem run_dispatch_of_kept (h : W.Reaches g w.limiter now r s args)
    (hkept : s.kept? w.rest.1 now r.call = some value) (emit : S → Metrics.Event → S) :
    ((W.withStores.dispatch emit g now r).run w).1 =
        .ok ⟨value, s.method.cache.map (·.resolve args)⟩ ∧
      ((W.withStores.dispatch emit g now r).run w).2.rest.2 = w.rest.2 := by
  obtain ⟨stores', hrun, -⟩ := run_answerBound_of_kept W hkept args w.rest.2
  obtain ⟨hresult, hrest⟩ := run_dispatch_of_reaches h emit
  rw [hresult, hrest, hrun]
  exact ⟨rfl, rfl⟩

end Surroundings

end IndexGateway

import IndexGateway.Proofs.Application.Provenance
import IndexGateway.Proofs.Legacy.Arguments
import IndexGateway.Proofs.Legacy.Replies

/-!
# The table at work

An application over an index answers requests and purges tags for as long as it works, and
responses are kept and given up meanwhile. What it answers to a request that it admits does
not depend on all that: it is what the query replies, cleaned.

## The model

`IsAtWork` says that an application serves the table and that its stores tell the truth. It
holds when the application is put together and after every event (`isAtWork_after`).

## What is proved

`result_of_admitted` — whatever happened before, a request for a query that arrives in order
and within the quota has the cleaned reply of the query as its result.
-/

namespace IndexGateway

variable {app : Application} {now : Moment} {r : Request}

/-- A sound application stays sound. -/
theorem Application.isSound_after (h : app.IsSound) (events : List Event) :
    (app.after events).IsSound := by
  induction events using List.reverseRecOn with
  | nil => exact h
  | append_singleton events e ih =>
    rw [after_append_singleton]
    exact (step_withoutRoom ih e).2.2

namespace Legacy

variable {source : Catalog.Source} {links : Links} {q : Query}

/-- **A request arrives in order**: it is posted to an endpoint of the table, within the quota of its
caller. -/
structure IsAdmitted (app : Application) (now : Moment) (r : Request) : Prop where
  /-- The verb is `POST`. -/
  post : r.isPost = true
  /-- The table is served at the endpoint. -/
  endpoint : r.endpoint ∈ endpoints
  /-- The limiter admits one more request of the caller. -/
  within : (app.state.limiter.hit now r.caller).test now r.caller = true

/-- **An application serves the table over an index**, and what it keeps is true. -/
structure IsAtWork (source : Catalog.Source) (links : Links) (app : Application) : Prop where
  /-- The table was registered with a gateway without methods. -/
  gateway : ∃ g : Gateway, g.services = [] ∧ app.gateway = (register g source links).2.1
  /-- Kept responses are what the handlers would answer. -/
  sound : app.IsSound

/-- **The table is at work from the start on**, whatever happens. -/
theorem isAtWork_after {settings : Settings} {c : Catalog} {started : Moment}
    (h : (Application.serving settings c started).1 = .ok app) (events : List Application.Event) :
    IsAtWork (.ok c) settings.links (app.after events) := by
  rw [Application.serving_eq] at h
  obtain rfl := Except.ok.inj h
  have hbare := Application.services_bareGateway settings
  refine ⟨⟨_, hbare, ?_⟩, Application.isSound_after (Application.isSound_assembled ..) events⟩
  rw [Application.gateway_after, gateway_register hbare]
  rfl

/-- **An admitted request for a query is answered with its reply, cleaned.** -/
theorem result_of_admitted (h : IsAtWork source links app) (hr : IsAdmitted app now r)
    (hname : r.method = q.name) :
    (app.call now r).1.result.map (·.value) =
      ((q.reply source links r.call).map Json.clean).mapError .fault := by
  obtain ⟨g, hg, hgateway⟩ := h.gateway
  have hresult : (app.call now r).1.result =
      (app.gateway.dispatch app.state.withoutStores now r).1.result :=
    (Gateway.dispatch_of_isTruthful h.sound.reproducible h.sound.truthful now r).1
  obtain ⟨s, hroute, hmethod⟩ := @exists_route?_of_query source links g hg q r.endpoint hr.endpoint
  rw [← hname, ← hgateway] at hroute
  have hschema : s.method.schema.bind r.params = Schema.bind (.checked q.params) r.call.params := by
    rw [hmethod]
    rfl
  have hhandler : s.method.handler = q.handler source links := by rw [hmethod]; rfl
  have hwithin : (app.state.withoutStores.limiter.hit now r.caller).test now r.caller = true :=
    hr.within
  have hkept : s.kept? app.state.withoutStores.stores now r.call = none := s.kept?_nil now r.call
  rw [hresult, Query.reply, ← hschema]
  cases hbound : s.method.schema.bind r.params with
  | error fault =>
    rw [(Gateway.turnsAway_of_unbound hr.post hroute hwithin hbound).result]
    rfl
  | ok args =>
    obtain ⟨-, hvalue, hfault⟩ := Gateway.answer_of_not_kept hr.post hroute hwithin hbound hkept
    dsimp only
    rw [← hhandler]
    cases houtcome : (s.method.handler r.call args).outcome with
    | error fault =>
      rw [hfault fault houtcome]
      rfl
    | ok v =>
      rw [hvalue v houtcome]
      rfl

end Legacy

end IndexGateway

import IndexGateway.Proofs.Gateway.Stores
import IndexGateway.Proofs.Gateway.Truthful

/-!
# The stages of a call

A request passes one stage after the other: the verb, the route, the quota of its caller,
its arguments, the responses that are kept, the handler. The first stage at which it
fails decides what it is answered, and no later stage gets to know of it.

## The model

That a handler does not run is said by replacing it: the gateway with any other handlers
(`withHandlers`) does the very same to the request. A request is *turned away*
(`TurnsAway`), with a fault or broken off, if no handler runs in this sense and all stores
are left as they are, down to the order in which their entries were used.

## What is proved

One lemma for each stage says what becomes of a request that fails there, for every
gateway, state and moment. Where the handler is asked and has a fault, the stores lose
at most what is not served any more (`Store.Spares`).
-/

namespace IndexGateway

/-! ### Admission -/

namespace Admission

variable {limiter : Limiter} {now : Moment} {caller : String}

/-- A call that is turned away with a fault gets the one for that. -/
theorem exists_wait_of_ending {wait : Except Breakdown (Option Duration)} {fault : Fault}
    (h : ending wait = .fault fault) : ∃ wait, refusal wait = fault := by
  cases wait with
  | error why => cases h
  | ok wait => exact ⟨wait, Ending.fault.inj h⟩

theorem judge_of_within (h : (limiter.hit now caller).test now caller = true) :
    judge limiter now caller =
      { limiter := (limiter.hit now caller).refresh now caller
        refused := none
        event := .increment Metrics.admittedName []
        log := [] } := by
  unfold judge
  exact if_pos h

theorem judge_of_exceeded (h : (limiter.hit now caller).test now caller = false) :
    judge limiter now caller =
      { limiter := ((limiter.hit now caller).refresh now caller).refresh now caller
        refused := some (ending (((limiter.hit now caller).refresh now caller).resetsIn now caller))
        event := .increment Metrics.exceededName []
        log := refusalLog caller
          (((limiter.hit now caller).refresh now caller).resetsIn now caller) } := by
  unfold judge
  exact if_neg (by rw [h]; exact Bool.false_ne_true)

end Admission

/-- Arguments that do not fit are answered with the fault for that. -/
theorem Schema.exists_detail_of_bind {schema : Schema} {given : Params} {fault : Fault}
    (h : schema.bind given = .error fault) : ∃ detail, fault = .invalidParams detail := by
  unfold bind at h
  split at h
  · cases h
  · split at h
    · cases h
    · exact ⟨_, (Except.error.inj h).symm⟩

/-! ### Other handlers -/

/-- The service with another handler. -/
def Service.withHandler (s : Service) (handler : Handler) : Service :=
  { s with method := { s.method with handler } }

/-- The gateway whose services have other handlers. -/
def Gateway.withHandlers (g : Gateway) (handlers : Service → Handler) : Gateway :=
  { g with services := g.services.map fun s => s.withHandler (handlers s) }

theorem Gateway.route?_withHandlers (g : Gateway) (handlers : Service → Handler)
    (endpoint method : String) : (g.withHandlers handlers).route? endpoint method =
      (g.route? endpoint method).map fun s => s.withHandler (handlers s) :=
  List.find?_map

/-! ### Stores after a fault -/

/-- **A store is spared from a moment on**: it has no entry that it did not have, and it serves what it
did serve. -/
inductive Store.Spares (now : Moment) : Store → Store → Prop where
  /-- A cache loses at most what is not served any more. -/
  | cached {before after : Cache} (entries : ∀ e ∈ after.entries, e ∈ before.entries)
      (served : ∀ later key, now ≤ later → (after.get later key).1 = (before.get later key).1) :
      Spares now (.cached before) (.cached after)
  /-- A store that is out of order has nothing to lose. -/
  | outOfOrder (reason : String) : Spares now (.outOfOrder reason) (.outOfOrder reason)

theorem Store.Spares.refl (now : Moment) (store : Store) : Spares now store store := by
  cases store with
  | cached cache => exact .cached (fun _ he => he) fun _ _ _ => rfl
  | outOfOrder reason => exact .outOfOrder reason

namespace Cache

variable {cache : Cache} {now later : Moment} {key other : String}

end Cache

/-! ### What serving a call does -/

namespace Service

variable {s : Service} {state : State} {now : Moment} {call : Call} {args : Arguments}
  {fault : Fault}

theorem serve_of_exceeded
    (h : (state.limiter.hit now call.caller).test now call.caller = false) :
    s.serve state now call =
      ({ result := .error (Admission.ending
            (((state.limiter.hit now call.caller).refresh now call.caller).resetsIn now call.caller))
         origin := .gate
         events := [.increment Metrics.callName s.eventTags, .increment Metrics.exceededName [],
          .timing Metrics.timingName 0 s.eventTags]
         log := Admission.refusalLog call.caller
            (((state.limiter.hit now call.caller).refresh now call.caller).resetsIn now call.caller) },
        { state with
          limiter := ((state.limiter.hit now call.caller).refresh now call.caller).refresh now
            call.caller }) := by
  unfold serve
  rw [Admission.judge_of_exceeded h]
  dsimp only [Answer.after, Answer.refusal]
  rw [List.append_nil]

theorem serve_of_within
    (h : (state.limiter.hit now call.caller).test now call.caller = true) :
    s.serve state now call =
      ({ (s.answerAdmitted state.stores now call).1 with
          events := [.increment Metrics.callName s.eventTags, .increment Metrics.admittedName [],
            .timing Metrics.timingName 0 s.eventTags] },
        { limiter := (state.limiter.hit now call.caller).refresh now call.caller
          stores := (s.answerAdmitted state.stores now call).2 }) := by
  unfold serve
  rw [Admission.judge_of_within h]
  rfl

theorem answerAdmitted_of_error (h : s.method.schema.bind call.params = .error fault)
    (stores : List Store) : s.answerAdmitted stores now call =
      (.refusal fault [s.rejectionEntry call.caller fault], stores) := by
  unfold answerAdmitted
  rw [h]

theorem serve_of_unbound
    (hwithin : (state.limiter.hit now call.caller).test now call.caller = true)
    (h : s.method.schema.bind call.params = .error fault) :
    s.serve state now call =
      ({ result := .error fault
         origin := .gate
         events := [.increment Metrics.callName s.eventTags, .increment Metrics.admittedName [],
          .timing Metrics.timingName 0 s.eventTags]
         log := [s.rejectionEntry call.caller fault] },
        { state with limiter := (state.limiter.hit now call.caller).refresh now call.caller }) := by
  rw [serve_of_within hwithin, answerAdmitted_of_error h]
  rfl

theorem answerAdmitted_of_ok (h : s.method.schema.bind call.params = .ok args)
    (stores : List Store) : s.answerAdmitted stores now call = s.answerBound stores now call args := by
  unfold answerAdmitted
  rw [h]

/-- The value that is kept for a call, if the method keeps responses and has a store that finds one. -/
def kept? (s : Service) (stores : List Store) (now : Moment) (call : Call) : Option Json :=
  if s.method.cache.isSome then
    (s.store.bind (stores[·]?)).bind fun store =>
      (store.get now s.method.name call.params).1.toOption.join
  else none

/-- Where there are no stores, no value is kept. -/
theorem kept?_nil (s : Service) (now : Moment) (call : Call) : s.kept? [] now call = none := by
  simp [kept?]

theorem answerThrough_of_found {store : Store} {value : Json}
    (h : (store.get now s.method.name call.params).1 = .ok (some value)) (args : Arguments)
    (tag : CacheTag) : (s.answerThrough store now call args tag).1.origin = .store ∧
      (s.answerThrough store now call args tag).1.result = .ok ⟨value, some tag⟩ := by
  unfold answerThrough
  generalize store.get now s.method.name call.params = looked at h
  obtain ⟨found, store', log⟩ := looked
  obtain rfl : found = .ok (some value) := h
  exact ⟨rfl, rfl⟩

theorem answerThrough_of_missed {store : Store}
    (h : ∀ value, (store.get now s.method.name call.params).1 ≠ .ok (some value)) (args : Arguments)
    (tag : CacheTag) : (s.answerThrough store now call args tag).1.origin = .handler ∧
      (s.answerThrough store now call args tag).1.result = (s.compute call args (some tag)).result := by
  unfold answerThrough
  generalize store.get now s.method.name call.params = looked at h
  obtain ⟨found, store', log⟩ := looked
  split
  · next value _ _ heq => exact absurd (congrArg Prod.fst heq) (h value)
  · next missed store'' log' _ _ =>
    have hresult : ((s.compute call args (some tag)).after (log' ++ s.lookupLog missed)).result =
        (s.compute call args (some tag)).result := rfl
    dsimp only
    split <;> exact ⟨rfl, hresult⟩

/-- **A call is answered from the store if a value is kept for it.** -/
theorem answerBound_of_kept {stores : List Store} {value : Json}
    (h : s.kept? stores now call = some value) (args : Arguments) :
    (s.answerBound stores now call args).1.origin = .store ∧
      (s.answerBound stores now call args).1.result =
        .ok ⟨value, s.method.cache.map (·.resolve args)⟩ := by
  unfold kept? at h
  unfold answerBound
  cases hpolicy : s.method.cache with
  | none =>
    rw [hpolicy] at h
    cases h
  | some policy =>
    rw [hpolicy] at h
    obtain ⟨store, hplace, hfound⟩ := Option.bind_eq_some_iff.mp h
    obtain ⟨place, hstore, hget⟩ := Option.bind_eq_some_iff.mp hplace
    dsimp only
    rw [hstore]
    dsimp only
    rw [hget]
    refine answerThrough_of_found ?_ args (policy.resolve args)
    generalize (store.get now s.method.name call.params).1 = looked at hfound
    cases looked with
    | error e => cases hfound
    | ok value? => exact congrArg Except.ok hfound

/-- **A call is answered by the handler if no value is kept for it.** -/
theorem answerBound_of_not_kept {stores : List Store} (h : s.kept? stores now call = none)
    (args : Arguments) : (s.answerBound stores now call args).1.origin = .handler ∧
      (s.answerBound stores now call args).1.result =
        (s.compute call args (s.method.cache.map (·.resolve args))).result := by
  unfold kept? at h
  unfold answerBound
  cases hpolicy : s.method.cache with
  | none => exact ⟨rfl, rfl⟩
  | some policy =>
    rw [hpolicy] at h
    dsimp only
    cases hplace : s.store with
    | none => exact ⟨rfl, rfl⟩
    | some place =>
      dsimp only
      cases hstore : stores[place]? with
      | none => exact ⟨rfl, rfl⟩
      | some store =>
        refine answerThrough_of_missed (fun value hfound => ?_) args (policy.resolve args)
        have hnot : (store.get now s.method.name call.params).1.toOption.join = none := by
          simpa [hplace, hstore] using h
        rw [hfound] at hnot
        cases hnot

end Service

namespace Gateway

variable {g : Gateway} {state : State} {now : Moment} {r : Request} {s : Service} {args : Arguments}
  {fault : Fault}

/-! ### Requests that are turned away -/

/-- **A request is turned away**: it ends with a fault or is broken off, no handler runs, and no store
is touched. -/
structure TurnsAway (g : Gateway) (state : State) (now : Moment) (r : Request) (ending : Ending) :
    Prop where
  /-- It ends in this way. -/
  result : (g.dispatch state now r).1.result = .error ending
  /-- The answer does not come from a store or a handler. -/
  origin : (g.dispatch state now r).1.origin = .gate
  /-- Contents, expiry and order of use of all stores are as they were. -/
  stores : (g.dispatch state now r).2.stores = state.stores
  /-- It does not matter what the handlers would have done. -/
  handlers : ∀ handlers, (g.withHandlers handlers).dispatch state now r = g.dispatch state now r

theorem dispatch_of_not_isPost (h : r.isPost = false) :
    g.dispatch state now r = (.refusal (.fault .application) [verbEntry r], state) := by
  unfold dispatch
  exact if_neg (by rw [h]; exact Bool.false_ne_true)

theorem dispatch_of_not_routed (hpost : r.isPost = true) (h : g.route? r.endpoint r.method = none) :
    g.dispatch state now r =
      (.refusal (.fault (.methodNotFound r.method)) [unknownEntry r], state) := by
  unfold dispatch
  rw [if_pos hpost, h]

theorem dispatch_of_routed (hpost : r.isPost = true) (h : g.route? r.endpoint r.method = some s) :
    g.dispatch state now r = s.serve state now r.call := by
  unfold dispatch
  rw [if_pos hpost, h]

theorem routed_withHandlers (h : g.route? r.endpoint r.method = some s)
    (handlers : Service → Handler) : (g.withHandlers handlers).route? r.endpoint r.method =
      some (s.withHandler (handlers s)) := by
  rw [route?_withHandlers, h]
  rfl

/-- A request is turned away if all gateways that differ in handlers alone answer it so. -/
theorem turnsAway_of_eq {answer : Answer} {after : State} {ending : Ending}
    (h : g.dispatch state now r = (answer, after))
    (hother : ∀ handlers, (g.withHandlers handlers).dispatch state now r = (answer, after))
    (result : answer.result = .error ending) (origin : answer.origin = .gate)
    (stores : after.stores = state.stores) : g.TurnsAway state now r ending where
  result := by rw [h, result]
  origin := by rw [h, origin]
  stores := by rw [h, stores]
  handlers handlers := by rw [h, hother handlers]

theorem turnsAway_of_not_isPost (h : r.isPost = false) :
    g.TurnsAway state now r (.fault .application) :=
  turnsAway_of_eq (dispatch_of_not_isPost h) (fun _ => dispatch_of_not_isPost h) rfl rfl rfl

theorem turnsAway_of_not_routed (hpost : r.isPost = true)
    (h : g.route? r.endpoint r.method = none) :
    g.TurnsAway state now r (.fault (.methodNotFound r.method)) := by
  refine turnsAway_of_eq (dispatch_of_not_routed hpost h) (fun handlers => ?_) rfl rfl rfl
  refine dispatch_of_not_routed hpost ?_
  rw [route?_withHandlers, h]
  rfl

theorem turnsAway_of_exceeded (hpost : r.isPost = true) (hroute : g.route? r.endpoint r.method = some s)
    (h : (state.limiter.hit now r.caller).test now r.caller = false) :
    g.TurnsAway state now r (Admission.ending
      (((state.limiter.hit now r.caller).refresh now r.caller).resetsIn now r.caller)) := by
  refine turnsAway_of_eq ((dispatch_of_routed hpost hroute).trans (Service.serve_of_exceeded h))
    (fun handlers => ?_) rfl rfl rfl
  rw [dispatch_of_routed hpost (routed_withHandlers hroute handlers)]
  exact Service.serve_of_exceeded h

theorem turnsAway_of_unbound (hpost : r.isPost = true) (hroute : g.route? r.endpoint r.method = some s)
    (hwithin : (state.limiter.hit now r.caller).test now r.caller = true)
    (h : s.method.schema.bind r.params = .error fault) : g.TurnsAway state now r fault := by
  refine turnsAway_of_eq ((dispatch_of_routed hpost hroute).trans
    (@Service.serve_of_unbound s state now r.call fault hwithin h)) (fun handlers => ?_) rfl rfl rfl
  rw [dispatch_of_routed hpost (routed_withHandlers hroute handlers)]
  exact @Service.serve_of_unbound (s.withHandler (handlers s)) state now r.call fault hwithin h

/-! ### The limiter -/

section Bound

variable (hpost : r.isPost = true) (hroute : g.route? r.endpoint r.method = some s)
  (hwithin : (state.limiter.hit now r.caller).test now r.caller = true)
  (hbound : s.method.schema.bind r.params = .ok args)

include hpost hroute hwithin hbound

theorem dispatch_of_bound :
    (g.dispatch state now r).1.origin = (s.answerBound state.stores now r.call args).1.origin ∧
      (g.dispatch state now r).1.result = (s.answerBound state.stores now r.call args).1.result := by
  rw [dispatch_of_routed hpost hroute, @Service.serve_of_within s state now r.call hwithin,
    @Service.answerAdmitted_of_ok s now r.call args hbound state.stores]
  exact ⟨rfl, rfl⟩

theorem answer_of_kept {value : Json} (hkept : s.kept? state.stores now r.call = some value) :
    (g.dispatch state now r).1.origin = .store ∧
      (g.dispatch state now r).1.result = .ok ⟨value, s.method.cache.map (·.resolve args)⟩ := by
  obtain ⟨horigin, hresult⟩ := dispatch_of_bound hpost hroute hwithin hbound
  rw [horigin, hresult]
  exact Service.answerBound_of_kept hkept args

/-- **What the handler has is what is answered**, if no value is kept: its value is cleaned, and its
fault is handed on as it is. -/
theorem answer_of_not_kept (hkept : s.kept? state.stores now r.call = none) :
    (g.dispatch state now r).1.origin = .handler ∧
      (∀ value, (s.method.handler r.call args).outcome = .ok value →
        (g.dispatch state now r).1.result =
          .ok ⟨value.clean, s.method.cache.map (·.resolve args)⟩) ∧
      ∀ fault, (s.method.handler r.call args).outcome = .error fault →
        (g.dispatch state now r).1.result = .error fault := by
  obtain ⟨horigin, hresult⟩ := dispatch_of_bound hpost hroute hwithin hbound
  obtain ⟨horigin', hresult'⟩ := Service.answerBound_of_not_kept hkept args
  unfold Service.compute at hresult'
  dsimp only at hresult'
  refine ⟨horigin.trans horigin', fun value houtcome => ?_, fun fault houtcome => ?_⟩
  · rw [hresult, hresult', houtcome]
  · rw [hresult, hresult', houtcome]

/-- A request that gets this far without a response has the fault of the handler. -/
theorem exists_outcome_of_result {ending : Ending}
    (hresult : (g.dispatch state now r).1.result = .error ending) :
    ∃ fault, ending = .fault fault ∧ (s.method.handler r.call args).outcome = .error fault := by
  cases hkept : s.kept? state.stores now r.call with
  | some value =>
    rw [(answer_of_kept hpost hroute hwithin hbound hkept).2] at hresult
    cases hresult
  | none =>
    obtain ⟨-, hvalue, hfault⟩ := answer_of_not_kept hpost hroute hwithin hbound hkept
    cases houtcome : (s.method.handler r.call args).outcome with
    | error fault =>
      rw [hfault fault houtcome] at hresult
      exact ⟨fault, (Except.error.inj hresult).symm, rfl⟩
    | ok value =>
      rw [hvalue value houtcome] at hresult
      cases hresult

/-- A fault that is answered is the handler's. -/
theorem outcome_of_result (hresult : (g.dispatch state now r).1.result = .error fault) :
    (s.method.handler r.call args).outcome = .error fault := by
  obtain ⟨fault', hfault, houtcome⟩ := exists_outcome_of_result hpost hroute hwithin hbound hresult
  rw [Ending.fault.inj hfault]
  exact houtcome

end Bound

end Gateway

end IndexGateway

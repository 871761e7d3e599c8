import IndexGateway.Proofs.Application.Room
import IndexGateway.Proofs.Limiter.Lookalike

/-!
# Callers do not influence each other

All callers of an application share its limiter and its room for responses. What one
caller is answered does not depend on the others all the same.

## What is proved

The answers to one caller, taken from a run with any number of callers, are the
answers of the run in which only this caller makes its requests, at the same moments
(`filter_run_of_build`). Room for responses does not show at all, so the proof is
about applications without room: two of them *seem the same* to a caller if their
limiters look alike to it. A request of the caller to both is answered alike, a
request of somebody else to one of them goes unnoticed, and both keep the two
applications seeming the same.
-/

namespace IndexGateway

/-! ### Dispatching without stores -/

namespace Gateway

variable {g : Gateway} {state state' : State} {now : Nat} {r : Request}

theorem stores_dispatch_nil (g : Gateway) (h : state.stores = []) (now : Moment) (r : Request) :
    (g.dispatch state now r).2.stores = [] := by
  unfold dispatch
  split
  · split
    · next s _ => exact s.stores_serve_nil h now r.call
    · exact h
  · exact h

/-- A caller gets the same answer where the limiter looks the same to it. -/
theorem dispatch_self (hs : state.stores = []) (hs' : state'.stores = [])
    (h : state.limiter.LooksAlike r.caller now state'.limiter) :
    (g.dispatch state now r).1.result = (g.dispatch state' now r).1.result ∧
      (g.dispatch state now r).2.limiter.LooksAlike r.caller now (g.dispatch state' now r).2.limiter := by
  obtain ⟨hrefused, hlimiter⟩ := h.judge_self
  unfold dispatch
  split
  · split
    · next s _ =>
      rw [s.result_serve, s.result_serve, s.limiter_serve, s.limiter_serve, hs, hs']
      refine ⟨?_, hlimiter⟩
      rw [show r.call.caller = r.caller from rfl, hrefused]
    · exact ⟨rfl, h⟩
  · exact ⟨rfl, h⟩

/-- A request of another caller leaves a limiter that looks the same. -/
theorem dispatch_other {caller : String} (hc : r.caller ≠ caller)
    (h : state.limiter.LooksAlike caller now state'.limiter) :
    (g.dispatch state now r).2.limiter.LooksAlike caller now state'.limiter := by
  unfold dispatch
  split
  · split
    · next s _ =>
      rw [s.limiter_serve]
      exact h.judge_other hc
    · exact h
  · exact h

end Gateway

namespace Application

namespace Event

/-- Whether an event is a request of a caller, or a purge, which is nobody's. -/
def isFrom (caller : String) : Event → Bool
  | .request _ r => r.caller = caller
  | .purge _ => true

/-- The moment of a request. -/
def moment? : Event → Option Moment
  | .request now _ => some now
  | .purge _ => none

end Event

/-! ### Applications that seem the same -/

/-- Two applications without room, with the same methods, whose limiters look alike to a caller. -/
structure SeemsSame (caller : String) (since : Nat) (app app' : Application) : Prop where
  /-- The methods are the same. -/
  gateway : app.gateway = app'.gateway
  /-- Neither keeps responses. -/
  stores : app.state.stores = [] ∧ app'.state.stores = []
  /-- The limiters look alike. -/
  limiter : app.state.limiter.LooksAlike caller since app'.state.limiter

variable {caller : String} {since now : Nat} {app app' : Application} {r : Request}

theorem SeemsSame.mono (h : SeemsSame caller since app app') (hle : since ≤ now) :
    SeemsSame caller now app app' where
  gateway := h.gateway
  stores := h.stores
  limiter := h.limiter.mono hle

theorem SeemsSame.call_self (h : SeemsSame r.caller now app app') :
    (app.call now r).1.result = (app'.call now r).1.result ∧
      SeemsSame r.caller now (app.call now r).2 (app'.call now r).2 := by
  obtain ⟨hresult, hlimiter⟩ := @Gateway.dispatch_self app.gateway _ _ now r h.stores.1 h.stores.2 h.limiter
  have hstores := app.gateway.stores_dispatch_nil h.stores.1 now r
  have hstores' := app.gateway.stores_dispatch_nil h.stores.2 now r
  unfold call
  rw [← h.gateway]
  exact ⟨hresult, rfl, ⟨hstores, hstores'⟩, hlimiter⟩

theorem SeemsSame.call_other (h : SeemsSame caller now app app') (hc : r.caller ≠ caller) :
    SeemsSame caller now (app.call now r).2 app' where
  gateway := h.gateway
  stores := ⟨app.gateway.stores_dispatch_nil h.stores.1 now r, h.stores.2⟩
  limiter := Gateway.dispatch_other hc h.limiter

theorem purge_of_stores_nil (h : app.state.stores = []) (tag : String) :
    (app.purge tag).2.1 = app := by
  unfold purge
  rw [h]

/-- **A caller's answers are those of the run in which it is alone**, for applications that seem the
same to it. The induction is on the run; what the caller sees of the limiters is the invariant. -/
theorem SeemsSame.filter_run (h : SeemsSame caller since app app') {events : List Event}
    (ordered : (since :: events.filterMap Event.moment?).Pairwise (· ≤ ·)) :
    (app.run events).filter (fun a => a.1.caller = caller) =
      app'.run (events.filter (Event.isFrom caller)) := by
  induction events generalizing since app app' with
  | nil => rfl
  | cons e events ih =>
    cases e with
    | purge tag =>
      rw [List.filter_cons_of_pos rfl, run_purge, run_purge, purge_of_stores_nil h.stores.1,
        purge_of_stores_nil h.stores.2]
      exact ih h ordered
    | request now r =>
      rw [List.filterMap_cons_some (by rfl)] at ordered
      obtain ⟨hsince, hrest⟩ := List.pairwise_cons.mp ordered
      have hnow := h.mono (hsince now List.mem_cons_self)
      rw [run_request, List.filter_cons]
      by_cases hc : r.caller = caller
      · subst hc
        obtain ⟨hresult, hafter⟩ := hnow.call_self
        have hkept : (Event.request now r :: events).filter (Event.isFrom r.caller) =
            .request now r :: events.filter (Event.isFrom r.caller) :=
          List.filter_cons_of_pos (decide_eq_true rfl)
        rw [hkept, run_request, ih hafter hrest, hresult, if_pos (by simp)]
      · have hdropped : (Event.request now r :: events).filter (Event.isFrom caller) =
            events.filter (Event.isFrom caller) :=
          List.filter_cons_of_neg fun h => hc (of_decide_eq_true h)
        rw [hdropped, ih (hnow.call_other hc) hrest, if_neg (by simpa using hc)]

/-- **Callers do not influence each other**: settings without a flaw make an application whose answers
to any one caller, in any run with requests at moments that do not decrease, are those of the run in
which this caller makes its requests alone. -/
theorem filter_run_of_build {files : Files} {hosts : Hosts} {settings : Settings}
    {index : Option String} {sendsMetrics : Bool} {c : Catalog} (hvalid : settings.flaw? = none)
    (hagent : sendsMetrics = true → hasAgent hosts settings = true)
    (hindex : loadIndex files index = .ok c) (now : Moment) :
    ∃ app, (build files hosts settings index sendsMetrics now).1 = .ok app ∧
      ∀ (caller : String) (events : List Event),
        (events.filterMap Event.moment?).Pairwise (· ≤ ·) →
          (app.run events).filter (fun a => a.1.caller = caller) =
            app.run (events.filter (Event.isFrom caller)) := by
  refine ⟨_, build_eq hvalid hagent hindex now, fun caller events ordered => ?_⟩
  have hsound := isSound_assembled settings c now
  rw [run_withoutRoom hsound, run_withoutRoom hsound]
  have hsame : SeemsSame caller 0 (assembled settings c now).withoutRoom
      (assembled settings c now).withoutRoom := ⟨rfl, ⟨rfl, rfl⟩, .refl caller 0 _⟩
  exact hsame.filter_run (List.pairwise_cons.mpr ⟨fun _ _ => Nat.zero_le _, ordered⟩)

/-- Two callers with one call a minute and room for one response, which they take from each other; the
hit of `"b"` after a minute sweeps the table, and the second call of `"a"` in its minute is refused. -/
theorem filter_run_of_build_pair :
    let settings : Settings := { quota := { requests := 1, windowSeconds := 60 }, room := { capacity := 1 } }
    let names (caller : String) : Request := { endpoint := "RPC2", method := "list_packages", caller }
    let serials (caller : String) : Request :=
      { endpoint := "pypi", method := "list_packages_with_serial", caller }
    let minute : Nat := Duration.ofSeconds 60
    let events : List Event :=
      [.request 0 (names "b"), .request 1 (names "a"), .request minute (serials "b"),
        .request minute (names "a"), .request (2 * minute) (names "a")]
    settings.flaw? = none ∧ (events.filterMap Event.moment?).Pairwise (· ≤ ·) ∧
    ∃ app, (build (fun _ => none) (fun _ => false) settings none false 0).1 = .ok app ∧
      (app.run events).filter (fun x => x.1.caller = "a") =
        app.run [.request 1 (names "a"), .request minute (names "a"),
          .request (2 * minute) (names "a")] := by
  intro settings names serials minute events
  have hvalid : settings.flaw? = none := by decide
  have hordered : (events.filterMap Event.moment?).Pairwise (· ≤ ·) := by
    show [0, 1, minute, minute, 2 * minute].Pairwise (· ≤ ·)
    decide
  obtain ⟨app, happ, hrun⟩ := @filter_run_of_build (fun _ => none) (fun _ => false) settings none false _ hvalid
    (by decide) rfl 0
  exact ⟨hvalid, hordered, app, happ, hrun "a" events hordered⟩

end Application

end IndexGateway

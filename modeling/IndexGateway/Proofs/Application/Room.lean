import IndexGateway.Application
import IndexGateway.Proofs.Legacy.Methods

/-!
# Room for responses does not show

An application with room for responses answers every request as the application
without room does.

## The model

A run is a list of events: requests, each at its moment, and tags that are purged in
between. What is seen of a run are the requests with their results, the cache tag of
a response included. Nothing is assumed about the moments.

## What is proved

An application is *sound* if its handlers are reproducible and its store is
truthful. Every application that is put together is sound, every event keeps it so,
and a sound application does what the same application does without room
(`run_withoutRoom`). Since the settings decide about the room only, this relates the
applications of settings with and without room (`run_eq_of_build`).
-/

namespace IndexGateway

/-- What may happen to an application at work. -/
inductive Application.Event where
  /-- A request arrives at a moment. -/
  | request (now : Moment) (r : Request)
  /-- All responses of a tag are given up. -/
  | purge (tag : String)

namespace Application

/-- The results that an event brings about, with the application afterwards. -/
def step (app : Application) : Event → List (Request × Except Ending Response) × Application
  | .request now r => ([(r, (app.call now r).1.result)], (app.call now r).2)
  | .purge tag => ([], (app.purge tag).2.1)

/-- The requests of a run with their results. -/
def run (app : Application) : List Event → List (Request × Except Ending Response)
  | [] => []
  | e :: rest => (app.step e).1 ++ (app.step e).2.run rest

theorem run_request (app : Application) (now : Moment) (r : Request) (rest : List Event) :
    app.run (.request now r :: rest) =
      (r, (app.call now r).1.result) :: (app.call now r).2.run rest := rfl

theorem run_purge (app : Application) (tag : String) (rest : List Event) :
    app.run (.purge tag :: rest) = (app.purge tag).2.1.run rest := rfl

/-! ### Sound applications -/

/-- Kept responses are what the handlers would answer. -/
structure IsSound (app : Application) : Prop where
  /-- The handlers answer the same whenever the key is the same. -/
  reproducible : app.gateway.IsReproducible
  /-- The store holds what they answer. -/
  truthful : app.state.IsTruthful app.gateway

/-- The application without room for responses. -/
def withoutRoom (app : Application) : Application where
  gateway := app.gateway.withoutStore
  state := app.state.withoutStores

theorem call_withoutRoom {app : Application} (h : app.IsSound) (now : Moment) (r : Request) :
    (app.call now r).1.result = (app.withoutRoom.call now r).1.result ∧
      (app.call now r).2.withoutRoom = (app.withoutRoom.call now r).2 ∧
      (app.call now r).2.IsSound := by
  obtain ⟨hresult, hstate, htruthful⟩ := Gateway.dispatch_of_isTruthful h.reproducible h.truthful now r
  have hdispatch := @Gateway.dispatch_withoutStore app.gateway app.state.withoutStores rfl now r
  unfold call withoutRoom
  dsimp only
  rw [hdispatch]
  exact ⟨hresult, by rw [hstate], h.reproducible, htruthful⟩

/-- Purging a tag takes entries away and does nothing else. -/
theorem purge_withoutRoom {app : Application} (h : app.IsSound) (tag : String) :
    (app.purge tag).2.1.withoutRoom = (app.withoutRoom.purge tag).2.1 ∧
      (app.purge tag).2.1.IsSound := by
  unfold purge
  split
  · next cache rest hstores =>
    refine ⟨rfl, h.reproducible, ?_⟩
    have htruthful := h.truthful
    unfold State.IsTruthful at htruthful ⊢
    rw [hstores, List.forall_mem_cons] at htruthful
    obtain ⟨hcache, hrest⟩ := htruthful
    refine List.forall_mem_cons.mpr ⟨?_, hrest⟩
    exact hcache.of_subset fun e he => Cache.mem_entries_purge he
  · exact ⟨rfl, h⟩

theorem step_withoutRoom {app : Application} (h : app.IsSound) (e : Event) :
    (app.step e).1 = (app.withoutRoom.step e).1 ∧
      (app.step e).2.withoutRoom = (app.withoutRoom.step e).2 ∧ (app.step e).2.IsSound := by
  cases e with
  | request now r =>
    obtain ⟨hresult, hafter, hsound⟩ := call_withoutRoom h now r
    exact ⟨by rw [step, step, hresult], hafter, hsound⟩
  | purge tag =>
    obtain ⟨hafter, hsound⟩ := purge_withoutRoom h tag
    exact ⟨rfl, hafter, hsound⟩

/-- **A sound application does what it does without room**, whatever happens to it. -/
theorem run_withoutRoom {app : Application} (h : app.IsSound) (events : List Event) :
    app.run events = app.withoutRoom.run events := by
  induction events generalizing app with
  | nil => rfl
  | cons e events ih =>
    obtain ⟨hresult, hafter, hsound⟩ := step_withoutRoom h e
    rw [run, run, hresult, ← hafter, ih hsound]

/-! ### Applications that are put together -/

/-- The application that settings describe, over an index. -/
def assembled (settings : Settings) (c : Catalog) (now : Moment) : Application where
  gateway := (bareGateway settings).acceptAll (Legacy.methods (.ok c) settings.links)
  state := { limiter := limiterOf settings now, stores := storesOf settings }

theorem services_bareGateway (settings : Settings) : (bareGateway settings).services = [] := by
  unfold bareGateway
  split <;> rfl

theorem serving_eq (settings : Settings) (c : Catalog) (now : Moment) :
    (serving settings c now).1 = .ok (assembled settings c now) := by
  obtain ⟨log, hregister⟩ := @Legacy.register_eq (.ok c) settings.links _ (services_bareGateway settings)
  unfold serving
  rw [hregister]
  rfl

/-- Settings without a flaw are put to work, if their agent and the index can be found. -/
theorem build_eq {files : Files} {hosts : Hosts} {settings : Settings} {index : Option String}
    {sendsMetrics : Bool} {c : Catalog} (hvalid : settings.flaw? = none)
    (hagent : sendsMetrics = true → hasAgent hosts settings = true)
    (hindex : loadIndex files index = .ok c) (now : Moment) :
    (build files hosts settings index sendsMetrics now).1 = .ok (assembled settings c now) := by
  have hmetrics : ¬ (sendsMetrics && !hasAgent hosts settings) = true := by
    cases sendsMetrics with
    | false => simp
    | true => simp [hagent rfl]
  unfold build
  rw [hvalid]
  dsimp only
  rw [if_neg hmetrics, hindex]
  exact serving_eq settings c now

theorem isSound_assembled (settings : Settings) (c : Catalog) (now : Moment) :
    (assembled settings c now).IsSound where
  reproducible := Legacy.isReproducible_acceptAll (services_bareGateway settings)
  truthful := by
    unfold State.IsTruthful assembled storesOf
    intro store hstore
    dsimp only at hstore
    split at hstore
    · rw [List.mem_singleton.mp hstore]
      exact isTruthful_empty _ _
    · cases hstore

end Application

/-- The settings without room for responses. -/
def Settings.withoutRoom (settings : Settings) : Settings :=
  { settings with room := { settings.room with enabled := false } }

theorem Settings.flaw?_withoutRoom {settings : Settings} (h : settings.flaw? = none) :
    settings.withoutRoom.flaw? = none := by
  unfold flaw? at h ⊢
  rw [List.find?_eq_none] at h ⊢
  intro flaw hflaw
  have hnot := h flaw hflaw
  cases flaw with
  | noRoom => exact Bool.false_ne_true
  | _ => exact hnot

namespace Application

theorem withoutRoom_assembled (settings : Settings) (c : Catalog) (now : Moment) :
    (assembled settings c now).withoutRoom = assembled settings.withoutRoom c now := by
  have hbare : (bareGateway settings).withoutStore = bareGateway settings.withoutRoom := by
    unfold bareGateway
    split <;> rfl
  unfold withoutRoom assembled
  dsimp only
  rw [Gateway.withoutStore_acceptAll, hbare]
  rfl

/-- **Room for responses does not show**: settings without a flaw and the same settings without room
make applications that answer every run of requests and purges alike, with the same values, cache
tags and faults. -/
theorem run_eq_of_build {files : Files} {hosts : Hosts} {settings : Settings} {index : Option String}
    {sendsMetrics : Bool} {c : Catalog} (hvalid : settings.flaw? = none)
    (hagent : sendsMetrics = true → hasAgent hosts settings = true)
    (hindex : loadIndex files index = .ok c) (now : Moment) :
    ∃ on off, (build files hosts settings index sendsMetrics now).1 = .ok on ∧
      (build files hosts settings.withoutRoom index sendsMetrics now).1 = .ok off ∧
      ∀ events, on.run events = off.run events := by
  refine ⟨_, _, build_eq hvalid hagent hindex now,
    build_eq (Settings.flaw?_withoutRoom hvalid) hagent hindex now, fun events => ?_⟩
  rw [run_withoutRoom (isSound_assembled settings c now), withoutRoom_assembled]

/-- Two queries take the only room from each other, a purge comes in between, and the last request is
one too many for its caller. -/
theorem run_eq_of_build_flask :
    let files : Files := fun _ =>
      some "\x7b\"projects\":[\x7b\"name\":\"Flask\",\"releases\":[]\x7d]\x7d"
    let hosts : Hosts := fun _ => false
    let settings : Settings := { quota := { requests := 3, windowSeconds := 60 }, room := { capacity := 1 } }
    let named : Params := { keyword := [("package_name", .str "flask")] }
    let events : List Event :=
      [.request 1 { endpoint := "pypi", method := "package_releases", params := named },
        .request 2 { endpoint := "RPC2", method := "package_releases", params := named },
        .purge "project/flask",
        .request 3 { endpoint := "RPC2", method := "list_packages" },
        .request 4 { endpoint := "RPC2", method := "package_releases", params := named }]
    settings.flaw? = none ∧ (∃ c, loadIndex files (some "index.json") = .ok c) ∧
    ∃ on off, (build files hosts settings (some "index.json") false 0).1 = .ok on ∧
      (build files hosts settings.withoutRoom (some "index.json") false 0).1 = .ok off ∧
      on.run events = off.run events := by
  intro files hosts settings named events
  have hvalid : settings.flaw? = none := by decide
  have hloads : (match loadIndex files (some "index.json") with
      | .ok _ => true
      | .error _ => false) = true := by decide +kernel
  obtain ⟨c, hindex⟩ : ∃ c, loadIndex files (some "index.json") = .ok c := by
    split at hloads
    · next c h => exact ⟨c, h⟩
    · cases hloads
  obtain ⟨on, off, hon, hoff, hrun⟩ :=
    run_eq_of_build hvalid (by decide : false = true → hasAgent hosts settings = true) hindex 0
  exact ⟨hvalid, ⟨c, hindex⟩, on, off, hon, hoff, hrun events⟩

end Application

end IndexGateway

import IndexGateway.Proofs.Application.Provenance
import IndexGateway.Proofs.Legacy.Subjects

/-!
# Giving up the results about a project

When a project changes, the results about it are given up by its tag. The tag has to
reach them all, whatever spelling of the name they were asked for under, and no others.

## The model

The key of an entry determines the query and its bound arguments
(`Query.eq_of_isKeptUnder`). The entry was put there for some call with this key, so its
tag is the one for these arguments. `IsServing` says so of every entry; it holds after
every run (`exists_isServing_after`) and after a purge (`IsServing.purge`).

## What is proved

`purge_of_project` — after a purge of a project's tag, no call about the project is
answered from the store; the entries of all other results are kept, and all other
calls are answered as if the purge had not taken place.
-/

namespace IndexGateway.Legacy

open Json

variable {source : Catalog.Source} {links : Links} {limiter : Limiter} {capacity : Nat}
  {events : List Application.Event} {app : Application} {cache : Cache} {q q' : Query}
  {args args' : Arguments} {key c : String} {now : Moment} {r : Request}

/-! ### Keys -/

theorem Query.name_injective : Function.Injective Query.name := by
  intro q q' h
  cases q <;> cases q' <;> first | rfl | exact absurd h (by decide)

/-- A key under which the result of a query is kept, for a call with these bound arguments. -/
def Query.IsKeptUnder (q : Query) (args : Arguments) (key : String) : Prop :=
  q.cache.isSome ∧ ∃ given : Params, Schema.bind (.checked q.params) given = .ok args ∧
    key = responseKey q.name given

/-- **A key determines the query and its bound arguments.** -/
theorem Query.eq_of_isKeptUnder (h : q.IsKeptUnder args key) (h' : q'.IsKeptUnder args' key) :
    q = q' ∧ args = args' := by
  obtain ⟨hcache, given, hargs, hkey⟩ := h
  obtain ⟨-, given', hargs', hkey'⟩ := h'
  obtain ⟨hname, halike⟩ := alike_of_responseKey_eq (hkey.symm.trans hkey')
  obtain rfl := Query.name_injective hname
  exact ⟨rfl, Schema.bind_eq_of_alike (Query.isScalar_params hcache) halike hargs hargs'⟩

/-! ### The table over one cache -/

/-- **An application that serves the table over one cache**, whose entries are all kept under the tag
for the arguments that their keys tell. -/
structure IsServing (source : Catalog.Source) (links : Links) (app : Application) (cache : Cache) :
    Prop where
  /-- It serves the table. -/
  gateway : app.gateway = (({} : Gateway).withStore 0).acceptAll (methods source links)
  /-- It has one cache. -/
  stores : app.state.stores = [.cached cache]
  /-- Entries and tags are in step. -/
  inStep : cache.IsInStep
  /-- An entry was put there for a call of a query. -/
  kept : ∀ e ∈ cache.entries, ∃ (q : Query) (args : Arguments) (policy : CachePolicy),
    q.IsKeptUnder args e.1 ∧ q.cache = some policy ∧ e.2.tag = (policy.resolve args).name

/-- The service for a request whose responses are kept is that of the query of its name. -/
theorem exists_query_of_route {s : Service}
    (hgateway : app.gateway = (({} : Gateway).withStore 0).acceptAll (methods source links))
    (hroute : app.gateway.route? r.endpoint r.method = some s) (hcache : s.method.cache.isSome) :
    ∃ q : Query, r.method = q.name ∧
      s.method = { q.method source links with aliases := endpoints } := by
  have hmem := Gateway.mem_services_of_route? hroute
  rw [hgateway] at hmem
  obtain ⟨q, -, hq⟩ := exists_query_of_cache (method_mem_methods rfl hmem) hcache
  have hname : s.method.name = r.method := by
    have hfound := List.find?_some hroute
    rw [Bool.and_eq_true] at hfound
    exact of_decide_eq_true hfound.1
  rw [hq] at hname
  exact ⟨q, hname.symm, hq⟩

/-- The application that serves the table over one cache, before its first request. -/
def start (source : Catalog.Source) (links : Links) (limiter : Limiter) (capacity : Nat) :
    Application where
  gateway := (register (({} : Gateway).withStore 0) source links).2.1
  state := { limiter, stores := [.cached (.empty capacity)] }

theorem start_eq (source : Catalog.Source) (links : Links) (limiter : Limiter) (capacity : Nat) :
    start source links limiter capacity =
      { gateway := (({} : Gateway).withStore 0).acceptAll (methods source links)
        state := { limiter, stores := [.cached (.empty capacity)] } } := by
  unfold start
  rw [gateway_register rfl]

/-- **The table is served over one cache in every run.** -/
theorem exists_isServing_after (source : Catalog.Source) (links : Links) (limiter : Limiter)
    (capacity : Nat) (events : List Application.Event) :
    ∃ cache, IsServing source links ((start source links limiter capacity).after events) cache := by
  have hgateway : (start source links limiter capacity).gateway =
      (({} : Gateway).withStore 0).acceptAll (methods source links) := by rw [start_eq]
  have hstart : (start source links limiter capacity).state.stores = [.cached (.empty capacity)] := rfl
  obtain ⟨cache, hstores⟩ := Application.exists_stores_after hstart events
  have fresh : ∀ store ∈ (start source links limiter capacity).state.stores, store.IsFresh := by
    rw [hstart]
    exact List.forall_mem_singleton.mpr ⟨capacity, rfl⟩
  have hplace : ((start source links limiter capacity).after events).state.stores[0]? =
      some (.cached cache) := by
    rw [hstores]
    rfl
  refine ⟨cache, (Application.gateway_after _ events).trans hgateway, hstores,
    Application.isInStep_after fresh hplace, fun e hmem => ?_⟩
  obtain ⟨tag, ⟨s, r, policy, args, value, hhandled, -, hpolicy, hkey, -, rfl⟩, htag⟩ :=
    Application.keeps_of_mem fresh hplace hmem
  have hcache : s.method.cache.isSome := by
    rw [hpolicy]
    rfl
  obtain ⟨q, -, hq⟩ := exists_query_of_route hgateway hhandled.routed hcache
  have hbound := hhandled.bound
  unfold Service.key at hkey
  rw [hq] at hcache hpolicy hbound hkey
  exact ⟨q, args, policy, ⟨hcache, r.params, hbound, hkey⟩, hpolicy, htag⟩

namespace IsServing

variable (h : IsServing source links app cache)

include h

/-- **The tag of an entry shows what the result is about.** -/
theorem tag_eq_iff {e : String × CacheEntry} (hmem : e ∈ cache.entries)
    (hkept : q.IsKeptUnder args e.1) : e.2.tag = "project/" ++ c ↔ q.subject? args = some c := by
  obtain ⟨q', args', policy, hkept', hpolicy, htag⟩ := h.kept e hmem
  obtain ⟨rfl, rfl⟩ := Query.eq_of_isKeptUnder hkept' hkept
  obtain ⟨-, given, hargs, -⟩ := hkept
  rw [htag]
  exact Query.name_resolve_eq_iff hpolicy hargs

/-- What is served from the store was found under the key of a call of a query. -/
theorem exists_of_origin (horigin : (app.call now r).1.origin = .store) :
    ∃ (q : Query) (args : Arguments) (text : String), r.method = q.name ∧
      Schema.bind (.checked q.params) r.params = .ok args ∧
      q.IsKeptUnder args (responseKey q.name r.params) ∧
      (cache.get now (responseKey q.name r.params)).1 = some text := by
  have horigin' : (app.gateway.dispatch app.state now r).1.origin = .store := horigin
  rcases app.gateway.dispatch_cases app.state now r with
    ⟨hne, -⟩ | ⟨s, policy, args, place, cache', after, hroute, hlooked, hthrough, -⟩
  · exact absurd horigin' hne
  rw [h.stores] at hlooked
  obtain ⟨rfl, rfl⟩ := hlooked.of_singleton
  have hcache : s.method.cache.isSome := by
    rw [hlooked.policy]
    rfl
  obtain ⟨q, hname, hq⟩ := exists_query_of_route h.gateway hroute hcache
  have hargs := hlooked.bound
  rw [horigin'] at hthrough
  generalize (app.gateway.dispatch app.state now r).1.result = result at hthrough
  cases hthrough with
  | @found text value hserved hreadable =>
    unfold Service.key at hserved
    rw [hq] at hcache hargs hserved
    exact ⟨q, args, text, hname, hargs, ⟨hcache, r.params, hargs, rfl⟩, hserved⟩

/-! ### Purges -/

theorem purge (tag : String) :
    IsServing source links (app.purge tag).2.1 (cache.purge tag).2 where
  gateway := by
    rw [Application.purge_of_stores h.stores]
    exact h.gateway
  stores := by rw [Application.purge_of_stores h.stores]
  inStep := h.inStep.purge tag
  kept e hmem := h.kept e (Cache.mem_entries_purge hmem)

/-- An entry stays exactly if it is not about the project whose tag is purged. -/
theorem mem_entries_purge_iff {e : String × CacheEntry} (hmem : e ∈ cache.entries)
    (hkept : q.IsKeptUnder args e.1) :
    e ∈ (cache.purge ("project/" ++ c)).2.entries ↔ q.subject? args ≠ some c := by
  rw [h.inStep.entries_purge, List.mem_filter, decide_eq_true_eq, ne_eq, h.tag_eq_iff hmem hkept]
  exact and_iff_right hmem

/-- **No call about the project is answered from the store.** -/
theorem origin_call_purge_ne (hname : r.method = q.name)
    (hargs : Schema.bind (.checked q.params) r.params = .ok args)
    (hsubject : q.subject? args = some c) :
    ((app.purge ("project/" ++ c)).2.1.call now r).1.origin ≠ .store := by
  intro horigin
  obtain ⟨q', args', text, hname', hargs', hkept, hserved⟩ :=
    (h.purge ("project/" ++ c)).exists_of_origin horigin
  obtain rfl := Query.name_injective (hname.symm.trans hname')
  obtain rfl := Except.ok.inj (hargs.symm.trans hargs')
  obtain ⟨e, hmem, -⟩ := Cache.exists_mem_of_get hserved
  exact (h.mem_entries_purge_iff (Cache.mem_entries_purge hmem) hkept).mp hmem hsubject

/-- **Every other call is answered as it would have been.** -/
theorem answer_call_purge
    (hother : ∀ (q : Query) (args : Arguments), r.method = q.name →
      Schema.bind (.checked q.params) r.params = .ok args → q.subject? args ≠ some c) :
    ((app.purge ("project/" ++ c)).2.1.call now r).1 = (app.call now r).1 := by
  rw [Application.purge_of_stores h.stores]
  obtain ⟨gateway, limiter, stores⟩ := app
  obtain rfl : stores = [.cached cache] := h.stores
  refine gateway.answer_dispatch_congr limiter fun s args hroute hcache hargs => ?_
  obtain ⟨q, hname, hq⟩ := exists_query_of_route h.gateway hroute hcache
  unfold Service.key
  rw [hq] at hcache hargs ⊢
  have hkept : q.IsKeptUnder args (responseKey q.name r.params) := ⟨hcache, r.params, hargs, rfl⟩
  refine h.inStep.get_purge now fun _ hmem htag => ?_
  exact hother q args hname hargs ((h.tag_eq_iff hmem hkept).mp htag)

end IsServing

/-- **A purge of a project's tag gives up the results about the project, and only those.** Let the
table be served over an empty cache, and let the tag be purged after some run. Then no call about
the project is answered from the store, whatever spelling of the name is given in whatever way. Of
the entries, exactly those about the project are gone, and the others stay in order; all calls that
are not about the project are answered as they would have been. All spellings of a name have the
same reply and the same tag. -/
theorem purge_of_project (source : Catalog.Source) (links : Links) (limiter : Limiter)
    (capacity : Nat) (events : List Application.Event) (n : String) :
    let app := (start source links limiter capacity).after events
    let purged := (app.purge ("project/" ++ ProjectName.canonical n)).2.1
    (∀ (now : Moment) (r : Request) (q : Query) (args : Arguments) (m : String),
      q.isAboutProject = true → r.method = q.name →
      Schema.bind (.checked q.params) r.params = .ok args → args.text "package_name" = .ok m →
      ProjectName.canonical m = ProjectName.canonical n →
      (purged.call now r).1.origin ≠ .store) ∧
    (∃ before left, app.cache? = some before ∧ purged.cache? = some left ∧
      left.entries.Sublist before.entries ∧
      ∀ e ∈ before.entries, (∃ (q : Query) (args : Arguments), q.IsKeptUnder args e.1) ∧
        ∀ (q : Query) (args : Arguments), q.IsKeptUnder args e.1 →
          (e ∈ left.entries ↔ q.subject? args ≠ some (ProjectName.canonical n))) ∧
    (∀ (now : Moment) (r : Request),
      (∀ (q : Query) (args : Arguments), r.method = q.name →
        Schema.bind (.checked q.params) r.params = .ok args →
        q.subject? args ≠ some (ProjectName.canonical n)) →
      (purged.call now r).1 = (app.call now r).1) ∧
    ∀ (q : Query) (given given' : Params) (args args' : Arguments), q.isAboutProject = true →
      Schema.bind (.checked q.params) given = .ok args →
      Schema.bind (.checked q.params) given' = .ok args' → Query.NamesAlike args args' →
      (∀ call, q.handler source links call args = q.handler source links call args') ∧
      q.cache.map (·.resolve args) = q.cache.map (·.resolve args') := by
  intro app purged
  obtain ⟨cache, h⟩ := exists_isServing_after source links limiter capacity events
  have hafter := h.purge ("project/" ++ ProjectName.canonical n)
  refine ⟨?_, ⟨cache, (cache.purge ("project/" ++ ProjectName.canonical n)).2, ?_, ?_, ?_, ?_⟩, ?_, ?_⟩
  · intro now r q args m hq hname hargs hm hsame
    have hsubject := Query.subject?_of_isAboutProject hq hm
    rw [hsame] at hsubject
    exact h.origin_call_purge_ne hname hargs hsubject
  · unfold Application.cache?
    rw [h.stores]
  · unfold Application.cache?
    rw [hafter.stores]
  · rw [h.inStep.entries_purge]
    exact List.filter_sublist
  · intro e hmem
    obtain ⟨q, args, -, hkept, -⟩ := h.kept e hmem
    exact ⟨⟨q, args, hkept⟩, fun q args hkept => h.mem_entries_purge_iff hmem hkept⟩
  · exact fun now r hother => h.answer_call_purge hother
  · intro q given given' args args' hq hargs hargs' halike
    refine ⟨halike.handler hq, ?_⟩
    cases hpolicy : q.cache with
    | none => rfl
    | some policy => exact congrArg some (halike.resolve hq hargs hargs' hpolicy)

/-- A call about a project would be answered from the store, a listing too; after a purge in another
spelling the listing still is, and the call is not. -/
theorem purge_of_project_flask :
    let about : Request := { endpoint := "RPC2", method := "package_roles"
                             params := { positional := [.str "Flask_X"] } }
    let listing : Request := { endpoint := "pypi", method := "list_packages" }
    let app := (start (.ok Catalog.empty) ⟨"pypi.test", ""⟩ .unlimited 0).after
      [.request 0 about, .request 0 listing]
    let purged := (app.purge ("project/" ++ ProjectName.canonical "fLASK.-x")).2.1
    (app.call 1 about).1.origin = .store ∧ (purged.call 1 about).1.origin ≠ .store ∧
      (app.call 1 listing).1.origin = .store ∧ (purged.call 1 listing).1.origin = .store := by
  intro about listing app purged
  have habout : (app.call 1 about).1.origin = .store := by
    unfold app
    rw [start_eq]
    decide +kernel
  have hlisting : (app.call 1 listing).1.origin = .store := by
    unfold app
    rw [start_eq]
    decide +kernel
  obtain ⟨hgone, -, hsame, -⟩ := purge_of_project (.ok Catalog.empty) ⟨"pypi.test", ""⟩ .unlimited 0
    [.request 0 about, .request 0 listing] "fLASK.-x"
  have hname : ProjectName.canonical "Flask_X" = ProjectName.canonical "fLASK.-x" := by decide +kernel
  refine ⟨habout, ?_, hlisting, ?_⟩
  · exact hgone 1 about .packageRoles ⟨[("package_name", .str "Flask_X")]⟩ "Flask_X" rfl rfl rfl rfl hname
  · have hother : ∀ (q : Query) (args : Arguments), listing.method = q.name →
        Schema.bind (.checked q.params) listing.params = .ok args →
        q.subject? args ≠ some (ProjectName.canonical "fLASK.-x") := by
      intro q args hq _
      obtain rfl : q = .listPackages := Query.name_injective hq.symm
      exact nofun
    rw [hsame 1 listing hother]
    exact hlisting

end IndexGateway.Legacy

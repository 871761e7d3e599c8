import IndexGateway.Proofs.Gateway.Registration
import IndexGateway.Proofs.Legacy.Results
import IndexGateway.Proofs.Schema.Seats

/-!
# The registered table of methods

The table is accepted by every gateway without methods, and the gateway that comes
out is reproducible: names are distinct, the parameters of queries whose results are
kept are scalar, a query looks at its bound arguments and at nothing else of a call,
and its results are plain. So a response that was kept for one call is the answer to
every other call with the same key.
-/

namespace IndexGateway.Legacy

open Json

variable {source : Catalog.Source} {links : Links}

/-! ### Members of the table -/

theorem mem_table {m : Method} (h : m ∈ table source links) :
    (∃ q, m = Query.method source links q) ∨ ∃ r, m = Retired.method links.domain r := by
  revert m
  simp only [table, List.forall_mem_cons]
  exact ⟨.inr ⟨_, rfl⟩, .inl ⟨_, rfl⟩, .inl ⟨_, rfl⟩, .inl ⟨_, rfl⟩, .inl ⟨_, rfl⟩, .inr ⟨_, rfl⟩,
    .inl ⟨_, rfl⟩, .inr ⟨_, rfl⟩, .inl ⟨_, rfl⟩, .inr ⟨_, rfl⟩, .inl ⟨_, rfl⟩, .inl ⟨_, rfl⟩,
    .inl ⟨_, rfl⟩, .inl ⟨_, rfl⟩, .inl ⟨_, rfl⟩, .inl ⟨_, rfl⟩, .inr ⟨_, rfl⟩, fun _ h => nomatch h⟩

theorem nodup_names_methods : ((methods source links).map Method.name).Nodup := by
  have hnames : (methods source links).map Method.name =
      ["search", "list_packages", "list_packages_with_serial", "package_hosting_mode",
        "user_packages", "top_packages", "package_releases", "package_data", "release_data",
        "package_urls", "release_urls", "package_roles", "changelog_last_serial",
        "changelog_since_serial", "changelog", "browse", "system.multicall"] := rfl
  rw [hnames]
  decide

theorem aliases_of_mem_methods {m : Method} (h : m ∈ methods source links) :
    m.aliases = endpoints := by
  obtain ⟨m', -, rfl⟩ := List.mem_map.mp h
  rfl

/-- A method whose responses are kept is a query. -/
theorem exists_query_of_cache {m : Method} (h : m ∈ methods source links)
    (hcache : m.cache.isSome) :
    ∃ q : Query, q.cache.isSome ∧ m = { q.method source links with aliases := endpoints } := by
  obtain ⟨m', hm', rfl⟩ := List.mem_map.mp h
  rcases mem_table hm' with ⟨q, rfl⟩ | ⟨r, rfl⟩
  · exact ⟨q, hcache, rfl⟩
  · cases hcache

/-! ### Reproducible queries -/

/-- A query looks at nothing but its arguments. -/
theorem Query.outcome_handler (q : Query) (call call' : Call) (args : Arguments) :
    (q.handler source links call args).outcome = (q.handler source links call' args).outcome := by
  unfold Query.handler
  split <;> rfl

theorem Query.isScalar_params {q : Query} (h : q.cache.isSome) :
    ∀ p ∈ q.params, p.type.isScalar = true := by
  have hall : q.params.all (fun p => p.type.isScalar) = true := by
    cases q with
    | changelogSinceSerial => rfl
    | browse => cases h
    | _ => rfl
  exact fun p hp => List.all_eq_true.mp hall p hp

theorem Query.isPlain_of_outcome {q : Query} {call : Call} {args : Arguments} {v : Json}
    (h : (q.handler source links call args).outcome = .ok v) : IsPlain 3 v := by
  unfold Query.handler at h
  split at h
  · next hresult =>
    cases h
    exact isPlain_of_result hresult
  · cases h
  · cases h

theorem method_mem_methods {g : Gateway} (hg : g.services = []) {s : Service}
    (hs : s ∈ (g.acceptAll (methods source links)).services) : s.method ∈ methods source links := by
  refine (Gateway.mem_services_acceptAll hs).resolve_left ?_
  rw [hg]
  exact List.not_mem_nil

/-- **A gateway that serves the table is reproducible**, whichever store it uses. -/
theorem isReproducible_acceptAll {g : Gateway} (hg : g.services = []) :
    (g.acceptAll (methods source links)).IsReproducible := by
  constructor
  · intro s hs s' hs' hcache hcache' call call' args args' hargs hargs' hkey
    obtain ⟨hname, halike⟩ := alike_of_responseKey_eq hkey
    have hsame : s.method = s'.method :=
      List.inj_on_of_nodup_map nodup_names_methods (method_mem_methods hg hs)
        (method_mem_methods hg hs') hname
    obtain ⟨q, hq, hmethod⟩ := exists_query_of_cache (method_mem_methods hg hs) hcache
    rw [← hsame] at hargs' ⊢
    rw [hmethod] at hargs hargs' ⊢
    obtain rfl := Schema.bind_eq_of_alike (Query.isScalar_params hq) halike hargs hargs'
    exact q.outcome_handler call call' args
  · intro s hs hcache call args value hargs hvalue
    obtain ⟨q, hq, hmethod⟩ := exists_query_of_cache (method_mem_methods hg hs) hcache
    rw [hmethod] at hvalue
    exact (Query.isPlain_of_outcome hvalue).mono (by decide)

/-- **The table is accepted** by a gateway without methods. -/
theorem register_eq {g : Gateway} (hg : g.services = []) :
    ∃ log, register g source links = (none, g.acceptAll (methods source links), log) := by
  obtain ⟨hnone, hall⟩ := @Gateway.registerAll_of_fresh g (methods source links)
    (fun m hm => by rw [aliases_of_mem_methods hm]; decide) nodup_names_methods
    (by rw [hg]; exact fun s hs => nomatch hs)
  have heq : g.registerAll (methods source links) = (none, g.acceptAll (methods source links),
      (g.registerAll (methods source links)).2.2) := Prod.ext hnone (Prod.ext hall rfl)
  unfold register
  dsimp only
  rw [heq]
  exact ⟨_, rfl⟩

theorem gateway_register {g : Gateway} (hg : g.services = []) :
    (register g source links).2.1 = g.acceptAll (methods source links) := by
  obtain ⟨log, heq⟩ := @register_eq source links g hg
  rw [heq]

end IndexGateway.Legacy

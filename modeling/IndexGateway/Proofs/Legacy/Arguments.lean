import IndexGateway.Legacy.Index
import IndexGateway.Proofs.Gateway.Routing
import IndexGateway.Proofs.Gateway.Stages
import IndexGateway.Proofs.Legacy.Invalidation
import IndexGateway.Proofs.Schema.Accessors

/-!
# Handlers get the arguments they expect

The table declares the parameters of each query, and the handler of the query asks for
its arguments by name and kind. Nothing but their authors' care makes the two agree: a
handler that asks for anything else ends with the fault of a mistyped argument, in the
middle of a call that was accepted.

## The model

A query asks an index of any kind at most one question. It fails if the question does, or
if it is a listing of changes after a time that no instant has (`Query.CanFail`).

## What is proved

* `Query.isSound_params` — the declared lists of parameters are sound, so an access that
  follows the declaration succeeds.
* `Query.canFail_of_resultOver` — no access of a query fails in an accepted call, so there
  is no other way to fail than those.
* `handlers_fit_schemas` — the fault of a mistyped argument never comes from an accepted
  call; and over an index in memory, the retired methods have their fixed faults, a
  listing of changes has the one for its time, and there are no others.
-/

namespace IndexGateway.Legacy

variable {index : Index} {source : Catalog.Source} {links : Links} {given : Params}
  {args : Arguments} {fault : Fault}

/-! ### Indexes of any kind -/

/-- Some question to an index fails with an error. -/
inductive Index.Fails (index : Index) (e : Catalog.Error) : Prop where
  /-- The one for the names of all projects. -/
  | projectNames : index.projectNames = .error e → index.Fails e
  /-- The one for all names with numbers. -/
  | projectSerials : index.projectSerials = .error e → index.Fails e
  /-- The one for a project. -/
  | project {name : String} : index.project? name = .error e → index.Fails e
  /-- The one for a user's roles. -/
  | userRoles {username : String} : index.userRoles username = .error e → index.Fails e
  /-- The one for the roles on a project. -/
  | projectRoles {name : String} : index.projectRoles name = .error e → index.Fails e
  /-- The one for the last change. -/
  | lastSerial : index.lastSerial = .error e → index.Fails e
  /-- The one for the changes behind a number. -/
  | journalSinceSerial {serial : Int64} {limit : Nat} :
      index.journalSinceSerial serial limit = .error e → index.Fails e
  /-- The one for the changes after an instant. -/
  | journalSince {since : Instant} {limit : Nat} :
      index.journalSince since limit = .error e → index.Fails e
  /-- The one for the releases that carry classifiers. -/
  | releasesWithClassifiers {classifiers : List String} :
      index.releasesWithClassifiers classifiers = .error e → index.Fails e

/-- An index in memory answers every question, and one that gives no answer fails with its error. -/
theorem Index.eq_error_of_fails {e : Catalog.Error} (h : (Index.ofSource source).Fails e) :
    source = .error e := by
  have hmap : ∀ {α : Type} {question : Catalog → α}, source.map question = .error e →
      source = .error e := by
    intro α question heq
    cases source with
    | ok c => cases heq
    | error e' =>
      cases heq
      rfl
  cases h with
  | projectNames h | projectSerials h | project h | userRoles h | projectRoles h | lastSerial h
  | journalSinceSerial h | journalSince h | releasesWithClassifiers h => exact hmap h

namespace Query

theorem projectIn_ofSource : projectIn (.ofSource source) args = projectOf source args := by
  cases source <;> rfl

theorem resultOver_ofSource (q : Query) :
    q.resultOver (.ofSource source) links args = q.result source links args := by
  cases q with
  | packageReleases => exact congrArg (· >>= _) projectIn_ofSource
  | releaseData | releaseUrls => rw [resultOver, result, projectIn_ofSource]
  | changelogLastSerial =>
    cases source with
    | ok c =>
      cases hserial : c.lastSerial <;>
        simp [resultOver, result, Index.ofSource, Except.map, answer, ask, bind, Except.bind, pure,
          Except.pure, Legacy.changelogLastSerial, hserial]
    | error e => rfl
  | _ => cases source <;> rfl

/-- **Over an index in memory, or one that gives no answer, the queries are those of the table.** -/
theorem handlerOver_ofSource (q : Query) :
    q.handlerOver (.ofSource source) links = q.handler source links := by
  funext call args
  have hresult := @resultOver_ofSource source links args q
  unfold handlerOver handler
  generalize q.resultOver (.ofSource source) links args = result at hresult
  subst hresult
  rfl

/-- The fault that a caller gets for a failure. -/
def Failure.toFault : Failure → Fault
  | .argument fault => fault
  | .index e => .wrapped .lookup e.message

theorem outcome_handlerOver (q : Query) (call : Call) (args : Arguments) :
    (q.handlerOver index links call args).outcome =
      (q.resultOver index links args).mapError Failure.toFault := by
  unfold handlerOver
  split <;> next hresult => simp [hresult, Except.mapError, Failure.toFault]

/-! ### Ways to fail -/

/-- **How an accepted call of a query can fail.** -/
inductive CanFail (index : Index) (args : Arguments) : Query → Failure → Prop where
  /-- A question to the index fails. -/
  | index {q : Query} {e : Catalog.Error} : index.Fails e → CanFail index args q (.index e)
  /-- There is no instant for the time after which changes are listed. -/
  | time {seconds : Int64} : args.int "since" = .ok seconds →
      Instant.ofSeconds? seconds.toInt = none →
      CanFail index args .changelog (.argument (outOfRange seconds))

/-- All failures are among some. -/
def FailsOnly {α : Type} (P : Failure → Prop) (x : Except Failure α) : Prop :=
  ∀ failure, x = .error failure → P failure

namespace FailsOnly

variable {α β : Type} {P : Failure → Prop}

theorem ok (a : α) : FailsOnly P (.ok a) := nofun

theorem argument {x : Except Fault α} (h : ∃ a, x = .ok a) : FailsOnly P (argument x) := by
  obtain ⟨a, rfl⟩ := h
  exact ok a

theorem answer {x : Except Catalog.Error α} (h : ∀ e, x = .error e → P (.index e)) :
    FailsOnly P (answer x) := by
  intro failure heq
  cases x with
  | ok a => cases heq
  | error e =>
    cases heq
    exact h e rfl

theorem bind {x : Except Failure α} {f : α → Except Failure β} (h : FailsOnly P x)
    (hf : ∀ a, FailsOnly P (f a)) : FailsOnly P (x >>= f) := by
  intro failure heq
  cases x with
  | error failure' =>
    obtain rfl : failure' = failure := Except.error.inj heq
    exact h failure' rfl
  | ok a => exact hf a failure heq

end FailsOnly

/-! ### No access fails -/

/-- The parameters of a query have distinct names, and their defaults fit. -/
theorem isSound_params (q : Query) : Schema.IsSound q.params where
  nodup := by cases q <;> decide
  defaults := by
    cases q with
    | packageReleases | changelog =>
      simp only [params, List.forall_mem_cons]
      refine ⟨nofun, fun v hv => ?_, nofun⟩
      cases hv
      exact .bool false
    | listPackages | listPackagesWithSerial | changelogLastSerial => exact nofun
    | releaseData | releaseUrls =>
      simp only [params, List.forall_mem_cons]
      exact ⟨nofun, nofun, nofun⟩
    | _ =>
      simp only [params, List.forall_mem_cons]
      exact ⟨nofun, nofun⟩

/-- A listing of changes uses two arguments, and then needs the instant of the first. -/
theorem exists_resultOver_changelog (index : Index) (links : Links)
    (h : Schema.bind (.checked changelog.params) given = .ok args) :
    ∃ seconds withIds, args.int "since" = .ok seconds ∧
      changelog.resultOver index links args = instantOf seconds >>= fun since =>
        answer (index.journalSince since changelogLimit) >>= fun entries =>
          pure (.arr (entries.map (changelogRow withIds))) := by
  obtain ⟨seconds, hseconds⟩ := changelog.isSound_params.exists_int h (.head _)
  obtain ⟨withIds, hwithIds⟩ := changelog.isSound_params.exists_bool h (.tail _ (.head _))
  refine ⟨seconds, withIds, hseconds, ?_⟩
  rw [resultOver, hseconds, hwithIds]
  rfl

/-- **No access to an argument fails in an accepted call.** Each argument that a query uses is
declared with the kind for which the query asks, so what fails is the index or the time. -/
theorem canFail_of_resultOver {q : Query} (h : Schema.bind (.checked q.params) given = .ok args) :
    FailsOnly (CanFail index args q) (q.resultOver index links args) := by
  have hsound := q.isSound_params
  have hproject (hp : ⟨"package_name", .str, none⟩ ∈ q.params) :
      FailsOnly (CanFail index args q) (projectIn index args) :=
    (FailsOnly.argument (hsound.exists_text h hp)).bind fun _ =>
      FailsOnly.answer fun _ h => .index (.project h)
  cases q with
  | listPackages => exact (FailsOnly.answer fun _ h => .index (.projectNames h)).bind fun _ => .ok _
  | listPackagesWithSerial =>
    exact (FailsOnly.answer fun _ h => .index (.projectSerials h)).bind fun _ => .ok _
  | packageHostingMode => exact .ok _
  | userPackages =>
    have husername := hsound.exists_text h (.head _)
    exact (FailsOnly.argument husername).bind fun _ =>
      (FailsOnly.answer fun _ h => .index (.userRoles h)).bind fun _ => .ok _
  | packageReleases =>
    have hhidden := hsound.exists_bool h (.tail _ (.head _))
    refine (hproject (.head _)).bind fun project? => ?_
    cases project? with
    | none => exact .ok _
    | some p => exact (FailsOnly.argument hhidden).bind fun _ => .ok _
  | releaseData | releaseUrls =>
    have hversion := hsound.exists_text h (.tail _ (.head _))
    exact (FailsOnly.argument hversion).bind fun _ => (hproject (.head _)).bind fun _ => .ok _
  | packageRoles =>
    have hname := hsound.exists_text h (.head _)
    exact (FailsOnly.argument hname).bind fun _ =>
      (FailsOnly.answer fun _ h => .index (.projectRoles h)).bind fun _ => .ok _
  | changelogLastSerial =>
    refine (FailsOnly.answer fun _ h => .index (.lastSerial h)).bind fun serial? => ?_
    cases serial? <;> exact .ok _
  | changelogSinceSerial =>
    have hserial := hsound.exists_int h (.head _)
    exact (FailsOnly.argument hserial).bind fun _ =>
      (FailsOnly.answer fun _ h => .index (.journalSinceSerial h)).bind fun _ => .ok _
  | changelog =>
    obtain ⟨seconds, withIds, hseconds, hresult⟩ := exists_resultOver_changelog index links h
    rw [hresult]
    refine FailsOnly.bind (fun failure heq => ?_) fun _ =>
      (FailsOnly.answer fun _ h => .index (.journalSince h)).bind fun _ => .ok _
    unfold instantOf at heq
    split at heq
    · cases heq
    · next hnone =>
      cases heq
      exact .time hseconds hnone
  | browse =>
    have hclassifiers := hsound.exists_texts h (.head _)
    exact (FailsOnly.argument hclassifiers).bind fun _ =>
      (FailsOnly.answer fun _ h => .index (.releasesWithClassifiers h)).bind fun _ => .ok _

/-- The fault of a mistyped argument begins like no other fault. -/
theorem toFault_ne_mistyped {q : Query} {failure : Failure} (h : CanFail index args q failure)
    (name expected : String) : failure.toFault ≠ Arguments.mistyped name expected := by
  cases h with
  | index _ => simp [Failure.toFault, Arguments.mistyped]
  | time _ _ =>
    intro heq
    have htext := congrArg String.toList (Fault.wrapped.inj heq).2
    simp at htext

/-- A fault of an accepted call is that of a failure which can occur. -/
theorem exists_canFail_of_outcome {q : Query} (h : Schema.bind (.checked q.params) given = .ok args)
    {call : Call} (houtcome : (q.handlerOver index links call args).outcome = .error fault) :
    ∃ failure, CanFail index args q failure ∧ failure.toFault = fault := by
  rw [outcome_handlerOver] at houtcome
  cases hresult : q.resultOver index links args with
  | ok v =>
    rw [hresult] at houtcome
    cases houtcome
  | error failure =>
    rw [hresult] at houtcome
    exact ⟨failure, canFail_of_resultOver h failure hresult, Except.error.inj houtcome⟩

theorem outcome_handlerOver_ne_mistyped {q : Query}
    (h : Schema.bind (.checked q.params) given = .ok args) (call : Call) (name expected : String) :
    (q.handlerOver index links call args).outcome ≠ .error (Arguments.mistyped name expected) := by
  intro heq
  obtain ⟨failure, hfails, hfault⟩ := exists_canFail_of_outcome h heq
  exact toFault_ne_mistyped hfails name expected hfault

/-- Over an index in memory, a query fails only for a time that no instant has. -/
theorem outcome_handler_eq_error_iff {q : Query} {catalog : Catalog} {call : Call}
    (h : Schema.bind (.checked q.params) given = .ok args) :
    (q.handler (.ok catalog) links call args).outcome = .error fault ↔
      q = .changelog ∧ ∃ seconds, args.int "since" = .ok seconds ∧
        Instant.ofSeconds? seconds.toInt = none ∧ fault = outOfRange seconds := by
  rw [← handlerOver_ofSource]
  constructor
  · intro heq
    obtain ⟨failure, hfails, rfl⟩ := exists_canFail_of_outcome h heq
    cases hfails with
    | index hfails => cases Index.eq_error_of_fails hfails
    | time hseconds hnone => exact ⟨rfl, _, hseconds, hnone, rfl⟩
  · rintro ⟨rfl, seconds, hseconds, hnone, rfl⟩
    obtain ⟨seconds', withIds, hseconds', hresult⟩ :=
      exists_resultOver_changelog (.ofSource (.ok catalog)) links h
    obtain rfl : seconds = seconds' := Except.ok.inj (hseconds.symm.trans hseconds')
    rw [outcome_handlerOver, hresult, instantOf, hnone]
    rfl

end Query

theorem Retired.name_injective : Function.Injective Retired.name := by
  intro r r' h
  cases r <;> cases r' <;> first | rfl | exact absurd h (by decide)

theorem Query.name_ne_name (q : Query) (r : Retired) : q.name ≠ r.name := by
  cases q <;> cases r <;> decide

theorem Retired.fault_ne_mistyped (r : Retired) (domain name expected : String) :
    r.fault domain ≠ Arguments.mistyped name expected := by
  intro heq
  cases r with
  | multicall =>
    have htext := congrArg String.toList (Fault.wrapped.inj heq).2
    simp at htext
  | _ => cases (Fault.wrapped.inj heq).1

/-- What is served under a name is the query or the retired method of the name. -/
theorem method_of_route? {g : Gateway} (hg : g.services = []) {endpoint name : String} {s : Service}
    (hroute : (g.acceptAll (methods source links)).route? endpoint name = some s) :
    (∃ q : Query, name = q.name ∧ s.method = { q.method source links with aliases := endpoints }) ∨
      ∃ r : Retired, name = r.name ∧
        s.method = { r.method links.domain with aliases := endpoints } := by
  obtain ⟨hmem, rfl, -⟩ := Gateway.mem_of_route? hroute
  obtain ⟨m, hm, hmethod⟩ := List.mem_map.mp (method_mem_methods hg hmem)
  rw [← hmethod]
  rcases mem_table hm with ⟨q, rfl⟩ | ⟨r, rfl⟩
  · exact .inl ⟨q, rfl, rfl⟩
  · exact .inr ⟨r, rfl, rfl⟩

theorem Query.method_mem_table (q : Query) : q.method source links ∈ table source links := by
  cases q <;> simp [table]

/-- A query is served under its name at the endpoints of the table. -/
theorem exists_route?_of_query {g : Gateway} (hg : g.services = []) (q : Query) {endpoint : String}
    (he : endpoint ∈ endpoints) :
    ∃ s, (register g source links).2.1.route? endpoint q.name = some s ∧
      s.method = { q.method source links with aliases := endpoints } := by
  rw [gateway_register hg]
  obtain ⟨s, hs, hmethod⟩ := @Gateway.exists_mem_services_acceptAll g (methods source links)
    { q.method source links with aliases := endpoints } (List.mem_map_of_mem q.method_mem_table)
  have haliases : endpoint ∈ s.method.aliases := by
    rw [hmethod]
    exact he
  have hrouted := Gateway.isSome_route?_of_mem hs haliases
  rw [hmethod] at hrouted
  obtain ⟨s', hroute⟩ := Option.isSome_iff_exists.mp hrouted
  refine ⟨s', hroute, ?_⟩
  rcases method_of_route? hg hroute with ⟨q', hname, hmethod'⟩ | ⟨retired, hname, -⟩
  · obtain rfl : q = q' := Query.name_injective hname
    exact hmethod'
  · exact absurd hname (q.name_ne_name retired)

/-- **No accepted call ends with the fault of a mistyped argument.** -/
theorem outcome_ne_mistyped {m : Method} (hm : m ∈ methods source links)
    (h : m.schema.bind given = .ok args) (call : Call) (name expected : String) :
    (m.handler call args).outcome ≠ .error (Arguments.mistyped name expected) := by
  obtain ⟨m', hm', rfl⟩ := List.mem_map.mp hm
  rcases mem_table hm' with ⟨q, rfl⟩ | ⟨r, rfl⟩
  · show (q.handler source links call args).outcome ≠ _
    rw [← Query.handlerOver_ofSource]
    exact Query.outcome_handlerOver_ne_mistyped h call name expected
  · intro heq
    exact r.fault_ne_mistyped links.domain name expected (Except.error.inj heq)

section Table

variable {g : Gateway} {catalog : Catalog} {state : State} {now : Moment} {r : Request} {s : Service}

/-- The faults of the handlers of a table over an index in memory. -/
theorem outcome_of_route? (hg : g.services = [])
    (hroute : (g.acceptAll (methods (.ok catalog) links)).route? r.endpoint r.method = some s)
    (hbound : s.method.schema.bind r.params = .ok args) (call : Call) :
    (s.method.handler call args).outcome = .error fault ↔
      (∃ retired : Retired, r.method = retired.name ∧ fault = retired.fault links.domain) ∨
      (r.method = Query.changelog.name ∧ ∃ seconds, args.int "since" = .ok seconds ∧
        Instant.ofSeconds? seconds.toInt = none ∧ fault = Query.outOfRange seconds) := by
  rcases method_of_route? hg hroute with ⟨q, hname, hmethod⟩ | ⟨retired, hname, hmethod⟩
  · rw [hmethod] at hbound ⊢
    have hnot : ¬ ∃ retired : Retired, r.method = retired.name ∧
        fault = retired.fault links.domain := by
      rintro ⟨retired, hretired, -⟩
      exact q.name_ne_name retired (hname.symm.trans hretired)
    rw [or_iff_right hnot, hname, Query.name_injective.eq_iff]
    exact Query.outcome_handler_eq_error_iff hbound
  · rw [hmethod, hname]
    have hnot : retired.name ≠ Query.changelog.name := (Query.changelog.name_ne_name retired).symm
    simp only [hnot, false_and, or_false, Retired.name_injective.eq_iff]
    show Except.error (retired.fault links.domain) = .error fault ↔ _
    simp [eq_comm]

/-- A method with a fault of its own keeps no responses, so its handler is asked each time. -/
theorem cache_eq_none_of_outcome (hg : g.services = [])
    (hroute : (g.acceptAll (methods (.ok catalog) links)).route? r.endpoint r.method = some s)
    (hbound : s.method.schema.bind r.params = .ok args) {call : Call}
    (houtcome : (s.method.handler call args).outcome = .error fault) : s.method.cache = none := by
  rcases method_of_route? hg hroute with ⟨q, hname, hmethod⟩ | ⟨retired, hname, hmethod⟩
  · rw [hmethod] at hbound houtcome ⊢
    obtain ⟨rfl, -⟩ := (Query.outcome_handler_eq_error_iff hbound).mp houtcome
    rfl
  · rw [hmethod]
    rfl

/-- An admitted call whose arguments are bound gets no response exactly if the handler has a fault, and
then it ends with it. -/
theorem result_eq_error_iff_outcome (hg : g.services = []) (hpost : r.isPost = true)
    (hroute : (g.acceptAll (methods (.ok catalog) links)).route? r.endpoint r.method = some s)
    (hwithin : (state.limiter.hit now r.caller).test now r.caller = true)
    (hbound : s.method.schema.bind r.params = .ok args) {ending : Ending} :
    ((g.acceptAll (methods (.ok catalog) links)).dispatch state now r).1.result = .error ending ↔
      ∃ fault, ending = .fault fault ∧ (s.method.handler r.call args).outcome = .error fault := by
  refine ⟨Gateway.exists_outcome_of_result hpost hroute hwithin hbound, ?_⟩
  rintro ⟨fault, rfl, houtcome⟩
  have hkept : s.kept? state.stores now r.call = none := by
    simp [Service.kept?, cache_eq_none_of_outcome hg hroute hbound houtcome]
  obtain ⟨-, -, hfault⟩ := Gateway.answer_of_not_kept hpost hroute hwithin hbound hkept
  exact hfault fault houtcome

end Table

/-- **The declared parameters and the handlers fit each other.** Over any index and for all arguments
of a call, in whatever way they are given, a query whose arguments are bound does not end with the
fault of a mistyped argument, and neither does any method of the table. Where the table is served
over an index in memory, an admitted call whose arguments are bound gets no response in two cases only:
a retired method has its fixed one, and a listing of changes after a time that no instant has gets
the fault for that time. -/
theorem handlers_fit_schemas :
    (∀ (index : Index) (links : Links) (q : Query) (given : Params) (args : Arguments) (call : Call),
      Schema.bind (.checked q.params) given = .ok args → ∀ name expected,
      (q.handlerOver index links call args).outcome ≠ .error (Arguments.mistyped name expected)) ∧
    (∀ (source : Catalog.Source) (links : Links), ∀ m ∈ methods source links,
      ∀ (given : Params) (args : Arguments) (call : Call), m.schema.bind given = .ok args →
      ∀ name expected, (m.handler call args).outcome ≠ .error (Arguments.mistyped name expected)) ∧
    ∀ (store : Option Nat) (catalog : Catalog) (links : Links) (state : State) (now : Moment)
      (r : Request) (s : Service) (args : Arguments),
      let g := (register { store } (.ok catalog) links).2.1
      r.isPost = true → g.route? r.endpoint r.method = some s →
      (state.limiter.hit now r.caller).test now r.caller = true →
      s.method.schema.bind r.params = .ok args → ∀ ending,
      (g.dispatch state now r).1.result = .error ending ↔
        (∃ retired : Retired, r.method = retired.name ∧ ending = .fault (retired.fault links.domain)) ∨
        (r.method = Query.changelog.name ∧ ∃ seconds, args.int "since" = .ok seconds ∧
          Instant.ofSeconds? seconds.toInt = none ∧ ending = .fault (Query.outOfRange seconds)) := by
  refine ⟨?_, ?_, ?_⟩
  · intro index links q given args call h
    exact Query.outcome_handlerOver_ne_mistyped h call
  · intro source links m hm given args call h
    exact outcome_ne_mistyped hm h call
  · intro store catalog links state now r s args
    dsimp only
    rw [gateway_register rfl]
    intro hpost hroute hwithin hbound ending
    rw [result_eq_error_iff_outcome rfl hpost hroute hwithin hbound]
    cases ending with
    | breakdown why => simp
    | fault fault =>
      simp only [Ending.fault.injEq, exists_eq_left']
      exact outcome_of_route? rfl hroute hbound r.call

/-- Changes are to be listed after a time that no instant has. Over an index that gives no answer, the
arguments are used without complaint; and over an index in memory, the fault is that for the time. -/
theorem handlers_fit_schemas_changelog :
    let r : Request := { endpoint := "pypi", method := "changelog"
                         params := { keyword := [("since", .ofInt64 9000000000000)] } }
    let args : Arguments := ⟨[("since", .ofInt64 9000000000000), ("with_ids", .bool false)]⟩
    let links : Links := ⟨"pypi.test", ""⟩
    let offline : Catalog.Source := .error (.unavailable "connection refused")
    let g := (register {} (.ok Catalog.empty) links).2.1
    Schema.bind (.checked Query.changelog.params) r.params = .ok args ∧
    (Query.changelog.handlerOver (.ofSource offline) links r.call args).outcome ≠
      .error (Arguments.mistyped "since" "an integer") ∧
    (g.dispatch ⟨.unlimited, []⟩ 0 r).1.result = .error (Query.outOfRange 9000000000000) := by
  intro r args links offline g
  have hbound : Schema.bind (.checked Query.changelog.params) r.params = .ok args := rfl
  obtain ⟨hover, -, hserved⟩ := handlers_fit_schemas
  refine ⟨hbound, hover _ links .changelog r.params args r.call hbound "since" "an integer", ?_⟩
  obtain ⟨s, hroute, hmethod⟩ :=
    @exists_route?_of_query (.ok Catalog.empty) links {} rfl .changelog "pypi" (by decide)
  have hpost : r.isPost = true := by decide
  have hservice : s.method.schema.bind r.params = .ok args := by
    rw [hmethod]
    exact hbound
  have hnone : Instant.ofSeconds? (9000000000000 : Int64).toInt = none := by decide +kernel
  exact (hserved none Catalog.empty links ⟨.unlimited, []⟩ 0 r s args hpost hroute rfl hservice _).mpr
    (.inr ⟨rfl, 9000000000000, rfl, hnone, rfl⟩)

end IndexGateway.Legacy

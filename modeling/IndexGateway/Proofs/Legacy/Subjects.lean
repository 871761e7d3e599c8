import IndexGateway.Proofs.Legacy.Methods

/-!
# What the results of queries are about

The result of a query is about one project, which the first argument names in some
spelling, or about no project in particular. Two parts of the gateway look at the name:
the cache policy makes a tag of it, and the index finds the project by it.

## What is proved

Both see nothing but the canonical form of the name. The tag of a result shows which
project the result is about, if any (`Query.name_resolve_eq_iff`); and two calls that
name one project in two spellings, and are the same otherwise, get the same reply
(`Query.NamesAlike.handler`) and the same tag.
-/

namespace IndexGateway

open Json

/-! ### The first argument -/

/-- The first parameter has the first binding: an argument that fits, or the default. -/
theorem Schema.exists_binding_of_bind {p : Param} {params : List Param} {given : Params}
    {args : Arguments} (h : bind (.checked (p :: params)) given = .ok args) :
    ∃ value rest, args.bindings = (p.name, value) :: rest ∧
      (p.type.check value p.name = [] ∨ p.default = some value) := by
  obtain ⟨hnone, rfl⟩ := bind_checked_eq_ok_iff.mp h
  have hfits := violations_eq_nil_of_examine hnone
  have hparams := map_param_examine (p :: params) given
  generalize (examine (p :: params) given).2 = seats at hfits hparams
  obtain _ | ⟨s, seats⟩ := seats
  · cases hparams
  obtain rfl : s.param = p := (List.cons.inj hparams).1
  have hs := (List.forall_mem_cons.mp hfits).1
  obtain ⟨p, given⟩ := s
  cases given with
  | some value => exact ⟨value, _, rfl, .inl hs⟩
  | none =>
    cases hdefault : p.default with
    | some value =>
      have hbinding : Seat.binding? ⟨p, none⟩ = some (p.name, value) := by
        unfold Seat.binding?
        simp only [hdefault]
      exact ⟨value, _, List.filterMap_cons_some hbinding, .inr rfl⟩
    | none =>
      unfold Seat.violations at hs
      simp only [hdefault] at hs
      cases hs

namespace Legacy.Query

variable {q : Query} {given given' : Params} {args args' : Arguments} {policy : CachePolicy}
  {m m' c : String} {source : Catalog.Source} {links : Links}

/-! ### Subjects -/

/-- Whether the result of a query is about one project. -/
def isAboutProject : Query → Bool
  | packageReleases | releaseData | releaseUrls | packageRoles => true
  | _ => false

/-- The canonical name of the project that the result of a query is about, if it is about one. -/
def subject? (q : Query) (args : Arguments) : Option String :=
  if q.isAboutProject then (args.text "package_name").toOption.map ProjectName.canonical else none

theorem subject?_of_isAboutProject (hq : q.isAboutProject = true)
    (hm : args.text "package_name" = .ok m) : q.subject? args = some (ProjectName.canonical m) := by
  unfold subject?
  rw [if_pos hq, hm]
  rfl

/-- A query about a project declares its name as the first parameter. -/
theorem params_of_isAboutProject (hq : q.isAboutProject = true) :
    ∃ params, q.params = { name := "package_name", type := .str } :: params := by
  cases q with
  | packageReleases | releaseData | releaseUrls | packageRoles => exact ⟨_, rfl⟩
  | _ => cases hq

/-- A call about a project names it in the first binding, however the name was given. -/
theorem exists_name_of_bind (hq : q.isAboutProject = true)
    (h : Schema.bind (.checked q.params) given = .ok args) :
    ∃ m, args.nth? 0 = some (.str m) ∧ args.text "package_name" = .ok m := by
  obtain ⟨params, hparams⟩ := params_of_isAboutProject hq
  rw [hparams] at h
  obtain ⟨value, rest, hbindings, hfits | hdefault⟩ := Schema.exists_binding_of_bind h
  · obtain ⟨m, rfl⟩ : ∃ m, value = .str m := by
      cases value with
      | str m => exact ⟨m, rfl⟩
      | _ => simp [ParamType.check, text?] at hfits
    obtain ⟨bindings⟩ := args
    obtain rfl : bindings = _ := hbindings
    exact ⟨m, rfl, rfl⟩
  · cases hdefault

/-! ### Tags -/

/-- The name of the tag for results about a project. -/
theorem name_byProject_resolve (h : args.nth? 0 = some (.str m)) :
    (CachePolicy.byProject.resolve args).name = "project/" ++ ProjectName.canonical m := by
  have hcut : Text.cut? ['%', 's'] "project/%s".toList = some ("project/".toList, []) := by decide
  unfold CachePolicy.resolve CachePolicy.byProject
  dsimp only
  rw [h, Text.replaceFirst, hcut]
  simp only [CachePolicy.variablePart, List.append_nil, String.ofList_append, String.ofList_toList]

theorem eq_byProject_of_cache (hq : q.isAboutProject = true) (h : q.cache = some policy) :
    policy = .byProject := by
  cases q with
  | packageReleases | releaseData | releaseUrls | packageRoles => exact (Option.some.inj h).symm
  | _ => cases hq

theorem eq_allProjects_of_cache (hq : q.isAboutProject = false) (h : q.cache = some policy) :
    policy = .allProjects := by
  cases q with
  | listPackages | listPackagesWithSerial => exact (Option.some.inj h).symm
  | packageReleases | releaseData | releaseUrls | packageRoles => cases hq
  | _ => cases h

/-- The tag of a result tells its subject. -/
theorem name_resolve (hpolicy : q.cache = some policy)
    (h : Schema.bind (.checked q.params) given = .ok args) :
    (policy.resolve args).name = (q.subject? args).elim "all-projects" ("project/" ++ ·) := by
  cases hq : q.isAboutProject with
  | true =>
    obtain ⟨m, hfirst, hm⟩ := exists_name_of_bind hq h
    obtain rfl := eq_byProject_of_cache hq hpolicy
    rw [subject?_of_isAboutProject hq hm, name_byProject_resolve hfirst]
    rfl
  | false =>
    have hsubject : q.subject? args = none := if_neg (by simp [hq])
    obtain rfl := eq_allProjects_of_cache hq hpolicy
    rw [hsubject]
    rfl

/-- **A tag shows the subject**: results have the tag of a project exactly if they are about it. -/
theorem name_resolve_eq_iff (hpolicy : q.cache = some policy)
    (h : Schema.bind (.checked q.params) given = .ok args) :
    (policy.resolve args).name = "project/" ++ c ↔ q.subject? args = some c := by
  rw [name_resolve hpolicy h]
  cases q.subject? args with
  | none =>
    have hother : "all-projects" ≠ "project/" ++ c := by
      intro heq
      have hfront := congrArg (List.head? ∘ String.toList) heq
      simp at hfront
    simp [hother]
  | some c' => simp

/-! ### Replies -/

/-- The index sees the canonical form of a name. -/
theorem project?_eq_of_canonical_eq (h : ProjectName.canonical m = ProjectName.canonical m')
    (c : Catalog) : c.project? m = c.project? m' := by
  unfold Catalog.project?
  rw [h]

theorem packageRoles_eq_of_canonical_eq (h : ProjectName.canonical m = ProjectName.canonical m')
    (c : Catalog) : Legacy.packageRoles c m = Legacy.packageRoles c m' := by
  unfold Legacy.packageRoles Catalog.projectRoles
  rw [h]

/-- Two calls that name the same project in some spellings, and are the same otherwise. -/
structure NamesAlike (args args' : Arguments) : Prop where
  /-- Both name a project, and it is the same. -/
  name : ∃ m m', args.text "package_name" = .ok m ∧ args'.text "package_name" = .ok m' ∧
    ProjectName.canonical m = ProjectName.canonical m'
  /-- The other arguments are the same. -/
  others : ∀ name, name ≠ "package_name" → args.get? name = args'.get? name

theorem NamesAlike.projectOf (h : NamesAlike args args') :
    projectOf source args = projectOf source args' := by
  obtain ⟨m, m', hm, hm', hsame⟩ := h.name
  unfold Query.projectOf
  rw [hm, hm']
  show ask source (·.project? m) = ask source (·.project? m')
  rw [funext (project?_eq_of_canonical_eq hsame)]

theorem NamesAlike.expect {α : Type} (h : NamesAlike args args') {name : String}
    (hname : name ≠ "package_name") (view : Json → Option α) (expected : String) :
    args.expect name view expected = args'.expect name view expected := by
  unfold Arguments.expect
  rw [h.others name hname]

theorem NamesAlike.result (h : NamesAlike args args') (hq : q.isAboutProject = true) :
    q.result source links args = q.result source links args' := by
  have hversion : args.text "version" = args'.text "version" := h.expect (by decide) _ _
  have hhidden : args.bool "show_hidden" = args'.bool "show_hidden" := h.expect (by decide) _ _
  cases q with
  | packageReleases =>
    unfold Query.result
    rw [h.projectOf, hhidden]
  | releaseData =>
    unfold Query.result
    rw [h.projectOf, hversion]
  | releaseUrls =>
    unfold Query.result
    rw [h.projectOf, hversion]
  | packageRoles =>
    obtain ⟨m, m', hm, hm', hsame⟩ := h.name
    unfold Query.result
    rw [hm, hm']
    show ask source (Legacy.packageRoles · m) = ask source (Legacy.packageRoles · m')
    rw [funext (packageRoles_eq_of_canonical_eq hsame)]
  | _ => cases hq

/-- **All spellings of a name get the same reply.** -/
theorem NamesAlike.handler (h : NamesAlike args args') (hq : q.isAboutProject = true) (call : Call) :
    q.handler source links call args = q.handler source links call args' := by
  unfold Query.handler
  rw [h.result hq]

/-- **All spellings of a name get the same tag**, and the same time for it. -/
theorem NamesAlike.resolve (h : NamesAlike args args') (hq : q.isAboutProject = true)
    (hargs : Schema.bind (.checked q.params) given = .ok args)
    (hargs' : Schema.bind (.checked q.params) given' = .ok args') (hpolicy : q.cache = some policy) :
    policy.resolve args = policy.resolve args' := by
  obtain ⟨m, m', hm, hm', hsame⟩ := h.name
  have hsubject : q.subject? args = q.subject? args' := by
    rw [subject?_of_isAboutProject hq hm, subject?_of_isAboutProject hq hm', hsame]
  have hname : (policy.resolve args).name = (policy.resolve args').name := by
    rw [name_resolve hpolicy hargs, name_resolve hpolicy hargs', hsubject]
  have hboth : ∀ args, policy.resolve args = ⟨(policy.resolve args).name, policy.ttl⟩ := by
    intro args
    unfold CachePolicy.resolve
    split <;> rfl
  calc policy.resolve args = ⟨(policy.resolve args).name, policy.ttl⟩ := hboth args
    _ = ⟨(policy.resolve args').name, policy.ttl⟩ := by rw [hname]
    _ = policy.resolve args' := (hboth args').symm

end Legacy.Query

end IndexGateway

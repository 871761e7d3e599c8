import IndexGateway.Legacy.Table
import IndexGateway.Proofs.Schema.Conformance

/-!
# Replies of queries

What a query replies to a call, before the gateway cleans the result: the arguments of the
call are bound to its parameters, and its handler does its work.

## What is proved

Over an index in memory, a query that gets its arguments in order replies with what the
index knows. There is one equation for each query that is about a user, a project or
classifiers (`Query.replyTo_userPackages` and so on), so nobody has to look into the
binding of arguments again.
-/

namespace IndexGateway

/-! ### Arguments -/

theorem Json.texts?_ofTexts (texts : List String) : (Json.ofTexts texts).texts? = some texts := by
  rw [Json.texts?, Json.ofTexts]
  dsimp only [Json.items?]
  induction texts with
  | nil => rfl
  | cons s texts ih => simp [ih, Json.text?]

theorem ParamType.conforms_ofTexts (texts : List String) : Conforms (.list .str) (.ofTexts texts) := by
  refine .list fun v hv => ?_
  obtain ⟨s, -, rfl⟩ := List.mem_map.mp hv
  exact .str s

theorem ParamType.conforms_ofInt64 (n : Int64) : Conforms .int (.ofInt64 n) := .int n.toInt_lt

/-- A method with one parameter binds the only argument of a call to it, if that fits. -/
theorem Schema.bind_singleton {p : Param} {v : Json} (h : ParamType.Conforms p.type v) :
    Schema.bind (.checked [p]) { positional := [v] } = .ok ⟨[(p.name, v)]⟩ := by
  have hfits : p.type.check v p.name = [] := ParamType.check_eq_nil_iff.mpr h
  simp [Schema.bind, Schema.examine, Schema.seat, Schema.reseatAll, Schema.surplus,
    Schema.Seat.violations, Schema.Seat.binding?, hfits]

namespace Legacy.Query

/-! ### Calls -/

/-- What a query answers to a call: the arguments are bound to its parameters, and its handler does
its work. -/
def reply (source : Catalog.Source) (links : Links) (q : Query) (call : Call) :
    Except Fault Json :=
  match Schema.bind (.checked q.params) call.params with
  | .ok args => (q.handler source links call args).outcome
  | .error fault => .error fault

/-- What a query answers over an index in memory to a call with these arguments, in order. -/
def replyTo (c : Catalog) (links : Links) (call : Call) (q : Query) (args : List Json) :
    Except Fault Json :=
  q.reply (.ok c) links { call with params := { positional := args } }

variable {c : Catalog} {links : Links} {call : Call}

theorem replyTo_userPackages (username : String) :
    userPackages.replyTo c links call [.str username] = .ok (Legacy.userPackages c username) := rfl

theorem replyTo_packageRoles (name : String) :
    packageRoles.replyTo c links call [.str name] = .ok (Legacy.packageRoles c name) := rfl

/-- A project that is unknown has no versions to show. -/
theorem replyTo_packageReleases (name : String) (showHidden : Bool) :
    packageReleases.replyTo c links call [.str name, .bool showHidden] =
      .ok (.ofTexts ((c.project? name).elim [] (shownVersions · showHidden))) := by
  let args : Arguments := ⟨[("package_name", .str name), ("show_hidden", .bool showHidden)]⟩
  have hproject : projectOf (.ok c) args = .ok (c.project? name) := rfl
  have hhidden : args.bool "show_hidden" = .ok showHidden := rfl
  show (packageReleases.handler (.ok c) links _ args).outcome = _
  rw [handler, result, hproject, hhidden]
  cases c.project? name <;> rfl

/-- Unless it is told otherwise, the query shows the latest version only. -/
theorem replyTo_packageReleases_default (name : String) :
    packageReleases.replyTo c links call [.str name] =
      packageReleases.replyTo c links call [.str name, .bool false] := rfl

theorem replyTo_releaseData (name version : String) :
    releaseData.replyTo c links call [.str name, .str version] =
      .ok (releaseDataOf links (c.project? name) version) := rfl

theorem replyTo_releaseUrls (name version : String) :
    releaseUrls.replyTo c links call [.str name, .str version] =
      .ok (releaseUrlsOf links (c.project? name) version) := rfl

theorem replyTo_browse (classifiers : List String) :
    browse.replyTo c links call [.ofTexts classifiers] = .ok (Legacy.browse c classifiers) := by
  have htexts : Arguments.texts ⟨[("classifiers", .ofTexts classifiers)]⟩ "classifiers" =
      .ok classifiers := by
    simp [Arguments.texts, Arguments.expect, Arguments.get?, Json.field?, Json.texts?_ofTexts]
  have hbind : Schema.bind (.checked browse.params) { positional := [.ofTexts classifiers] } =
      .ok ⟨[("classifiers", .ofTexts classifiers)]⟩ :=
    Schema.bind_singleton (ParamType.conforms_ofTexts classifiers)
  rw [replyTo, reply, hbind]
  dsimp only
  rw [handler, result, htexts]
  rfl

end Legacy.Query

end IndexGateway

import IndexGateway.Proofs.Legacy.Arguments
import IndexGateway.Proofs.Schema.Reports

/-!
# Texts from outside in faults

Results are cleaned before they are returned, and the texts of faults are not. Most of what
a fault says is fixed, or a number. But three texts that come from outside are repeated in
faults as they are: a name under which a caller gives an argument and which is not
declared, the domain in the explanation of a retired search, and the reason why an index
gave no answer. So a fault can hold what no result can.

## The model

`Refusal` lists the faults that a request to the table can get, by the stages of a call,
and `Quotes` the texts from outside that they repeat.

## What is proved

* `refusal_of_result` — a gateway that serves the table answers no other faults.
* `Refusal.isSafe_message_iff` — the text of a fault is safe exactly if all texts that it
  repeats are.
* `isSafe_fault_iff` — hence the same of every fault that is answered, over every index and
  in every state. A caller who gives an argument a name with a letter beyond ASCII gets that
  letter back (`not_isSafe_fault_of_name`).
-/

namespace IndexGateway

open Json Text

/-- An error of the arguments is the report about their problems. -/
theorem Schema.eq_invalidParams_of_bind {params : List Param} {given : Params} {fault : Fault}
    (h : bind (.checked params) given = .error fault) :
    fault = .invalidParams (report (problems params given)) := by
  have hproblems : problems params given ≠ [] := by
    intro hnil
    have hok := bind_checked_eq_ok_iff.mpr ⟨(congrArg Prod.fst (examine_eq params given)).trans hnil, rfl⟩
    rw [h] at hok
    cases hok
  rw [bind_checked_of_problems hproblems] at h
  exact (Except.error.inj h).symm

/-- The kind in front of a detail is a fixed text. -/
theorem Fault.isSafe_message_wrapped {kind : ErrorKind} {detail : String} :
    IsSafe (Fault.message (.wrapped kind detail)) ↔ IsSafe detail := by
  have hkind : IsSafe (kind.name ++ ": ") := by cases kind <;> decide
  exact isSafe_append.trans (and_iff_right hkind)

theorem Fault.isSafe_message_invalidParams {detail : String} :
    IsSafe (Fault.message (.invalidParams detail)) ↔ IsSafe detail := by
  have hprefix : IsSafe "client error; " := by decide
  exact isSafe_append.trans (and_iff_right hprefix)

theorem Admission.isSafe_message_refusal (wait : Option Duration) :
    IsSafe (Admission.refusal wait).message := by
  have htext : IsSafe refusalText := by decide +kernel
  unfold refusal
  rw [Fault.isSafe_message_wrapped]
  cases wait with
  | none => exact htext
  | some d =>
    simp only [isSafe_append, htext, isSafe_ofNat, true_and, and_true]
    decide

namespace Legacy

variable {source : Catalog.Source} {links : Links} {r : Request} {fault : Fault} {text : String}

/-! ### Faults of the table -/

/-- **The faults that a request to the table can get**, by the stage at which it fails. -/
inductive Refusal (source : Catalog.Source) (links : Links) (r : Request) : Fault → Prop where
  /-- The verb is not `POST`. -/
  | verb : Refusal source links r .application
  /-- There is no method of this name. -/
  | unknown : Refusal source links r (.methodNotFound r.method)
  /-- The caller is beyond its quota. -/
  | exceeded (wait : Option Duration) : Refusal source links r (Admission.refusal wait)
  /-- The arguments do not fit the parameters of the query. -/
  | unbound {q : Query} : r.method = q.name →
      Refusal source links r (.invalidParams (Schema.report (Schema.problems q.params r.params)))
  /-- The method is retired. -/
  | retired (retired : Retired) : Refusal source links r (retired.fault links.domain)
  /-- There is no instant for the time after which changes are listed. -/
  | time (seconds : Int64) : Refusal source links r (Query.outOfRange seconds)
  /-- The index gives no answer. -/
  | index {e : Catalog.Error} : source = .error e →
      Refusal source links r (.wrapped .lookup e.message)

section Table

variable {g : Gateway} {state : State} {now : Moment} {s : Service} {args : Arguments}
  (hg : g.services = [])
  (hroute : (g.acceptAll (methods source links)).route? r.endpoint r.method = some s)

include hg hroute

theorem refusal_of_bind (h : s.method.schema.bind r.params = .error fault) :
    Refusal source links r fault := by
  rcases method_of_route? hg hroute with ⟨q, hname, hmethod⟩ | ⟨retired, -, hmethod⟩
  · rw [hmethod] at h
    rw [Schema.eq_invalidParams_of_bind h]
    exact .unbound hname
  · rw [hmethod] at h
    cases h

theorem refusal_of_outcome (hbound : s.method.schema.bind r.params = .ok args) {call : Call}
    (h : (s.method.handler call args).outcome = .error fault) : Refusal source links r fault := by
  rcases method_of_route? hg hroute with ⟨q, -, hmethod⟩ | ⟨retired, -, hmethod⟩
  · rw [hmethod] at hbound h
    have hq : (q.handlerOver (.ofSource source) links call args).outcome = .error fault := by
      rw [Query.handlerOver_ofSource]
      exact h
    obtain ⟨failure, hfails, rfl⟩ := Query.exists_canFail_of_outcome hbound hq
    cases hfails with
    | index hfails => exact .index (Index.eq_error_of_fails hfails)
    | time _ _ => exact .time _
  · rw [hmethod] at h
    cases h
    exact .retired retired

omit hroute

/-- **A gateway that serves the table answers no other faults.** -/
theorem refusal_of_result
    (h : ((g.acceptAll (methods source links)).dispatch state now r).1.result = .error fault) :
    Refusal source links r fault := by
  cases hpost : r.isPost with
  | false =>
    rw [(Gateway.turnsAway_of_not_isPost hpost).result] at h
    cases h
    exact .verb
  | true =>
    cases hroute : (g.acceptAll (methods source links)).route? r.endpoint r.method with
    | none =>
      rw [(Gateway.turnsAway_of_not_routed hpost hroute).result] at h
      cases h
      exact .unknown
    | some s =>
      cases hwithin : (state.limiter.hit now r.caller).test now r.caller with
      | false =>
        rw [(Gateway.turnsAway_of_exceeded hpost hroute hwithin).result] at h
        obtain ⟨wait, rfl⟩ := Admission.exists_wait_of_ending (Except.error.inj h)
        exact .exceeded wait
      | true =>
        cases hbound : s.method.schema.bind r.params with
        | error fault' =>
          rw [(Gateway.turnsAway_of_unbound hpost hroute hwithin hbound).result] at h
          cases h
          exact refusal_of_bind hg hroute hbound
        | ok args =>
          exact refusal_of_outcome hg hroute hbound
            (Gateway.outcome_of_result hpost hroute hwithin hbound h)

/-- Arguments that do not fit the parameters of a query are answered with the report. -/
theorem result_of_unbound_query {q : Query} (hpost : r.isPost = true) (he : r.endpoint ∈ endpoints)
    (hname : r.method = q.name)
    (hwithin : (state.limiter.hit now r.caller).test now r.caller = true)
    (hbound : Schema.bind (.checked q.params) r.params = .error fault) :
    ((register g source links).2.1.dispatch state now r).1.result = .error fault := by
  obtain ⟨s, hroute, hmethod⟩ := @exists_route?_of_query source links g hg q r.endpoint he
  rw [← hname] at hroute
  have hunbound : s.method.schema.bind r.params = .error fault := by
    rw [hmethod]
    exact hbound
  exact (Gateway.turnsAway_of_unbound hpost hroute hwithin hunbound).result

end Table

/-! ### What faults repeat -/

/-- The reason that an error of an index gives. -/
def reasonOf : Catalog.Error → String
  | .unavailable reason => reason
  | .corrupt reason => reason

theorem isSafe_message_error {e : Catalog.Error} : IsSafe e.message ↔ IsSafe (reasonOf e) := by
  have hunavailable : IsSafe "index unavailable: " := by decide
  have hcorrupt : IsSafe "corrupt index data: " := by decide
  cases e with
  | unavailable reason => exact isSafe_append.trans (and_iff_right hunavailable)
  | corrupt reason => exact isSafe_append.trans (and_iff_right hcorrupt)

/-- **The texts from outside that a fault repeats.** -/
inductive Quotes (source : Catalog.Source) (links : Links) (r : Request) (fault : Fault) :
    String → Prop where
  /-- A name under which an argument is given, and which the query does not declare. -/
  | name {q : Query} {name : String} : fault.category = .invalidParams → r.method = q.name →
      name ∈ keys r.params.keyword → name ∉ q.params.map Param.name → Quotes source links r fault name
  /-- The domain of the search page. -/
  | domain : fault = Retired.search.fault links.domain → Quotes source links r fault links.domain
  /-- The reason of the index. -/
  | reason {e : Catalog.Error} : fault = .wrapped .lookup e.message → source = .error e →
      Quotes source links r fault (reasonOf e)

theorem isSafe_report_of_query (q : Query) (given : Params) :
    IsSafe (Schema.report (Schema.problems q.params given)) ↔
      ∀ name ∈ keys given.keyword, name ∉ q.params.map Param.name → IsSafe name := by
  refine Schema.isSafe_report_iff ?_ ?_
  · cases q <;> decide
  · cases q <;> decide

theorem isSafe_seeHelpPage {s : String} :
    IsSafe (s ++ Retired.helpPage ++ " for more information.") ↔ IsSafe s := by
  have hhelp : IsSafe Retired.helpPage := by decide +kernel
  have hend : IsSafe " for more information." := by decide +kernel
  rw [isSafe_append, isSafe_append, and_iff_left hhelp, and_iff_left hend]

/-- Of the explanations of retired methods, one names the domain, and the others are fixed texts. -/
theorem Retired.isSafe_message_fault (retired : Retired) (domain : String) :
    IsSafe (retired.fault domain).message ↔ (retired = .search → IsSafe domain) := by
  have hdeprecated : IsSafe deprecated.message := by
    refine Fault.isSafe_message_wrapped.mpr (isSafe_seeHelpPage.mpr ?_)
    decide +kernel
  cases retired with
  | search =>
    have hbefore :
        IsSafe "PyPI no longer supports 'pip search' (or XML-RPC search). Please use https://" := by
      decide +kernel
    have hbehind : IsSafe "/search (via a browser) instead. See " := by decide +kernel
    refine Fault.isSafe_message_wrapped.trans (isSafe_seeHelpPage.trans ?_)
    simp only [isSafe_append, hbefore, hbehind, true_and, and_true, forall_const]
  | topPackages =>
    refine iff_of_true (Fault.isSafe_message_wrapped.mpr (isSafe_seeHelpPage.mpr ?_)) (by simp)
    decide +kernel
  | packageData | packageUrls => exact iff_of_true hdeprecated (by simp)
  | multicall =>
    refine iff_of_true (Fault.isSafe_message_wrapped.mpr ?_) (by simp)
    decide +kernel

theorem Query.isSafe_message_outOfRange (seconds : Int64) : IsSafe (outOfRange seconds).message := by
  have hbefore : IsSafe "timestamp " := by decide
  have hbehind : IsSafe " is out of range" := by decide
  refine Fault.isSafe_message_wrapped.mpr ?_
  simp only [isSafe_append, hbefore, hbehind, isSafe_ofInt, and_self]

namespace Refusal

/-- The fault for arguments is the report about their problems with the parameters of the query. -/
theorem eq_of_category (h : Refusal source links r fault) (hcategory : fault.category = .invalidParams) :
    ∃ q : Query, r.method = q.name ∧
      fault = .invalidParams (Schema.report (Schema.problems q.params r.params)) := by
  cases h with
  | unbound hname => exact ⟨_, hname, rfl⟩
  | retired retired => cases retired <;> cases hcategory
  | verb | unknown | exceeded _ | time _ | index _ => cases hcategory

/-- A text that a safe fault repeats is safe. -/
theorem isSafe_of_quotes (h : Refusal source links r fault) (hsafe : IsSafe fault.message)
    (hquotes : Quotes source links r fault text) : IsSafe text := by
  cases hquotes with
  | name hcategory hname hmem hnew =>
    obtain ⟨q, hq, rfl⟩ := h.eq_of_category hcategory
    obtain rfl := Query.name_injective (hname.symm.trans hq)
    exact (isSafe_report_of_query _ r.params).mp (Fault.isSafe_message_invalidParams.mp hsafe) _ hmem hnew
  | domain heq =>
    subst heq
    exact (Retired.isSafe_message_fault .search links.domain).mp hsafe rfl
  | reason heq _ =>
    subst heq
    exact isSafe_message_error.mp (Fault.isSafe_message_wrapped.mp hsafe)

/-- **The text of a fault is safe exactly if all texts from outside are that it repeats.** -/
theorem isSafe_message_iff (h : Refusal source links r fault) :
    IsSafe fault.message ↔ ∀ text, Quotes source links r fault text → IsSafe text := by
  refine ⟨fun hsafe text => h.isSafe_of_quotes hsafe, fun hquotes => ?_⟩
  cases h with
  | verb => decide
  | unknown =>
    have hfixed : IsSafe "server error; requested method not found" := by decide
    exact hfixed
  | exceeded wait => exact Admission.isSafe_message_refusal wait
  | unbound hname =>
    refine Fault.isSafe_message_invalidParams.mpr ((isSafe_report_of_query _ r.params).mpr ?_)
    exact fun name hmem hnew => hquotes name (.name rfl hname hmem hnew)
  | retired retired =>
    refine (Retired.isSafe_message_fault retired links.domain).mpr fun hsearch => ?_
    exact hquotes links.domain (.domain (by rw [hsearch]))
  | time seconds => exact Query.isSafe_message_outOfRange seconds
  | index hsource =>
    exact Fault.isSafe_message_wrapped.mpr
      (isSafe_message_error.mpr (hquotes _ (.reason rfl hsource)))

end Refusal

/-- **A fault is as safe as the texts from outside that it repeats.** Let the table be served over any
index. Whatever the state and the request: if a fault is answered, cleaning leaves its text as it is
exactly if the text is safe, and this is so exactly if each of these is safe where the fault repeats
it: a name under which an argument was given and which is not declared, the domain that searchers
are sent to, and the reason why the index gave no answer. -/
theorem isSafe_fault_iff (store : Option Nat) (source : Catalog.Source) (links : Links) (state : State)
    (now : Moment) (r : Request) (fault : Fault) :
    let g := (register { store } source links).2.1
    (g.dispatch state now r).1.result = .error fault →
      (Text.clean fault.message = fault.message ↔ IsSafe fault.message) ∧
      (IsSafe fault.message ↔ ∀ text, Quotes source links r fault text → IsSafe text) := by
  intro g hresult
  have hserved : g = Gateway.acceptAll { store } (methods source links) := gateway_register rfl
  rw [hserved] at hresult
  exact ⟨clean_eq_self_iff, (refusal_of_result rfl hresult).isSafe_message_iff⟩

/-- An argument has the name `package`, which no parameter of the query has. The fault repeats it, and
its text is as safe as the name. -/
theorem isSafe_fault_iff_package :
    let r : Request := { endpoint := "pypi", method := "list_packages"
                         params := { keyword := [("package", .null)] } }
    let links : Links := ⟨"pypi.test", ""⟩
    let g := (register {} (.ok Catalog.empty) links).2.1
    let fault : Fault := .invalidParams "package: unexpected keyword argument"
    (g.dispatch ⟨.unlimited, []⟩ 0 r).1.result = .error fault ∧
    Text.clean fault.message = fault.message := by
  intro r links g fault
  have hbound : Schema.bind (.checked Query.listPackages.params) r.params = .error fault := rfl
  have hresult : (g.dispatch ⟨.unlimited, []⟩ 0 r).1.result = .error fault :=
    result_of_unbound_query rfl (by decide) (by decide) rfl rfl hbound
  obtain ⟨hclean, hiff⟩ :=
    isSafe_fault_iff none (.ok Catalog.empty) links ⟨.unlimited, []⟩ 0 r fault hresult
  refine ⟨hresult, hclean.mpr (hiff.mpr fun text hquotes => ?_)⟩
  cases hquotes with
  | name _ _ hmem _ =>
    obtain rfl : text = "package" := List.mem_singleton.mp hmem
    decide
  | domain heq => exact absurd heq (by simp [fault, Retired.fault])
  | reason heq _ => exact absurd heq (by simp [fault])

/-- **A caller gets back a letter beyond ASCII**: an argument with the name `é`, which no parameter of
the query has, is reported under this name. Cleaning would write a reference to the letter. -/
theorem not_isSafe_fault_of_name :
    let r : Request := { endpoint := "pypi", method := "list_packages"
                         params := { keyword := [("é", .null)] } }
    let links : Links := ⟨"pypi.test", ""⟩
    let g := (register {} (.ok Catalog.empty) links).2.1
    let fault : Fault := .invalidParams "é: unexpected keyword argument"
    (g.dispatch ⟨.unlimited, []⟩ 0 r).1.result = .error fault ∧
    ¬ IsSafe fault.message ∧
    Text.clean fault.message = "client error; &#233;: unexpected keyword argument" ∧
    Text.clean fault.message ≠ fault.message := by
  intro r links g fault
  have hbound : Schema.bind (.checked Query.listPackages.params) r.params = .error fault := rfl
  refine ⟨result_of_unbound_query rfl (by decide) (by decide) rfl rfl hbound, ?_, ?_, ?_⟩
  · decide +kernel
  · decide +kernel
  · decide +kernel

end Legacy

end IndexGateway

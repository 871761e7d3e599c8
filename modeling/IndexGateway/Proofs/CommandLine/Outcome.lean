import IndexGateway.CommandLine.Run
import IndexGateway.Proofs.Application.Room
import IndexGateway.Proofs.Gateway.Sanitized
import IndexGateway.Proofs.Legacy.Codes
import IndexGateway.Proofs.Legacy.Arguments
import IndexGateway.Proofs.Limiter.Overlap

/-!
# What a call on the command line shows

The command line puts an application together for a single call. Its limiter and its
room for responses are fresh, so neither can show: the first call of a caller is within
every quota that settings may have, and there is nothing in the store yet. What is
printed is therefore the outcome of the same call on a gateway that has neither.

## The model

The plain gateway serves the table over the same index with the same links; its limiter
is `unlimited`, and it has no stores.

## What is proved

* `SlidingWindow.test_hit_start` — a limiter that just started admits a call.
* `Gateway.result_dispatch_of_admitted` — of a limiter, only whether it admits a call
  shows in the result.
* `Legacy.isClean_of_result`, `Legacy.ne_tooManyRequests_of_result` — the results of the
  plain gateway are clean and flat enough to be read back, and its faults are never that
  of a caller who made too many calls.
* `shows_outcome` — so the printed text of a call reads back as the result or as the
  fault, and the exit code tells which; provided that the log filter can be taken apart
  and that the host is resolved to which metrics are sent. What happens otherwise, or if
  the settings are only checked, is shown by `shows_no_outcome_of_others`.
-/

namespace IndexGateway

open Json

/-! ### The first call -/

/-- A limiter that just started admits a call, if its quota admits any. -/
theorem SlidingWindow.test_hit_start {quota : Nat} (h : 0 < quota) (length : Duration)
    (started now : Moment) (caller : String) :
    ((start quota length started).hit now caller).test now caller = true := by
  have hview : ((start quota length started).hit now caller).view now caller =
      (start quota length started).recent now ((start quota length started).trim [now]) := by
    simp [view_hit (Nat.le_refl now), view_start]
  have hlength : (((start quota length started).hit now caller).view now caller).length ≤ 1 := by
    rw [hview, recent, trim]
    calc (List.dropWhile _ (List.drop _ [now])).length
        ≤ (List.drop _ [now]).length := (List.dropWhile_sublist _).length_le
      _ ≤ [now].length := (List.drop_sublist _ _).length_le
  have hquota : ((start quota length started).hit now caller).quota = quota := by
    simp only [hit, sweepIfDue]
    split <;> rfl
  rw [test_eq_view, hquota]
  exact decide_eq_true (Nat.le_trans hlength h)

/-- The limiter of settings without a flaw admits the first call. -/
theorem Application.test_hit_limiterOf {settings : Settings} (hvalid : settings.flaw? = none)
    (started now : Moment) (caller : String) :
    ((limiterOf settings started).hit now caller).test now caller = true := by
  rw [limiterOf]
  split
  · next henabled =>
    have hrequests : 0 < settings.quota.requests.toNat := by
      rw [Settings.flaw?, List.find?_eq_none] at hvalid
      have hnot := hvalid .noRequests (by simp [Settings.flaws])
      have hne : settings.quota.requests ≠ 0 := by simpa [Settings.has, henabled] using hnot
      exact Nat.pos_of_ne_zero fun hzero => hne (UInt32.toNat_inj.mp hzero)
    exact SlidingWindow.test_hit_start hrequests _ started now caller
  · rfl

/-- **Of a limiter, only whether it admits a call shows in the result.** -/
theorem Gateway.result_dispatch_of_admitted (g : Gateway) {limiter limiter' : Limiter}
    (stores : List Store) {now : Moment} {r : Request}
    (h : (limiter.hit now r.caller).test now r.caller = true)
    (h' : (limiter'.hit now r.caller).test now r.caller = true) :
    (g.dispatch { limiter, stores } now r).1.result =
      (g.dispatch { limiter := limiter', stores } now r).1.result := by
  cases hpost : r.isPost with
  | false => rw [dispatch_of_not_isPost hpost, dispatch_of_not_isPost hpost]
  | true =>
    cases hroute : g.route? r.endpoint r.method with
    | none => rw [dispatch_of_not_routed hpost hroute, dispatch_of_not_routed hpost hroute]
    | some s =>
      rw [dispatch_of_routed hpost hroute, dispatch_of_routed hpost hroute, Service.result_serve,
        Service.result_serve]
      have hcaller : r.call.caller = r.caller := rfl
      rw [hcaller, Admission.judge_of_within h, Admission.judge_of_within h']

/-- **An admitted request is turned away in front of the handlers, or reaches one.** The faults with
which it is turned away wrap no error of the application. -/
theorem Gateway.turnedAway_or_bound {g : Gateway} {state : State} {now : Moment} {r : Request}
    (hwithin : (state.limiter.hit now r.caller).test now r.caller = true) :
    (∃ fault : Fault, (g.dispatch state now r).1.result = .error fault ∧
      ∀ kind detail, fault ≠ .wrapped kind detail) ∨
    ∃ s args, r.isPost = true ∧ g.route? r.endpoint r.method = some s ∧
      s.method.schema.bind r.params = .ok args := by
  cases hpost : r.isPost with
  | false => exact .inl ⟨_, (turnsAway_of_not_isPost hpost).result, nofun⟩
  | true =>
    cases hroute : g.route? r.endpoint r.method with
    | none => exact .inl ⟨_, (turnsAway_of_not_routed hpost hroute).result, nofun⟩
    | some s =>
      cases hbound : s.method.schema.bind r.params with
      | error fault =>
        obtain ⟨detail, rfl⟩ := Schema.exists_detail_of_bind hbound
        exact .inl ⟨_, (turnsAway_of_unbound hpost hroute hwithin hbound).result, nofun⟩
      | ok args => exact .inr ⟨s, args, rfl, rfl, hbound⟩

/-- A request that is admitted gets a response or a fault. -/
theorem Gateway.exists_fault_of_result {g : Gateway} {state : State} {now : Moment} {r : Request}
    {ending : Ending} (hwithin : (state.limiter.hit now r.caller).test now r.caller = true)
    (h : (g.dispatch state now r).1.result = .error ending) : ∃ fault, ending = .fault fault := by
  rcases turnedAway_or_bound hwithin with ⟨fault, hfault, -⟩ | ⟨s, args, hpost, hroute, hbound⟩
  · rw [hfault] at h
    exact ⟨fault, (Except.error.inj h).symm⟩
  · obtain ⟨fault, hfault, -⟩ := exists_outcome_of_result hpost hroute hwithin hbound h
    exact ⟨fault, hfault⟩

/-! ### Results of the plain gateway -/

/-- What calls find on the plain gateway. -/
def State.plain : State := { limiter := .unlimited, stores := [] }

namespace Legacy

variable {source : Catalog.Source} {catalog : Catalog} {links : Links} {g : Gateway} {now : Moment}
  {r : Request} {response : Response} {fault : Fault}

/-- Without stores, a result is the cleaned value of a query. -/
theorem exists_plain_of_result (hg : g.services = [])
    (h : ((g.acceptAll (methods source links)).dispatch .plain now r).1.result = .ok response) :
    ∃ v, IsPlain 3 v ∧ response.value = v.clean := by
  have hwithin : (State.plain.limiter.hit now r.caller).test now r.caller = true := rfl
  rcases Gateway.turnedAway_or_bound hwithin with ⟨fault, hfault, -⟩ | ⟨s, args, hpost, hroute, hbound⟩
  · rw [hfault] at h
    cases h
  have hkept : s.kept? State.plain.stores now r.call = none := s.kept?_nil now r.call
  obtain ⟨-, hvalue, hfault⟩ := Gateway.answer_of_not_kept hpost hroute hwithin hbound hkept
  cases houtcome : (s.method.handler r.call args).outcome with
  | error fault =>
    rw [hfault fault houtcome] at h
    cases h
  | ok v =>
    rw [hvalue v houtcome] at h
    cases h
    rcases method_of_route? hg hroute with ⟨q, -, hmethod⟩ | ⟨retired, -, hmethod⟩
    · rw [hmethod] at houtcome
      exact ⟨v, Query.isPlain_of_outcome houtcome, rfl⟩
    · rw [hmethod] at houtcome
      cases houtcome

/-- **Results are clean, and flat enough to be read back.** -/
theorem isClean_of_result (hg : g.services = [])
    (h : ((g.acceptAll (methods source links)).dispatch .plain now r).1.result = .ok response) :
    response.value.IsClean ∧ response.value.nesting ≤ nestingLimit := by
  obtain ⟨v, ⟨hfloatless, hnesting⟩, hvalue⟩ := exists_plain_of_result hg h
  rw [hvalue]
  refine ⟨isClean_clean hfloatless, ?_⟩
  calc v.clean.nesting ≤ v.nesting := nesting_clean_le v
    _ ≤ 3 := hnesting
    _ ≤ nestingLimit := by decide

/-- No handler over an index in memory speaks of too many requests. -/
theorem outcome_ne_tooManyRequests {s : Service} {args : Arguments} (hg : g.services = [])
    (hroute : (g.acceptAll (methods (.ok catalog) links)).route? r.endpoint r.method = some s)
    (hbound : s.method.schema.bind r.params = .ok args) (call : Call) (detail : String) :
    (s.method.handler call args).outcome ≠ .error (.wrapped .tooManyRequests detail) := by
  intro houtcome
  rcases (outcome_of_route? hg hroute hbound call).mp houtcome with
    ⟨retired, -, hfault⟩ | ⟨-, seconds, -, -, hfault⟩
  · cases retired <;> cases (Fault.wrapped.inj hfault).1
  · cases (Fault.wrapped.inj hfault).1

/-- **A caller who is admitted is not told that it made too many requests.** -/
theorem ne_tooManyRequests_of_result {state : State} (hg : g.services = [])
    (hwithin : (state.limiter.hit now r.caller).test now r.caller = true) (detail : String) :
    ((g.acceptAll (methods (.ok catalog) links)).dispatch state now r).1.result ≠
      .error (.fault (.wrapped .tooManyRequests detail)) := by
  intro h
  rcases Gateway.turnedAway_or_bound hwithin with ⟨fault, hfault, hne⟩ | ⟨s, args, hpost, hroute, hbound⟩
  · rw [hfault] at h
    exact hne _ _ (Ending.fault.inj (Except.error.inj h))
  · exact outcome_ne_tooManyRequests hg hroute hbound r.call detail
      (Gateway.outcome_of_result hpost hroute hwithin hbound h)

end Legacy

/-! ### What is printed -/

namespace CommandLine

/-- The end of the line does not matter to who reads the text. -/
theorem blanks_newline : Blanks ['\n'] := List.forall_mem_singleton.mpr rfl

/-- The text of a result reads back as its value. -/
theorem parse?_outputOf_ok {response : Response} (hclean : response.value.IsClean)
    (hnesting : response.value.nesting ≤ nestingLimit) :
    parse? (outputOf (.ok response)).text = some response.value :=
  (parse?_pretty hclean.floatless hclean.distinct blanks_newline).trans (if_pos hnesting)

/-- The text of a fault reads back as its body. -/
theorem parse?_outputOf_fault (fault : Fault) :
    parse? (outputOf (.error (.fault fault))).text = some fault.body := by
  have hfloatless : IsFloatless fault.body := by
    rw [Fault.body, isFloatless_obj_iff]
    simp [ofInt64]
  have hdistinct : HasDistinctKeys fault.body := by
    rw [Fault.body, hasDistinctKeys_obj_iff]
    refine ⟨by simp [keys], ?_⟩
    simp only [List.forall_mem_cons]
    exact ⟨.num _, .str _, List.forall_mem_nil _⟩
  have hnesting : fault.body.nesting ≤ nestingLimit := by
    simp [Fault.body, nesting, nestingOfFields, ofInt64, nestingLimit]
  exact (parse?_pretty hfloatless hdistinct blanks_newline).trans (if_pos hnesting)

/-- Settings that are loaded have no flaw. -/
theorem flaw?_of_loadSettings {files : Files} {i : Invocation} {settings : Settings}
    (h : loadSettings files i = .ok settings) : settings.flaw? = none := by
  obtain ⟨s, -, h⟩ := Legacy.exists_of_bind_eq_ok h
  dsimp only at h
  split at h
  · cases h
  · next hnone =>
    cases h
    exact hnone

/-- A fresh application has the result of the plain gateway. -/
theorem result_call_assembled {settings : Settings} (hvalid : settings.flaw? = none) (c : Catalog)
    (now : Moment) (r : Request) :
    ((Application.assembled settings c now).call now r).1.result =
      ((Legacy.register {} (.ok c) settings.links).2.1.dispatch .plain now r).1.result := by
  have hroom := (Application.call_withoutRoom (Application.isSound_assembled settings c now) now r).1
  have hassembled : Application.assembled settings.withoutRoom c now =
      { gateway := ({} : Gateway).acceptAll (Legacy.methods (.ok c) settings.links)
        state := { limiter := Application.limiterOf settings.withoutRoom now, stores := [] } } := rfl
  have hwithin :=
    Application.test_hit_limiterOf (Settings.flaw?_withoutRoom hvalid) now now r.caller
  rw [hroom, Application.withoutRoom_assembled, hassembled, Legacy.gateway_register rfl]
  simp only [Application.call]
  exact Gateway.result_dispatch_of_admitted _ [] hwithin rfl

/-- A call shows the result of the application that is put together for it. -/
theorem run_call {files : Files} {hosts : Hosts} {i : Invocation} {o : CallOptions}
    {settings : Settings} {c : Catalog} {r : Request} (hcheck : i.isCheck = false)
    (hcommand : i.command = some (.call o)) (hsettings : loadSettings files i = .ok settings)
    (hfilter : (LogFilter.ofText? settings.logging.level).isSome = true)
    (hagent : settings.agent.enabled = true → hosts settings.agent.host = true)
    (hindex : Application.loadIndex files o.index = .ok c) (hrequest : o.request = .ok r)
    (now : Moment) :
    (run files hosts now i).1 =
      .ok (outputOf ((Application.assembled settings c now).call now r).1.result) := by
  have hhasAgent : Application.hasAgent hosts settings = true := by
    cases henabled : settings.agent.enabled with
    | false => simp [Application.hasAgent, henabled]
    | true => simp [Application.hasAgent, hagent henabled]
  obtain ⟨log, hbuild⟩ : ∃ log, Application.build files hosts settings o.index true now =
      (.ok (Application.assembled settings c now), log) :=
    ⟨_, Prod.ext
      (Application.build_eq (flaw?_of_loadSettings hsettings) (fun _ => hhasAgent) hindex now) rfl⟩
  have hparses : (LogFilter.ofText? settings.logging.level).isNone = false := by
    rw [← Option.not_isSome, hfilter]
    rfl
  simp [run, hsettings, hparses, runWith, hcheck, hcommand, execute, hbuild, makeCall, hrequest]

/-- **A call on the command line shows the outcome of the call.** Let the settings be ones that are
loaded and checked, with a log filter that can be taken apart and, if metrics are to be sent, a host
that is resolved; let the index and the arguments be ones that can be read, and let there be more to
do than to check the settings. Then something is printed. The result of the same request on a gateway
without limiter and stores is one of these:

* it is a response, the exit code is success, and the printed text reads back as the response's value,
  which is clean;
* it is a fault, the exit code is failure, and the printed text reads back as the object of the
  fault's code and text; and the fault is not that of too many requests. -/
theorem shows_outcome {files : Files} {hosts : Hosts} {i : Invocation} {o : CallOptions}
    {settings : Settings} {c : Catalog} {r : Request} (hcheck : i.isCheck = false)
    (hcommand : i.command = some (.call o)) (hsettings : loadSettings files i = .ok settings)
    (hfilter : (LogFilter.ofText? settings.logging.level).isSome = true)
    (hagent : settings.agent.enabled = true → hosts settings.agent.host = true)
    (hindex : Application.loadIndex files o.index = .ok c) (hrequest : o.request = .ok r)
    (now : Moment) :
    let plain : Gateway := (Legacy.register {} (.ok c) settings.links).2.1
    let result := (plain.dispatch { limiter := .unlimited, stores := [] } now r).1.result
    ∃ output, (run files hosts now i).1 = .ok output ∧
      ((∃ response, result = .ok response ∧ output.isSuccess = true ∧
          parse? output.text = some response.value ∧ response.value.IsClean) ∨
        ∃ fault, result = .error (.fault fault) ∧ output.isSuccess = false ∧
          parse? output.text = some (.obj
            [("faultCode", .ofInt64 fault.code), ("faultString", .str fault.message)]) ∧
          ∀ detail, fault ≠ .wrapped .tooManyRequests detail) := by
  intro plain result
  have hplain : plain = ({} : Gateway).acceptAll (Legacy.methods (.ok c) settings.links) :=
    Legacy.gateway_register rfl
  have hshown : (run files hosts now i).1 = .ok (outputOf result) := by
    rw [run_call hcheck hcommand hsettings hfilter hagent hindex hrequest now,
      result_call_assembled (flaw?_of_loadSettings hsettings) c now r]
    rfl
  refine ⟨outputOf result, hshown, ?_⟩
  cases hresult : result with
  | ok response =>
    left
    simp only [result, hplain] at hresult
    obtain ⟨hclean, hnesting⟩ := Legacy.isClean_of_result rfl hresult
    exact ⟨response, rfl, rfl, parse?_outputOf_ok hclean hnesting, hclean⟩
  | error ending =>
    right
    obtain ⟨fault, rfl⟩ := Gateway.exists_fault_of_result rfl hresult
    simp only [result, hplain] at hresult
    refine ⟨fault, rfl, rfl, parse?_outputOf_fault fault, fun detail hdetail => ?_⟩
    rw [hdetail] at hresult
    exact Legacy.ne_tooManyRequests_of_result rfl rfl detail hresult

theorem exists_of_isOk {ε α : Type} {x : Except ε α} (h : x.isOk = true) : ∃ a, x = .ok a := by
  cases x with
  | ok a => exact ⟨a, rfl⟩
  | error e => cases h

/-- The quota admits one call, the room holds one response, metrics go to a host by its name, and the
arguments name a project in another spelling and by keyword. -/
theorem shows_outcome_flask :
    let files : Files := fun path =>
      if path = "gateway.toml" then
        some ("[rate_limit]\nrequests = 1\nwindow_secs = 1\n[cache]\ncapacity = 1\n" ++
          "[metrics]\nenabled = true\nhost = \"statsd.internal\"\n")
      else
        some "\x7b\"projects\":[\x7b\"name\":\"Flask\",\"releases\":[\x7b\"version\":\"3.0\"\x7d]\x7d]\x7d"
    let hosts : Hosts := fun host => host = "statsd.internal"
    let o : CallOptions :=
      { method := "package_releases", keyword := "\x7b\"package_name\":\"FLASK\"\x7d"
        index := some "index.json" }
    let i : Invocation := { config := some "gateway.toml", command := some (.call o) }
    let settings : Settings :=
      { quota := { requests := 1, windowSeconds := 1 }, room := { capacity := 1 }
        agent := { enabled := true, host := "statsd.internal" } }
    loadSettings files i = .ok settings ∧
    (LogFilter.ofText? settings.logging.level).isSome = true ∧ hosts settings.agent.host = true ∧
    ∃ c r output, Application.loadIndex files o.index = .ok c ∧ o.request = .ok r ∧
      (run files hosts 0 i).1 = .ok output ∧
      ∀ response, ((Legacy.register {} (.ok c) settings.links).2.1.dispatch
          { limiter := .unlimited, stores := [] } 0 r).1.result = .ok response →
        output.isSuccess = true ∧ parse? output.text = some response.value := by
  intro files hosts o i settings
  have hsettings : loadSettings files i = .ok settings := by decide +kernel
  have hfilter : (LogFilter.ofText? settings.logging.level).isSome = true := by decide +kernel
  have hhost : hosts settings.agent.host = true := by decide
  obtain ⟨c, hindex⟩ := exists_of_isOk
    (by decide +kernel : (Application.loadIndex files o.index).isOk = true)
  obtain ⟨r, hrequest⟩ := exists_of_isOk (by decide +kernel : o.request.isOk = true)
  obtain ⟨output, hrun, hshown⟩ :=
    shows_outcome rfl rfl hsettings hfilter (fun _ => hhost) hindex hrequest 0
  refine ⟨hsettings, hfilter, hhost, c, r, output, hindex, hrequest, hrun, fun response hresponse => ?_⟩
  rcases hshown with ⟨response', hresult, hsuccess, htext, -⟩ | ⟨fault, hresult, -⟩
  · rw [hresponse] at hresult
    cases hresult
    exact ⟨hsuccess, htext⟩
  · rw [hresponse] at hresult
    cases hresult

/-- **Not every call with valid settings is made.** The settings pass their checks, there is no index
to read, and the arguments are as they are by default. But no host has the name to which metrics are
to be sent; or the log filter names a level that there is not; or the settings are only to be checked,
and then a text is printed that reads back as nothing. -/
theorem shows_no_outcome_of_others :
    let hosts : Hosts := fun host => !host.toList.contains '\x00'
    let o : CallOptions := { method := "list_packages" }
    let metrics : Files := fun _ => some "[metrics]\nenabled = true\nhost = \"x\\u0000\"\n"
    let filter : Files := fun _ => some "[logging]\nlevel = \"rpcgate=loud\"\n"
    let i : Invocation := { config := some "gateway.toml", command := some (.call o) }
    (∃ c, Application.loadIndex metrics o.index = .ok c) ∧ (∃ r, o.request = .ok r) ∧
    ((∃ settings, loadSettings metrics i = .ok settings ∧ settings.flaw? = none) ∧
      (run metrics hosts 0 i).1 = .error (.build .agent)) ∧
    ((∃ settings, loadSettings filter i = .ok settings ∧ settings.flaw? = none) ∧
      (run filter hosts 0 i).1 = .error (.filter "rpcgate=loud")) ∧
    ∃ output, (run (fun _ => some "") hosts 0 { i with isCheck := true }).1 = .ok output ∧
      parse? output.text = none := by
  intro hosts o metrics filter i
  have hmetrics : loadSettings metrics i =
      .ok { agent := { enabled := true, host := "x\x00" } } := by decide +kernel
  have hloud : loadSettings filter i = .ok { logging := { level := "rpcgate=loud" } } := by
    decide +kernel
  have hplain : loadSettings (fun _ => some "") { i with isCheck := true } = .ok {} := by
    decide +kernel
  have hparses : (LogFilter.ofText? ({} : Settings).logging.level).isNone = false := by
    decide +kernel
  have hfails : (LogFilter.ofText? "rpcgate=loud").isNone = true := by decide +kernel
  refine ⟨⟨Catalog.empty, rfl⟩, exists_of_isOk (by decide +kernel), ⟨⟨_, hmetrics, by decide⟩, ?_⟩,
    ⟨⟨_, hloud, by decide⟩, ?_⟩, validOutput, ?_, by decide +kernel⟩
  · simp only [run, hmetrics, hparses]
    rfl
  · simp only [run, hloud, hfails, if_true]
  · simp only [run, hplain, hparses]
    rfl

end CommandLine

end IndexGateway

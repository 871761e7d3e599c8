import IndexGateway.Proofs.Gateway.Routing
import IndexGateway.Proofs.Gateway.WithStores
import IndexGateway.Proofs.Json.ReadBack
import IndexGateway.Proofs.Json.Safe

/-!
# Every result is clean

A value of a handler is cleaned before it is returned. A value of a store is not: it is
returned as it is read. That it is clean all the same is a matter of how it came there.

## The model

The handlers may change with every call, and the limiter may be of any kind; only the
stores are those of a gateway. They start without entries, and nothing but the calls puts
something there.

A value is clean (`Json.IsClean`) if its texts and keys are safe, the keys of each object
are distinct, and there is no floating-point number in it. The invariant of a run is that
the text of each entry was written from a clean value.

## What is proved

* `Act.Upholds` — what an act upholds is put together from what its parts uphold.
* `Surroundings.Upholds.dispatchAll` — a property that look-ups, handlers and the keeping
  of responses uphold holds of the value of every response in a run.
* `Gateway.results_clean` — so every text and every key in a result is safe, and cleaning
  leaves the result as it is, whether it comes from a handler or from a store, and however
  deep the value is nested: what is nested too deep to be read back is worked out again.
-/

namespace IndexGateway

open Json
open Metrics (Event)

/-! ### Clean values and their texts -/

/-- **A value that cleaning leaves as it is**, and that is read back as it is. -/
structure Json.IsClean (v : Json) : Prop where
  /-- Its texts and keys are safe. -/
  safe : IsSafe v
  /-- No object has a key twice. -/
  distinct : HasDistinctKeys v
  /-- It holds no floating-point number. -/
  floatless : IsFloatless v

theorem Json.isClean_clean {v : Json} (h : IsFloatless v) : IsClean v.clean where
  safe := isSafe_clean v
  distinct := hasDistinctKeys_clean v
  floatless := h.clean

theorem Json.IsClean.clean_eq {v : Json} (h : IsClean v) : v.clean = v := clean_of_isSafe h.safe h.distinct

/-- What is read from the text of a clean value is this value. -/
theorem Json.IsClean.eq_of_parse? {v v' : Json} (h : IsClean v) (hread : parse? v.compact = some v') :
    v' = v := by
  rw [parse?_compact h.floatless h.distinct] at hread
  split at hread
  · exact (Option.some.inj hread).symm
  · cases hread

/-- A text was written from a clean value, whatever its key. -/
def Json.IsCleanText (_key text : String) : Prop := ∃ v : Json, v.IsClean ∧ text = v.compact

/-- What is read from such a text is clean. -/
theorem Json.isClean_of_parse? {key text : String} {value : Json} (h : IsCleanText key text)
    (hread : parse? text = some value) : value.IsClean := by
  obtain ⟨v, hv, rfl⟩ := h
  rwa [hv.eq_of_parse? hread]

/-! ### What acts uphold -/

/-- **An act upholds `I`, and its value has `Q`.** -/
def Act.Upholds {σ α : Type} (I : σ → Prop) (Q : α → Prop) (x : Act σ α) : Prop :=
  ∀ state, I state → I (x.run state).2 ∧ ∀ a, (x.run state).1 = .ok a → Q a

namespace Act.Upholds

variable {σ α β : Type} {I : σ → Prop} {Q : α → Prop} {Q' : β → Prop}

theorem pure {a : α} (h : Q a) : Upholds I Q (pure a) := by
  intro state hstate
  refine ⟨hstate, fun a' heq => ?_⟩
  cases heq
  exact h

theorem bind {x : Act σ α} {f : α → Act σ β} (h : Upholds I Q x) (hf : ∀ a, Q a → Upholds I Q' (f a)) :
    Upholds I Q' (x >>= f) := by
  intro state hstate
  obtain ⟨hafter, hvalue⟩ := h state hstate
  rw [run_bind]
  generalize x.run state = done at hafter hvalue
  obtain ⟨result, state'⟩ := done
  cases result with
  | error fault => exact ⟨hafter, nofun⟩
  | ok a => exact hf a (hvalue a rfl) state' hafter

theorem ask {question : σ → Except Fault α × σ}
    (h : ∀ state, I state → I (question state).2 ∧ ∀ a, (question state).1 = .ok a → Q a) :
    Upholds I Q (ask question) := by
  intro state hstate
  obtain ⟨hafter, hvalue⟩ := h state hstate
  refine ⟨hafter, fun a heq => hvalue a ?_⟩
  rw [run_ask] at heq
  generalize (question state).1 = answer at heq
  cases answer with
  | error fault => cases heq
  | ok b =>
    cases heq
    rfl

theorem modifyGet {f : σ → α × σ} (h : ∀ state, I state → I (f state).2 ∧ Q (f state).1) :
    Upholds I Q (modifyGet f : Act σ α) := by
  intro state hstate
  refine ⟨(h state hstate).1, fun a heq => ?_⟩
  cases heq
  exact (h state hstate).2

end Act.Upholds

/-! ### What surroundings uphold -/

namespace Surroundings

variable {L R S : Type} {W : Surroundings L R} {emit : S → Event → S} {g : Gateway} {I : R → Prop}
  {P : Json → Prop} {s : Service} {now : Moment} {call : Call} {args : Arguments} {w : World L R S}

/-- **Stores and handlers uphold `I`, and every value has `P`** that is found in a store, or that is a
cleaned value of a handler of a gateway; values with `P` can be kept. -/
structure Upholds (W : Surroundings L R) (g : Gateway) (I : R → Prop) (P : Json → Prop) : Prop where
  /-- A look-up. -/
  lookup : ∀ {rest}, I rest → ∀ place now method params,
    I (W.lookup rest place now method params).2 ∧
      ∀ value, (W.lookup rest place now method params).1 = .ok (some value) → P value
  /-- The work of a handler. -/
  handle : ∀ {rest}, I rest → ∀ s ∈ g.services, ∀ call args,
    I (W.handle rest s call args).2 ∧ ∀ value, (W.handle rest s call args).1 = .ok value → P value.clean
  /-- The keeping of a response. -/
  keep : ∀ {rest}, I rest → ∀ place now method params response, P response.value →
    I (W.keep rest place now method params response).2

namespace Upholds

variable (h : W.Upholds g I P) (hs : s ∈ g.services)

include h hs

theorem compute (tag : Option CacheTag) :
    (W.compute s call args tag).Upholds I fun response => P response.value := by
  have hask : (Act.ask fun rest => W.handle rest s call args).Upholds I fun value => P value.clean :=
    .ask fun rest hrest => h.handle hrest s hs call args
  exact hask.bind fun value hvalue => .pure hvalue

theorem answerThrough (place : Nat) (tag : CacheTag) :
    (W.answerThrough s place now call args tag).Upholds I fun response => P response.value := by
  have hlookup : (modifyGet fun rest => W.lookup rest place now s.method.name call.params :
      Act R (Except StoreError (Option Json))).Upholds I
        fun found => ∀ value, found = .ok (some value) → P value :=
    .modifyGet fun rest hrest => h.lookup hrest place now s.method.name call.params
  have hcomputed : (do
      let response ← W.compute s call args (some tag)
      let _ ← modifyGet fun rest => W.keep rest place now s.method.name call.params response
      return response : Act R Response).Upholds I fun response => P response.value := by
    refine (h.compute hs (some tag)).bind fun response hresponse => ?_
    have hkeep : (modifyGet fun rest => W.keep rest place now s.method.name call.params response :
        Act R (Except StoreError Bool)).Upholds I fun _ => True :=
      .modifyGet fun rest hrest => ⟨h.keep hrest place now s.method.name call.params response hresponse,
        trivial⟩
    exact hkeep.bind fun _ _ => .pure hresponse
  refine hlookup.bind fun found hfound => ?_
  rcases found with e | _ | value
  · exact hcomputed
  · exact hcomputed
  · exact .pure (hfound value rfl)

theorem answerAdmitted :
    (W.answerAdmitted s now call).Upholds I fun response => P response.value := by
  have hbind : (Act.ask fun rest => (s.method.schema.bind call.params, rest) :
      Act R Arguments).Upholds I fun _ => True := .ask fun rest hrest => ⟨hrest, fun _ _ => trivial⟩
  refine hbind.bind fun args _ => ?_
  unfold answerBound
  split
  · exact h.answerThrough hs _ _
  · exact h.compute hs _

omit hs

/-- One request: what it leaves has `I`, and the value of a response has `P`. -/
theorem dispatch (hrest : I w.rest) (emit : S → Event → S) (now : Moment) (r : Request) :
    I ((W.dispatch emit g now r).run w).2.rest ∧
      ∀ response, ((W.dispatch emit g now r).run w).1 = .ok response → P response.value := by
  by_cases hcall : r.isPost = true ∧ ∃ s, g.route? r.endpoint r.method = some s
  · obtain ⟨hpost, s, hroute⟩ := hcall
    rw [run_dispatch_of_routed hpost hroute, run_serve]
    dsimp only
    cases (W.judge w.limiter now r.call.caller).1 with
    | some fault => exact ⟨hrest, nofun⟩
    | none => exact h.answerAdmitted (Gateway.mem_of_route? hroute).1 w.rest hrest
  · rw [run_dispatch_of_not_routed fun hpost => ?_]
    · exact ⟨hrest, nofun⟩
    · simpa [hpost, Option.eq_none_iff_forall_ne_some] using hcall

/-- **Every response of a run has a value with `P`.** -/
theorem dispatchAll (hrest : I w.rest) (run : List (Moment × Request)) :
    ∀ response, .ok response ∈ (W.dispatchAll emit g w run).1 → P response.value := by
  induction run generalizing w with
  | nil => exact nofun
  | cons timed run ih =>
    obtain ⟨now, r⟩ := timed
    obtain ⟨hafter, hvalue⟩ := h.dispatch hrest emit now r
    intro response hmem
    rw [Surroundings.dispatchAll] at hmem
    rcases List.mem_cons.mp hmem with heq | hmem
    · exact hvalue response heq.symm
    · exact ih hafter response hmem

end Upholds

/-! ### Stores that uphold cleanliness -/

theorem isClean_lookup_own {stores : List Store} (h : ∀ store ∈ stores, store.Holds IsCleanText)
    (place : Nat) (now : Moment) (method : String) (params : Params) :
    (∀ store ∈ (own.lookup stores place now method params).2, store.Holds IsCleanText) ∧
      ∀ value, (own.lookup stores place now method params).1 = .ok (some value) → value.IsClean := by
  obtain ⟨hholds, hfound⟩ := holds_lookup_own h place now method params
  refine ⟨hholds, fun value hvalue => ?_⟩
  obtain ⟨text, htext, hread⟩ := hfound value hvalue
  exact isClean_of_parse? htext hread

theorem upholds_own (hfloatless : ∀ s ∈ g.services, ∀ call args value,
    (s.method.handler call args).outcome = .ok value → IsFloatless value) :
    own.Upholds g (fun stores => ∀ store ∈ stores, store.Holds IsCleanText) IsClean where
  lookup h place now method params := isClean_lookup_own h place now method params
  handle h s hs call args := ⟨h, fun value hvalue => isClean_clean (hfloatless s hs call args value hvalue)⟩
  keep h place now method params _ hresponse :=
    holds_keep_own h place now method params ⟨_, hresponse, rfl⟩

theorem upholds_withStores (hfloatless : ∀ rest, ∀ s ∈ g.services, ∀ call args value,
    (W.handle rest s call args).1 = .ok value → IsFloatless value) :
    W.withStores.Upholds g (fun rest => ∀ store ∈ rest.1, store.Holds IsCleanText) IsClean where
  lookup h place now method params := isClean_lookup_own h place now method params
  handle {rest} h s hs call args :=
    ⟨h, fun value hvalue => isClean_clean (hfloatless rest.2 s hs call args value hvalue)⟩
  keep h place now method params _ hresponse :=
    holds_keep_own h place now method params ⟨_, hresponse, rfl⟩

end Surroundings

/-- **Every result is clean.** Let stores start without entries, and let no value of a handler hold a
floating-point number; the limiter may be of any kind, and the handlers may remember what they
like. Then in every run of requests, the value of each response, fresh or from a store, has safe
texts and keys at any depth, and cleaning leaves it as it is. So it is for a gateway in its own
surroundings, too. -/
theorem Gateway.results_clean (g : Gateway) (run : List (Moment × Request)) :
    (∀ {L R S : Type} (W : Surroundings L R) (emit : S → Event → S) (limiter : L) (stores : List Store)
      (rest : R) (sink : S),
      (∀ cache, .cached cache ∈ stores → cache.entries = []) →
      (∀ rest, ∀ s ∈ g.services, ∀ call args value,
        (W.handle rest s call args).1 = .ok value → IsFloatless value) →
      ∀ response : Response,
        .ok response ∈ (W.withStores.dispatchAll emit g ⟨limiter, (stores, rest), sink⟩ run).1 →
        IsSafe response.value ∧ response.value.clean = response.value) ∧
    ∀ state : State,
      (∀ cache, .cached cache ∈ state.stores → cache.entries = []) →
      (∀ s ∈ g.services, ∀ call args value,
        (s.method.handler call args).outcome = .ok value → IsFloatless value) →
      ∀ answer ∈ (g.dispatchAll state run).1, ∀ response : Response, answer.result = .ok response →
        IsSafe response.value ∧ response.value.clean = response.value := by
  have hempty : ∀ {stores : List Store}, (∀ cache, .cached cache ∈ stores → cache.entries = []) →
      ∀ store ∈ stores, store.Holds Json.IsCleanText := by
    intro stores h store hmem
    exact Store.holds_of_entries_eq_nil fun cache hcache => h cache (hcache ▸ hmem)
  constructor
  · intro L R S W emit limiter stores rest sink hstores hfloatless response hmem
    have hclean := (Surroundings.upholds_withStores hfloatless).dispatchAll
      (w := ⟨limiter, (stores, rest), sink⟩) (hempty hstores) run response hmem
    exact ⟨hclean.safe, hclean.clean_eq⟩
  · intro state hstores hfloatless answer hmem response hresult
    have hresults := congrArg Prod.fst
      (Surroundings.dispatchAll_own (fun _ _ => ()) g state () run)
    have hin : .ok response ∈ (Surroundings.own.dispatchAll (fun _ _ => ()) g
        ⟨state.limiter, state.stores, ()⟩ run).1 := by
      rw [hresults]
      exact List.mem_map.mpr ⟨answer, hmem, hresult⟩
    have hclean := (Surroundings.upholds_own hfloatless).dispatchAll (hempty hstores) run response hin
    exact ⟨hclean.safe, hclean.clean_eq⟩

/-- Two keys of a value become one when they are cleaned, and a text loses a control character. The
second request is answered from the store, with a value that cleaning would leave as it is. A
handler that answers more at each call is cleaned as well. -/
theorem Gateway.results_clean_collapsed :
    let value : Json := .obj [("é", .str "a\x00b"), ("&#233;", .null)]
    let greet : Method := { name := "greet", aliases := ["RPC2"], cache := some .allProjects
                            handler := fun _ _ => { outcome := .ok value } }
    let g := (({} : Gateway).withStore 0).accept greet
    let run : List (Moment × Request) :=
      [(0, { endpoint := "RPC2", method := "greet" }), (1, { endpoint := "RPC2", method := "greet" })]
    let stores : List Store := [.cached (.empty 1)]
    let answers := (g.dispatchAll ⟨.unlimited, stores⟩ run).1
    let W : Surroundings Unit Nat :=
      { hit := fun _ _ _ => (), test := fun _ _ _ => (true, ()), resetsIn := fun _ _ _ => (.ok none, ())
        lookup := fun n _ _ _ _ => (.ok none, n), keep := fun n _ _ _ _ _ => (.ok false, n)
        handle := fun n _ _ _ => (.ok (.str (String.ofList (List.replicate n 'é'))), n + 1) }
    answers.map (·.origin) = [.handler, .store] ∧
    (∀ answer ∈ answers, ∃ response, answer.result = .ok response ∧
      IsSafe response.value ∧ response.value.clean = response.value) ∧
    ∀ result ∈ (W.withStores.dispatchAll (fun _ _ => ()) g ⟨(), (stores, 2), ()⟩ run).1,
      ∃ response, result = .ok response ∧
        IsSafe response.value ∧ response.value.clean = response.value := by
  intro value greet g run stores answers W
  obtain ⟨hover, hown⟩ := g.results_clean run
  have hstores : ∀ cache, .cached cache ∈ stores → cache.entries = [] := by
    intro cache hmem
    obtain rfl : cache = .empty 1 := by simpa [stores] using hmem
    rfl
  have hfloatless : IsFloatless value := by simp [value]
  have hservice : ∀ s ∈ g.services, s.method = greet := by
    intro s hs
    obtain rfl := List.mem_singleton.mp hs
    rfl
  refine ⟨by decide +kernel, fun answer hmem => ?_, fun result hmem => ?_⟩
  · have hok : ∀ answer ∈ answers, answer.result.isOk = true := by decide +kernel
    cases hresult : answer.result with
    | error fault => simpa [hresult, Except.isOk, Except.toBool] using hok answer hmem
    | ok response =>
      refine ⟨response, rfl, hown _ hstores (fun s hs call args value' hvalue => ?_) answer hmem
        response hresult⟩
      rw [hservice s hs] at hvalue
      cases hvalue
      exact hfloatless
  · have hok : ∀ result ∈ (W.withStores.dispatchAll (fun _ _ => ()) g ⟨(), (stores, 2), ()⟩ run).1,
        result.isOk = true := by decide +kernel
    cases result with
    | error fault => simpa [Except.isOk, Except.toBool] using hok _ hmem
    | ok response =>
      refine ⟨response, rfl, hover W (fun _ _ => ()) () stores 2 () hstores
        (fun n s hs call args value' hvalue => ?_) response hmem⟩
      cases hvalue
      exact .str _

end IndexGateway

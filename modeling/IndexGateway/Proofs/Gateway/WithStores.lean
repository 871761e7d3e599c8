import IndexGateway.Proofs.Gateway.Stages
import IndexGateway.Proofs.Gateway.Surroundings

/-!
# The stores of a gateway among other parts

A gateway may keep its responses in the stores that it has of its own and still have a
limiter and handlers of any kind beside them (`Surroundings.withStores`), handlers that
remember what they are asked among them.

## The model

What is known about the entries of stores is a property of keys and texts
(`Store.Holds`). Looking something up adds no entry, and keeping a response adds one of
which the key and the text are known.

## What is proved

* `holds_lookup_own`, `holds_keep_own` — so a property that holds of all entries goes on
  doing so if it holds of what is kept.
* `run_answerBound_of_kept`, `run_answerBound_of_not_kept` — a call is answered from the
  stores, and then no handler does any work; or the handler does its work, and a value of
  it is all that the stores may get.
-/

namespace IndexGateway

open Json

/-! ### Properties of entries -/

/-- The key and the text of every entry in a store have a property. -/
def Store.Holds (K : String → String → Prop) (store : Store) : Prop :=
  ∀ cache, store = .cached cache → ∀ e ∈ cache.entries, K e.1 e.2.value

namespace Store

variable {K : String → String → Prop} {store : Store} {now : Moment} {method : String} {params : Params}

theorem holds_of_entries_eq_nil (h : ∀ cache, store = .cached cache → cache.entries = []) :
    store.Holds K := by
  intro cache hcache e hmem
  rw [h cache hcache] at hmem
  cases hmem

theorem Holds.imp {K' : String → String → Prop} (h : store.Holds K)
    (himp : ∀ key text, K key text → K' key text) : store.Holds K' :=
  fun cache hcache e hmem => himp e.1 e.2.value (h cache hcache e hmem)

theorem Holds.get (h : store.Holds K) : (store.get now method params).2.1.Holds K := by
  cases store with
  | outOfOrder reason => exact h
  | cached cache =>
    intro cache' hcache' e hmem
    obtain rfl : (Responses.get cache now method params).2.1 = cache' := Store.cached.inj hcache'
    rw [Responses.cache_get] at hmem
    exact h cache rfl e (Cache.mem_entries_get hmem)

/-- What is found in a store is read from the text under its key. -/
theorem Holds.exists_of_get (h : store.Holds K) {value : Json}
    (hfound : (store.get now method params).1 = .ok (some value)) :
    ∃ text, K (responseKey method params) text ∧ parse? text = some value := by
  cases store with
  | outOfOrder reason => cases hfound
  | cached cache =>
    obtain ⟨text, htext, hread⟩ := Responses.exists_of_get hfound
    obtain ⟨entry, hmem, rfl⟩ := Cache.exists_mem_of_get htext
    exact ⟨entry.value, h cache rfl _ hmem, hread⟩

theorem Holds.put (h : store.Holds K) {response : Response}
    (hresponse : K (responseKey method params) response.value.compact) :
    (store.put now method params response).2.Holds K := by
  cases store with
  | outOfOrder reason => exact h
  | cached cache =>
    intro cache' hcache' e hmem
    obtain rfl : (Responses.put cache now method params response).2 = cache' := Store.cached.inj hcache'
    unfold Responses.put at hmem
    split at hmem
    · exact h cache rfl e hmem
    · rcases Cache.mem_entries_put hmem with rfl | hmem
      · exact hresponse
      · exact h cache rfl e hmem

end Store

/-- What is kept for a call is read from the text under its key. -/
theorem Service.exists_of_kept? {K : String → String → Prop} {s : Service} {stores : List Store}
    {now : Moment} {call : Call} {value : Json} (h : ∀ store ∈ stores, store.Holds K)
    (hkept : s.kept? stores now call = some value) :
    ∃ text, K (s.key call) text ∧ parse? text = some value := by
  unfold kept? at hkept
  split at hkept
  · obtain ⟨store, hstore, hfound⟩ := Option.bind_eq_some_iff.mp hkept
    obtain ⟨place, -, hplace⟩ := Option.bind_eq_some_iff.mp hstore
    have hget : (store.get now s.method.name call.params).1 = .ok (some value) := by
      generalize (store.get now s.method.name call.params).1 = found at hfound
      cases found with
      | error e => cases hfound
      | ok value? => exact congrArg Except.ok hfound
    exact (h store (List.mem_of_getElem? hplace)).exists_of_get hget
  · cases hkept

namespace Surroundings

variable {K : String → String → Prop} {stores : List Store}

/-! ### Asking the stores -/

section Stores

variable (h : ∀ store ∈ stores, store.Holds K)

include h

theorem holds_set {place : Nat} {store : Store} (hstore : store.Holds K) :
    ∀ store' ∈ stores.set place store, store'.Holds K := by
  intro store' hmem
  rcases List.mem_or_eq_of_mem_set hmem with hmem | rfl
  · exact h store' hmem
  · exact hstore

theorem holds_lookup_own (place : Nat) (now : Moment) (method : String) (params : Params) :
    (∀ store ∈ (own.lookup stores place now method params).2, store.Holds K) ∧
      ∀ value, (own.lookup stores place now method params).1 = .ok (some value) →
        ∃ text, K (responseKey method params) text ∧ parse? text = some value := by
  unfold own
  dsimp only
  cases hplace : stores[place]? with
  | none => exact ⟨h, nofun⟩
  | some store =>
    have hstore := h store (List.mem_of_getElem? hplace)
    exact ⟨holds_set h hstore.get, fun value => hstore.exists_of_get⟩

theorem holds_keep_own (place : Nat) (now : Moment) (method : String) (params : Params)
    {response : Response} (hresponse : K (responseKey method params) response.value.compact) :
    ∀ store ∈ (own.keep stores place now method params response).2, store.Holds K := by
  unfold own
  dsimp only
  cases hplace : stores[place]? with
  | none => exact h
  | some store =>
    have hstore := h store (List.mem_of_getElem? hplace)
    exact holds_set h (hstore.put hresponse)

end Stores

variable {L R S : Type} {W : Surroundings L R} {emit : S → Metrics.Event → S} {s : Service}
  {now : Moment} {call : Call} {rest : R} {value : Json}

/-- Surroundings with the stores of a gateway, and with limiter and handlers of any kind. -/
def withStores (W : Surroundings L R) : Surroundings L (List Store × R) where
  hit := W.hit
  test := W.test
  resetsIn := W.resetsIn
  lookup := fun (stores, rest) place now method params =>
    let (found, stores') := own.lookup stores place now method params
    (found, stores', rest)
  keep := fun (stores, rest) place now method params response =>
    let (kept, stores') := own.keep stores place now method params response
    (kept, stores', rest)
  handle := fun (stores, rest) s call args =>
    let (outcome, rest') := W.handle rest s call args
    (outcome, stores, rest')

theorem lookup_withStores (W : Surroundings L R) (stores : List Store) (rest : R) (place : Nat)
    (now : Moment) (method : String) (params : Params) :
    W.withStores.lookup (stores, rest) place now method params =
      ((own.lookup stores place now method params).1,
        (own.lookup stores place now method params).2, rest) := rfl

/-! ### Answering a call -/

/-- The answer that comes of what a handler says: its value is cleaned, and its fault is handed on. -/
def answerOf (tag : Option CacheTag) : Except Fault Json → Except Ending Response
  | .ok value => .ok ⟨value.clean, tag⟩
  | .error fault => .error fault

theorem run_compute_withStores (W : Surroundings L R) (s : Service) (call : Call) (args : Arguments)
    (tag : Option CacheTag) (stores : List Store) (rest : R) :
    (W.withStores.compute s call args tag).run (stores, rest) =
      (answerOf tag (W.handle rest s call args).1, (stores, (W.handle rest s call args).2)) := by
  unfold compute
  rw [Act.run_bind, Act.run_ask]
  unfold withStores
  dsimp only
  cases (W.handle rest s call args).1 <;> rfl

/-- What a look-up at the place of a service finds is what is kept for the call. -/
theorem lookup_own_of_place {policy : CachePolicy} {place : Nat}
    (hpolicy : s.method.cache = some policy) (hplace : s.store = some place) :
    (own.lookup stores place now s.method.name call.params).1.toOption.join =
      s.kept? stores now call := by
  unfold Service.kept? own
  rw [hpolicy, hplace]
  dsimp only
  cases hstore : stores[place]? <;> simp [hstore, Except.toOption]

theorem run_answerThrough_of_found {place : Nat} {stores' : List Store}
    (h : own.lookup stores place now s.method.name call.params = (.ok (some value), stores'))
    (args : Arguments) (tag : CacheTag) (rest : R) :
    (W.withStores.answerThrough s place now call args tag).run (stores, rest) =
      (.ok ⟨value, some tag⟩, (stores', rest)) := by
  have hlookup : W.withStores.lookup (stores, rest) place now s.method.name call.params =
      (.ok (some value), (stores', rest)) := by
    rw [lookup_withStores, h]
  unfold answerThrough
  rw [Act.run_bind, Act.run_modifyGet, hlookup]
  rfl

/-- Where nothing is found, the handler does its work, and its cleaned value is kept. -/
theorem run_answerThrough_of_missed {place : Nat} {found : Except StoreError (Option Json)}
    {stores' : List Store}
    (h : own.lookup stores place now s.method.name call.params = (found, stores'))
    (hmissed : found.toOption.join = none) (args : Arguments) (tag : CacheTag) (rest : R) :
    (W.withStores.answerThrough s place now call args tag).run (stores, rest) =
      (answerOf (some tag) (W.handle rest s call args).1,
        ((W.handle rest s call args).1.toOption.elim stores' fun value =>
          (own.keep stores' place now s.method.name call.params ⟨value.clean, some tag⟩).2),
        (W.handle rest s call args).2) := by
  have hlookup : W.withStores.lookup (stores, rest) place now s.method.name call.params =
      (found, (stores', rest)) := by
    rw [lookup_withStores, h]
  unfold answerThrough
  rw [Act.run_bind, Act.run_modifyGet, hlookup]
  rcases found with e | _ | value
  case ok.some => cases hmissed
  -- after a failure and a miss alike, the handler is asked
  all_goals
    dsimp only
    rw [Act.run_bind, run_compute_withStores]
    generalize W.handle rest s call args = handled
    obtain ⟨outcome, rest'⟩ := handled
    cases outcome <;> rfl

/-- **A value that is kept is answered, and no handler does any work.** -/
theorem run_answerBound_of_kept (W : Surroundings L R) (hkept : s.kept? stores now call = some value)
    (args : Arguments) (rest : R) :
    ∃ stores', (W.withStores.answerBound s now call args).run (stores, rest) =
        (.ok ⟨value, s.method.cache.map (·.resolve args)⟩, (stores', rest)) ∧
      ∀ K, (∀ store ∈ stores, store.Holds K) → ∀ store ∈ stores', store.Holds K := by
  unfold answerBound
  cases hpolicy : s.method.cache with
  | none => simp [Service.kept?, hpolicy] at hkept
  | some policy =>
    cases hplace : s.store with
    | none => simp [Service.kept?, hplace] at hkept
    | some place =>
      dsimp only
      rw [← lookup_own_of_place hpolicy hplace] at hkept
      generalize hlookup : own.lookup stores place now s.method.name call.params = looked at hkept
      obtain ⟨found, stores'⟩ := looked
      rcases found with e | _ | value'
      · cases hkept
      · cases hkept
      obtain rfl : value' = value := Option.some.inj hkept
      refine ⟨stores', run_answerThrough_of_found hlookup args _ rest, fun K h => ?_⟩
      have hholds := (holds_lookup_own h place now s.method.name call.params).1
      rwa [hlookup] at hholds

/-- **Where no value is kept, the handler does its work.** Stores get its cleaned value under the key of
the call, if anything. -/
theorem run_answerBound_of_not_kept (W : Surroundings L R) (hkept : s.kept? stores now call = none)
    (args : Arguments) (rest : R) :
    ∃ stores', (W.withStores.answerBound s now call args).run (stores, rest) =
        (answerOf (s.method.cache.map (·.resolve args)) (W.handle rest s call args).1,
          (stores', (W.handle rest s call args).2)) ∧
      ∀ K, (∀ store ∈ stores, store.Holds K) →
        (∀ value, s.method.cache.isSome → (W.handle rest s call args).1 = .ok value →
          K (s.key call) value.clean.compact) → ∀ store ∈ stores', store.Holds K := by
  unfold answerBound
  cases hpolicy : s.method.cache with
  | none => exact ⟨stores, run_compute_withStores W s call args none stores rest, fun K h _ => h⟩
  | some policy =>
    cases hplace : s.store with
    | none => exact ⟨stores, run_compute_withStores W s call args _ stores rest, fun K h _ => h⟩
    | some place =>
      dsimp only
      rw [← lookup_own_of_place hpolicy hplace] at hkept
      generalize hlookup : own.lookup stores place now s.method.name call.params = looked at hkept
      obtain ⟨found, stores'⟩ := looked
      refine ⟨_, run_answerThrough_of_missed hlookup hkept args _ rest, fun K h hvalue => ?_⟩
      have hholds := (holds_lookup_own h place now s.method.name call.params).1
      rw [hlookup] at hholds
      cases houtcome : (W.handle rest s call args).1 with
      | error fault => exact hholds
      | ok value =>
        exact holds_keep_own hholds place now s.method.name call.params (hvalue value rfl houtcome)

end Surroundings

end IndexGateway

import IndexGateway.Gateway.Operation
import IndexGateway.Proofs.Sorting
import Mathlib.Data.List.Induction
import Mathlib.Data.List.Pairwise
import Mathlib.Data.List.Sort
import Mathlib.Data.String.Basic
import Mathlib.Order.Bounds.Basic

/-!
# Routes and registrations

A gateway looks up its methods in the order in which they were registered and takes
the first that matches. That it could as well take any other is what a refusal is
for: a method is registered only if its name is free at all of its endpoints, so no
two registered methods ever match the same request (`IsUnambiguous`).

## The model

A history lists what is done to a gateway without methods. Where a service comes from
is read off the history (`IsRegistered`): some operation asks for its method, everything
that the batch has in front of it is accepted, and so is the method itself; its store is
the one that the operations before set last.

## What is proved

`route?_of_history` — after any history, a method is refused exactly if it has no endpoint
or its name is taken at one, and the first endpoint in order is named; a refusal changes
nothing; a batch keeps what is in front of its first refusal; and a request is routed to
the one service from the history that has its name and endpoint, from then on for good.
-/

namespace IndexGateway

/-! ### Endpoints -/

theorem Method.mem_endpoints {m : Method} {e : String} : e ∈ m.endpoints ↔ e ∈ m.aliases := by
  unfold endpoints
  rw [mem_eraseReps, List.mem_mergeSort]

theorem Method.pairwise_endpoints (m : Method) : m.endpoints.Pairwise (· ≤ ·) :=
  (List.pairwise_mergeSort' (· ≤ ·) m.aliases).sublist (eraseReps_sublist _)

theorem Method.isServedAt_iff {m : Method} {e : String} : m.isServedAt e = true ↔ e ∈ m.aliases := by
  unfold isServedAt
  exact List.contains_iff_mem

/-- Two services have no endpoint in common at which they have the same name. -/
def Service.IsApart (s t : Service) : Prop :=
  s.method.name = t.method.name → s.method.aliases.Disjoint t.method.aliases

instance : Std.Symm Service.IsApart where
  symm _ _ h hname _ he he' := h hname.symm he' he

namespace Gateway

variable {g : Gateway} {m : Method} {e name : String} {s t : Service}

/-! ### Objections -/

theorem objection?_eq_noEndpoint_iff : g.objection? m = some (.noEndpoint m.name) ↔ m.aliases = [] := by
  unfold objection?
  split
  · next h => exact iff_of_true rfl (List.isEmpty_iff.mp h)
  · next h =>
    refine iff_of_false (fun heq => ?_) fun heq => h (List.isEmpty_iff.mpr heq)
    obtain ⟨e, -, he⟩ := Option.map_eq_some_iff.mp heq
    cases he

theorem isLeast_of_objection? (h : g.objection? m = some (.taken e m.name)) :
    IsLeast {e | e ∈ m.aliases ∧ (g.route? e m.name).isSome} e := by
  unfold objection? at h
  split at h
  · cases h
  · obtain ⟨e', hfound, htaken⟩ := Option.map_eq_some_iff.mp h
    obtain rfl : e' = e := (RegistrationError.taken.inj htaken).1
    obtain ⟨hrouted, front, behind, hsplit, hfree⟩ := List.find?_eq_some_iff_append.mp hfound
    refine ⟨⟨Method.mem_endpoints.mp (List.mem_of_find?_eq_some hfound), hrouted⟩, ?_⟩
    -- an endpoint at which the name is taken is not in front, and those behind are larger
    rintro other ⟨hother, hrouted'⟩
    have hmem := Method.mem_endpoints.mpr hother
    rw [hsplit] at hmem
    rcases List.mem_append.mp hmem with hmem | hmem
    · have hfree' := hfree other hmem
      rw [hrouted'] at hfree'
      cases hfree'
    · rcases List.mem_cons.mp hmem with rfl | hmem
      · exact le_rfl
      · have hordered := m.pairwise_endpoints
        rw [hsplit] at hordered
        exact (List.pairwise_cons.mp (List.pairwise_append.mp hordered).2.1).1 other hmem

/-- There is nothing against a method with endpoints at which its name is free. -/
theorem objection?_eq_none_iff :
    g.objection? m = none ↔ m.aliases ≠ [] ∧ ∀ e ∈ m.aliases, g.route? e m.name = none := by
  unfold objection?
  split
  · next h => exact iff_of_false nofun fun hm => hm.1 (List.isEmpty_iff.mp h)
  · next h =>
    rw [Option.map_eq_none_iff, List.find?_eq_none]
    constructor
    · intro hfree
      refine ⟨fun heq => h (List.isEmpty_iff.mpr heq), fun e he => ?_⟩
      simpa using hfree e (Method.mem_endpoints.mpr he)
    · intro hm e he
      rw [hm.2 e (Method.mem_endpoints.mp he)]
      exact Bool.false_ne_true

theorem objection?_cases (g : Gateway) (m : Method) :
    g.objection? m = none ∨ g.objection? m = some (.noEndpoint m.name) ∨
      ∃ e, g.objection? m = some (.taken e m.name) := by
  unfold objection?
  split
  · exact .inr (.inl rfl)
  · cases m.endpoints.find? fun e => (g.route? e m.name).isSome with
    | none => exact .inl rfl
    | some e => exact .inr (.inr ⟨e, rfl⟩)

/-- A name that is taken at some endpoint is objected to, with an endpoint. -/
theorem exists_objection?_of_isSome (he : e ∈ m.aliases) (hrouted : (g.route? e m.name).isSome) :
    ∃ e', g.objection? m = some (.taken e' m.name) := by
  rcases g.objection?_cases m with h | h | h
  · rw [(objection?_eq_none_iff.mp h).2 e he] at hrouted
    cases hrouted
  · rw [objection?_eq_noEndpoint_iff.mp h] at he
    cases he
  · exact h

/-- **Of several endpoints at which the name is taken, the least is named.** -/
theorem objection?_eq_taken_iff : g.objection? m = some (.taken e m.name) ↔
    IsLeast {e | e ∈ m.aliases ∧ (g.route? e m.name).isSome} e := by
  refine ⟨isLeast_of_objection?, fun h => ?_⟩
  obtain ⟨e', he'⟩ := exists_objection?_of_isSome h.1.1 h.1.2
  rw [h.unique (isLeast_of_objection? he')]
  exact he'

/-! ### One operation -/

theorem perform_register_of_some {error : RegistrationError} (h : g.objection? m = some error) :
    g.perform (.register m) = (some error, g) := by
  rw [perform, register, h]

theorem perform_register_of_none (h : g.objection? m = none) :
    g.perform (.register m) = (none, g.accept m) := by
  rw [perform, register, h]

/-- A method is refused exactly if there is an objection. -/
theorem error_perform_register (g : Gateway) (m : Method) :
    (g.perform (.register m)).1 = g.objection? m := by
  cases h : g.objection? m with
  | none => rw [perform_register_of_none h]
  | some error => rw [perform_register_of_some h]

theorem perform_registerAll_of_some {error : RegistrationError} (h : g.objection? m = some error)
    (rest : List Method) : g.perform (.registerAll (m :: rest)) = (some error, g) := by
  rw [perform, registerAll, register, h]

theorem perform_registerAll_of_none (h : g.objection? m = none) (rest : List Method) :
    g.perform (.registerAll (m :: rest)) = (g.accept m).perform (.registerAll rest) := by
  rw [perform, registerAll, register, h]
  rfl

/-- A method is registered as a batch of its own. -/
theorem perform_register (g : Gateway) (m : Method) :
    g.perform (.register m) = g.perform (.registerAll [m]) := by
  cases h : g.objection? m with
  | none => rw [perform_register_of_none h, perform_registerAll_of_none h]; rfl
  | some error => rw [perform_register_of_some h, perform_registerAll_of_some h]

/-- **What becomes of a batch**: it is cut in front of the first method that is refused, and the
methods in front are registered one after the other. -/
structure IsCutBehind (g : Gateway) (methods kept rest : List Method) : Prop where
  /-- The batch is cut in two. -/
  parts : methods = kept ++ rest
  /-- The methods in front are registered one after the other. -/
  after : (g.perform (.registerAll methods)).2 = g.performAll (kept.map .register)
  /-- None of them is refused. -/
  accepted : ∀ earlier m later, kept = earlier ++ m :: later →
    ((g.performAll (earlier.map .register)).perform (.register m)).1 = none
  /-- The first behind them is refused. -/
  refused : ∀ m ∈ rest.head?, ((g.performAll (kept.map .register)).perform (.register m)).1 ≠ none
  /-- The error is that of the first that is refused. -/
  error : (g.perform (.registerAll methods)).1 =
    rest.head?.bind fun m => ((g.performAll (kept.map .register)).perform (.register m)).1

theorem exists_isCutBehind (g : Gateway) (methods : List Method) :
    ∃ kept rest, g.IsCutBehind methods kept rest := by
  induction methods generalizing g with
  | nil => exact ⟨[], [], rfl, rfl, fun earlier m later h => by simp at h, nofun, rfl⟩
  | cons m methods ih =>
    cases hm : g.objection? m with
    | some error =>
      have hone : (g.perform (.register m)).1 = some error := by rw [error_perform_register, hm]
      refine ⟨[], m :: methods, rfl, ?_, fun earlier m later h => by simp at h, ?_, ?_⟩
      · rw [perform_registerAll_of_some hm]
        rfl
      · rintro m' hm'
        obtain rfl := Option.some.inj hm'
        exact fun hnone => nomatch hone.symm.trans hnone
      · rw [perform_registerAll_of_some hm]
        exact hone.symm
    | none =>
      obtain ⟨kept, rest, h⟩ := ih (g.accept m)
      have hstep : ∀ ops, g.performAll (.register m :: ops) = (g.accept m).performAll ops := by
        intro ops
        unfold performAll
        rw [List.foldl_cons, perform_register_of_none hm]
      refine ⟨m :: kept, rest, by rw [h.parts]; rfl, ?_, ?_, ?_, ?_⟩
      · rw [perform_registerAll_of_none hm, List.map_cons, hstep]
        exact h.after
      · intro earlier m' later heq
        cases earlier with
        | nil =>
          obtain rfl : m = m' := (List.cons.inj heq).1
          exact (error_perform_register g m).trans hm
        | cons m'' earlier =>
          obtain ⟨rfl, hkept⟩ := List.cons.inj heq
          rw [List.map_cons, hstep]
          exact h.accepted earlier m' later hkept
      · rw [List.map_cons, hstep]
        exact h.refused
      · rw [perform_registerAll_of_none hm, List.map_cons, hstep]
        exact h.error

/-! ### At most one match -/

/-- No two methods match the same request. -/
def IsUnambiguous (g : Gateway) : Prop := g.services.Pairwise Service.IsApart

theorem isSome_route?_of_mem (hs : s ∈ g.services) (he : e ∈ s.method.aliases) :
    (g.route? e s.method.name).isSome := by
  unfold route?
  rw [List.find?_isSome]
  exact ⟨s, hs, by simp [Method.isServedAt_iff.mpr he]⟩

theorem mem_of_route? (h : g.route? e name = some s) :
    s ∈ g.services ∧ s.method.name = name ∧ e ∈ s.method.aliases := by
  have hmatch := List.find?_some h
  rw [Bool.and_eq_true] at hmatch
  exact ⟨List.mem_of_find?_eq_some h, of_decide_eq_true hmatch.1, Method.isServedAt_iff.mp hmatch.2⟩

/-- **Where no two methods match, any that matches is the one that is taken.** -/
theorem IsUnambiguous.route?_eq_some_iff (h : g.IsUnambiguous) : g.route? e name = some s ↔
    s ∈ g.services ∧ s.method.name = name ∧ e ∈ s.method.aliases := by
  refine ⟨mem_of_route?, ?_⟩
  rintro ⟨hs, rfl, he⟩
  obtain ⟨t, hroute⟩ := Option.isSome_iff_exists.mp (isSome_route?_of_mem hs he)
  obtain ⟨ht, hname, he'⟩ := mem_of_route? hroute
  rw [hroute]
  by_contra hne
  have hapart : s.IsApart t := List.Pairwise.forall h hs ht fun heq => hne (congrArg some heq.symm)
  exact hapart hname.symm he he'

theorem IsUnambiguous.accept (h : g.IsUnambiguous) (hm : g.objection? m = none) :
    (g.accept m).IsUnambiguous := by
  unfold IsUnambiguous Gateway.accept
  refine List.pairwise_append.mpr ⟨h, List.pairwise_singleton _ _, fun s hs t ht => ?_⟩
  rw [List.mem_singleton.mp ht]
  intro hname e he he'
  have hrouted := isSome_route?_of_mem hs he
  rw [hname, (objection?_eq_none_iff.mp hm).2 e he'] at hrouted
  cases hrouted

theorem IsUnambiguous.registerAll (h : g.IsUnambiguous) (methods : List Method) :
    (g.perform (.registerAll methods)).2.IsUnambiguous := by
  induction methods generalizing g with
  | nil => exact h
  | cons m methods ih =>
    cases hm : g.objection? m with
    | some error =>
      rw [perform_registerAll_of_some hm]
      exact h
    | none =>
      rw [perform_registerAll_of_none hm]
      exact ih (h.accept hm)

theorem IsUnambiguous.perform (h : g.IsUnambiguous) (op : Operation) :
    (g.perform op).2.IsUnambiguous := by
  cases op with
  | register m =>
    rw [perform_register]
    exact h.registerAll [m]
  | registerAll methods => exact h.registerAll methods
  | withStore place => exact h

theorem IsUnambiguous.performAll (h : g.IsUnambiguous) (ops : List Operation) :
    (g.performAll ops).IsUnambiguous := by
  induction ops generalizing g with
  | nil => exact h
  | cons op ops ih => exact ih (h.perform op)

/-! ### Where services come from -/

theorem store_performAll_registerAll (g : Gateway) (methods : List Method) :
    (g.perform (.registerAll methods)).2.store = g.store := by
  induction methods generalizing g with
  | nil => rfl
  | cons m methods ih =>
    cases hm : g.objection? m with
    | some error => rw [perform_registerAll_of_some hm]
    | none => rw [perform_registerAll_of_none hm, ih]; rfl

/-- **What a batch adds**: a service for each method, as long as none is refused. -/
theorem mem_services_registerAll_iff (g : Gateway) (methods : List Method) :
    s ∈ (g.perform (.registerAll methods)).2.services ↔ s ∈ g.services ∨
      ∃ before after, methods = before ++ s.method :: after ∧
        (g.perform (.registerAll (before ++ [s.method]))).1 = none ∧
        s.number = g.services.length + before.length ∧ s.store = g.store := by
  induction methods generalizing g with
  | nil =>
    refine ⟨.inl, ?_⟩
    rintro (h | ⟨before, after, heq, -⟩)
    · exact h
    · simp at heq
  | cons m methods ih =>
    cases hm : g.objection? m with
    | some error =>
      rw [perform_registerAll_of_some hm]
      refine ⟨.inl, ?_⟩
      rintro (h | ⟨before, after, heq, hnone, -⟩)
      · exact h
      · -- whatever is registered of the batch, its first method is refused
        exfalso
        cases before with
        | nil =>
          obtain rfl : m = s.method := (List.cons.inj heq).1
          rw [List.nil_append, perform_registerAll_of_some hm] at hnone
          cases hnone
        | cons m' before =>
          obtain rfl : m = m' := (List.cons.inj heq).1
          rw [List.cons_append, perform_registerAll_of_some hm] at hnone
          cases hnone
    | none =>
      have hfirst : s ∈ (g.accept m).services ↔
          s ∈ g.services ∨ s = ⟨g.services.length, m, g.store⟩ := by
        unfold Gateway.accept
        rw [List.mem_append, List.mem_singleton]
      have hlength : (g.accept m).services.length = g.services.length + 1 := List.length_append
      rw [perform_registerAll_of_none hm, ih (g.accept m), hfirst, hlength]
      constructor
      · rintro ((hs | rfl) | ⟨before, after, rfl, hnone, hnumber, hstore⟩)
        · exact .inl hs
        · refine .inr ⟨[], methods, rfl, ?_, rfl, rfl⟩
          rw [List.nil_append, perform_registerAll_of_none hm]
          rfl
        · refine .inr ⟨m :: before, after, rfl, ?_, ?_, hstore⟩
          · rw [List.cons_append, perform_registerAll_of_none hm]
            exact hnone
          · rw [hnumber, List.length_cons]
            omega
      · rintro (hs | ⟨before, after, heq, hnone, hnumber, hstore⟩)
        · exact .inl (.inl hs)
        · cases before with
          | nil =>
            obtain ⟨hmethod, -⟩ := List.cons.inj heq
            obtain ⟨number, method, store⟩ := s
            obtain rfl : m = method := hmethod
            obtain rfl : number = g.services.length := hnumber
            obtain rfl : store = g.store := hstore
            exact .inl (.inr rfl)
          | cons m' before =>
            obtain ⟨rfl, hmethods⟩ := List.cons.inj heq
            rw [List.cons_append, perform_registerAll_of_none hm] at hnone
            rw [List.length_cons] at hnumber
            exact .inr ⟨before, after, hmethods, hnone, by omega, hstore⟩

theorem mem_services_perform_iff (g : Gateway) (op : Operation) :
    s ∈ (g.perform op).2.services ↔ s ∈ g.services ∨
      ∃ before after, op.methods = before ++ s.method :: after ∧
        (g.perform (.registerAll (before ++ [s.method]))).1 = none ∧
        s.number = g.services.length + before.length ∧ s.store = g.store := by
  cases op with
  | register m =>
    rw [perform_register]
    exact g.mem_services_registerAll_iff [m]
  | registerAll methods => exact g.mem_services_registerAll_iff methods
  | withStore place =>
    refine ⟨.inl, ?_⟩
    rintro (h | ⟨before, after, heq, -⟩)
    · exact h
    · simp [Operation.methods] at heq

/-- **A service comes from a history**: an operation asks for its method, the methods in front of it
in its batch are accepted and so is the method, and the store was set last before. -/
inductive IsRegistered : List Operation → Service → Prop where
  /-- The history is cut at the operation, and the batch at the method. -/
  | intro {earlier later : List Operation} {op : Operation} {before after : List Method} {s : Service}
      (asked : op.methods = before ++ s.method :: after)
      (accepted : ((({} : Gateway).performAll earlier).perform
        (.registerAll (before ++ [s.method]))).1 = none)
      (number : s.number = (({} : Gateway).performAll earlier).services.length + before.length)
      (store : s.store = (earlier.filterMap Operation.place?).getLast?) :
      IsRegistered (earlier ++ op :: later) s

theorem performAll_append (g : Gateway) (ops more : List Operation) :
    g.performAll (ops ++ more) = (g.performAll ops).performAll more :=
  List.foldl_append

theorem performAll_append_singleton (g : Gateway) (ops : List Operation) (op : Operation) :
    g.performAll (ops ++ [op]) = ((g.performAll ops).perform op).2 :=
  g.performAll_append ops [op]

theorem store_performAll (ops : List Operation) :
    (({} : Gateway).performAll ops).store = (ops.filterMap Operation.place?).getLast? := by
  induction ops using List.reverseRecOn with
  | nil => rfl
  | append_singleton ops op ih =>
    rw [performAll_append_singleton, List.filterMap_append]
    cases op with
    | register m =>
      rw [perform_register, store_performAll_registerAll, ih]
      exact congrArg List.getLast? (List.append_nil _).symm
    | registerAll methods =>
      rw [store_performAll_registerAll, ih]
      exact congrArg List.getLast? (List.append_nil _).symm
    | withStore place => exact List.getLast?_concat.symm

theorem isRegistered_append_singleton (ops : List Operation) (op : Operation) :
    IsRegistered (ops ++ [op]) s ↔ IsRegistered ops s ∨
      ∃ before after, op.methods = before ++ s.method :: after ∧
        ((({} : Gateway).performAll ops).perform (.registerAll (before ++ [s.method]))).1 = none ∧
        s.number = (({} : Gateway).performAll ops).services.length + before.length ∧
        s.store = (({} : Gateway).performAll ops).store := by
  rw [store_performAll]
  constructor
  · intro h
    generalize hops : ops ++ [op] = history at h
    cases h with
    | @intro earlier later op' before after s asked accepted number store =>
      rcases List.eq_nil_or_concat later with rfl | ⟨later, last, rfl⟩
      · obtain ⟨rfl, heq⟩ := List.append_inj' hops rfl
        obtain rfl : op = op' := (List.cons.inj heq).1
        exact .inr ⟨before, after, asked, accepted, number, store⟩
      · rw [List.concat_eq_append, ← List.cons_append, ← List.append_assoc] at hops
        obtain ⟨rfl, -⟩ := List.append_inj' hops rfl
        exact .inl ⟨asked, accepted, number, store⟩
  · rintro (h | ⟨before, after, asked, accepted, number, store⟩)
    · cases h with
      | intro asked accepted number store =>
        rw [List.append_assoc, List.cons_append]
        exact ⟨asked, accepted, number, store⟩
    · exact ⟨asked, accepted, number, store⟩

/-- **The methods of a gateway are those that its history registers.** The induction is on the
history, from its end. -/
theorem mem_services_performAll_iff (ops : List Operation) :
    s ∈ (({} : Gateway).performAll ops).services ↔ IsRegistered ops s := by
  induction ops using List.reverseRecOn with
  | nil =>
    refine iff_of_false List.not_mem_nil fun h => ?_
    generalize hops : ([] : List Operation) = history at h
    cases h
    simp at hops
  | append_singleton ops op ih =>
    rw [performAll_append_singleton, mem_services_perform_iff, ih, isRegistered_append_singleton]

theorem isUnambiguous_performAll (ops : List Operation) :
    (({} : Gateway).performAll ops).IsUnambiguous :=
  IsUnambiguous.performAll (g := {}) List.Pairwise.nil ops

theorem route?_performAll_eq_some_iff (ops : List Operation) :
    (({} : Gateway).performAll ops).route? e name = some s ↔
      IsRegistered ops s ∧ s.method.name = name ∧ e ∈ s.method.aliases := by
  rw [(isUnambiguous_performAll ops).route?_eq_some_iff, mem_services_performAll_iff]

theorem IsRegistered.append {ops : List Operation} (h : IsRegistered ops s) (more : List Operation) :
    IsRegistered (ops ++ more) s := by
  cases h with
  | intro asked accepted number store =>
    rw [List.append_assoc, List.cons_append]
    exact ⟨asked, accepted, number, store⟩

/-- **Routes are what the accepted registrations make them.** After any history of registrations,
batches and changes of the store:

* a method is refused for want of an endpoint exactly if it has none, and because its name is taken
  exactly if it is taken at one of its endpoints, of which the least is named; it is accepted
  otherwise, and a refusal leaves the gateway as it is;
* a batch keeps exactly the methods in front of the first that is refused;
* a request is routed to a service exactly if the history registers it with this name and endpoint,
  and there is at most one such service; its method, and the store that was set when it was
  registered, come with it; and whatever is done later, the route stays. -/
theorem route?_of_history (ops : List Operation) :
    let g := ({} : Gateway).performAll ops
    (∀ m : Method, ((g.perform (.register m)).1 = some (.noEndpoint m.name) ↔ m.aliases = []) ∧
      ((∃ e, (g.perform (.register m)).1 = some (.taken e m.name)) ↔
        ∃ e ∈ m.aliases, (g.route? e m.name).isSome) ∧
      (∀ e, (g.perform (.register m)).1 = some (.taken e m.name) ↔
        IsLeast {e | e ∈ m.aliases ∧ (g.route? e m.name).isSome} e) ∧
      ((g.perform (.register m)).1 = none ↔
        m.aliases ≠ [] ∧ ∀ e ∈ m.aliases, g.route? e m.name = none) ∧
      ((g.perform (.register m)).1 ≠ none → (g.perform (.register m)).2 = g)) ∧
    (∀ methods, ∃ kept rest, g.IsCutBehind methods kept rest) ∧
    (∀ e name s, g.route? e name = some s ↔
      IsRegistered ops s ∧ s.method.name = name ∧ e ∈ s.method.aliases) ∧
    (∀ e s t, IsRegistered ops s → IsRegistered ops t → s.method.name = t.method.name →
      e ∈ s.method.aliases → e ∈ t.method.aliases → s = t) ∧
    ∀ more e name s, g.route? e name = some s →
      (({} : Gateway).performAll (ops ++ more)).route? e name = some s := by
  intro g
  refine ⟨fun m => ?_, g.exists_isCutBehind, fun e name s => route?_performAll_eq_some_iff ops, ?_, ?_⟩
  · rw [error_perform_register]
    refine ⟨objection?_eq_noEndpoint_iff, ⟨?_, ?_⟩, fun e => objection?_eq_taken_iff,
      objection?_eq_none_iff, fun hrefused => ?_⟩
    · rintro ⟨e, he⟩
      exact ⟨e, (objection?_eq_taken_iff.mp he).1⟩
    · rintro ⟨e, he, hrouted⟩
      exact exists_objection?_of_isSome he hrouted
    · obtain ⟨error, herror⟩ := Option.ne_none_iff_exists'.mp hrefused
      rw [perform_register_of_some herror]
  · intro e s t hs ht hname he he'
    have hroute := (route?_performAll_eq_some_iff ops).mpr ⟨hs, hname, he⟩
    have hroute' := (route?_performAll_eq_some_iff ops).mpr ⟨ht, rfl, he'⟩
    exact Option.some.inj (hroute.symm.trans hroute')
  · intro more e name s h
    obtain ⟨hs, hname, he⟩ := (route?_performAll_eq_some_iff ops).mp h
    exact (route?_performAll_eq_some_iff (ops ++ more)).mpr ⟨hs.append more, hname, he⟩

end Gateway

end IndexGateway

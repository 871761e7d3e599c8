import IndexGateway.Proofs.Gateway.Truthful

/-!
# Registering methods with distinct names

Methods that have endpoints and whose names are new are all accepted, in order. Which
store the gateway gives them does not matter for that: the gateway with stores and
the gateway without any end up with the same methods (`withoutStore_acceptAll`).
-/

namespace IndexGateway.Gateway

variable {g : Gateway}

/-- The gateway with more methods, in order. -/
def acceptAll (g : Gateway) (methods : List Method) : Gateway := methods.foldl accept g

/-- There is nothing against a method with endpoints and a new name. -/
theorem objection?_eq_none {m : Method} (haliases : m.aliases ≠ [])
    (hfresh : ∀ s ∈ g.services, s.method.name ≠ m.name) : g.objection? m = none := by
  have hroute : ∀ e, g.route? e m.name = none := by
    intro e
    unfold route?
    rw [List.find?_eq_none]
    intro s hs
    simp [hfresh s hs]
  unfold objection?
  rw [if_neg (by simpa using haliases), Option.map_eq_none_iff, List.find?_eq_none]
  intro e _
  rw [hroute]
  exact Bool.false_ne_true

/-- **Methods with endpoints and distinct new names are all registered.** -/
theorem registerAll_of_fresh {methods : List Method} (haliases : ∀ m ∈ methods, m.aliases ≠ [])
    (hnames : (methods.map Method.name).Nodup)
    (hfresh : ∀ s ∈ g.services, ∀ m ∈ methods, s.method.name ≠ m.name) :
    (g.registerAll methods).1 = none ∧ (g.registerAll methods).2.1 = g.acceptAll methods := by
  induction methods generalizing g with
  | nil => exact ⟨rfl, rfl⟩
  | cons m methods ih =>
    obtain ⟨hm, haliases⟩ := List.forall_mem_cons.mp haliases
    obtain ⟨hnew, hnames⟩ := List.nodup_cons.mp hnames
    have hregister : g.register m = .ok (g.accept m, [registeredEntry m]) := by
      unfold register
      rw [objection?_eq_none hm fun s hs => hfresh s hs m List.mem_cons_self]
    have hrest : ∀ s ∈ (g.accept m).services, ∀ m' ∈ methods, s.method.name ≠ m'.name := by
      intro s hs m' hm'
      rcases List.mem_append.mp hs with hs | hs
      · exact hfresh s hs m' (List.mem_cons_of_mem m hm')
      · rw [List.mem_singleton.mp hs]
        exact fun heq => hnew (List.mem_map.mpr ⟨m', hm', heq.symm⟩)
    obtain ⟨hnone, hall⟩ := ih haliases hnames hrest
    rw [registerAll, hregister]
    exact ⟨hnone, hall⟩

theorem mem_services_acceptAll {methods : List Method} {s : Service}
    (h : s ∈ (g.acceptAll methods).services) : s ∈ g.services ∨ s.method ∈ methods := by
  induction methods generalizing g with
  | nil => exact .inl h
  | cons m methods ih =>
    rcases ih h with hs | hs
    · rcases List.mem_append.mp hs with hs | hs
      · exact .inl hs
      · rw [List.mem_singleton.mp hs]
        exact .inr List.mem_cons_self
    · exact .inr (List.mem_cons_of_mem m hs)

theorem mem_services_of_acceptAll {methods : List Method} {s : Service} (h : s ∈ g.services) :
    s ∈ (g.acceptAll methods).services := by
  induction methods generalizing g with
  | nil => exact h
  | cons m methods ih => exact ih (List.mem_append_left _ h)

/-- Every method that is registered gets a service. -/
theorem exists_mem_services_acceptAll {methods : List Method} {m : Method} (h : m ∈ methods) :
    ∃ s ∈ (g.acceptAll methods).services, s.method = m := by
  induction methods generalizing g with
  | nil => cases h
  | cons m' methods ih =>
    rcases List.mem_cons.mp h with rfl | hmem
    · let s : Service := { number := g.services.length, method := m, store := g.store }
      have hs : s ∈ (g.accept m).services := List.mem_append_right _ List.mem_cons_self
      have hstays : s ∈ ((g.accept m).acceptAll methods).services := mem_services_of_acceptAll hs
      exact ⟨s, hstays, rfl⟩
    · exact ih hmem

theorem withoutStore_accept (g : Gateway) (m : Method) :
    (g.accept m).withoutStore = g.withoutStore.accept m := by
  unfold withoutStore accept
  rw [List.map_append, List.length_map]
  rfl

theorem withoutStore_acceptAll (g : Gateway) (methods : List Method) :
    (g.acceptAll methods).withoutStore = g.withoutStore.acceptAll methods := by
  induction methods generalizing g with
  | nil => rfl
  | cons m methods ih =>
    unfold acceptAll at ih ⊢
    rw [List.foldl_cons, List.foldl_cons, ih, withoutStore_accept]

end IndexGateway.Gateway

import IndexGateway.Proofs.Limiter.HitLog
import Mathlib.Data.List.Nodup
import Mathlib.Data.List.Perm.Subperm

/-!
# Calls whose steps interleave

To be admitted, a call first counts as a hit of its caller and then asks whether the
caller is within its quota. These are two steps, and between them the steps of other
calls may take place, also of calls of the same caller.

## The model

An `Attempt` is a call on its way; its number tells it from other calls of the same
caller at the same moment. Both of its steps carry the reading of the clock that it
brought along. `IsInterleaving` says which sequences of steps can come about: no step
is taken twice, the clock does not go back, and each attempt hits before it tests.
Nothing else is asked, so the steps of attempts at one moment may come in any order,
and an attempt may not have come to its test yet.

## What is proved

`length_admitted_le`: in any span of time that is as long as the window, no caller has
more attempts admitted than its quota allows. Of the admitted attempts in the span the
one that tests last sees the hits of all of them.
-/

namespace IndexGateway.SlidingWindow

/-- A call on its way to be admitted. -/
structure Attempt where
  /-- What tells the attempt from others. -/
  number : Nat
  /-- Who calls. -/
  caller : String
  /-- The reading of the clock for both steps. -/
  moment : Moment
  deriving DecidableEq, Repr

/-- A step of an attempt. -/
inductive Step where
  /-- The attempt counts as a hit. -/
  | hit (a : Attempt)
  /-- The attempt asks whether it is admitted. -/
  | test (a : Attempt)
  deriving DecidableEq, Repr

namespace Step

/-- The attempt that takes a step. -/
def attempt : Step → Attempt
  | hit a => a
  | test a => a

/-- The operation that a step carries out, with its moment. -/
def operation : Step → Moment × Operation
  | hit a => (a.moment, .hit a.caller)
  | test a => (a.moment, .test a.caller)

/-- The attempt that a step counts as a hit of a caller. -/
def hitBy? (caller : String) : Step → Option Attempt
  | hit a => if a.caller = caller then some a else none
  | test _ => none

/-- The attempt that a step tests. -/
def tested? : Step → Option Attempt
  | hit _ => none
  | test a => some a

/-- The attempt that a step admits, if its answer says so. -/
def admitted? : Step × Answer → Option Attempt
  | (test a, .verdict true) => some a
  | _ => none

end Step

/-- The attempts that are admitted, in the order of their tests. -/
def admitted (w : SlidingWindow) (steps : List Step) : List Attempt :=
  (steps.zip (w.performAll (steps.map Step.operation)).1).filterMap Step.admitted?

/-- **A sequence of steps in which attempts interleave**. -/
structure IsInterleaving (steps : List Step) : Prop where
  /-- No step is taken twice. -/
  once : steps.Nodup
  /-- The clock does not go back. -/
  ordered : steps.Pairwise fun s s' => s.attempt.moment ≤ s'.attempt.moment
  /-- Each attempt hits before it tests. -/
  hitFirst : ∀ earlier a rest, steps = earlier ++ .test a :: rest → .hit a ∈ earlier

theorem IsInterleaving.of_append {steps more : List Step} (h : IsInterleaving (steps ++ more)) :
    IsInterleaving steps where
  once := (List.nodup_append.mp h.once).1
  ordered := (List.pairwise_append.mp h.ordered).1
  hitFirst earlier a rest he := h.hitFirst earlier a (rest ++ more) (by rw [he]; simp)

/-! ### Runs of operations -/

theorem performAll_append (w : SlidingWindow) (history more : List (Moment × Operation)) :
    w.performAll (history ++ more) =
      ((w.performAll history).1 ++ ((w.performAll history).2.performAll more).1,
        ((w.performAll history).2.performAll more).2) := by
  induction history generalizing w with
  | nil => rfl
  | cons x rest ih =>
    simp only [List.cons_append, performAll, ih]

theorem length_performAll_answers (w : SlidingWindow) (history : List (Moment × Operation)) :
    (w.performAll history).1.length = history.length := by
  induction history generalizing w with
  | nil => rfl
  | cons x rest ih => simp only [performAll, List.length_cons, ih]

/-- One more step admits at most the attempt that takes it. -/
theorem admitted_append_singleton (w : SlidingWindow) (steps : List Step) (s : Step) :
    w.admitted (steps ++ [s]) =
      w.admitted steps ++ (Step.admitted? (s, ((w.performAll (steps.map Step.operation)).2.perform
        s.operation.1 s.operation.2).1)).toList := by
  unfold admitted
  rw [List.map_append, performAll_append, List.zip_append (by simp [length_performAll_answers]),
    List.filterMap_append]
  congr 1

/-- What is admitted was tested. -/
theorem admitted_sublist (w : SlidingWindow) (steps : List Step) :
    (w.admitted steps).Sublist (steps.filterMap Step.tested?) := by
  induction steps using List.reverseRecOn with
  | nil => exact List.Sublist.refl _
  | append_singleton steps s ih =>
    rw [admitted_append_singleton, List.filterMap_append]
    refine ih.append ?_
    cases s with
    | hit a => exact List.Sublist.refl _
    | test a =>
      generalize (SlidingWindow.perform _ _ _).1 = answer
      cases answer with
      | verdict isWithin => cases isWithin <;> simp [Step.admitted?, Step.tested?]
      | done => simp [Step.admitted?]
      | wait d => simp [Step.admitted?]
      | number n => simp [Step.admitted?]
      | breakdown why => simp [Step.admitted?]

theorem test_mem_of_mem_admitted {w : SlidingWindow} {steps : List Step} {a : Attempt}
    (h : a ∈ w.admitted steps) : .test a ∈ steps := by
  obtain ⟨s, hs, ha⟩ := List.mem_filterMap.mp ((admitted_sublist w steps).mem h)
  cases s with
  | hit b => simp [Step.tested?] at ha
  | test b =>
    simp only [Step.tested?, Option.some.injEq] at ha
    exact ha ▸ hs

/-- No attempt is admitted twice. -/
theorem IsInterleaving.nodup_admitted {steps : List Step} (h : IsInterleaving steps)
    (w : SlidingWindow) : (w.admitted steps).Nodup := by
  refine (h.once.filterMap ?_).sublist (admitted_sublist w steps)
  intro s s' a ha ha'
  cases s <;> cases s' <;> simp_all [Step.tested?]

theorem IsInterleaving.hit_mem {steps : List Step} (h : IsInterleaving steps) {a : Attempt}
    (ha : .test a ∈ steps) : .hit a ∈ steps := by
  obtain ⟨earlier, rest, he⟩ := List.append_of_mem ha
  rw [he]
  exact List.mem_append_left _ (h.hitFirst earlier a rest he)

/-! ### The log of interleaved attempts -/

/-- The log of a caller holds the moments of the attempts that were hits of it. -/
theorem hitLogFrom_operations (caller : String) (log : List Nat) (steps : List Step) :
    hitLogFrom caller log (steps.map Step.operation) =
      log ++ (steps.filterMap (Step.hitBy? caller)).map Attempt.moment := by
  induction steps generalizing log with
  | nil => simp [hitLogFrom]
  | cons s rest ih =>
    cases s with
    | hit a =>
      rw [List.map_cons, Step.operation, hitLogFrom_cons, ih, Operation.record]
      by_cases hc : a.caller = caller <;> simp [Step.hitBy?, hc]
    | test a =>
      rw [List.map_cons, Step.operation, hitLogFrom_cons, List.filterMap_cons_none rfl]
      exact ih log

/-! ### The quota -/

/-- Whether an attempt is one of a caller in the span of a length that ends at a moment. -/
def Attempt.isWithin (caller : String) (length : Duration) (last : Moment) (a : Attempt) : Bool :=
  a.caller = caller && last < a.moment + length && a.moment ≤ last

theorem Attempt.isWithin_iff {caller : String} {length : Duration} {last : Moment} {a : Attempt} :
    a.isWithin caller length last ↔
      a.caller = caller ∧ last < a.moment + length ∧ a.moment ≤ last := by
  unfold Attempt.isWithin
  simp only [Bool.and_eq_true, decide_eq_true_eq, and_assoc]

/-- A hit in a span is recent at every moment of the span. -/
theorem sub_lt_of_span {hit now last length : Nat} (hnow : now ≤ last) (hhit : hit ≤ last)
    (hspan : last < hit + length) : now - hit < length := by
  omega

/-- A test that says yes has seen no more hits than the quota allows, and it has seen those of all
admitted attempts of its caller in any span in which it lies. -/
theorem length_filter_admitted_le_of_test {quota length started : Nat} {steps : List Step}
    {a : Attempt} (h : IsInterleaving (steps ++ [.test a])) {last : Nat}
    (ha : a.isWithin a.caller length last)
    (hyes : ((start quota length started).performAll (steps.map Step.operation)).2.test
      a.moment a.caller) :
    ((((start quota length started).admitted steps) ++ [a]).filter
      (Attempt.isWithin a.caller length last)).length ≤ quota := by
  have hale : a.moment ≤ last := (Attempt.isWithin_iff.mp ha).2.2
  -- the hits that the test has seen
  have hordered : ((steps.map Step.operation).map Prod.fst ++ [a.moment]).Pairwise (· ≤ ·) := by
    have hmap : ((steps ++ [Step.test a]).map fun s => s.attempt.moment).Pairwise (· ≤ ·) :=
      List.pairwise_map.mpr h.ordered
    have heq : (steps.map Step.operation).map Prod.fst = steps.map fun s => s.attempt.moment := by
      rw [List.map_map]
      exact List.map_congr_left fun s _ => by cases s <;> rfl
    rw [heq]
    simpa [Step.attempt] using hmap
  let seen := (steps.filterMap (Step.hitBy? a.caller)).filter fun b => a.moment - b.moment < length
  have hseen : seen.length ≤ quota := by
    have hlog : hitLog a.caller (steps.map Step.operation) =
        (steps.filterMap (Step.hitBy? a.caller)).map Attempt.moment := hitLogFrom_operations _ _ _
    rw [test_performAll quota length started a.caller hordered, hlog, List.filter_map,
      List.length_map] at hyes
    exact of_decide_eq_true hyes
  -- each admitted attempt in the span is among them
  have hsub : (((start quota length started).admitted steps) ++ [a]).filter
      (Attempt.isWithin a.caller length last) ⊆ seen := by
    intro b hb
    obtain ⟨hmem, hspan⟩ := List.mem_filter.mp hb
    obtain ⟨hcaller, hlast, hle⟩ := Attempt.isWithin_iff.mp hspan
    have hhit : Step.hit b ∈ steps := by
      rcases List.mem_append.mp hmem with hmem | hmem
      · exact h.of_append.hit_mem (test_mem_of_mem_admitted hmem)
      · rw [List.mem_singleton.mp hmem]
        exact h.hitFirst steps a [] rfl
    refine List.mem_filter.mpr ⟨List.mem_filterMap.mpr ⟨_, hhit, if_pos hcaller⟩, ?_⟩
    exact decide_eq_true (sub_lt_of_span hale hle hlast)
  have hnodup : (((start quota length started).admitted steps) ++ [a]).Nodup := by
    rw [List.nodup_append]
    refine ⟨h.of_append.nodup_admitted _, List.nodup_singleton a, fun b hb c hc hbc => ?_⟩
    rw [List.mem_singleton.mp hc] at hbc
    have hmem := test_mem_of_mem_admitted hb
    rw [hbc] at hmem
    exact (List.nodup_append.mp h.once).2.2 _ hmem _ (List.mem_singleton_self _) rfl
  exact ((hnodup.filter _).subperm hsub).length_le.trans hseen

/-- **The quota is never exceeded.** However the steps of attempts interleave, no caller has more
attempts admitted in a span of time than its quota allows, if the span is no longer than the
window: the attempts after the moment `last - length` and up to `last`. -/
theorem length_admitted_le (quota : Nat) (length : Duration) (started : Moment) (steps : List Step)
    (interleaved : IsInterleaving steps) (caller : String) (last : Moment) :
    (((start quota length started).admitted steps).filter
      (Attempt.isWithin caller length last)).length ≤ quota := by
  induction steps using List.reverseRecOn with
  | nil => exact Nat.zero_le _
  | append_singleton steps s ih =>
    have hsteps := ih interleaved.of_append
    rw [admitted_append_singleton]
    cases s with
    | hit a => simpa [Step.admitted?] using hsteps
    | test a =>
      simp only [Step.operation, perform]
      cases hyes : ((start quota length started).performAll (steps.map Step.operation)).2.test
          a.moment a.caller with
      | false => simpa [Step.admitted?] using hsteps
      | true =>
        simp only [Step.admitted?, Option.toList_some]
        cases ha : a.isWithin caller length last with
        | false => simpa [ha] using hsteps
        | true =>
          have hcaller := (Attempt.isWithin_iff.mp ha).1
          subst hcaller
          exact length_filter_admitted_le_of_test interleaved ha hyes

/-- Two attempts at one moment, both of which hit before either tests, are not both admitted if the
quota is one. -/
theorem length_admitted_le_of_race :
    IsInterleaving [.hit ⟨0, "a", 3⟩, .hit ⟨1, "a", 3⟩, .test ⟨1, "a", 3⟩, .test ⟨0, "a", 3⟩] ∧
    (((start 1 10 0).admitted
      [.hit ⟨0, "a", 3⟩, .hit ⟨1, "a", 3⟩, .test ⟨1, "a", 3⟩, .test ⟨0, "a", 3⟩]).filter
        (Attempt.isWithin "a" 10 5)).length ≤ 1 := by
  have h : IsInterleaving
      [.hit ⟨0, "a", 3⟩, .hit ⟨1, "a", 3⟩, .test ⟨1, "a", 3⟩, .test ⟨0, "a", 3⟩] := by
    refine ⟨by decide, by decide, fun earlier a rest he => ?_⟩
    rcases earlier with _ | ⟨s, _ | ⟨t, _ | ⟨u, _ | ⟨v, earlier⟩⟩⟩⟩ <;> simp at he <;> grind
  exact ⟨h, length_admitted_le 1 10 0 _ h "a" 5⟩

end IndexGateway.SlidingWindow

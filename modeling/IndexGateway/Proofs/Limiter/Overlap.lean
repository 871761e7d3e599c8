import IndexGateway.Proofs.Limiter.Interleaving

/-!
# Calls that overlap

A call hits before it tests, so a call that overlaps others is counted against them
before it is known whether it is admitted itself. Calls of one caller that rush in at
one moment are therefore never admitted beyond the quota, but fewer of them may be:
where more calls than the quota allows have hit before any of them tests, none is
admitted at all.

## The model

A call is *begun* once it has hit, and *decided* once it has tested. The calls may find
a limiter in any state, as long as it shows no hit of their caller. A window of no
length shows none ever.

## What is proved

* `test_performAll_of_isRush` — a test says yes as long as no more calls are begun than the
  quota allows.
* `admitted_eq_decided`, `admitted_append_of_exceeded` — hence the admitted calls are those
  that are decided before the quota is exceeded.
* `length_admitted_eq_min_iff` — so the quota is used to the full exactly if no call is
  begun and undecided when it is exceeded.
* `refused_of_race` — it need not be: two calls that overlap can both be turned away.
-/

namespace IndexGateway.SlidingWindow

/-- The attempt that a step begins. -/
def Step.begun? : Step → Option Attempt
  | .hit a => some a
  | .test _ => none

/-- The calls that are begun, in the order of their hits. -/
def begun (steps : List Step) : List Attempt := steps.filterMap Step.begun?

/-- The calls that are decided, in the order of their tests. -/
def decided (steps : List Step) : List Attempt := steps.filterMap Step.tested?

/-- **Calls of one caller rush in at one moment**, and their steps interleave. -/
structure IsRush (caller : String) (now : Moment) (steps : List Step) : Prop
    extends IsInterleaving steps where
  /-- All steps are taken for this caller at this moment. -/
  together : ∀ s ∈ steps, s.attempt.caller = caller ∧ s.attempt.moment = now

variable {w : SlidingWindow} {now : Nat} {caller : String} {steps more : List Step} {a : Attempt}

/-! ### Begun and decided calls -/

@[simp] theorem begun_append (steps more : List Step) :
    begun (steps ++ more) = begun steps ++ begun more :=
  List.filterMap_append

@[simp] theorem decided_append (steps more : List Step) :
    decided (steps ++ more) = decided steps ++ decided more :=
  List.filterMap_append

@[simp] theorem begun_nil : begun [] = [] := rfl

@[simp] theorem begun_hit (a : Attempt) (steps : List Step) :
    begun (.hit a :: steps) = a :: begun steps := rfl

@[simp] theorem begun_test (a : Attempt) (steps : List Step) :
    begun (.test a :: steps) = begun steps := rfl

@[simp] theorem decided_nil : decided [] = [] := rfl

@[simp] theorem decided_hit (a : Attempt) (steps : List Step) :
    decided (.hit a :: steps) = decided steps := rfl

@[simp] theorem decided_test (a : Attempt) (steps : List Step) :
    decided (.test a :: steps) = a :: decided steps := rfl

theorem mem_begun_iff : a ∈ begun steps ↔ .hit a ∈ steps := by
  simp only [begun, List.mem_filterMap]
  constructor
  · rintro ⟨s, hs, ha⟩
    cases s <;> simp_all [Step.begun?]
  · exact fun h => ⟨_, h, rfl⟩

theorem mem_decided_iff : a ∈ decided steps ↔ .test a ∈ steps := by
  simp only [decided, List.mem_filterMap]
  constructor
  · rintro ⟨s, hs, ha⟩
    cases s <;> simp_all [Step.tested?]
  · exact fun h => ⟨_, h, rfl⟩

theorem IsRush.of_append (h : IsRush caller now (steps ++ more)) : IsRush caller now steps where
  toIsInterleaving := h.toIsInterleaving.of_append
  together s hs := h.together s (List.mem_append_left more hs)

theorem IsInterleaving.nodup_begun (h : IsInterleaving steps) : (begun steps).Nodup := by
  refine h.once.filterMap fun s s' a ha ha' => ?_
  cases s <;> cases s' <;> simp_all [Step.begun?]

theorem IsInterleaving.nodup_decided (h : IsInterleaving steps) : (decided steps).Nodup := by
  refine h.once.filterMap fun s s' a ha ha' => ?_
  cases s <;> cases s' <;> simp_all [Step.tested?]

/-- No more calls are decided than are begun. -/
theorem IsInterleaving.length_decided_le (h : IsInterleaving steps) :
    (decided steps).length ≤ (begun steps).length := by
  have hsub : decided steps ⊆ begun steps := fun a ha =>
    mem_begun_iff.mpr (h.hit_mem (mem_decided_iff.mp ha))
  exact (h.nodup_decided.subperm hsub).length_le

/-- Where all calls come to their ends, as many are decided as are begun. -/
theorem IsInterleaving.length_decided_eq (h : IsInterleaving steps)
    (complete : ∀ a, .hit a ∈ steps → .test a ∈ steps) :
    (decided steps).length = (begun steps).length := by
  have hsub : begun steps ⊆ decided steps := fun a ha =>
    mem_decided_iff.mpr (complete a (mem_begun_iff.mp ha))
  exact Nat.le_antisymm h.length_decided_le (h.nodup_begun.subperm hsub).length_le

/-! ### What a test sees -/

/-- A limiter that was just started shows no hits. -/
theorem view_start (quota : Nat) (length : Duration) (started later : Moment) (caller : String) :
    (start quota length started).view later caller = [] := by
  simp [view, kept, start, recent]

/-- A limiter that shows no hit of a caller is in step with an empty log. -/
theorem follows_of_view_eq_nil (free : w.view now caller = []) : Follows w now caller [] where
  ordered := List.Pairwise.nil
  past := by simp
  shown later hle := by
    rw [view, ← recent_recent hle]
    change w.recent later (w.view now caller) = _
    simp [free, recent]

/-- The log of the caller holds the hits of the calls that are begun, all of the same moment. -/
theorem IsRush.hitLog_eq (h : IsRush caller now steps) :
    hitLog caller (steps.map Step.operation) = List.replicate (begun steps).length now := by
  have hbegun : steps.filterMap (Step.hitBy? caller) = begun steps := by
    refine List.filterMap_congr fun s hs => ?_
    obtain ⟨hcaller, -⟩ := h.together s hs
    cases s with
    | hit a => exact if_pos hcaller
    | test a => rfl
  have hmoment : ∀ a ∈ begun steps, a.moment = now := fun a ha =>
    (h.together _ (mem_begun_iff.mp ha)).2
  rw [hitLog, hitLogFrom_operations, hbegun, List.nil_append, List.map_congr_left hmoment,
    List.map_const']

/-- The moments of a rush are in order, for all of them are the same. -/
theorem IsRush.ordered_moments (h : IsRush caller now steps) :
    (now :: (steps.map Step.operation).map Prod.fst ++ [now]).Pairwise (· ≤ ·) := by
  have hsame : ∀ t ∈ now :: (steps.map Step.operation).map Prod.fst ++ [now], t = now := by
    intro t ht
    simp only [List.cons_append, List.mem_cons, List.mem_append, List.mem_map, List.not_mem_nil,
      or_false] at ht
    obtain rfl | ⟨op, ⟨s, hs, rfl⟩, rfl⟩ | rfl := ht
    · rfl
    · rw [← (h.together s hs).2]
      cases s <;> rfl
    · rfl
  exact List.pairwise_of_forall_mem_list fun s hs t ht => by rw [hsame s hs, hsame t ht]

/-- **What a test sees**: the calls that are begun, if the window has a length at all. -/
theorem test_performAll_of_isRush (free : w.view now caller = []) (h : IsRush caller now steps) :
    (w.performAll (steps.map Step.operation)).2.test now caller =
      decide (w.length = 0 ∨ (begun steps).length ≤ w.quota) := by
  have hfollows := (follows_of_view_eq_nil free).performAll h.ordered_moments
  have hrecent : (w.performAll (steps.map Step.operation)).2.isRecent now now =
      decide (0 < w.length) := by
    rw [isRecent, length_performAll]
    exact congrArg (fun d : Nat => decide (d < w.length)) (Nat.sub_self now)
  rw [test_eq_view, hfollows.shown now (Nat.le_refl now), ← hitLog, h.hitLog_eq, length_rtake,
    quota_performAll, List.filter_replicate, hrecent, decide_eq_decide]
  by_cases hlength : w.length = 0
  · simp [hlength]
  · simp only [hlength, Nat.pos_of_ne_zero hlength, decide_true, if_true, List.length_replicate, false_or]
    omega

/-! ### Who is admitted -/

theorem admitted_append_hit (w : SlidingWindow) (steps : List Step) (a : Attempt) :
    w.admitted (steps ++ [.hit a]) = w.admitted steps := by
  simp [admitted_append_singleton, Step.admitted?]

/-- The call that tests is admitted as long as no more calls are begun than the quota allows. -/
theorem admitted_append_test (free : w.view now caller = [])
    (h : IsRush caller now (steps ++ [.test a])) :
    w.admitted (steps ++ [.test a]) =
      w.admitted steps ++ if w.length = 0 ∨ (begun steps).length ≤ w.quota then [a] else [] := by
  obtain ⟨rfl, rfl⟩ := h.together (.test a) (by simp)
  have htest := test_performAll_of_isRush free h.of_append
  rw [Step.attempt] at htest
  rw [admitted_append_singleton, Step.operation, perform, htest]
  split <;> simp_all [Step.admitted?]

/-- **As long as the quota is not exceeded, every call that is decided is admitted.** -/
theorem admitted_eq_decided (free : w.view now caller = []) (h : IsRush caller now steps)
    (within : w.length = 0 ∨ (begun steps).length ≤ w.quota) : w.admitted steps = decided steps := by
  induction steps using List.reverseRecOn with
  | nil => rfl
  | append_singleton steps s ih =>
    have hwithin : w.length = 0 ∨ (begun steps).length ≤ w.quota := by
      rw [begun_append, List.length_append] at within
      exact within.imp_right Nat.le_of_add_right_le
    cases s with
    | hit a => simp [admitted_append_hit, ih h.of_append hwithin]
    | test a => simp [admitted_append_test free h, ih h.of_append hwithin, hwithin]

/-- **Once the quota is exceeded, no call is admitted any more.** -/
theorem admitted_append_of_exceeded (free : w.view now caller = []) (lasting : 0 < w.length)
    (h : IsRush caller now (steps ++ more)) (exceeded : w.quota < (begun steps).length) :
    w.admitted (steps ++ more) = w.admitted steps := by
  induction more using List.reverseRecOn with
  | nil => rw [List.append_nil]
  | append_singleton more s ih =>
    rw [← List.append_assoc] at h ⊢
    have hrest := ih h.of_append
    cases s with
    | hit a => rw [admitted_append_hit, hrest]
    | test a =>
      have hmore : (begun steps).length ≤ (begun (steps ++ more)).length := by simp
      have hnot : ¬ (w.length = 0 ∨ (begun (steps ++ more)).length ≤ w.quota) :=
        not_or.mpr ⟨Nat.ne_of_gt lasting, by omega⟩
      rw [admitted_append_test free h, if_neg hnot, hrest, List.append_nil]

/-- Where the quota is exceeded, there is a first hit that exceeds it. -/
theorem exists_exceeding {quota : Nat} (exceeded : quota < (begun steps).length) :
    ∃ earlier a later, steps = earlier ++ .hit a :: later ∧ (begun earlier).length = quota := by
  induction steps using List.reverseRecOn with
  | nil => simp at exceeded
  | append_singleton steps s ih =>
    by_cases hbefore : quota < (begun steps).length
    · obtain ⟨earlier, a, later, rfl, hearlier⟩ := ih hbefore
      exact ⟨earlier, a, later ++ [s], by simp, hearlier⟩
    · cases s with
      | hit a =>
        refine ⟨steps, a, [], rfl, ?_⟩
        simp at exceeded
        omega
      | test a => exact absurd (by simpa using exceeded) hbefore

/-- The calls that are admitted are those that are decided before the hit that exceeds the quota. -/
theorem admitted_of_exceeding {earlier later : List Step} (free : w.view now caller = [])
    (lasting : 0 < w.length) (h : IsRush caller now (earlier ++ .hit a :: later))
    (full : (begun earlier).length = w.quota) :
    w.admitted (earlier ++ .hit a :: later) = decided earlier := by
  rw [List.append_cons] at h ⊢
  have hexceeded : w.quota < (begun (earlier ++ [.hit a])).length := by simp [full]
  rw [admitted_append_of_exceeded free lasting h hexceeded, admitted_append_hit,
    admitted_eq_decided free h.of_append.of_append (.inr full.le)]

/-- **The quota is used to the full exactly if no call is left undecided when it is exceeded.** Let `n`
calls of a caller rush in at one moment on a limiter that shows no hit of the caller, and let all of
them come to their ends. At most as many are admitted as there are, and as the quota allows; and just
so many, the lesser of the two, exactly if each time that a hit exceeds the quota, all calls that were
begun before are decided. Where the window has no length, all calls are admitted. -/
theorem length_admitted_eq_min_iff (w : SlidingWindow) (now : Moment) (caller : String)
    (steps : List Step) (rush : IsRush caller now steps)
    (complete : ∀ a, .hit a ∈ steps → .test a ∈ steps) (free : w.view now caller = []) :
    let n := (begun steps).length
    (0 < w.length →
      (w.admitted steps).length ≤ min n w.quota ∧
      ((w.admitted steps).length = min n w.quota ↔
        ∀ earlier a later, steps = earlier ++ .hit a :: later → (begun earlier).length = w.quota →
          (decided earlier).length = w.quota)) ∧
    (w.length = 0 → (w.admitted steps).length = n) := by
  intro n
  have hends : (decided steps).length = n := rush.length_decided_eq complete
  refine ⟨fun lasting => ?_, fun hlength => ?_⟩
  · by_cases hwithin : n ≤ w.quota
    · have hadmitted : (w.admitted steps).length = n := by
        rw [admitted_eq_decided free rush (.inr hwithin), hends]
      refine ⟨by omega, iff_of_true (by omega) ?_⟩
      -- no hit exceeds the quota
      rintro earlier a later rfl hfull
      have hmore : n = (begun earlier).length + ((begun later).length + 1) := by simp [n]
      omega
    · obtain ⟨earlier, a, later, rfl, hfull⟩ := exists_exceeding (Nat.lt_of_not_le hwithin)
      have hadmitted := admitted_of_exceeding free lasting rush hfull
      have hdecided := rush.of_append.length_decided_le
      refine ⟨by rw [hadmitted]; omega, ?_⟩
      rw [hadmitted, Nat.min_eq_right (Nat.le_of_not_le hwithin)]
      constructor
      · intro hall earlier' a' later' hcut hfull'
        -- the calls admitted are those decided before the hit, wherever the run is cut there
        have hadmitted' := admitted_of_exceeding free lasting (hcut ▸ rush) hfull'
        rw [← hadmitted', ← hcut, hadmitted, hall]
      · exact fun hall => hall earlier a later rfl hfull
  · rw [admitted_eq_decided free rush (.inl hlength), hends]

/-- Of three calls with a quota of two, the first is admitted before the others begin. The second is
undecided when the third hits, which exceeds the quota: both are turned away. -/
theorem length_admitted_eq_min_iff_undecided :
    let w := start 2 10 0
    let steps : List Step := [.hit ⟨0, "a", 3⟩, .test ⟨0, "a", 3⟩, .hit ⟨1, "a", 3⟩,
      .hit ⟨2, "a", 3⟩, .test ⟨1, "a", 3⟩, .test ⟨2, "a", 3⟩]
    (IsRush "a" 3 steps ∧ (∀ a, .hit a ∈ steps → .test a ∈ steps) ∧ w.view 3 "a" = []) ∧
    (w.admitted steps).length < min (begun steps).length w.quota := by
  intro w steps
  have hrush : IsRush "a" 3 steps := by
    refine ⟨⟨by decide, by decide, fun earlier a rest he => ?_⟩, by decide⟩
    rcases earlier with _ | ⟨s, _ | ⟨t, _ | ⟨u, _ | ⟨v, _ | ⟨x, _ | ⟨y, earlier⟩⟩⟩⟩⟩⟩ <;>
      simp [steps] at he <;> grind
  have hcomplete : ∀ a, .hit a ∈ steps → .test a ∈ steps := by simp [steps]
  have hfree : w.view 3 "a" = [] := view_start 2 10 0 3 "a"
  obtain ⟨hle, hiff⟩ := (length_admitted_eq_min_iff w 3 "a" steps hrush hcomplete hfree).1 (by decide)
  refine ⟨⟨hrush, hcomplete, hfree⟩, Nat.lt_of_le_of_ne hle fun hall => ?_⟩
  have hdecided := hiff.mp hall [.hit ⟨0, "a", 3⟩, .test ⟨0, "a", 3⟩, .hit ⟨1, "a", 3⟩] ⟨2, "a", 3⟩
    [.test ⟨1, "a", 3⟩, .test ⟨2, "a", 3⟩] rfl rfl
  exact absurd hdecided (by decide)

/-- **Two calls that overlap can both be turned away**: with a quota of one, neither is admitted if both
hit before either tests, although a call alone would be. -/
theorem refused_of_race :
    let w := start 1 10 0
    let steps : List Step :=
      [.hit ⟨0, "a", 3⟩, .hit ⟨1, "a", 3⟩, .test ⟨0, "a", 3⟩, .test ⟨1, "a", 3⟩]
    IsRush "a" 3 steps ∧ (∀ a, .hit a ∈ steps → .test a ∈ steps) ∧ w.view 3 "a" = [] ∧
    (w.admitted steps).length ≠ min (begun steps).length w.quota := by
  intro w steps
  have hrush : IsRush "a" 3 steps := by
    refine ⟨⟨by decide, by decide, fun earlier a rest he => ?_⟩, by decide⟩
    rcases earlier with _ | ⟨s, _ | ⟨t, _ | ⟨u, _ | ⟨v, earlier⟩⟩⟩⟩ <;> simp [steps] at he <;> grind
  have hfree : w.view 3 "a" = [] := view_start 1 10 0 3 "a"
  -- the second hit exceeds the quota, and nothing is decided before it
  have hcut : steps = [.hit ⟨0, "a", 3⟩] ++ .hit ⟨1, "a", 3⟩ ::
      [.test ⟨0, "a", 3⟩, .test ⟨1, "a", 3⟩] := rfl
  have hnone : w.admitted steps = [] := by
    rw [hcut] at hrush ⊢
    exact admitted_of_exceeding hfree (by decide) hrush rfl
  exact ⟨hrush, by simp [steps], hfree, by rw [hnone]; decide⟩

end IndexGateway.SlidingWindow

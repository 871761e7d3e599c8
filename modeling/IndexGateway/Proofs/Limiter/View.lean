import IndexGateway.Limiter.SlidingWindow
import Mathlib.Data.List.Basic

/-!
# What a sliding window shows of a caller

Every answer about a caller at a moment is computed from the hits of that caller
that are recent then. This module calls that list the *view* of the caller and says
once what each operation does to it. Sweeping the table and looking at a caller drop
hits from the table, but only hits that no later view holds; a hit or a clearing of
one caller leaves the views of all others as they are.

## The model

A view is taken at a moment `later` that is not before the moment of the operation,
since the clock never goes back. What an operation does is said about all such views
together: that is what makes the statements strong enough to be used one after the
other.
-/

namespace IndexGateway.SlidingWindow

variable {w : SlidingWindow} {now later : Nat} {caller : String}

/-- The hits of a caller that are recent at a moment, oldest first. -/
def view (w : SlidingWindow) (later : Moment) (caller : String) : List Moment :=
  w.recent later (w.kept caller)

/-! ### Recent hits -/

theorem isRecent_iff {hit : Nat} : w.isRecent now hit ↔ (now - hit : Nat) < w.length := by
  unfold isRecent
  exact decide_eq_true_iff

/-- A hit that is recent at a moment was recent before. -/
theorem isRecent_of_le {hit : Nat} (h : now ≤ later) (hr : w.isRecent later hit) :
    w.isRecent now hit := by
  rw [isRecent_iff] at hr ⊢
  omega

/-- Where a hit is recent, so is every later one. -/
theorem isRecent_of_hit_le {hit hit' : Nat} (h : hit ≤ hit') (hr : w.isRecent now hit) :
    w.isRecent now hit' := by
  rw [isRecent_iff] at hr ⊢
  omega

/-- Dropping early what is no longer recent changes nothing that is seen later. -/
theorem recent_recent (h : now ≤ later) (hits : List Moment) :
    w.recent later (w.recent now hits) = w.recent later hits := by
  unfold recent
  induction hits with
  | nil => rfl
  | cons hit rest ih =>
    by_cases hn : w.isRecent now hit
    · simp only [List.dropWhile_cons, hn, Bool.not_true, Bool.false_eq_true, if_false]
    · have hl : ¬ w.isRecent later hit := fun hl => hn (isRecent_of_le h hl)
      simp only [List.dropWhile_cons, hn, hl, Bool.not_false, if_true]
      exact ih

/-- Where hits are ordered, those at the back are the recent ones. -/
theorem recent_eq_filter {hits : List Nat} (h : hits.Pairwise (· ≤ ·)) :
    w.recent now hits = hits.filter (w.isRecent now) := by
  unfold recent
  induction hits with
  | nil => rfl
  | cons hit rest ih =>
    obtain ⟨hle, hrest⟩ := List.pairwise_cons.mp h
    by_cases hr : w.isRecent now hit
    · have hall : ∀ x ∈ rest, w.isRecent now x := fun x hx => isRecent_of_hit_le (hle x hx) hr
      simp only [List.dropWhile_cons, List.filter_cons, hr, Bool.not_true, Bool.false_eq_true,
        if_false, if_true]
      rw [List.filter_eq_self.mpr hall]
    · simp only [List.dropWhile_cons, List.filter_cons, hr, Bool.not_false, if_true]
      exact ih hrest

/-! ### Quota and length -/

@[simp] theorem quota_sweepIfDue (w : SlidingWindow) (now : Moment) :
    (w.sweepIfDue now).quota = w.quota := by
  unfold sweepIfDue
  split <;> rfl

@[simp] theorem length_sweepIfDue (w : SlidingWindow) (now : Moment) :
    (w.sweepIfDue now).length = w.length := by
  unfold sweepIfDue
  split <;> rfl

@[simp] theorem quota_refresh (w : SlidingWindow) (now : Moment) (c : String) :
    (w.refresh now c).quota = w.quota := by
  unfold refresh
  split
  · rfl
  · split <;> rfl

@[simp] theorem length_refresh (w : SlidingWindow) (now : Moment) (c : String) :
    (w.refresh now c).length = w.length := by
  unfold refresh
  split
  · rfl
  · split <;> rfl

/-! ### The view after an operation -/

theorem kept_sweep (w : SlidingWindow) (now : Moment) (caller : String) :
    (w.sweep now).kept caller = w.recent now (w.kept caller) := by
  unfold sweep kept
  simp only [Std.HashMap.getElem?_filterMap']
  cases w.hitsOf[caller]? with
  | none => rfl
  | some hits =>
    simp only [Option.bind_some, Option.getD_some]
    cases w.recent now hits <;> rfl

theorem kept_refresh (w : SlidingWindow) (now : Moment) (caller c : String) :
    (w.refresh now caller).kept c =
      if caller = c then w.recent now (w.kept c) else w.kept c := by
  unfold refresh kept
  split
  · next hnone =>
    by_cases hc : caller = c
    · subst hc
      simp only [hnone, Option.getD_none, if_true]
      rfl
    · simp only [hc, if_false]
  · next hits hsome =>
    by_cases hc : caller = c
    · subst hc
      simp only [hsome, Option.getD_some, if_true]
      split
      · next hnil => simp only [Std.HashMap.getElem?_erase_self, Option.getD_none, hnil]
      · next hits' hne => simp only [Std.HashMap.getElem?_insert_self, Option.getD_some]
    · simp only [hc, if_false]
      split
      · simp only [Std.HashMap.getElem?_erase, beq_iff_eq, hc, if_false]
      · simp only [Std.HashMap.getElem?_insert, beq_iff_eq, hc, if_false]

/-- A sweep changes no later view. -/
theorem view_sweep (h : now ≤ later) : (w.sweep now).view later caller = w.view later caller := by
  unfold view
  rw [kept_sweep]
  exact recent_recent h _

theorem view_sweepIfDue (h : now ≤ later) :
    (w.sweepIfDue now).view later caller = w.view later caller := by
  unfold sweepIfDue
  split
  · exact view_sweep h
  · rfl

/-- Looking at a caller changes no later view. -/
theorem view_refresh (h : now ≤ later) (c : String) :
    (w.refresh now c).view later caller = w.view later caller := by
  have hr : (w.refresh now c).recent later = w.recent later := by
    unfold recent isRecent
    rw [length_refresh]
  unfold view
  rw [hr, kept_refresh]
  split
  · exact recent_recent h _
  · rfl

/-- Clearing a caller empties its own view. -/
theorem view_clear (w : SlidingWindow) (later : Moment) (caller c : String) :
    (w.clear c).view later caller = if c = caller then [] else w.view later caller := by
  unfold view clear kept
  simp only [Std.HashMap.getElem?_erase, beq_iff_eq]
  split
  · rfl
  · rfl

/-- What is kept after a hit: of the caller, its view and the hit, cut to the newest; of others, what
a sweep has left if one was due. -/
theorem kept_hit (w : SlidingWindow) (now : Moment) (caller c : String) :
    (w.hit now c).kept caller =
      if c = caller then w.trim (w.view now caller ++ [now]) else (w.sweepIfDue now).kept caller := by
  by_cases hc : c = caller
  · have hv : (w.sweepIfDue now).recent now ((w.sweepIfDue now).kept caller) =
        w.view now caller := view_sweepIfDue (Nat.le_refl _)
    have ht : (w.sweepIfDue now).trim = w.trim := by
      unfold trim
      rw [quota_sweepIfDue]
    subst hc
    unfold hit
    simp only [hv, ht]
    unfold kept
    simp only [Std.HashMap.getElem?_insert_self, Option.getD_some, if_true]
  · unfold hit kept
    simp only [Std.HashMap.getElem?_insert, beq_iff_eq, hc, if_false]

/-- A hit is added to the view that the caller has at that moment, which is then cut to its newest
hits. The views of other callers stay as they are. -/
theorem view_hit (h : now ≤ later) (c : String) :
    (w.hit now c).view later caller =
      if c = caller then w.recent later (w.trim (w.view now caller ++ [now]))
      else w.view later caller := by
  have hr : (w.hit now c).recent later = w.recent later := by
    unfold recent isRecent
    rw [show (w.hit now c).length = w.length from length_sweepIfDue w now]
  rw [show (w.hit now c).view later caller =
    (w.hit now c).recent later ((w.hit now c).kept caller) from rfl, hr, kept_hit]
  split
  · rfl
  · rw [← view_sweepIfDue (w := w) h]
    unfold view recent isRecent
    rw [length_sweepIfDue]

/-! ### Answers -/

theorem hits_eq_view (w : SlidingWindow) (now : Moment) (caller : String) :
    w.hits now caller = (w.view now caller).length := rfl

theorem test_eq_view (w : SlidingWindow) (now : Moment) (caller : String) :
    w.test now caller = decide ((w.view now caller).length ≤ w.quota) := rfl

theorem resetsIn_eq_view (w : SlidingWindow) (now : Moment) (caller : String) :
    w.resetsIn now caller =
      if (w.view now caller).length < w.quota then .ok none
      else untilOver w.length now (w.view now caller) := rfl

theorem untilOver_cons_of_lt {oldest : Moment} {length : Duration}
    (h : oldest + length < Moment.horizon) (now : Moment) (more : List Moment) :
    untilOver length now (oldest :: more) = .ok (some (oldest + length - now)) := by
  rw [untilOver, Moment.after_of_lt h]
  rfl

theorem untilOver_cons_of_le {oldest : Moment} {length : Duration}
    (h : Moment.horizon ≤ oldest + length) (now : Moment) (more : List Moment) :
    untilOver length now (oldest :: more) = .error .offClock := by
  rw [untilOver, Moment.after_of_le h]
  rfl

/-- A wait that can be told belongs to the oldest hit. -/
theorem exists_of_untilOver {length wait : Duration} {hits : List Moment}
    (h : untilOver length now hits = .ok (some wait)) :
    ∃ oldest more, hits = oldest :: more ∧ wait = oldest + length - now := by
  cases hits with
  | nil => cases h
  | cons oldest more =>
    rcases Nat.lt_or_ge (oldest + length) Moment.horizon with hlt | hle
    · rw [untilOver_cons_of_lt hlt] at h
      exact ⟨oldest, more, rfl, (Option.some.inj (Except.ok.inj h)).symm⟩
    · rw [untilOver_cons_of_le hle] at h
      cases h

end IndexGateway.SlidingWindow

import IndexGateway.Proofs.Limiter.ResetHint

/-!
# When a caller is back within its quota

A caller who is outside its quota may ask how long it has to wait. The wait is exact: as long
as the caller neither calls nor is cleared, it stays outside until the wait is over, and is
within its quota from then on. Looking at it, sweeping the table and whatever other callers
do makes no difference.

This is about a caller who is looked at after the wait. One who calls then needs room for
the new call, too, which is another matter (`admitted_after_wait_iff`).

## What is proved

* `view_performAll_of_untouched` — what is seen of a caller later is what was seen before,
  less what is no longer recent.
* `isBackIn_of_view` — a caller with one hit too many is back within its quota as soon as
  the oldest of its hits is no longer recent.
* `test_recovers_exactly` — hence the wait is exact, and a call that is turned away is told
  the least number of whole seconds that covers it; unless the wait ends when the clock can
  tell no time any more, and then nothing is told.
-/

namespace IndexGateway.SlidingWindow

open Admission

variable {w : SlidingWindow} {quota length started now later : Nat} {caller : String}
  {history quiet : List (Moment × Operation)}

/-! ### Leaving a caller alone -/

/-- Looking at a caller changes no answer to another question at the same time. -/
theorem test_refresh (w : SlidingWindow) (now : Moment) (caller c : String) :
    (w.refresh now c).test now caller = w.test now caller := by
  rw [test_eq_view, test_eq_view, view_refresh (Nat.le_refl now), quota_refresh]

theorem resetsIn_refresh (w : SlidingWindow) (now : Moment) (caller c : String) :
    (w.refresh now c).resetsIn now caller = w.resetsIn now caller := by
  rw [resetsIn_eq_view, resetsIn_eq_view, view_refresh (Nat.le_refl now), quota_refresh,
    length_refresh]

/-- **Operations leave a caller alone**: none of them is a hit of the caller or clears it. -/
def Untouched (caller : String) (quiet : List (Moment × Operation)) : Prop :=
  ∀ x ∈ quiet, x.2 ≠ .hit caller ∧ x.2 ≠ .clear caller

/-- An operation that leaves a caller alone changes no later view of it. -/
theorem view_perform_of_ne {op : Operation} (hhit : op ≠ .hit caller) (hclear : op ≠ .clear caller)
    (hle : now ≤ later) : (w.perform now op).2.view later caller = w.view later caller := by
  cases op with
  | hit c => exact (view_hit hle c).trans (if_neg fun hc => hhit (congrArg Operation.hit hc))
  | test c => exact view_refresh hle c
  | resetsIn c => exact view_refresh hle c
  | hits c => exact view_refresh hle c
  | tracked => rfl
  | clear c =>
    exact (view_clear w later caller c).trans (if_neg fun hc => hclear (congrArg Operation.clear hc))
  | purgeIdle => exact view_sweep hle

/-- Operations that leave a caller alone change no later view of it. -/
theorem view_performAll_of_untouched (untouched : Untouched caller quiet)
    (hordered : (quiet.map Prod.fst ++ [later]).Pairwise (· ≤ ·)) :
    (w.performAll quiet).2.view later caller = w.view later caller := by
  induction quiet generalizing w with
  | nil => rfl
  | cons x rest ih =>
    obtain ⟨t, op⟩ := x
    obtain ⟨⟨hhit, hclear⟩, hrest⟩ := List.forall_mem_cons.mp untouched
    obtain ⟨hle, hordered⟩ := List.pairwise_cons.mp hordered
    have hlater : t ≤ later := hle later (List.mem_append_right _ (List.mem_singleton_self later))
    exact (ih hrest hordered).trans (view_perform_of_ne hhit hclear hlater)

/-! ### Being back -/

/-- **A caller is back within its quota after a wait**: if it is left alone, it is within its quota
exactly from the end of the wait on. -/
def IsBackIn (w : SlidingWindow) (now : Moment) (caller : String) (wait : Duration) : Prop :=
  ∀ (quiet : List (Moment × Operation)) (later : Moment), Untouched caller quiet →
    (now :: (quiet.map Prod.fst ++ [later])).Pairwise (· ≤ ·) →
    ((w.performAll quiet).2.test later caller = true ↔ now + wait ≤ later)

/-- A caller with one hit more than its quota allows is back as soon as the oldest of its hits is no
longer recent. -/
theorem isBackIn_of_view {oldest : Nat} {more : List Nat} (hview : w.view now caller = oldest :: more)
    (hmore : more.length = w.quota) (hordered : (oldest :: more).Pairwise (· ≤ ·))
    (hpast : oldest ≤ now) (hrecent : now < oldest + w.length) :
    w.IsBackIn now caller (oldest + w.length - now) := by
  intro quiet later untouched behind
  obtain ⟨hle, hquiet⟩ := List.pairwise_cons.mp behind
  have hlater : now ≤ later := hle later (List.mem_append_right _ (List.mem_singleton_self later))
  have hlast : (w.performAll quiet).2.view later caller =
      (oldest :: more).filter (w.isRecent later) := by
    rw [view_performAll_of_untouched untouched hquiet, ← recent_eq_filter hordered, ← hview]
    exact (recent_recent hlater _).symm
  have hwait : now + (oldest + w.length - now) = oldest + w.length :=
    Nat.add_sub_of_le (Nat.le_of_lt hrecent)
  rw [test_eq_view, hlast, quota_performAll, ← hmore, decide_eq_true_iff, hwait]
  exact length_filter_le_iff (by omega) hordered

/-- A caller who is outside its quota has one hit too many, the oldest of which is recent. -/
theorem exists_view_of_test_eq_false (quota : Nat) (length : Duration) (started : Moment)
    (caller : String) (ordered : (history.map Prod.fst ++ [now]).Pairwise (· ≤ ·))
    (exceeded : ((start quota length started).performAll history).2.test now caller = false) :
    ∃ oldest more, ((start quota length started).performAll history).2.view now caller =
        oldest :: more ∧ more.length = quota ∧ (oldest :: more).Pairwise (· ≤ ·) ∧
      oldest ≤ now ∧ now < oldest + length := by
  have hview := view_performAll quota length started caller ordered
  obtain ⟨hlog, -, hpast⟩ := List.pairwise_append.mp (ordered_hitLog caller ordered)
  rw [test_eq_view, quota_performAll, decide_eq_false_iff_not] at exceeded
  have hsublist := rtake_sublist ((hitLog caller history).filter fun hit => now - hit < length)
    (quota + 1)
  have hlength := length_rtake ((hitLog caller history).filter fun hit => now - hit < length)
    (quota + 1)
  rw [← hview] at hsublist hlength
  generalize ((start quota length started).performAll history).2.view now caller = view at *
  match view with
  | [] => exact absurd (Nat.zero_le _) exceeded
  | oldest :: more =>
    have holdest := List.mem_filter.mp (hsublist.subset List.mem_cons_self)
    have hrecent : (now - oldest : Nat) < length := of_decide_eq_true holdest.2
    have hle : oldest ≤ now := hpast oldest holdest.1 now (List.mem_singleton_self now)
    refine ⟨oldest, more, rfl, ?_, hlog.sublist (hsublist.trans List.filter_sublist), hle, by omega⟩
    have hmany : quota < more.length + 1 := Nat.not_le.mp exceeded
    rw [List.length_cons] at hlength
    omega

/-- A caller who is outside its quota is told after which wait it is back, if the clock can tell when
that is. -/
theorem exists_wait_of_test_eq_false
    (ordered : (history.map Prod.fst ++ [now]).Pairwise (· ≤ ·))
    (exceeded : ((start quota length started).performAll history).2.test now caller = false) :
    ∃ wait, 0 < wait ∧ wait ≤ length ∧
      ((start quota length started).performAll history).2.IsBackIn now caller wait ∧
      ((start quota length started).performAll history).2.resetsIn now caller =
        if now + wait < Moment.horizon then .ok (some wait) else .error .offClock := by
  obtain ⟨oldest, more, hview, hmore, hhits, hpast, hrecent⟩ :=
    exists_view_of_test_eq_false quota length started caller ordered exceeded
  have hquota := quota_performAll (start quota length started) history
  have hlength := length_performAll (start quota length started) history
  generalize ((start quota length started).performAll history).2 = w at hview hquota hlength ⊢
  obtain rfl : w.quota = quota := hquota
  obtain rfl : w.length = length := hlength
  have hover : now + (oldest + w.length - now) = oldest + w.length :=
    Nat.add_sub_of_le (Nat.le_of_lt hrecent)
  refine ⟨oldest + w.length - now, Nat.sub_pos_of_lt hrecent, ?_,
    isBackIn_of_view hview hmore hhits hpast hrecent, ?_⟩
  · exact Nat.sub_le_of_le_add (Nat.add_comm w.length now ▸ Nat.add_le_add_right hpast w.length)
  · rw [resetsIn_eq_view, hview, if_neg (by simp [hmore]), hover]
    split
    · next htold => exact untilOver_cons_of_lt htold now more
    · next hlate => exact untilOver_cons_of_le (Nat.not_lt.mp hlate) now more

/-! ### The announced seconds -/

theorem ending_some (wait : Duration) :
    ending (.ok (some wait)) = .fault (refusedFor (announcedSeconds wait)) := rfl

/-- The announced seconds are the least number of whole seconds that covers a wait. -/
theorem announcedSeconds_le_iff {d n : Nat} (hpos : 0 < d) :
    announcedSeconds d ≤ n ↔ d ≤ Duration.ofSeconds n := by
  unfold announcedSeconds Duration.secondsRoundedUp Duration.ofSeconds
  omega

theorem le_secondsRoundedUp (d : Nat) : d ≤ Duration.ofSeconds (Duration.secondsRoundedUp d) := by
  unfold Duration.ofSeconds Duration.secondsRoundedUp
  omega

/-- **The wait is exact.** After any ordered history, let a caller be outside its quota. There is a wait,
positive and no longer than the window, after which it is back: if it is neither hit again nor
cleared, it stays outside its quota until the wait is over and is within it from then on, whatever
is asked meanwhile, whatever is swept, and whatever other callers do. The caller is told this wait,
provided that the clock can tell when it is over. A call that is turned away leaves its caller outside
the quota and is told the least number of whole seconds that covers the wait that the caller has then,
at least one and at most the length of the window, rounded up; where the clock cannot tell when the
wait is over, the call is broken off. -/
theorem test_recovers_exactly (quota : Nat) (length : Duration) (started : Moment)
    (history : List (Moment × Operation)) (now : Moment) (caller : String)
    (ordered : (history.map Prod.fst ++ [now]).Pairwise (· ≤ ·)) :
    let w := ((start quota length started).performAll history).2
    (w.test now caller = false → ∃ wait, 0 < wait ∧ wait ≤ length ∧ w.IsBackIn now caller wait ∧
      w.resetsIn now caller =
        if now + wait < Moment.horizon then .ok (some wait) else .error .offClock) ∧
    ∀ ending, (judge (.window w) now caller).refused = some ending → ∃ w' wait,
      (judge (.window w) now caller).limiter = .window w' ∧ w'.test now caller = false ∧
      0 < wait ∧ wait ≤ length ∧ w'.IsBackIn now caller wait ∧
      (w'.resetsIn now caller =
        if now + wait < Moment.horizon then .ok (some wait) else .error .offClock) ∧
      (Moment.horizon ≤ now + wait → ending = .breakdown .offClock) ∧
      (now + wait < Moment.horizon → ∃ seconds, ending = .fault (refusedFor seconds) ∧
        wait ≤ Duration.ofSeconds seconds ∧ (∀ n, wait ≤ Duration.ofSeconds n → seconds ≤ n) ∧
        1 ≤ seconds ∧ seconds ≤ length.secondsRoundedUp) := by
  intro w
  refine ⟨fun exceeded => exists_wait_of_test_eq_false ordered exceeded, fun ending refused => ?_⟩
  -- a call that is turned away is itself a part of the history
  have hleft := limiter_judge (by rw [refused]; exact Option.some_ne_none ending)
  have hw' : (w.performAll (refusedCall now caller)).2 =
      ((start quota length started).performAll (history ++ refusedCall now caller)).2 := by
    rw [performAll_append]
  have hordered : ((history ++ refusedCall now caller).map Prod.fst ++ [now]).Pairwise (· ≤ ·) := by
    rw [List.map_append, List.append_assoc]
    exact ordered_append ordered (by simp [refusedCall])
  have hafter := performAll_refusedCall w now caller
  rw [judge_window] at refused
  by_cases htest : (w.hit now caller).test now caller
  · rw [if_pos htest] at refused
    cases refused
  · rw [if_neg htest] at refused
    have hexceeded : (w.performAll (refusedCall now caller)).2.test now caller = false := by
      rw [hafter, test_refresh, test_refresh]
      exact Bool.eq_false_iff.mpr htest
    obtain ⟨wait, hpos, hle, hback, hwait⟩ :=
      exists_wait_of_test_eq_false hordered (hw' ▸ hexceeded)
    rw [← hw'] at hwait hback
    have hhint : ((w.hit now caller).refresh now caller).resetsIn now caller =
        if now + wait < Moment.horizon then .ok (some wait) else .error .offClock := by
      rw [← hwait, hafter, resetsIn_refresh ((w.hit now caller).refresh now caller)]
    rw [hhint] at refused
    refine ⟨_, wait, hleft, hexceeded, hpos, hle, hback, hwait, fun hlate => ?_, fun htold => ?_⟩
    · rw [if_neg (Nat.not_lt.mpr hlate)] at refused
      exact (Option.some.inj refused).symm
    · rw [if_pos htold] at refused
      refine ⟨announcedSeconds wait, (Option.some.inj refused).symm.trans (ending_some wait),
        le_announcedSeconds wait, fun n => (announcedSeconds_le_iff hpos).mpr, Nat.le_max_left _ _, ?_⟩
      exact (announcedSeconds_le_iff hpos).mpr (Nat.le_trans hle (le_secondsRoundedUp length))

/-- With a quota of one call in ten seconds and hits at zero and four seconds, a caller who is looked at
at five seconds is outside its quota for five more, although another caller makes the table be swept
meanwhile. A caller who calls instead is told to wait for nine seconds; with a window as long as the
clock, the call is broken off. -/
theorem test_recovers_exactly_swept :
    let s := Duration.ofSeconds
    let history : List (Moment × Operation) := [(0, .hit "a"), (s 4, .hit "a")]
    let w := ((start 1 (s 10) 0).performAll history).2
    let quiet : List (Moment × Operation) := [(s 6, .hit "b"), (s 7, .test "a"), (s 8, .purgeIdle)]
    let endless := ((start 1 Moment.horizon 0).performAll history).2
    w.test (s 5) "a" = false ∧ w.resetsIn (s 5) "a" = .ok (some (s 5)) ∧
    (w.performAll quiet).2.test (s 10 - 1) "a" = false ∧
    (w.performAll quiet).2.test (s 10) "a" = true ∧
    (judge (.window w) (s 5) "a").refused = some (.fault (refusedFor 9)) ∧
    (∃ w', (judge (.window w) (s 5) "a").limiter = .window w' ∧ w'.test (s 14) "a" = true) ∧
    (judge (.window endless) (s 5) "a").refused = some (.breakdown .offClock) := by
  intro s history w quiet endless
  have ordered : (history.map Prod.fst ++ [s 5]).Pairwise (· ≤ ·) := by decide
  have exceeded : w.test (s 5) "a" = false :=
    (test_performAll 1 (s 10) 0 "a" ordered).trans (by decide)
  have hint : w.resetsIn (s 5) "a" = .ok (some (s 5)) :=
    (resetsIn_performAll 1 (s 10) 0 "a" ordered).trans (by decide)
  have hcounted : (counted (s 10) "a" history (s 5)).rtake (1 + 1) = [s 4, s 5] := by decide
  have refused : (judge (.window w) (s 5) "a").refused = some (.fault (refusedFor 9)) :=
    refused_judge_of_counted ordered hcounted rfl (by decide) (by decide)
  have broken : (judge (.window endless) (s 5) "a").refused = some (.breakdown .offClock) :=
    (refused_judge 1 Moment.horizon 0 "a" ordered).trans (by decide)
  have untouched : Untouched "a" quiet := by simp [Untouched, quiet]
  obtain ⟨hlooked, hcalled⟩ := test_recovers_exactly 1 (s 10) 0 history (s 5) "a" ordered
  obtain ⟨wait, -, hle, hback, hwait⟩ := hlooked exceeded
  have htold : ∀ wait ≤ s 10, s 5 + wait < Moment.horizon := fun wait hle =>
    Nat.lt_of_le_of_lt (Nat.add_le_add_left hle (s 5)) (by decide)
  rw [if_pos (htold wait hle)] at hwait
  obtain rfl : s 5 = wait := Option.some.inj (Except.ok.inj (hint.symm.trans hwait))
  obtain ⟨w', wait', hleft, -, -, hle', hback', -, -, hseconds⟩ := hcalled _ refused
  obtain ⟨seconds, hfault, hcovers, -⟩ := hseconds (htold wait' hle')
  have hnine : announcedSeconds (s 9) = 9 := by decide
  have hshown : ending (.ok (some (s 9))) = .fault (refusedFor seconds) := by
    rw [ending_some, hnine, hfault]
  obtain ⟨d, hd, rfl⟩ := seconds_of_ending hshown
  obtain rfl : s 9 = d := Option.some.inj (Except.ok.inj hd)
  rw [hnine] at hcovers
  have hlate : s 5 + wait' ≤ s 14 := (Nat.add_le_add_left hcovers (s 5)).trans (by decide)
  refine ⟨exceeded, hint, ?_, (hback quiet (s 10) untouched (by decide)).mpr (by decide), refused,
    ⟨w', hleft, (hback' [] (s 14) nofun (by decide)).mpr hlate⟩, broken⟩
  rw [Bool.eq_false_iff, Ne, hback quiet (s 10 - 1) untouched (by decide)]
  decide

end IndexGateway.SlidingWindow

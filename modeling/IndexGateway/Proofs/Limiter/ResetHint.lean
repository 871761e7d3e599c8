import IndexGateway.Limiter.Admission
import IndexGateway.Proofs.Json.Numeral
import IndexGateway.Proofs.Limiter.Interleaving

/-!
# How far a reset hint can be trusted

A caller who is turned away is told how many seconds to wait. The wait ends when the
oldest of its kept hits is no longer recent. By then the caller is within its quota again,
as long as it does not call; but a call counts before it is tested, so the next call needs
room for itself, and finds it only if the second oldest hit is no longer recent either.

## The model

Both calls are judged by a limiter that has any ordered history behind it. Between them
anything may happen but a call of the same caller.

## What is proved

* `refused_judge` — what a call is told, read off the log of its caller.
* `admitted_after_wait_iff` — a caller who waited as long as it was told is within its
  quota, and its next call is admitted exactly if the second oldest of the hits that
  were kept is no longer recent, or the caller was cleared meanwhile.
* `refused_after_wait` — so the announced wait may be too short: of two calls four
  seconds apart, the end of the first one makes no room for a third.
-/

namespace IndexGateway.SlidingWindow

open Admission

variable {quota length started now later : Nat} {caller : String}
  {history quiet : List (Moment × Operation)}

/-! ### The text of a refusal -/

/-- The fault for a caller who is turned away and told to wait so many seconds. -/
def refusedFor (seconds : Nat) : Fault :=
  .wrapped .tooManyRequests (refusalText ++ " Limit may reset in " ++
    String.ofList (Text.Numeral.ofNat seconds) ++ " seconds.")

/-- The number that a refusal shows is the one that was announced. -/
theorem seconds_of_ending {wait : Except Breakdown (Option Duration)} {seconds : Nat}
    (h : ending wait = .fault (refusedFor seconds)) :
    ∃ d, wait = .ok (some d) ∧ seconds = announcedSeconds d := by
  rcases wait with why | _ | d
  case error => cases h
  case ok.none =>
    -- without a wait the text ends earlier
    have htext : refusalText = _ := (Fault.wrapped.inj (Ending.fault.inj h)).2
    have hlength := congrArg String.length htext
    have hpos : " seconds.".length = 9 := rfl
    simp only [String.length_append, hpos] at hlength
    omega
  case ok.some =>
    refine ⟨d, rfl, ?_⟩
    have htext := (Fault.wrapped.inj (Ending.fault.inj h)).2
    have hdigits : Text.Numeral.ofNat (announcedSeconds d) = Text.Numeral.ofNat seconds := by
      simpa [String.ofList_inj] using htext
    rw [← Number.value_ofNat seconds, ← hdigits, Number.value_ofNat]

/-- The announced seconds are no shorter than the wait. -/
theorem le_announcedSeconds (d : Nat) : d ≤ Duration.ofSeconds (announcedSeconds d) := by
  unfold Duration.ofSeconds announcedSeconds Duration.secondsRoundedUp
  omega

/-! ### Calls as operations -/

/-- What a call that is turned away does to the table of a limiter. -/
def refusedCall (now : Moment) (caller : String) : List (Moment × Operation) :=
  [(now, .hit caller), (now, .test caller), (now, .resetsIn caller)]

theorem performAll_refusedCall (w : SlidingWindow) (now : Moment) (caller : String) :
    (w.performAll (refusedCall now caller)).2 =
      ((w.hit now caller).refresh now caller).refresh now caller := by
  simp only [refusedCall, SlidingWindow.performAll, SlidingWindow.perform]

theorem hitLog_append_refusedCall (caller : String) (history : List (Moment × Operation))
    (now : Moment) : hitLog caller (history ++ refusedCall now caller) = hitLog caller history ++ [now] := by
  rw [hitLog_append]
  exact if_pos rfl

/-- Between two calls a log stays as it is, unless its caller is cleared. -/
theorem hitLogFrom_quiet (silent : ∀ x ∈ quiet, x.2 ≠ .hit caller) (log : List Moment) :
    hitLogFrom caller log quiet = if .clear caller ∈ quiet.map Prod.snd then [] else log := by
  induction quiet generalizing log with
  | nil => rfl
  | cons x quiet ih =>
    obtain ⟨t, op⟩ := x
    obtain ⟨hop, hquiet⟩ := List.forall_mem_cons.mp silent
    rw [hitLogFrom_cons, ih hquiet]
    by_cases hclear : op = .clear caller
    · subst hclear
      simp [Operation.record]
    · rw [Operation.record_of_ne hop hclear]
      exact if_congr (by simp [Ne.symm hclear]) rfl rfl

/-- What happens up to a moment may be followed by what happens from it on. -/
theorem ordered_append {before behind : List Nat} (hbefore : (before ++ [now]).Pairwise (· ≤ ·))
    (hbehind : (now :: behind).Pairwise (· ≤ ·)) : (before ++ behind).Pairwise (· ≤ ·) := by
  obtain ⟨hbefore, -, hle⟩ := List.pairwise_append.mp hbefore
  obtain ⟨hge, hbehind⟩ := List.pairwise_cons.mp hbehind
  refine List.pairwise_append.mpr ⟨hbefore, hbehind, fun a ha b hb => ?_⟩
  exact Nat.le_trans (hle a ha now (List.mem_singleton_self now)) (hge b hb)

/-! ### Judging a call -/

/-- The hits of a caller that count when it calls at a moment, its new one included. -/
def counted (length : Duration) (caller : String) (history : List (Moment × Operation))
    (now : Moment) : List Moment :=
  (hitLog caller history ++ [now]).filter fun hit => now - hit < length

/-- The two outcomes of judging a call. -/
theorem judge_window (w : SlidingWindow) (now : Moment) (caller : String) :
    judge (.window w) now caller =
      if (w.hit now caller).test now caller then
        { limiter := .window ((w.hit now caller).refresh now caller), refused := none
          event := .increment Metrics.admittedName [], log := [] }
      else
        { limiter := .window (w.performAll (refusedCall now caller)).2
          refused := some (ending (((w.hit now caller).refresh now caller).resetsIn now caller))
          event := .increment Metrics.exceededName []
          log := refusalLog caller (((w.hit now caller).refresh now caller).resetsIn now caller) } := by
  rw [performAll_refusedCall]
  rfl

/-- What a call that is turned away leaves in the limiter. -/
theorem limiter_judge {w : SlidingWindow} (h : (judge (.window w) now caller).refused ≠ none) :
    (judge (.window w) now caller).limiter = .window (w.performAll (refusedCall now caller)).2 := by
  rw [judge_window] at h ⊢
  by_cases htest : (w.hit now caller).test now caller
  · rw [if_pos htest] at h
    exact (h rfl).elim
  · rw [if_neg htest]

/-- What a limiter shows of a caller that has just called. -/
theorem view_hit_performAll (quota : Nat) (length : Duration) (started : Moment) (caller : String)
    (ordered : (history.map Prod.fst ++ [now]).Pairwise (· ≤ ·)) :
    (((start quota length started).performAll history).2.hit now caller).view now caller =
      (counted length caller history now).rtake (quota + 1) := by
  have hhit : ((start quota length started).performAll history).2.hit now caller =
      ((start quota length started).performAll (history ++ [(now, .hit caller)])).2 := by
    rw [performAll_append]
    simp only [SlidingWindow.performAll, SlidingWindow.perform]
  have hlog : hitLog caller (history ++ [(now, .hit caller)]) = hitLog caller history ++ [now] := by
    rw [hitLog_append]
    exact if_pos rfl
  have hordered : ((history ++ [(now, Operation.hit caller)]).map Prod.fst ++ [now]).Pairwise
      (· ≤ ·) := by
    rw [List.map_append, List.append_assoc]
    exact ordered_append ordered (by simp)
  rw [hhit, view_performAll quota length started caller hordered, hlog]
  rfl

/-- **What a call is told**: nothing if the hits that count are within the quota, and else the wait
until the oldest of the newest of them is no longer recent. -/
theorem refused_judge (quota : Nat) (length : Duration) (started : Moment) (caller : String)
    (ordered : (history.map Prod.fst ++ [now]).Pairwise (· ≤ ·)) :
    (judge (.window ((start quota length started).performAll history).2) now caller).refused =
      if (counted length caller history now).length ≤ quota then none
      else some (ending (untilOver length now
        ((counted length caller history now).rtake (quota + 1)))) := by
  have hview := view_hit_performAll quota length started caller ordered
  have hquota : _ = quota := quota_performAll (start quota length started) history
  have hlength : _ = length := length_performAll (start quota length started) history
  generalize ((start quota length started).performAll history).2 = w at hview hquota hlength ⊢
  have hjudge : (judge (.window w) now caller).refused =
      if (w.hit now caller).test now caller then none
      else some (ending (((w.hit now caller).refresh now caller).resetsIn now caller)) := by
    rw [judge_window]
    exact apply_ite Decision.refused _ _ _
  -- the test and the hint look at the same view of the caller, before and after it is refreshed
  rw [hjudge, test_eq_view, resetsIn_eq_view, view_refresh (Nat.le_refl now), hview, length_rtake,
    quota_refresh, length_refresh]
  simp only [decide_eq_true_eq, hit, quota_sweepIfDue, length_sweepIfDue, hquota, hlength]
  by_cases hle : (counted length caller history now).length ≤ quota
  · rw [if_pos (by omega), if_pos hle]
  · rw [if_neg (by omega), if_neg (by omega), if_neg hle]

theorem refused_judge_eq_none_iff (quota : Nat) (length : Duration) (started : Moment) (caller : String)
    (ordered : (history.map Prod.fst ++ [now]).Pairwise (· ≤ ·)) :
    (judge (.window ((start quota length started).performAll history).2) now caller).refused = none ↔
      (counted length caller history now).length ≤ quota := by
  rw [refused_judge quota length started caller ordered, ite_eq_left_iff]
  exact ⟨fun h => Decidable.byContradiction fun hmany => Option.some_ne_none _ (h hmany),
    fun hle hmany => (hmany hle).elim⟩

/-- The hits that are kept of a caller who has just been turned away. -/
theorem kept_refusedCall (quota : Nat) (length : Duration) (started : Moment) (caller : String)
    (ordered : (history.map Prod.fst ++ [now]).Pairwise (· ≤ ·)) :
    (((start quota length started).performAll history).2.performAll
        (refusedCall now caller)).2.kept caller =
      (counted length caller history now).rtake (quota + 1) := by
  rw [← view_hit_performAll quota length started caller ordered,
    ← view_refresh (Nat.le_refl now) caller, performAll_refusedCall, kept_refresh, if_pos rfl]
  rfl

/-- A caller has to wait until the oldest of its kept hits is no longer recent. -/
theorem refused_judge_of_counted {oldest : Moment} {more : List Moment} {seconds : Nat}
    (ordered : (history.map Prod.fst ++ [now]).Pairwise (· ≤ ·))
    (hcounted : (counted length caller history now).rtake (quota + 1) = oldest :: more)
    (hlength : more.length = quota) (htold : oldest + length < Moment.horizon)
    (hseconds : announcedSeconds (oldest + length - now) = seconds) :
    (judge (.window ((start quota length started).performAll history).2) now caller).refused =
      some (.fault (refusedFor seconds)) := by
  have hmany := length_rtake (counted length caller history now) (quota + 1)
  rw [hcounted, List.length_cons, hlength] at hmany
  rw [refused_judge quota length started caller ordered, if_neg (by omega), hcounted,
    untilOver_cons_of_lt htold, ← hseconds]
  rfl

/-! ### The next call -/

theorem length_counted (h : 0 < length) : (counted length caller history now).length =
    ((hitLog caller history).filter fun hit => now - hit < length).length + 1 := by
  unfold counted
  simp [h]

/-- A caller who is turned away has more hits than its quota allows; the hint covers the oldest of
those that are kept. -/
theorem exists_kept_of_refused {seconds : Nat} (positive : 1 ≤ quota)
    (ordered : (history.map Prod.fst ++ [now]).Pairwise (· ≤ ·))
    (refused : (judge (.window ((start quota length started).performAll history).2) now
      caller).refused = some (.fault (refusedFor seconds))) :
    ∃ oldest second more, (counted length caller history now).rtake (quota + 1) =
        oldest :: second :: more ∧
      more.length + 1 = quota ∧ 0 < length ∧
      oldest + length ≤ now + Duration.ofSeconds seconds := by
  have hmany : ¬ (counted length caller history now).length ≤ quota := by
    rw [← refused_judge_eq_none_iff quota length started caller ordered, refused]
    exact Option.some_ne_none _
  rw [refused_judge quota length started caller ordered, if_neg hmany, Option.some.injEq] at refused
  have hpos : 0 < length := by
    obtain ⟨hit, hhit⟩ := List.exists_mem_of_length_pos (Nat.zero_lt_of_lt (Nat.not_le.mp hmany))
    exact Nat.zero_lt_of_lt (of_decide_eq_true (List.mem_filter.mp hhit).2)
  obtain ⟨d, hd, rfl⟩ := seconds_of_ending refused
  obtain ⟨oldest, newer, hkept, rfl⟩ := exists_of_untilOver hd
  have hlength : _ = quota + 1 := (length_rtake (counted length caller history now) (quota + 1)).trans
    (Nat.min_eq_right (by omega))
  rw [hkept] at hlength ⊢
  match newer with
  | [] =>
    rw [List.length_singleton] at hlength
    omega
  | second :: more =>
    have hcovered := le_announcedSeconds (oldest + length - now)
    rw [List.length_cons, List.length_cons] at hlength
    exact ⟨oldest, second, more, rfl, by omega, hpos, Nat.sub_le_iff_le_add'.mp hcovered⟩

/-- What counts at a moment and is recent later is what is recent later. -/
theorem filter_counted (hle : now ≤ later) :
    (counted length caller history now).filter (fun hit => later - hit < length) =
      (hitLog caller history ++ [now]).filter fun hit => later - hit < length := by
  unfold counted
  rw [List.filter_filter]
  refine List.filter_congr fun (hit : Nat) _ => ?_
  rw [Bool.and_eq_left_iff_imp, decide_eq_true_iff, decide_eq_true_iff]
  exact fun hrecent => Nat.lt_of_le_of_lt (Nat.sub_le_sub_right hle hit) hrecent

/-- The log of a caller is in the order of time. -/
theorem ordered_hitLog (caller : String) (ordered : (history.map Prod.fst ++ [now]).Pairwise (· ≤ ·)) :
    (hitLog caller history ++ [now]).Pairwise (· ≤ ·) := by
  have hfollows := (follows_start 0 0 0 0 caller).performAll
    (List.pairwise_cons.mpr ⟨fun _ _ => Nat.zero_le _, ordered⟩)
  refine List.pairwise_append.mpr ⟨hfollows.ordered, List.pairwise_singleton _ _, fun a ha b hb => ?_⟩
  rw [List.mem_singleton.mp hb]
  exact hfollows.past a ha

/-- Of hits in the order of time, not all are recent exactly if the first one is not. -/
theorem length_filter_le_iff {oldest : Nat} {more : List Nat} (hlength : 0 < length)
    (hordered : (oldest :: more).Pairwise (· ≤ ·)) :
    ((oldest :: more).filter fun hit => later - hit < length).length ≤ more.length ↔
      oldest + length ≤ later := by
  obtain ⟨hle, -⟩ := List.pairwise_cons.mp hordered
  constructor
  · intro hfew
    by_contra hrecent
    have hall : (oldest :: more).filter (fun hit => later - hit < length) = oldest :: more := by
      refine List.filter_eq_self.mpr (List.forall_mem_cons.mpr ⟨?_, fun hit hmem => ?_⟩)
      · exact decide_eq_true (by omega)
      · have := hle hit hmem
        exact decide_eq_true (by omega)
    rw [hall, List.length_cons] at hfew
    omega
  · intro hgone
    rw [List.filter_cons_of_neg (by simpa using by omega)]
    exact List.length_filter_le _ _

/-- Of hits in the order of time, the first of which is no longer recent, all but one are recent
exactly if the second one is. -/
theorem length_filter_lt_iff {oldest second : Nat} {more : List Nat} (hlength : 0 < length)
    (hordered : (oldest :: second :: more).Pairwise (· ≤ ·)) (hgone : oldest + length ≤ later) :
    ((oldest :: second :: more).filter fun hit => later - hit < length).length < more.length + 1 ↔
      second + length ≤ later := by
  obtain ⟨-, hmore⟩ := List.pairwise_cons.mp hordered
  rw [List.filter_cons_of_neg (by simpa using by omega), Nat.lt_succ_iff]
  exact length_filter_le_iff hlength hmore

/-- How many hits are recent after the wait: no more than the quota allows, and fewer exactly if the
second oldest of those that were kept is no longer recent. -/
theorem length_recent_after_wait {oldest second : Nat} {more : List Nat}
    (ordered : (history.map Prod.fst ++ [now]).Pairwise (· ≤ ·)) (hle : now ≤ later)
    (hkept : (counted length caller history now).rtake (quota + 1) = oldest :: second :: more)
    (hmore : more.length + 1 = quota) (hpos : 0 < length) (hgone : oldest + length ≤ later) :
    ((hitLog caller history ++ [now]).filter fun hit => later - hit < length).length ≤ quota ∧
      (((hitLog caller history ++ [now]).filter fun hit => later - hit < length).length < quota ↔
        second + length ≤ later) := by
  have hcounted : (counted length caller history now).Pairwise (· ≤ ·) :=
    (ordered_hitLog caller ordered).sublist List.filter_sublist
  -- the recent ones among those that were kept are the newest of all recent ones
  have hrecent : ((oldest :: second :: more).filter fun hit => later - hit < length).length =
      min ((hitLog caller history ++ [now]).filter fun hit => later - hit < length).length
        (quota + 1) := by
    rw [← filter_counted hle, ← length_rtake, ← hkept, filter_rtake]
    refine hcounted.imp fun {a b} hab ha => ?_
    have ha' := of_decide_eq_true ha
    exact decide_eq_true (Nat.lt_of_le_of_lt (Nat.sub_le_sub_left hab later) ha')
  have hfew := length_filter_lt_iff hpos (hkept ▸ hcounted.sublist (rtake_sublist _ _)) hgone
  have hmost : ((oldest :: second :: more).filter fun hit => later - hit < length).length ≤ quota := by
    rw [List.filter_cons_of_neg (by simpa using by omega), ← hmore]
    exact List.length_filter_le _ _
  rw [hrecent] at hfew hmost
  rw [hmore] at hfew
  constructor
  · omega
  · rw [← hfew]
    omega

/-- **How far a hint can be trusted.** A caller is turned away and told how many seconds to wait. It
does not call until they are over; anything else may happen meanwhile. Then it is within its quota,
and its next call is admitted exactly if the second oldest of the hits that were kept when it was
turned away is no longer recent, or it has been cleared since. The announced seconds only make sure
that the oldest one is no longer recent. -/
theorem admitted_after_wait_iff (quota : Nat) (length : Duration) (started : Moment)
    (history : List (Moment × Operation)) (now : Moment) (caller : String) (seconds : Nat)
    (w : SlidingWindow) (quiet : List (Moment × Operation)) (later : Moment) (positive : 1 ≤ quota)
    (before : (history.map Prod.fst ++ [now]).Pairwise (· ≤ ·))
    (refused : (judge (.window ((start quota length started).performAll history).2) now
      caller).refused = some (.fault (refusedFor seconds)))
    (left : (judge (.window ((start quota length started).performAll history).2) now
      caller).limiter = .window w)
    (behind : (now :: (quiet.map Prod.fst ++ [later])).Pairwise (· ≤ ·))
    (silent : ∀ x ∈ quiet, x.2 ≠ .hit caller)
    (waited : now + Duration.ofSeconds seconds ≤ later) :
    ∃ oldest second more, w.kept caller = oldest :: second :: more ∧
      oldest + length ≤ now + Duration.ofSeconds seconds ∧
      (w.performAll quiet).2.test later caller = true ∧
      ((judge (.window (w.performAll quiet).2) later caller).refused = none ↔
        second + length ≤ later ∨ .clear caller ∈ quiet.map Prod.snd) := by
  obtain ⟨oldest, second, more, hkept, hmore, hpos, hcovered⟩ :=
    exists_kept_of_refused positive before refused
  -- the limiter that the next call finds
  have hw : w = (((start quota length started).performAll history).2.performAll
      (refusedCall now caller)).2 := by
    have hleft := limiter_judge (by rw [refused]; exact Option.some_ne_none _)
    rw [left] at hleft
    exact Limiter.window.inj hleft
  have hquiet : (w.performAll quiet).2 =
      ((start quota length started).performAll (history ++ refusedCall now caller ++ quiet)).2 := by
    rw [hw, performAll_append, performAll_append]
  have hordered : ((history ++ refusedCall now caller ++ quiet).map Prod.fst ++ [later]).Pairwise
      (· ≤ ·) := by
    rw [List.map_append, List.map_append, List.append_assoc]
    refine ordered_append ?_ behind
    rw [List.append_assoc]
    exact ordered_append before (by simp [refusedCall])
  have hlog : hitLog caller (history ++ refusedCall now caller ++ quiet) =
      if .clear caller ∈ quiet.map Prod.snd then [] else hitLog caller history ++ [now] := by
    rw [hitLog_append, hitLog_append_refusedCall, hitLogFrom_quiet silent]
  have hlater : now ≤ later := Nat.le_trans (Nat.le_add_right _ _) waited
  obtain ⟨hwithin, hroom⟩ := length_recent_after_wait before hlater hkept hmore hpos
    (Nat.le_trans hcovered waited)
  refine ⟨oldest, second, more, ?_, hcovered, ?_, ?_⟩
  · rw [hw, kept_refusedCall quota length started caller before, hkept]
  · rw [hquiet, test_performAll quota length started caller hordered, hlog, decide_eq_true_iff]
    by_cases hclear : .clear caller ∈ quiet.map Prod.snd
    · rw [if_pos hclear]
      exact Nat.zero_le _
    · rw [if_neg hclear]
      exact hwithin
  · rw [hquiet, refused_judge_eq_none_iff quota length started caller hordered, length_counted hpos,
      hlog]
    by_cases hclear : .clear caller ∈ quiet.map Prod.snd
    · rw [if_pos hclear]
      exact iff_of_true positive (.inr hclear)
    · rw [if_neg hclear, Nat.succ_le_iff, hroom]
      exact (or_iff_left hclear).symm

/-- Of three calls of `"a"` the third one, at two seconds, is one too many; it is told to wait eight
seconds. At eleven seconds the second hit is no longer recent either. -/
theorem admitted_after_wait_iff_spaced :
    let s := Duration.ofSeconds
    let w := ((start 2 (s 10) 0).performAll [(0, .hit "a"), (s 1, .hit "a")]).2
    (judge (.window w) (s 2) "a").refused = some (.fault (refusedFor 8)) ∧
    ∃ w', (judge (.window w) (s 2) "a").limiter = .window w' ∧
      (judge (.window (w'.performAll [(s 5, .hit "b")]).2) (s 11) "a").refused = none := by
  intro s w
  let history : List (Moment × Operation) := [(0, .hit "a"), (s 1, .hit "a")]
  have before : (history.map Prod.fst ++ [s 2]).Pairwise (· ≤ ·) := by decide
  have hcounted : (counted (s 10) "a" history (s 2)).rtake (2 + 1) = [0, s 1, s 2] := by decide
  have refused : (judge (.window w) (s 2) "a").refused = some (.fault (refusedFor 8)) :=
    refused_judge_of_counted before hcounted rfl (by decide) (by decide)
  have left := limiter_judge (by rw [refused]; exact Option.some_ne_none _)
  obtain ⟨oldest, second, more, hkept, -, -, hnext⟩ := admitted_after_wait_iff 2 (s 10) 0
    history (s 2) "a" 8 _ [(s 5, .hit "b")] (s 11) (by decide) before refused left
    (by decide) (by decide) (by decide)
  refine ⟨refused, _, left, hnext.mpr (.inl ?_)⟩
  have hhits : [0, s 1, s 2] = oldest :: second :: more := by
    rw [← hcounted, ← kept_refusedCall 2 (s 10) 0 "a" before]
    exact hkept
  have hsecond : s 1 = second := (List.cons.inj (List.cons.inj hhits).2).1
  rw [← hsecond]
  decide

/-- With a quota of one call in ten seconds, a caller who calls again at four seconds is told to wait
six seconds. It waits, and is turned away: its refused call counts until fourteen seconds. -/
theorem refused_after_wait :
    let s := Duration.ofSeconds
    let w := ((start 1 (s 10) 0).performAll [(0, .hit "a")]).2
    (judge (.window w) (s 4) "a").refused = some (.fault (refusedFor 6)) ∧
    ∃ w', (judge (.window w) (s 4) "a").limiter = .window w' ∧
      (judge (.window w') (s 4 + s 6) "a").refused = some (.fault (refusedFor 4)) := by
  intro s w
  let history : List (Moment × Operation) := [(0, .hit "a")]
  let later := history ++ refusedCall (s 4) "a"
  have before : (history.map Prod.fst ++ [s 4]).Pairwise (· ≤ ·) := by decide
  have hcounted : (counted (s 10) "a" history (s 4)).rtake (1 + 1) = [0, s 4] := by decide
  have refused : (judge (.window w) (s 4) "a").refused = some (.fault (refusedFor 6)) :=
    refused_judge_of_counted before hcounted rfl (by decide) (by decide)
  refine ⟨refused, _, limiter_judge (by rw [refused]; exact Option.some_ne_none _), ?_⟩
  have behind : (later.map Prod.fst ++ [s 4 + s 6]).Pairwise (· ≤ ·) := by decide
  have hlater : (w.performAll (refusedCall (s 4) "a")).2 =
      ((start 1 (s 10) 0).performAll later).2 := by
    rw [performAll_append]
  have hcounted' : (counted (s 10) "a" later (s 4 + s 6)).rtake (1 + 1) = [s 4, s 4 + s 6] := by decide
  rw [hlater]
  exact refused_judge_of_counted behind hcounted' rfl (by decide) (by decide)

end IndexGateway.SlidingWindow

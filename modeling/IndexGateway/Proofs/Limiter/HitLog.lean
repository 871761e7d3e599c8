import IndexGateway.Limiter.Operation
import IndexGateway.Proofs.Limiter.View
import Mathlib.Data.List.DropRight
import Mathlib.Order.Basic

/-!
# A sliding window and an unbounded log

A sliding window keeps few hits and forgets many. This module compares it with a log
that forgets nothing: for each caller, the moments of all its hits since it was last
cleared.

## The model

`hitLog` reads the log of a caller off a history of operations. Of the operations,
only hits and clearings of that very caller appear in it: questions, sweeps and the
operations on other callers leave no trace. A history is ordered if its moments do not
decrease.

## What is proved

* `Follows.perform` — one operation keeps the table in step with the log: at every later
  moment, what the window shows of a caller is the newest recent hits of its log, one
  more than the quota allows.
* `Follows.performAll` — so does every ordered history.
* `answers_of_hitLog` — hence every answer about a caller is the one that the log gives,
  and operations that are not about the caller never change it.
-/

namespace IndexGateway.SlidingWindow

/-! ### The log -/

/-- The caller that an operation is about, if it is about one. -/
def Operation.caller? : Operation → Option String
  | .hit c => some c
  | .test c => some c
  | .resetsIn c => some c
  | .hits c => some c
  | .clear c => some c
  | .tracked => none
  | .purgeIdle => none

/-- What an operation at a moment makes of the log of a caller. -/
def Operation.record (caller : String) (now : Moment) (log : List Moment) : Operation → List Moment
  | .hit c => if c = caller then log ++ [now] else log
  | .clear c => if c = caller then [] else log
  | _ => log

/-- The log of a caller after a history that begins with some log. -/
def hitLogFrom (caller : String) (log : List Moment) (history : List (Moment × Operation)) :
    List Moment :=
  history.foldl (fun log (now, op) => op.record caller now log) log

/-- The moments of all hits of a caller since it was last cleared. -/
def hitLog (caller : String) (history : List (Moment × Operation)) : List Moment :=
  hitLogFrom caller [] history

theorem Operation.record_hit_self (caller : String) (now : Moment) (log : List Moment) :
    Operation.record caller now log (.hit caller) = log ++ [now] := if_pos rfl

theorem Operation.record_clear_self (caller : String) (now : Moment) (log : List Moment) :
    Operation.record caller now log (.clear caller) = [] := if_pos rfl

/-- Only hits and clearings of a caller leave a trace in its log. -/
theorem Operation.record_of_ne {op : Operation} {caller : String} (hhit : op ≠ .hit caller)
    (hclear : op ≠ .clear caller) (now : Moment) (log : List Moment) :
    op.record caller now log = log := by
  cases op with
  | hit c => exact if_neg fun h => hhit (congrArg Operation.hit h)
  | clear c => exact if_neg fun h => hclear (congrArg Operation.clear h)
  | _ => rfl

/-- An operation that is not about a caller leaves no trace in its log. -/
theorem Operation.record_of_caller?_ne {op : Operation} {caller : String}
    (h : op.caller? ≠ some caller) (now : Moment) (log : List Moment) :
    op.record caller now log = log :=
  record_of_ne (by rintro rfl; exact h rfl) (by rintro rfl; exact h rfl) now log

theorem hitLogFrom_cons (caller : String) (log : List Moment) (now : Moment) (op : Operation)
    (rest : List (Moment × Operation)) :
    hitLogFrom caller log ((now, op) :: rest) = hitLogFrom caller (op.record caller now log) rest := rfl

theorem hitLog_append (caller : String) (history more : List (Moment × Operation)) :
    hitLog caller (history ++ more) = hitLogFrom caller (hitLog caller history) more :=
  List.foldl_append

theorem hitLogFrom_filter (caller : String) (log : List Moment) (history : List (Moment × Operation)) :
    hitLogFrom caller log (history.filter fun x => x.2.caller? = some caller) =
      hitLogFrom caller log history := by
  induction history generalizing log with
  | nil => rfl
  | cons x rest ih =>
    obtain ⟨now, op⟩ := x
    by_cases h : op.caller? = some caller
    · rw [List.filter_cons_of_pos (by simpa using h)]
      exact ih _
    · rw [List.filter_cons_of_neg (by simpa using h), ih, hitLogFrom_cons,
        Operation.record_of_caller?_ne h]

/-! ### The newest hits -/

section Newest

variable {α : Type}

theorem length_rtake (l : List α) (n : Nat) : (l.rtake n).length = min l.length n := by
  unfold List.rtake
  rw [List.length_drop]
  omega

theorem rtake_sublist (l : List α) (n : Nat) : (l.rtake n).Sublist l := List.drop_sublist _ _

/-- Where a property once gained is kept, taking the newest and taking those with the property can
be done in either order. -/
theorem filter_rtake {p : α → Bool} {l : List α} (h : l.Pairwise fun a b => p a → p b) (n : Nat) :
    (l.rtake n).filter p = (l.filter p).rtake n := by
  induction l using List.reverseRecOn generalizing n with
  | nil => simp
  | append_singleton l a ih =>
    obtain ⟨hl, -, hla⟩ := List.pairwise_append.mp h
    cases n with
    | zero => simp
    | succ n =>
      rw [List.rtake_concat_succ, List.filter_append, List.filter_append, ih hl]
      by_cases hp : p a
      · rw [List.filter_singleton, hp, cond_true, List.rtake_concat_succ]
      · -- nothing before `a` has the property either
        have hnone : l.filter p = [] := by
          refine List.filter_eq_nil_iff.mpr fun b hb hpb => hp ?_
          exact hla b hb a (List.mem_singleton_self a) hpb
        have ha : [a].filter p = [] := by simpa using hp
        rw [hnone, ha]
        simp

/-- The newest of what follows the newest are the newest of all. -/
theorem rtake_rtake_append (l : List α) (a : α) (n : Nat) :
    (l.rtake n ++ [a]).rtake n = (l ++ [a]).rtake n := by
  cases n with
  | zero => simp
  | succ n =>
    rw [List.rtake_concat_succ, List.rtake_concat_succ]
    unfold List.rtake
    rw [List.length_drop, List.drop_drop]
    congr 2
    omega

end Newest

/-! ### In step with the log -/

variable {w : SlidingWindow} {now later : Nat} {caller : String} {log : List Nat}

/-- **A window is in step with the log of a caller**: at every later moment, what it shows of the
caller is the newest recent hits of the log, one more than the quota allows. -/
structure Follows (w : SlidingWindow) (now : Nat) (caller : String) (log : List Nat) : Prop where
  /-- The log is in the order of time. -/
  ordered : log.Pairwise (· ≤ ·)
  /-- Nothing in the log is in the future. -/
  past : ∀ hit ∈ log, hit ≤ now
  /-- The views of the caller are the newest recent hits of its log. -/
  shown : ∀ later, now ≤ later →
    w.view later caller = (log.filter (w.isRecent later)).rtake (w.quota + 1)

theorem Follows.mono (h : Follows w now caller log) (hle : now ≤ later) :
    Follows w later caller log where
  ordered := h.ordered
  past hit hmem := Nat.le_trans (h.past hit hmem) hle
  shown t ht := h.shown t (Nat.le_trans hle ht)

/-- Only the views count. -/
theorem Follows.congr {w' : SlidingWindow} (h : Follows w now caller log)
    (hq : w'.quota = w.quota) (hl : w'.length = w.length)
    (hv : ∀ later, now ≤ later → w'.view later caller = w.view later caller) :
    Follows w' now caller log where
  ordered := h.ordered
  past := h.past
  shown later hle := by
    have hr : w'.isRecent later = w.isRecent later := by
      unfold isRecent
      rw [hl]
    rw [hv later hle, h.shown later hle, hq, hr]

theorem follows_start (quota : Nat) (length : Duration) (started now : Moment) (caller : String) :
    Follows (start quota length started) now caller [] where
  ordered := List.Pairwise.nil
  past := by simp
  shown later _ := by
    unfold view kept start
    simp [recent]

theorem Follows.hit_self (h : Follows w now caller log) (hle : now ≤ later) :
    Follows (w.hit later caller) later caller (log ++ [later]) where
  ordered := by
    rw [List.pairwise_append]
    refine ⟨h.ordered, List.pairwise_singleton _ _, fun a ha b hb => ?_⟩
    rw [List.mem_singleton.mp hb]
    exact Nat.le_trans (h.past a ha) hle
  past := by
    intro hit hmem
    rcases List.mem_append.mp hmem with hmem | hmem
    · exact Nat.le_trans (h.past hit hmem) hle
    · exact Nat.le_of_eq (List.mem_singleton.mp hmem)
  shown t ht := by
    have hq : (w.hit later caller).quota = w.quota := quota_sweepIfDue w later
    have hr : (w.hit later caller).isRecent t = w.isRecent t := by
      unfold isRecent
      rw [show (w.hit later caller).length = w.length from length_sweepIfDue w later]
    rw [hq, hr, view_hit ht, if_pos rfl, h.shown later hle]
    -- first add the hit to the log that is recent now, and cut it
    rw [show w.trim = fun hits => hits.rtake (w.quota + 1) from rfl]
    simp only [rtake_rtake_append]
    -- the recent part of the log with the new hit is in the order of time
    have hall : (log.filter (w.isRecent later) ++ [later]).Pairwise (· ≤ ·) := by
      rw [List.pairwise_append]
      refine ⟨h.ordered.filter _, List.pairwise_singleton _ _, fun a ha b hb => ?_⟩
      rw [List.mem_singleton.mp hb]
      exact Nat.le_trans (h.past a (List.mem_of_mem_filter ha)) hle
    rw [recent_eq_filter (hall.sublist (rtake_sublist _ _)),
      filter_rtake (hall.imp fun hab => isRecent_of_hit_le hab)]
    -- what is recent at `t` was recent before
    rw [List.filter_append, List.filter_filter, List.filter_append]
    congr 2
    refine List.filter_congr fun x _ => ?_
    cases hx : w.isRecent t x with
    | false => rfl
    | true => exact isRecent_of_le ht hx

/-- **One operation keeps a window in step** with the log of every caller. -/
theorem Follows.perform (h : Follows w now caller log) (hle : now ≤ later) (op : Operation) :
    Follows (w.perform later op).2 later caller (op.record caller later log) := by
  have hmono := h.mono hle
  have hrefresh : ∀ c, Follows (w.refresh later c) later caller log := fun c =>
    hmono.congr (quota_refresh w later c) (length_refresh w later c) fun t ht => view_refresh ht c
  cases op with
  | hit c =>
    by_cases hc : c = caller
    · subst hc
      rw [Operation.record_hit_self]
      exact h.hit_self hle
    · rw [show Operation.record caller later log (.hit c) = log from if_neg hc]
      refine hmono.congr (quota_sweepIfDue w later) (length_sweepIfDue w later) fun t ht => ?_
      exact (view_hit ht c).trans (if_neg hc)
  | test c => exact hrefresh c
  | resetsIn c => exact hrefresh c
  | hits c => exact hrefresh c
  | tracked => exact hmono
  | clear c =>
    by_cases hc : c = caller
    · subst hc
      rw [Operation.record_clear_self]
      refine ⟨List.Pairwise.nil, by simp, fun t _ => ?_⟩
      exact (view_clear w t c c).trans (by simp)
    · rw [show Operation.record caller later log (.clear c) = log from if_neg hc]
      exact hmono.congr rfl rfl fun t _ => (view_clear w t caller c).trans (if_neg hc)
  | purgeIdle => exact hmono.congr rfl rfl fun t ht => view_sweep ht

/-- An ordered history keeps a window in step with the log of every caller. -/
theorem Follows.performAll {history : List (Moment × Operation)} (h : Follows w now caller log)
    (hordered : (now :: history.map Prod.fst ++ [later]).Pairwise (· ≤ ·)) :
    Follows (w.performAll history).2 later caller (hitLogFrom caller log history) := by
  induction history generalizing w now log with
  | nil => exact h.mono (by simpa using hordered)
  | cons x rest ih =>
    obtain ⟨t, op⟩ := x
    obtain ⟨hnow, hrest⟩ := List.pairwise_cons.mp hordered
    exact ih (h.perform (hnow t (by simp)) op) hrest

/-! ### What stays the same -/

theorem quota_perform (w : SlidingWindow) (now : Moment) (op : Operation) :
    (w.perform now op).2.quota = w.quota := by
  cases op with
  | hit c => exact quota_sweepIfDue w now
  | test c => exact quota_refresh w now c
  | resetsIn c => exact quota_refresh w now c
  | hits c => exact quota_refresh w now c
  | tracked => rfl
  | clear c => rfl
  | purgeIdle => rfl

theorem length_perform (w : SlidingWindow) (now : Moment) (op : Operation) :
    (w.perform now op).2.length = w.length := by
  cases op with
  | hit c => exact length_sweepIfDue w now
  | test c => exact length_refresh w now c
  | resetsIn c => exact length_refresh w now c
  | hits c => exact length_refresh w now c
  | tracked => rfl
  | clear c => rfl
  | purgeIdle => rfl

theorem quota_performAll (w : SlidingWindow) (history : List (Moment × Operation)) :
    (w.performAll history).2.quota = w.quota := by
  induction history generalizing w with
  | nil => rfl
  | cons x rest ih => exact (ih _).trans (quota_perform w x.1 x.2)

theorem length_performAll (w : SlidingWindow) (history : List (Moment × Operation)) :
    (w.performAll history).2.length = w.length := by
  induction history generalizing w with
  | nil => rfl
  | cons x rest ih => exact (ih _).trans (length_perform w x.1 x.2)

/-! ### Answers -/

/-- What a limiter shows of a caller after an ordered history: the newest recent hits of its log. -/
theorem view_performAll (quota : Nat) (length : Duration) (started : Moment)
    {history : List (Moment × Operation)} {now : Nat} (caller : String)
    (ordered : (history.map Prod.fst ++ [now]).Pairwise (· ≤ ·)) :
    ((start quota length started).performAll history).2.view now caller =
      ((hitLog caller history).filter fun hit => now - hit < length).rtake (quota + 1) := by
  have hfollows : Follows ((start quota length started).performAll history).2 now caller
      (hitLog caller history) := by
    refine (follows_start quota length started 0 caller).performAll ?_
    exact List.pairwise_cons.mpr ⟨fun _ _ => Nat.zero_le _, ordered⟩
  rw [hfollows.shown now (Nat.le_refl now), quota_performAll]
  unfold isRecent
  rw [length_performAll]
  rfl

/-- Answers about a caller are computed from its view. -/
theorem perform_congr {w w' : SlidingWindow} {now : Moment} {caller : String}
    (hq : w'.quota = w.quota) (hl : w'.length = w.length)
    (hv : w'.view now caller = w.view now caller) {op : Operation} (hop : op.caller? = some caller) :
    (w'.perform now op).1 = (w.perform now op).1 := by
  cases op <;> simp only [Operation.caller?, Option.some.injEq, reduceCtorEq] at hop <;>
    simp only [SlidingWindow.perform, hits_eq_view, test_eq_view, resetsIn_eq_view, hop, hq, hl, hv]

theorem hits_performAll (quota : Nat) (length : Duration) (started : Moment)
    {history : List (Moment × Operation)} {now : Nat} (caller : String)
    (ordered : (history.map Prod.fst ++ [now]).Pairwise (· ≤ ·)) :
    ((start quota length started).performAll history).2.hits now caller =
      min ((hitLog caller history).filter fun hit => now - hit < length).length (quota + 1) := by
  rw [hits_eq_view, view_performAll quota length started caller ordered, length_rtake]

theorem test_performAll (quota : Nat) (length : Duration) (started : Moment)
    {history : List (Moment × Operation)} {now : Nat} (caller : String)
    (ordered : (history.map Prod.fst ++ [now]).Pairwise (· ≤ ·)) :
    ((start quota length started).performAll history).2.test now caller =
      decide (((hitLog caller history).filter fun hit => now - hit < length).length ≤ quota) := by
  rw [test_eq_view, view_performAll quota length started caller ordered, length_rtake,
    quota_performAll, decide_eq_decide]
  show min _ (quota + 1) ≤ quota ↔ _
  omega

theorem resetsIn_performAll (quota : Nat) (length : Duration) (started : Moment)
    {history : List (Moment × Operation)} {now : Nat} (caller : String)
    (ordered : (history.map Prod.fst ++ [now]).Pairwise (· ≤ ·)) :
    ((start quota length started).performAll history).2.resetsIn now caller =
      if ((hitLog caller history).filter fun hit => now - hit < length).length < quota then .ok none
      else untilOver length now
        (((hitLog caller history).filter fun hit => now - hit < length).rtake (quota + 1)) := by
  rw [resetsIn_eq_view, view_performAll quota length started caller ordered, length_rtake,
    quota_performAll, length_performAll]
  show (if min _ (quota + 1) < quota then Except.ok none else _) = _
  exact if_congr (by omega) rfl rfl

/-- What happened to other callers, and to nobody, can be left out of a history. -/
theorem perform_performAll_filter (quota : Nat) (length : Duration) (started : Moment)
    {history : List (Moment × Operation)} {now : Nat} {caller : String}
    (ordered : (history.map Prod.fst ++ [now]).Pairwise (· ≤ ·)) {op : Operation}
    (hop : op.caller? = some caller) :
    (((start quota length started).performAll history).2.perform now op).1 =
      (((start quota length started).performAll
        (history.filter fun x => x.2.caller? = some caller)).2.perform now op).1 := by
  have ordered' : (((history.filter fun x => x.2.caller? = some caller).map Prod.fst) ++
      [now]).Pairwise (· ≤ ·) :=
    ordered.sublist ((List.filter_sublist.map _).append_right _)
  refine perform_congr ?_ ?_ ?_ hop
  · rw [quota_performAll, quota_performAll]
  · rw [length_performAll, length_performAll]
  · rw [view_performAll quota length started caller ordered',
      view_performAll quota length started caller ordered]
    unfold hitLog
    rw [hitLogFrom_filter]

/-- A log with a recent hit has an oldest one among the newest. -/
theorem exists_rtake_eq_cons {recent : List Nat} (hne : recent ≠ []) (n : Nat) :
    ∃ oldest more, recent.rtake (n + 1) = oldest :: more := by
  cases hcons : recent.rtake (n + 1) with
  | cons oldest more => exact ⟨oldest, more, rfl⟩
  | nil =>
    have hlength := length_rtake recent (n + 1)
    rw [hcons, List.length_nil] at hlength
    exact absurd (List.length_eq_zero_iff.mp (by omega)) hne

/-- **A bounded window answers like an unbounded log.** After any ordered history, let `recent` be
the hits of a caller since it was last cleared that are recent now. The number of its hits is their
number, counted up to one beyond the quota; the caller is within its quota exactly if they do not
exceed it; and it has to wait, if they use up the quota, until the oldest of the newest of them is
no longer recent. Only if the clock cannot tell when that is, the question for the wait breaks off.
All that happened to other callers makes no difference. -/
theorem answers_of_hitLog (quota : Nat) (length : Duration) (started : Moment)
    (history : List (Moment × Operation)) (now : Moment) (caller : String)
    (ordered : (history.map Prod.fst ++ [now]).Pairwise (· ≤ ·)) :
    let w := ((start quota length started).performAll history).2
    let recent := (hitLog caller history).filter fun hit => now - hit < length
    (w.perform now (.hits caller)).1 = .number (min recent.length (quota + 1)) ∧
    (w.perform now (.test caller)).1 = .verdict (recent.length ≤ quota) ∧
    (recent.length < quota ∨ recent = [] → (w.perform now (.resetsIn caller)).1 = .wait none) ∧
    (quota ≤ recent.length ∧ recent ≠ [] →
      ∃ oldest, (recent.rtake (min recent.length (quota + 1))).head? = some oldest ∧
        (w.perform now (.resetsIn caller)).1 =
          if oldest + length < Moment.horizon then .wait (some (oldest + length - now))
          else .breakdown .offClock) ∧
    ∀ op : Operation, op.caller? = some caller →
      (w.perform now op).1 =
        ((((start quota length started).performAll
          (history.filter fun x => x.2.caller? = some caller)).2).perform now op).1 := by
  intro w recent
  have hhits : w.hits now caller = min recent.length (quota + 1) :=
    hits_performAll quota length started caller ordered
  have hwait : w.resetsIn now caller = if recent.length < quota then .ok none
      else untilOver length now (recent.rtake (quota + 1)) :=
    resetsIn_performAll quota length started caller ordered
  refine ⟨congrArg Answer.number hhits, ?_, ?_, ?_, ?_⟩
  · have htest : w.test now caller = decide (w.hits now caller ≤ w.quota) := rfl
    have hquota : w.quota = quota := quota_performAll (start quota length started) history
    refine congrArg Answer.verdict ?_
    rw [htest, hhits, hquota, decide_eq_decide]
    omega
  · intro hfew
    have hnone : w.resetsIn now caller = .ok none := by
      rw [hwait]
      rcases hfew with hlt | hnil
      · rw [if_pos hlt]
      · rw [hnil, List.rtake_nil, untilOver, ite_self]
    rw [SlidingWindow.perform, hnone]
    rfl
  · rintro ⟨hle, hne⟩
    obtain ⟨oldest, more, hkept⟩ := exists_rtake_eq_cons hne quota
    -- the newest `quota + 1` of the recent hits are as many as there are
    have hmin : recent.rtake (min recent.length (quota + 1)) = recent.rtake (quota + 1) := by
      unfold List.rtake
      congr 1
      omega
    rw [if_neg (by omega), hkept] at hwait
    refine ⟨oldest, by rw [hmin, hkept, List.head?_cons], ?_⟩
    rw [SlidingWindow.perform, hwait]
    by_cases htold : oldest + length < Moment.horizon
    · rw [if_pos htold, untilOver_cons_of_lt htold]
      rfl
    · rw [if_neg htold, untilOver_cons_of_le (Nat.not_lt.mp htold)]
      rfl
  · exact fun op hop => perform_performAll_filter quota length started ordered hop

/-- Of three hits of `"a"` two are recent at `14`, which is one too many: the first of them counts
until `15`. The hit of `"b"` at `12` has swept the table in between. With a window as long as the
clock, nobody can tell how long the first hit counts. -/
theorem answers_of_hitLog_swept :
    (([1, 3, 5, 12, 13] ++ [14] : List Nat).Pairwise (· ≤ ·)) ∧
    let history : List (Moment × Operation) :=
      [(1, .hit "a"), (3, .hit "b"), (5, .hit "a"), (12, .hit "b"), (13, .hit "a")]
    let w := ((start 1 10 0).performAll history).2
    let endless := ((start 1 Moment.horizon 0).performAll history).2
    (w.perform 14 (.hits "a")).1 = .number 2 ∧
    (w.perform 14 (.test "a")).1 = .verdict false ∧
    (w.perform 14 (.resetsIn "a")).1 = .wait (some 1) ∧
    (endless.perform 14 (.resetsIn "a")).1 = .breakdown .offClock := by
  have hordered : ([1, 3, 5, 12, 13] ++ [14] : List Nat).Pairwise (· ≤ ·) := by decide
  refine ⟨hordered, ?_⟩
  intro history w endless
  obtain ⟨hhits, htest, -, hwait, -⟩ := answers_of_hitLog 1 10 0 history 14 "a" hordered
  obtain ⟨oldest, hhead, hanswer⟩ := hwait (by decide)
  obtain rfl : 5 = oldest := Option.some.inj hhead
  obtain ⟨-, -, -, hwait', -⟩ := answers_of_hitLog 1 Moment.horizon 0 history 14 "a" hordered
  obtain ⟨oldest', hhead', hanswer'⟩ := hwait' (by decide)
  obtain rfl : 5 = oldest' := Option.some.inj hhead'
  exact ⟨hhits.trans (by decide), htest.trans (by decide), hanswer.trans (by decide),
    hanswer'.trans (by decide)⟩

end IndexGateway.SlidingWindow

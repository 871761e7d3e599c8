import IndexGateway.Proofs.Limiter.HitLog
import Mathlib.Data.List.Dedup

/-!
# The table of a sliding window stays bounded

A caller who hits once and never comes back leaves an entry in the table that nobody asks
for again. Nothing runs in the background to drop it: entries go when their caller is looked
at, and when somebody's hit finds that the last sweep is a full window ago. This module shows
that this is enough.

## The model

`IsTidy` is what holds of the table between any two operations. About the entry of a caller it
says that it is an end of the log of the caller, that it is short, and that one of its hits was
recent when the table was last swept, or came later. The last is what ties the entries to the
sweeps: a hit makes sure that the last sweep is less than a window ago, so that every entry then
holds a hit of the last two windows.

## What is proved

* `IsTidy.perform`, `IsTidy.performAll` — one operation keeps the table tidy, and so does every
  ordered history.
* `lt_sweptAt_hit` — after a hit, the last sweep is less than a window ago.
* `mem_sweep_iff` — after a sweep, the callers in the table are those with something in view.
* `table_stays_bounded` — hence every entry is well formed, a hit leaves no more entries than
  there are callers with a hit in the last two windows, and only another hit adds entries.
-/

namespace IndexGateway.SlidingWindow

variable {w w' : SlidingWindow} {quota length started now later : Nat} {caller : String}
  {log : List Nat} {history : List (Moment × Operation)}

/-! ### Callers in the table -/

theorem kept_of_getElem?_eq_some {hits : List Moment} (h : w.hitsOf[caller]? = some hits) :
    w.kept caller = hits := by
  simp [kept, h]

theorem mem_of_getElem?_eq_some {hits : List Moment} (h : w.hitsOf[caller]? = some hits) :
    caller ∈ w.hitsOf := by
  simp [Std.HashMap.mem_iff_isSome_getElem?, h]

/-- After a sweep, the callers in the table are those with something in view. -/
theorem mem_sweep_iff : caller ∈ (w.sweep now).hitsOf ↔ w.view now caller ≠ [] := by
  rw [Std.HashMap.mem_iff_isSome_getElem?]
  unfold sweep view kept
  simp only [Std.HashMap.getElem?_filterMap']
  cases w.hitsOf[caller]? with
  | none => simp [recent]
  | some hits =>
    simp only [Option.bind_some, Option.getD_some]
    cases w.recent now hits <;> simp

/-- A caller who was looked at is in the table only with something in view. -/
theorem view_ne_nil_of_mem_refresh (h : caller ∈ (w.refresh now caller).hitsOf) :
    w.view now caller ≠ [] := by
  unfold refresh at h
  unfold view kept
  split at h
  · next hnone =>
    rw [Std.HashMap.mem_iff_isSome_getElem?, hnone] at h
    cases h
  · next hits hsome =>
    rw [hsome, Option.getD_some]
    split at h
    · exact absurd h (by simp)
    · next hits' hne => exact hne

/-- Looking at a caller leaves the entries of others alone. -/
theorem getElem?_refresh_of_ne {c : String} (hc : c ≠ caller) :
    (w.refresh now c).hitsOf[caller]? = w.hitsOf[caller]? := by
  unfold refresh
  split
  · rfl
  · split
    · simp only [Std.HashMap.getElem?_erase, beq_iff_eq, hc, if_false]
    · simp only [Std.HashMap.getElem?_insert, beq_iff_eq, hc, if_false]

/-! ### Sweeps -/

@[simp] theorem sweptAt_refresh (w : SlidingWindow) (now : Moment) (c : String) :
    (w.refresh now c).sweptAt = w.sweptAt := by
  unfold refresh
  split
  · rfl
  · split <;> rfl

/-- **After a hit, the last sweep is less than a window ago.** -/
theorem lt_sweptAt_hit (lasting : 0 < w.length) (c : String) :
    now < (w.hit now c).sweptAt + w.length := by
  show now < (w.sweepIfDue now).sweptAt + w.length
  unfold sweepIfDue
  split
  · exact Nat.lt_add_of_pos_right lasting
  · next hdue =>
    have hsince : (now - w.sweptAt : Nat) < w.length := Nat.lt_of_not_le hdue
    omega

/-! ### A tidy table -/

/-- **A table is tidy** about a caller with some log at a moment. -/
structure IsTidy (w : SlidingWindow) (now : Nat) (caller : String) (log : List Nat) : Prop where
  /-- The table was last swept in the past. -/
  swept : w.sweptAt ≤ now
  /-- What is kept of the caller is an end of its log. -/
  newest : w.kept caller <:+ log
  /-- No more hits are kept than one beyond the quota. -/
  few : (w.kept caller).length ≤ w.quota + 1
  /-- A caller in the table has a hit that the last sweep would not have dropped. -/
  fresh : caller ∈ w.hitsOf → ∃ hit ∈ w.kept caller, w.sweptAt < hit + w.length

theorem isTidy_start (quota : Nat) (length : Duration) (started : Moment) (caller : String) :
    IsTidy (start quota length started) started caller [] where
  swept := Nat.le_refl started
  newest := by simp [kept, start]
  few := by simp [kept, start]
  fresh h := by simp [start] at h

theorem IsTidy.mono (h : IsTidy w now caller log) (hle : now ≤ later) : IsTidy w later caller log :=
  { h with swept := Nat.le_trans h.swept hle }

/-- Only the sweeps and the entry of the caller count. -/
theorem IsTidy.congr (h : IsTidy w now caller log) (hq : w'.quota = w.quota)
    (hl : w'.length = w.length) (hs : w'.sweptAt = w.sweptAt)
    (hentry : w'.hitsOf[caller]? = w.hitsOf[caller]?) : IsTidy w' now caller log := by
  have hkept : w'.kept caller = w.kept caller := by
    unfold kept
    rw [hentry]
  have hmem : caller ∈ w'.hitsOf ↔ caller ∈ w.hitsOf := by
    rw [Std.HashMap.mem_iff_isSome_getElem?, Std.HashMap.mem_iff_isSome_getElem?, hentry]
  refine ⟨hs ▸ h.swept, hkept ▸ h.newest, hq ▸ hkept ▸ h.few, fun hin => ?_⟩
  rw [hkept, hs, hl]
  exact h.fresh (hmem.mp hin)

theorem view_suffix (w : SlidingWindow) (now : Moment) (caller : String) :
    w.view now caller <:+ w.kept caller :=
  List.dropWhile_suffix _

/-- The oldest hit in view is recent. -/
theorem exists_mem_view (hne : w.view now caller ≠ []) :
    ∃ hit ∈ w.view now caller, now < hit + w.length := by
  have hrecent : w.isRecent now ((w.view now caller).head hne) := by
    rw [← Bool.not_eq_false']
    exact List.head_dropWhile_not (fun hit => !w.isRecent now hit) hne
  rw [isRecent_iff] at hrecent
  exact ⟨(w.view now caller).head hne, List.head_mem hne, by omega⟩

/-- Cutting what is kept of a caller down to its view leaves a table tidy, whether the table is swept
on that occasion or not. -/
theorem IsTidy.cut (h : IsTidy w now caller log) (hq : w'.quota = w.quota)
    (hl : w'.length = w.length) (hs : w'.sweptAt ≤ later)
    (hkept : w'.kept caller = w.view later caller)
    (hmem : caller ∈ w'.hitsOf → w.view later caller ≠ []) : IsTidy w' later caller log where
  swept := hs
  newest := hkept ▸ (view_suffix w later caller).trans h.newest
  few := hq ▸ hkept ▸ (view_suffix w later caller).length_le.trans h.few
  fresh hin := by
    obtain ⟨hit, hhit, hlt⟩ := exists_mem_view (hmem hin)
    exact ⟨hit, hkept ▸ hhit, hl ▸ Nat.lt_of_le_of_lt hs hlt⟩

theorem IsTidy.sweep (h : IsTidy w now caller log) (later : Nat) :
    IsTidy (w.sweep later) later caller log :=
  h.cut rfl rfl (Nat.le_refl later) (kept_sweep w later caller) mem_sweep_iff.mp

theorem IsTidy.sweepIfDue (h : IsTidy w now caller log) (hle : now ≤ later) :
    IsTidy (w.sweepIfDue later) later caller log := by
  unfold SlidingWindow.sweepIfDue
  split
  · exact h.sweep later
  · exact h.mono hle

theorem IsTidy.refresh (h : IsTidy w now caller log) (hle : now ≤ later) (c : String) :
    IsTidy (w.refresh later c) later caller log := by
  by_cases hc : c = caller
  · subst hc
    refine h.cut (quota_refresh w later c) (length_refresh w later c) ?_ ?_
      view_ne_nil_of_mem_refresh
    · rw [sweptAt_refresh]
      exact Nat.le_trans h.swept hle
    · exact (kept_refresh w later c c).trans (if_pos rfl)
  · exact (h.mono hle).congr (quota_refresh w later c) (length_refresh w later c)
      (sweptAt_refresh w later c) (getElem?_refresh_of_ne hc)

theorem length_trim_le (w : SlidingWindow) (hits : List Moment) :
    (w.trim hits).length ≤ w.quota + 1 := by
  unfold trim
  rw [List.length_drop]
  omega

/-- The newest hit is not cut off. -/
theorem mem_trim_append (w : SlidingWindow) (hits : List Moment) (hit : Moment) :
    hit ∈ w.trim (hits ++ [hit]) := by
  rw [show w.trim (hits ++ [hit]) = (hits ++ [hit]).rtake (w.quota + 1) from rfl,
    List.rtake_concat_succ]
  exact List.mem_append_right _ (List.mem_singleton_self hit)

theorem IsTidy.hit_self (h : IsTidy w now caller log) (lasting : 0 < w.length) (hle : now ≤ later) :
    IsTidy (w.hit later caller) later caller (log ++ [later]) := by
  have hkept : (w.hit later caller).kept caller = w.trim (w.view later caller ++ [later]) :=
    (kept_hit w later caller caller).trans (if_pos rfl)
  have hswept : (w.hit later caller).sweptAt ≤ later := (h.sweepIfDue hle).swept
  have hquota : (w.hit later caller).quota = w.quota := quota_sweepIfDue w later
  have hlength : (w.hit later caller).length = w.length := length_sweepIfDue w later
  -- the hit itself is recent, whenever the table was last swept
  refine ⟨hswept, ?_, ?_, fun _ => ⟨later, ?_, ?_⟩⟩
  · rw [hkept]
    refine (List.drop_suffix _ _).trans ((List.suffix_append_inj_of_length_eq rfl).mpr ⟨?_, rfl⟩)
    exact (view_suffix w later caller).trans h.newest
  · rw [hkept, hquota]
    exact length_trim_le w _
  · rw [hkept]
    exact mem_trim_append w _ later
  · rw [hlength]
    exact Nat.lt_of_le_of_lt hswept (Nat.lt_add_of_pos_right lasting)

/-- A hit of another caller does no more than sweep the table if that is due. -/
theorem IsTidy.hit_other (h : IsTidy w now caller log) (hle : now ≤ later) {c : String}
    (hc : c ≠ caller) : IsTidy (w.hit later c) later caller log := by
  refine (h.sweepIfDue hle).congr rfl rfl rfl ?_
  simp [hit, Std.HashMap.getElem?_insert, hc]

theorem isTidy_clear_self (hswept : w.sweptAt ≤ now) : IsTidy (w.clear caller) now caller [] where
  swept := hswept
  newest := by simp [kept, clear]
  few := by simp [kept, clear]
  fresh h := by simp [clear] at h

theorem IsTidy.clear_other (h : IsTidy w now caller log) {c : String} (hc : c ≠ caller) :
    IsTidy (w.clear c) now caller log := by
  refine h.congr rfl rfl rfl ?_
  simp [clear, Std.HashMap.getElem?_erase, hc]

/-- **One operation keeps a table tidy.** -/
theorem IsTidy.perform (h : IsTidy w now caller log) (lasting : 0 < w.length) (hle : now ≤ later)
    (op : Operation) : IsTidy (w.perform later op).2 later caller (op.record caller later log) := by
  cases op with
  | hit c =>
    by_cases hc : c = caller
    · subst hc
      rw [Operation.record_hit_self]
      exact h.hit_self lasting hle
    · rw [show Operation.record caller later log (.hit c) = log from if_neg hc]
      exact h.hit_other hle hc
  | test c => exact h.refresh hle c
  | resetsIn c => exact h.refresh hle c
  | hits c => exact h.refresh hle c
  | tracked => exact h.mono hle
  | clear c =>
    by_cases hc : c = caller
    · subst hc
      rw [Operation.record_clear_self]
      exact isTidy_clear_self (Nat.le_trans h.swept hle)
    · rw [show Operation.record caller later log (.clear c) = log from if_neg hc]
      exact (h.mono hle).clear_other hc
  | purgeIdle => exact h.sweep later

/-- An ordered history keeps a table tidy. -/
theorem IsTidy.performAll (h : IsTidy w now caller log) (lasting : 0 < w.length)
    (hordered : (now :: history.map Prod.fst ++ [later]).Pairwise (· ≤ ·)) :
    IsTidy (w.performAll history).2 later caller (hitLogFrom caller log history) := by
  induction history generalizing w now log with
  | nil => exact h.mono (by simpa using hordered)
  | cons x rest ih =>
    obtain ⟨t, op⟩ := x
    obtain ⟨hnow, hrest⟩ := List.pairwise_cons.mp hordered
    have hlasting : 0 < (w.perform t op).2.length := by
      rw [length_perform]
      exact lasting
    exact ih (h.perform lasting (hnow t (by simp)) op) hlasting hrest

/-! ### The number of entries -/

/-- The caller that an operation records a hit of. -/
def Operation.hitter? : Operation → Option String
  | .hit c => some c
  | _ => none

/-- The callers with a hit in a history that is younger than a span at a moment, each once. -/
def hittersWithin (span : Duration) (now : Moment) (history : List (Moment × Operation)) :
    List String :=
  ((history.filter fun x => now < x.1 + span).filterMap fun x => x.2.hitter?).dedup

theorem Operation.hitter?_eq_some_iff {op : Operation} :
    op.hitter? = some caller ↔ op = .hit caller := by
  cases op <;> simp [hitter?]

theorem mem_hittersWithin_iff {span : Nat} : caller ∈ hittersWithin span now history ↔
    ∃ hit, (hit, .hit caller) ∈ history ∧ now < hit + span := by
  unfold hittersWithin
  simp only [List.mem_dedup, List.mem_filterMap, List.mem_filter, decide_eq_true_iff,
    Operation.hitter?_eq_some_iff]
  constructor
  · rintro ⟨⟨hit, op⟩, ⟨hmem, hyoung⟩, rfl⟩
    exact ⟨hit, hmem, hyoung⟩
  · rintro ⟨hit, hmem, hyoung⟩
    exact ⟨(hit, .hit caller), ⟨hmem, hyoung⟩, rfl⟩

/-- A hit in the log after an operation was there before, or the operation is that hit. -/
theorem Operation.mem_record {op : Operation} {hit : Nat} (h : hit ∈ op.record caller now log) :
    hit ∈ log ∨ hit = now ∧ op = .hit caller := by
  by_cases hhit : op = .hit caller
  · subst hhit
    rw [Operation.record_hit_self] at h
    exact (List.mem_append.mp h).imp id fun hnew => ⟨List.mem_singleton.mp hnew, rfl⟩
  · by_cases hclear : op = .clear caller
    · subst hclear
      rw [Operation.record_clear_self] at h
      cases h
    · exact .inl (record_of_ne hhit hclear now log ▸ h)

/-- A hit in the log after a history was there before, or it is in the history. -/
theorem mem_hitLogFrom {hit : Nat} (h : hit ∈ hitLogFrom caller log history) :
    hit ∈ log ∨ (hit, .hit caller) ∈ history := by
  induction history generalizing log with
  | nil => exact .inl h
  | cons x rest ih =>
    rcases ih h with hrecord | hrest
    · refine (Operation.mem_record hrecord).imp id fun ⟨hnow, hop⟩ => ?_
      rw [hnow, ← hop]
      exact List.mem_cons_self
    · exact .inr (List.mem_cons_of_mem x hrest)

/-- A table has no more entries than there are callers on a list with everyone in the table. -/
theorem tracked_le_length {callers : List String} (h : ∀ c ∈ w.hitsOf, c ∈ callers) :
    w.tracked ≤ callers.length := by
  unfold tracked
  rw [← Std.HashMap.length_keys]
  exact Std.HashMap.nodup_keys.length_le_of_subset fun c hc => h c (Std.HashMap.mem_keys.mp hc)

theorem tracked_refresh_le (w : SlidingWindow) (now : Moment) (c : String) :
    (w.refresh now c).tracked ≤ w.tracked := by
  unfold refresh tracked
  split
  · exact Nat.le_refl _
  · next hsome =>
    split
    · exact Std.HashMap.size_erase_le
    · rw [Std.HashMap.size_insert, if_pos (mem_of_getElem?_eq_some hsome)]

/-- Only a hit adds an entry. -/
theorem tracked_perform_le {op : Operation} (hop : op.hitter? = none) :
    (w.perform now op).2.tracked ≤ w.tracked := by
  cases op with
  | hit c => cases hop
  | test c => exact tracked_refresh_le w now c
  | resetsIn c => exact tracked_refresh_le w now c
  | hits c => exact tracked_refresh_le w now c
  | tracked => exact Nat.le_refl _
  | clear c => exact Std.HashMap.size_erase_le
  | purgeIdle => exact Std.HashMap.size_filterMap_le_size

theorem tracked_performAll_le (hquiet : ∀ x ∈ history, x.2.hitter? = none) :
    (w.performAll history).2.tracked ≤ w.tracked := by
  induction history generalizing w with
  | nil => exact Nat.le_refl _
  | cons x rest ih =>
    obtain ⟨hop, hrest⟩ := List.forall_mem_cons.mp hquiet
    exact Nat.le_trans (ih hrest) (tracked_perform_le hop)

/-! ### Entries and logs -/

/-- Something is in view of a caller exactly if its log holds a recent hit. -/
theorem Follows.view_ne_nil_iff (h : Follows w now caller log) :
    w.view now caller ≠ [] ↔ ∃ hit ∈ log, now < hit + w.length := by
  have hlength : (w.view now caller).length =
      min (log.filter (w.isRecent now)).length (w.quota + 1) := by
    rw [h.shown now (Nat.le_refl now), length_rtake]
  calc w.view now caller ≠ []
    _ ↔ 0 < (w.view now caller).length := List.length_pos_iff.symm
    _ ↔ 0 < (log.filter (w.isRecent now)).length := by omega
    _ ↔ ∃ hit ∈ log, w.isRecent now hit := by
      rw [List.length_pos_iff_exists_mem]
      exact exists_congr fun hit => List.mem_filter
    _ ↔ ∃ hit ∈ log, now < hit + w.length := by
      refine exists_congr fun hit => and_congr_right fun hmem => isRecent_iff.trans ?_
      have hpast := h.past hit hmem
      omega

/-- The entry of a caller in a tidy table is well formed. -/
theorem IsTidy.wellFormed {hits : List Moment} (h : IsTidy w now caller log)
    (hf : Follows w now caller log) (hentry : w.hitsOf[caller]? = some hits) :
    hits ≠ [] ∧ hits.Pairwise (· ≤ ·) ∧ hits.length ≤ w.quota + 1 ∧ hits <:+ log := by
  obtain rfl := kept_of_getElem?_eq_some hentry
  obtain ⟨hit, hkept, -⟩ := h.fresh (mem_of_getElem?_eq_some hentry)
  exact ⟨List.ne_nil_of_mem hkept, hf.ordered.sublist h.newest.sublist, h.few, h.newest⟩

/-- A caller in a tidy table has a hit that is younger than two windows, if the last sweep is less
than one ago. -/
theorem IsTidy.exists_young (h : IsTidy w now caller log) (hf : Follows w now caller log)
    (hsoon : now < w.sweptAt + w.length) (hmem : caller ∈ w.hitsOf) :
    ∃ hit ∈ w.kept caller, hit ≤ now ∧ now < hit + 2 * w.length := by
  obtain ⟨hit, hkept, hfresh⟩ := h.fresh hmem
  refine ⟨hit, hkept, hf.past hit (h.newest.subset hkept), ?_⟩
  calc now
    _ < w.sweptAt + w.length := hsoon
    _ < hit + w.length + w.length := Nat.add_lt_add_right hfresh w.length
    _ = hit + 2 * w.length := by rw [Nat.add_assoc, ← Nat.two_mul]

/-- A tidy table has no more entries than there are callers with a hit in the last two windows, if the
last sweep is less than one ago. -/
theorem tracked_le_of_isTidy (htidy : ∀ c, IsTidy w now c (hitLog c history))
    (hfollows : ∀ c, Follows w now c (hitLog c history)) (hsoon : now < w.sweptAt + w.length) :
    w.tracked ≤ (hittersWithin (2 * w.length) now history).length := by
  refine tracked_le_length fun c hc => ?_
  obtain ⟨hit, hkept, -, hyoung⟩ := (htidy c).exists_young (hfollows c) hsoon hc
  have hmade := mem_hitLogFrom ((htidy c).newest.subset hkept)
  exact mem_hittersWithin_iff.mpr ⟨hit, hmade.resolve_left List.not_mem_nil, hyoung⟩

/-- **The table stays bounded and well formed.** After any ordered history, each entry of the table is
an end of the log of its caller: it is not empty, in the order of time, and no longer than one beyond
the quota. A hit leaves the last sweep less than a window ago and every caller in the table with a
hit that is younger than two windows, so that there are no more entries than callers who hit in the
last two windows; nor are there any more until somebody hits again, whatever happens meanwhile. And
forgetting the callers without recent hits leaves exactly those who have hit within the last window
and were not cleared since. -/
theorem table_stays_bounded (quota : Nat) (length : Duration) (started : Moment)
    (history : List (Moment × Operation)) (now : Moment) (lasting : 0 < length)
    (ordered : (started :: history.map Prod.fst ++ [now]).Pairwise (· ≤ ·)) :
    let w := ((start quota length started).performAll history).2
    (∀ (caller : String) (hits : List Moment), w.hitsOf[caller]? = some hits →
      hits ≠ [] ∧ hits.Pairwise (· ≤ ·) ∧ hits.length ≤ quota + 1 ∧
        hits <:+ hitLog caller history) ∧
    (∀ hitter : String,
      let w' := (w.perform now (.hit hitter)).2
      (w'.sweptAt ≤ now ∧ now < w'.sweptAt + length) ∧
      (∀ (caller : String) (hits : List Moment), w'.hitsOf[caller]? = some hits →
        ∃ hit ∈ hits, hit ≤ now ∧ now < hit + 2 * length) ∧
      w'.tracked ≤ (hittersWithin (2 * length) now (history ++ [(now, .hit hitter)])).length ∧
      ∀ quiet : List (Moment × Operation), (∀ x ∈ quiet, x.2.hitter? = none) →
        (w'.performAll quiet).2.tracked ≤ w'.tracked) ∧
    ∀ caller : String, caller ∈ (w.perform now .purgeIdle).2.hitsOf ↔
      ∃ hit ∈ hitLog caller history, now < hit + length := by
  intro w
  have hquota : w.quota = quota := quota_performAll (start quota length started) history
  have hlength : w.length = length := length_performAll (start quota length started) history
  have htidy : ∀ c, IsTidy w now c (hitLog c history) := fun c =>
    (isTidy_start quota length started c).performAll lasting ordered
  have hfollows : ∀ c, Follows w now c (hitLog c history) := fun c =>
    (follows_start quota length started started c).performAll ordered
  clear_value w
  subst hquota hlength
  refine ⟨fun caller hits => (htidy caller).wellFormed (hfollows caller), fun hitter => ?_,
    fun caller => mem_sweep_iff.trans (hfollows caller).view_ne_nil_iff⟩
  intro w'
  -- the hit is a part of the history that the table has behind it then
  have hlength' : w'.length = w.length := length_perform w now (.hit hitter)
  have htidy' : ∀ c, IsTidy w' now c (hitLog c (history ++ [(now, .hit hitter)])) := fun c => by
    rw [hitLog_append]
    exact (htidy c).perform lasting (Nat.le_refl now) (.hit hitter)
  have hfollows' : ∀ c, Follows w' now c (hitLog c (history ++ [(now, .hit hitter)])) := fun c => by
    rw [hitLog_append]
    exact (hfollows c).perform (Nat.le_refl now) (.hit hitter)
  have hsoon : now < w'.sweptAt + w.length := lt_sweptAt_hit lasting hitter
  clear_value w'
  rw [← hlength'] at hsoon ⊢
  refine ⟨⟨(htidy' hitter).swept, hsoon⟩, fun caller hits hentry => ?_,
    tracked_le_of_isTidy htidy' hfollows' hsoon, fun quiet hquiet => tracked_performAll_le hquiet⟩
  rw [← kept_of_getElem?_eq_some hentry]
  exact (htidy' caller).exists_young (hfollows' caller) hsoon (mem_of_getElem?_eq_some hentry)

/-- With a window of ten, `"a"` and `"b"` hit early on, and `"c"` hits and is cleared; the hit of `"b"`
at `12` sweeps `"a"` away. When `"d"` hits at `20`, there are no more than three callers in the
table, nor are there after a sweep later on; and if callers are forgotten instead, `"b"` alone is
left. -/
theorem table_stays_bounded_swept :
    let history : List (Moment × Operation) :=
      [(0, .hit "a"), (3, .hit "b"), (9, .hit "c"), (9, .clear "c"), (12, .hit "b")]
    0 < 10 ∧ (0 :: history.map Prod.fst ++ [20] : List Nat).Pairwise (· ≤ ·) ∧
    let w := ((start 1 10 0).performAll history).2
    let w' := (w.perform 20 (.hit "d")).2
    20 < w'.sweptAt + 10 ∧ w'.tracked ≤ 3 ∧ (w'.performAll [(40, .purgeIdle)]).2.tracked ≤ 3 ∧
    "b" ∈ (w.perform 20 .purgeIdle).2.hitsOf ∧
    ∀ caller ∈ ["a", "c", "d"], caller ∉ (w.perform 20 .purgeIdle).2.hitsOf := by
  intro history
  have ordered : (0 :: history.map Prod.fst ++ [20] : List Nat).Pairwise (· ≤ ·) := by decide
  obtain ⟨-, hbounded, hpurged⟩ := table_stays_bounded 1 10 0 history 20 (by decide) ordered
  obtain ⟨⟨-, hsoon⟩, -, hfew, hlater⟩ := hbounded "d"
  have hthree : (hittersWithin (2 * 10) 20 (history ++ [(20, .hit "d")])).length = 3 := by decide
  rw [hthree] at hfew
  refine ⟨by decide, ordered, hsoon, hfew, Nat.le_trans (hlater _ (by simp [Operation.hitter?])) hfew,
    (hpurged "b").mpr ⟨12, by decide, by decide⟩, fun caller hcaller => ?_⟩
  rw [hpurged caller]
  revert caller
  decide

end IndexGateway.SlidingWindow

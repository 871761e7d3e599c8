import IndexGateway.Proofs.Cache.InStep
import Mathlib.Data.List.Dedup
import Mathlib.Data.List.DropRight
import Mathlib.Data.List.Perm.Subperm

/-!
# What a cache serves after a history

A cache forgets for four reasons: a key is put again, its time is over, its tag is
purged, or there is no room. This module says what a look-up finds in terms of the
history alone.

## The model

The *latest put* of a key splits a history into what happened before and since. A key
is *used* when it is put, and when it is looked up and found; `uses` lists the keys that a
history uses, in order. Entries stand in the order of their last uses, so the entries in
front of a key belong to keys that were used since the last use of this key.

## What is proved

* `IsInStep.mem_of_mem_perform` — an entry after an operation was put by it, or was there
  before and the operation neither put its key nor purged its tag.
* `Ranked.perform` — entries stay in the order of their last uses.
* `mem_perform` — an entry stays as long as fewer other keys than there is room for were
  used since its key was.
* `get_performAll` — hence a look-up serves the value of the latest put, in time and not
  purged, and nothing else; and it does serve it as long as few other keys were used.
-/

namespace IndexGateway.Cache

variable {cache : Cache} {key : String} {c : CacheEntry} {now stored : Moment} {op : Operation}
  {value : String} {tag : CacheTag} {history before since : List (Moment × Operation)}

/-! ### The latest put -/

/-- Whether an operation puts something under a key. -/
def Operation.puts (key : String) : Operation → Bool
  | .put k _ _ => k = key
  | _ => false

/-- A history puts a text under a key for the last time, and `since` is what happens afterwards. -/
structure IsLatestPut (history : List (Moment × Operation)) (key : String) (stored : Moment)
    (value : String) (tag : CacheTag) (since : List (Moment × Operation)) : Prop where
  /-- The text is put, and then `since` happens. -/
  split : ∃ before, history = before ++ (stored, .put key value tag) :: since
  /-- The key is not put again. -/
  latest : ∀ x ∈ since, x.2.puts key = false

theorem performAll_append (cache : Cache) (before since : List (Moment × Operation)) :
    cache.performAll (before ++ since) = (cache.performAll before).performAll since :=
  List.foldl_append

theorem performAll_append_singleton (cache : Cache) (history : List (Moment × Operation)) (now : Moment)
    (op : Operation) :
    cache.performAll (history ++ [(now, op)]) = (cache.performAll history).perform now op := by
  rw [performAll_append]
  rfl

/-- **Where an entry comes from**: it was put, or it was there before, and the operation neither put
its key nor purged its tag. -/
theorem IsInStep.mem_of_mem_perform (h : cache.IsInStep)
    (hmem : (key, c) ∈ (cache.perform now op).entries) :
    (∃ value tag, op = .put key value tag ∧ c = entryOf now value tag) ∨
    (op.puts key = false ∧ op ≠ .purge c.tag ∧ (key, c) ∈ cache.entries) := by
  have hafter := h.perform now op
  cases op with
  | put key' value' tag' =>
    by_cases hkey : key' = key
    · subst hkey
      left
      refine ⟨value', tag', rfl, ?_⟩
      exact hafter.entry_unique hmem (entryOf_mem_put cache now key' value' tag')
    · right
      refine ⟨decide_eq_false hkey, nofun, ?_⟩
      rcases mem_entries_put hmem with heq | hold
      · exact absurd (Prod.mk.inj heq).1.symm hkey
      · exact hold
  | get key' => exact .inr ⟨rfl, nofun, mem_entries_get hmem⟩
  | purge tag' =>
    right
    have hkept : (key, c) ∈ cache.entries.filter fun e => e.2.tag ≠ tag' := by
      rw [← h.entries_purge]
      exact hmem
    obtain ⟨hold, htag⟩ := List.mem_filter.mp hkept
    refine ⟨rfl, ?_, hold⟩
    rintro heq
    exact of_decide_eq_true htag (Operation.purge.inj heq).symm

/-- After its latest put, a key has no other entry than the one that was put. -/
theorem eq_entryOf_of_mem (capacity : Nat) (hlatest : ∀ x ∈ since, x.2.puts key = false)
    (hmem : (key, c) ∈ ((empty capacity).performAll
      (before ++ (stored, .put key value tag) :: since)).entries) :
    c = entryOf stored value tag := by
  induction since using List.reverseRecOn with
  | nil =>
    rw [performAll_append_singleton] at hmem
    rcases ((isInStep_empty capacity).performAll before).mem_of_mem_perform hmem with
      ⟨value', tag', heq, rfl⟩ | ⟨hputs, -, -⟩
    · cases heq
      rfl
    · exact absurd (decide_eq_true rfl) (Bool.eq_false_iff.mp hputs)
  | append_singleton since x ih =>
    rw [← List.cons_append, ← List.append_assoc, performAll_append_singleton] at hmem
    rcases ((isInStep_empty capacity).performAll _).mem_of_mem_perform hmem with
      ⟨value', tag', heq, -⟩ | ⟨-, -, hold⟩
    · have hnot := hlatest x (List.mem_append_right since (List.mem_singleton_self x))
      rw [heq] at hnot
      exact absurd (decide_eq_true rfl) (Bool.eq_false_iff.mp hnot)
    · exact ih (fun y hy => hlatest y (List.mem_append_left [x] hy)) hold

/-- **Every entry is that of the latest put of its key**, and its tag was not purged since. -/
theorem exists_latestPut_of_mem (capacity : Nat)
    (hmem : (key, c) ∈ ((empty capacity).performAll history).entries) :
    ∃ stored value tag since, IsLatestPut history key stored value tag since ∧
      (∀ x ∈ since, x.2 ≠ .purge tag.name) ∧ c = entryOf stored value tag := by
  induction history using List.reverseRecOn with
  | nil => exact nomatch hmem
  | append_singleton history x ih =>
    rw [performAll_append_singleton] at hmem
    rcases ((isInStep_empty capacity).performAll history).mem_of_mem_perform hmem with
      ⟨value, tag, heq, rfl⟩ | ⟨hputs, hpurge, hold⟩
    · refine ⟨x.1, value, tag, [], ⟨⟨history, ?_⟩, nofun⟩, nofun, rfl⟩
      rw [← heq]
    · obtain ⟨stored, value, tag, since, ⟨⟨before, rfl⟩, hlatest⟩, hpurged, rfl⟩ := ih hold
      refine ⟨stored, value, tag, since ++ [x], ⟨⟨before, by simp⟩, ?_⟩, ?_, rfl⟩
      · exact List.forall_mem_append.mpr ⟨hlatest, List.forall_mem_singleton.mpr hputs⟩
      · exact List.forall_mem_append.mpr ⟨hpurged, List.forall_mem_singleton.mpr hpurge⟩

/-! ### The order of use -/

/-- The key that an operation uses, if it uses one: a key that is put, or one that is looked up and
found. -/
def used? (cache : Cache) (now : Moment) : Operation → Option String
  | .put key _ _ => some key
  | .get key => if (cache.get now key).1.isSome then some key else none
  | .purge _ => none

/-- The keys that a history uses, in the order of use. -/
def uses (cache : Cache) : List (Moment × Operation) → List String
  | [] => []
  | (now, op) :: rest => (cache.used? now op).toList ++ (cache.perform now op).uses rest

/-- What was used since the last use of a key. -/
def usesSince (key : String) (log : List String) : List String := log.rtakeWhile (· ≠ key)

theorem uses_append_singleton (cache : Cache) (history : List (Moment × Operation)) (now : Moment)
    (op : Operation) : cache.uses (history ++ [(now, op)]) =
      cache.uses history ++ ((cache.performAll history).used? now op).toList := by
  induction history generalizing cache with
  | nil =>
    rw [List.nil_append, uses, uses, uses, List.append_nil]
    rfl
  | cons x history ih =>
    rw [List.cons_append, uses, uses, ih, List.append_assoc]
    rfl

theorem usesSince_append_singleton (key key' : String) (log : List String) :
    usesSince key (log ++ [key']) = if key' = key then [] else usesSince key log ++ [key'] := by
  unfold usesSince
  rw [List.rtakeWhile_concat]
  by_cases h : key' = key <;> simp [h]

/-- **Entries are in the order of their last uses**: each entry in front of another was used since
the last use of that one. -/
def Ranked (log : List String) (entries : List (String × CacheEntry)) : Prop :=
  entries.Pairwise fun newer older => newer.1 ∈ usesSince older.1 log

variable {log : List String} {entries : List (String × CacheEntry)}

theorem Ranked.sublist (h : Ranked log entries) {fewer : List (String × CacheEntry)}
    (hsub : fewer.Sublist entries) : Ranked log fewer :=
  List.Pairwise.sublist hsub h

/-- A key that is used comes to the front. -/
theorem Ranked.use (h : Ranked log entries) (hkey : ∀ e ∈ entries, e.1 ≠ key) (c : CacheEntry) :
    Ranked (log ++ [key]) ((key, c) :: entries) := by
  have hsince : ∀ e ∈ entries, usesSince e.1 (log ++ [key]) = usesSince e.1 log ++ [key] := by
    intro e he
    rw [usesSince_append_singleton, if_neg (hkey e he).symm]
  refine List.pairwise_cons.mpr ⟨fun e he => ?_, ?_⟩
  · rw [hsince e he]
    exact List.mem_append_right _ (List.mem_singleton_self key)
  · refine h.imp_of_mem fun {newer older} _ holder hused => ?_
    rw [hsince older holder]
    exact List.mem_append_left [key] hused

/-- **Every operation keeps entries in the order of their last uses.** -/
theorem Ranked.perform (h : cache.IsInStep) (hlog : Ranked log cache.entries) (now : Moment)
    (op : Operation) :
    Ranked (log ++ (cache.used? now op).toList) (cache.perform now op).entries := by
  have hevict : ∀ old, Ranked log (cache.evict old).entries := by
    intro old
    rw [entries_evict]
    exact hlog.sublist List.filter_sublist
  cases op with
  | put key value tag =>
    show Ranked (log ++ [key]) (cache.put now key value tag).entries
    rcases h.put_cases now key value tag with ⟨old, -, heq⟩ | ⟨hnew, -, heq⟩ |
      ⟨hnew, -, rest, last, -, -, heq⟩
    · rw [heq]
      exact (hevict key).use (fun e he => (mem_evict_iff.mp he).2) _
    · rw [heq]
      exact hlog.use (entry?_eq_none_iff.mp hnew) _
    · rw [heq]
      refine (hevict last.1).use (fun e he => ?_) _
      exact entry?_eq_none_iff.mp hnew e (mem_evict_iff.mp he).1
  | get key =>
    unfold Cache.perform used? Cache.get
    dsimp only
    split
    · simpa using hlog
    · split
      · refine (hlog.sublist List.filter_sublist).use (fun e he => ?_) _
        exact (mem_without.mp he).2
      · simpa using hevict key
  | purge tag =>
    have hpurge : (cache.perform now (.purge tag)).entries =
        cache.entries.filter fun e => e.2.tag ≠ tag := h.entries_purge tag
    rw [hpurge, show cache.used? now (.purge tag) = none from rfl]
    simpa using hlog.sublist List.filter_sublist

theorem ranked_performAll (capacity : Nat) (history : List (Moment × Operation)) :
    Ranked ((empty capacity).uses history) ((empty capacity).performAll history).entries := by
  induction history using List.reverseRecOn with
  | nil => exact List.Pairwise.nil
  | append_singleton history x ih =>
    rw [performAll_append_singleton, uses_append_singleton]
    exact ih.perform ((isInStep_empty capacity).performAll history) x.1 x.2

/-! ### What stays -/

/-- A list without repetitions is no longer than a list that has its members. -/
theorem length_le_length_dedup {xs ys : List String} (h : xs.Nodup) (hsub : xs ⊆ ys) :
    xs.length ≤ ys.dedup.length :=
  (h.subperm fun _ hx => List.mem_dedup.mpr (hsub hx)).length_le

/-- If a cache is full and a new key is used, then since the last use of the last entry's key at least
as many other keys were used as there is room for: those of the entries in front of it, and the new
one. -/
theorem Ranked.capacity_le_usesSince (hlog : Ranked log cache.entries) (h : cache.IsInStep)
    {key' : String} {rest : List (String × CacheEntry)} (hfull : cache.size = cache.capacity)
    (hnew : cache.entry? key' = none) (hentries : cache.entries = rest ++ [(key, c)]) :
    cache.capacity ≤ (usesSince key (log ++ [key'])).dedup.length := by
  have hfresh := entry?_eq_none_iff.mp hnew
  have hkeys := h.nodup
  rw [hentries] at hlog hfresh hkeys
  rw [List.forall_mem_append] at hfresh
  have hne : key' ≠ key := (hfresh.2 (key, c) (List.mem_singleton_self _)).symm
  have hnodup : (key' :: rest.map Prod.fst).Nodup := by
    rw [List.map_append] at hkeys
    refine List.nodup_cons.mpr ⟨?_, (List.nodup_append.mp hkeys).1⟩
    rw [List.mem_map]
    rintro ⟨e, he, hsame⟩
    exact hfresh.1 e he hsame
  have hused : key' :: rest.map Prod.fst ⊆ usesSince key (log ++ [key']) := by
    rw [usesSince_append_singleton, if_neg hne]
    refine List.cons_subset.mpr ⟨List.mem_append_right _ (List.mem_singleton_self key'), ?_⟩
    intro k hk
    obtain ⟨e, he, rfl⟩ := List.mem_map.mp hk
    have hpairs := (List.pairwise_append.mp hlog).2.2
    exact List.mem_append_left _ (hpairs e he _ (List.mem_singleton_self _))
  have hsize : cache.size = (key' :: rest.map Prod.fst).length := by
    unfold size
    rw [hentries, List.length_append, List.length_singleton, List.length_cons, List.length_map]
  calc cache.capacity = (key' :: rest.map Prod.fst).length := hfull.symm.trans hsize
    _ ≤ (usesSince key (log ++ [key'])).dedup.length := length_le_length_dedup hnodup hused

/-- **An entry stays** over an operation that neither puts its key nor purges its tag, before its time
is over, if fewer other keys than there is room for were used since its key was. -/
theorem mem_perform (h : cache.IsInStep) (hlog : Ranked log cache.entries)
    (hmem : (key, c) ∈ cache.entries) (hputs : op.puts key = false) (hpurge : op ≠ .purge c.tag)
    (htime : now < c.expiresAt)
    (hfew : (usesSince key (log ++ (cache.used? now op).toList)).dedup.length < cache.capacity) :
    (key, c) ∈ (cache.perform now op).entries := by
  have hevict : ∀ old, old ≠ key → (key, c) ∈ (cache.evict old).entries := fun old hold =>
    mem_evict_iff.mpr ⟨hmem, hold.symm⟩
  cases op with
  | put key' value tag =>
    have hkey : key' ≠ key := of_decide_eq_false hputs
    show (key, c) ∈ (cache.put now key' value tag).entries
    rcases h.put_cases now key' value tag with ⟨old, -, heq⟩ | ⟨-, -, heq⟩ |
      ⟨hnew, hfull, rest, last, hentries, hrest, heq⟩
    · rw [heq]
      exact List.mem_cons_of_mem _ (hevict key' hkey)
    · rw [heq]
      exact List.mem_cons_of_mem _ hmem
    · rw [heq]
      refine List.mem_cons_of_mem _ ?_
      rw [hrest]
      rw [hentries] at hmem
      refine (List.mem_append.mp hmem).resolve_right fun hlast => ?_
      obtain rfl := List.mem_singleton.mp hlast
      have hmany := hlog.capacity_le_usesSince h hfull hnew hentries
      exact absurd hfew (Nat.not_lt.mpr hmany)
  | get key' =>
    show (key, c) ∈ (cache.get now key').2.entries
    unfold Cache.get
    split
    · exact hmem
    · next c' hc' =>
      by_cases hkey : key' = key
      · subst hkey
        obtain rfl := h.entry_unique hmem (mem_of_entry?_eq_some hc')
        rw [if_pos htime]
        exact List.mem_cons_self
      · split
        · exact List.mem_cons_of_mem _ (mem_without.mpr ⟨hmem, Ne.symm hkey⟩)
        · exact hevict key' hkey
  | purge tag =>
    have hkept : (cache.perform now (.purge tag)).entries =
        cache.entries.filter fun e => e.2.tag ≠ tag := h.entries_purge tag
    rw [hkept]
    refine List.mem_filter.mpr ⟨hmem, decide_eq_true fun htag => hpurge ?_⟩
    rw [← htag]

/-- A key that an operation uses without putting it has an entry. -/
theorem exists_mem_of_used? (hputs : op.puts key = false) (hused : cache.used? now op = some key) :
    ∃ c, (key, c) ∈ cache.entries := by
  cases op with
  | put key' value tag =>
    have hkey : key' = key := Option.some.inj hused
    exact absurd (decide_eq_true hkey) (Bool.eq_false_iff.mp hputs)
  | get key' =>
    unfold used? at hused
    dsimp only at hused
    split at hused
    · next hfound =>
      obtain rfl : key' = key := Option.some.inj hused
      obtain ⟨text, htext⟩ := Option.isSome_iff_exists.mp hfound
      obtain ⟨c, hc, -⟩ := exists_mem_of_get htext
      exact ⟨c, hc⟩
    · cases hused
  | purge tag => cases hused

/-- **The entry of the latest put stays** while its time is not over and its tag not purged, if fewer
other keys than there is room for were used since the last use of its key. The induction is on what
happened since the put; that the key was found in between is no other case than the entry staying. -/
theorem mem_performAll_of_latest (capacity : Nat) (hlatest : ∀ x ∈ since, x.2.puts key = false)
    (hpurged : ∀ x ∈ since, x.2 ≠ .purge tag.name) (htimes : ∀ x ∈ since, x.1 < stored + tag.ttl)
    (hfew : (usesSince key ((empty capacity).uses
      (before ++ (stored, .put key value tag) :: since))).dedup.length < (empty capacity).capacity) :
    (key, entryOf stored value tag) ∈ ((empty capacity).performAll
      (before ++ (stored, .put key value tag) :: since)).entries := by
  induction since using List.reverseRecOn with
  | nil =>
    rw [performAll_append_singleton]
    exact entryOf_mem_put _ stored key value tag
  | append_singleton since x ih =>
    rw [List.forall_mem_append, List.forall_mem_singleton] at hlatest hpurged htimes
    rw [← List.cons_append, ← List.append_assoc, uses_append_singleton] at hfew
    rw [← List.cons_append, ← List.append_assoc, performAll_append_singleton]
    have hstep := (isInStep_empty capacity).performAll (before ++ (stored, .put key value tag) :: since)
    have hroom := capacity_performAll (empty capacity) (before ++ (stored, .put key value tag) :: since)
    have hmem : (key, entryOf stored value tag) ∈ ((empty capacity).performAll
        (before ++ (stored, .put key value tag) :: since)).entries := by
      cases hused : ((empty capacity).performAll
          (before ++ (stored, .put key value tag) :: since)).used? x.1 x.2 with
      | none =>
        rw [hused, Option.toList_none, List.append_nil] at hfew
        exact ih hlatest.1 hpurged.1 htimes.1 hfew
      | some k =>
        by_cases hk : k = key
        · subst hk
          obtain ⟨c, hc⟩ := exists_mem_of_used? hlatest.2 hused
          rwa [← eq_entryOf_of_mem capacity hlatest.1 hc]
        · refine ih hlatest.1 hpurged.1 htimes.1 (Nat.lt_of_le_of_lt ?_ hfew)
          rw [hused, Option.toList_some, usesSince_append_singleton, if_neg hk]
          exact length_le_length_dedup (List.nodup_dedup _) fun y hy =>
            List.mem_append_left [k] (List.mem_dedup.mp hy)
    refine mem_perform hstep (ranked_performAll capacity _) hmem hlatest.2 hpurged.2 htimes.2 ?_
    rw [hroom]
    exact hfew

/-! ### Look-ups after a history -/

/-- **A look-up serves the latest put, and nothing else.** After an ordered history of an empty cache:

* what is served under a key is the text of its latest put, less than its time ago, and its tag was
  not purged since;
* the text of the latest put is served if less than its time has passed, its tag was not purged since,
  and since the last use of the key fewer other keys were used than there is room for;
* if the cache is full, a put of a key without an entry takes out the last entry and nothing else, and
  all other keys were used since the last use of that one's key. -/
theorem get_performAll (capacity : Nat) (history : List (Moment × Operation)) (now : Moment)
    (key : String) (ordered : (history.map Prod.fst ++ [now]).Pairwise (· ≤ ·)) :
    let room := if capacity = 0 then 1000 else capacity
    let cache := (empty capacity).performAll history
    let log := (empty capacity).uses history
    (∀ value, (cache.get now key).1 = some value →
      ∃ stored tag since, IsLatestPut history key stored value tag since ∧
        now - stored < tag.ttl ∧ ∀ x ∈ since, x.2 ≠ .purge tag.name) ∧
    (∀ stored value tag since, IsLatestPut history key stored value tag since →
      now - stored < tag.ttl → (∀ x ∈ since, x.2 ≠ .purge tag.name) →
      (usesSince key log).dedup.length < room → (cache.get now key).1 = some value) ∧
    (∀ value tag, cache.size = room → cache.entry? key = none →
      ∃ rest last, cache.entries = rest ++ [last] ∧
        (cache.put now key value tag).entries = (key, entryOf now value tag) :: rest ∧
        ∀ e ∈ rest, e.1 ∈ usesSince last.1 log) := by
  intro room cache log
  have hstep : cache.IsInStep := (isInStep_empty capacity).performAll history
  have hroom : cache.capacity = room := capacity_performAll (empty capacity) history
  have hpast : ∀ x ∈ history, x.1 ≤ now := fun x hx =>
    (List.pairwise_append.mp ordered).2.2 x.1 (List.mem_map_of_mem hx) now (List.mem_singleton_self now)
  refine ⟨fun value hget => ?_, fun stored value tag since hlatest htime hpurged hfew => ?_,
    fun value tag hsize hnew => ?_⟩
  · unfold Cache.get at hget
    split at hget
    · cases hget
    · next c hc =>
      split at hget
      · next htime =>
        obtain ⟨stored, value', tag, since, hlatest, hpurged, rfl⟩ :=
          exists_latestPut_of_mem capacity (mem_of_entry?_eq_some hc)
        obtain rfl : value' = value := Option.some.inj hget
        refine ⟨stored, tag, since, hlatest, ?_, hpurged⟩
        obtain ⟨before, rfl⟩ := hlatest.split
        have hstored := hpast (stored, .put key value' tag) (by simp)
        exact (Nat.sub_lt_iff_lt_add' hstored).mpr htime
      · cases hget
  · obtain ⟨before, rfl⟩ := hlatest.split
    have hstored : stored ≤ now := hpast (stored, .put key value tag) (by simp)
    have hexpires : now < stored + tag.ttl := (Nat.sub_lt_iff_lt_add' hstored).mp htime
    have htimes : ∀ x ∈ since, x.1 < stored + tag.ttl := fun x hx =>
      Nat.lt_of_le_of_lt (hpast x (by simp [hx])) hexpires
    have hmem : (key, entryOf stored value tag) ∈ cache.entries := by
      refine mem_performAll_of_latest capacity hlatest.latest hpurged htimes ?_
      exact hfew
    unfold Cache.get
    rw [(entry?_eq_some_iff hstep.nodup).mpr hmem]
    dsimp only
    rw [if_pos (show now < (entryOf stored value tag).expiresAt from hexpires)]
    rfl
  · rcases hstep.put_cases now key value tag with ⟨old, hold, -⟩ | ⟨-, hlt, -⟩ |
      ⟨-, -, rest, last, hentries, hrest, heq⟩
    · rw [hold] at hnew
      cases hnew
    · omega
    · refine ⟨rest, last, hentries, ?_, fun e he => ?_⟩
      · rw [heq, ← hrest]
        rfl
      · have hlog := ranked_performAll capacity history
        rw [show ((empty capacity).performAll history).entries = rest ++ [last] from hentries] at hlog
        exact (List.pairwise_append.mp hlog).2.2 e he last (List.mem_singleton_self last)

end IndexGateway.Cache

import IndexGateway.Cache.Operation
import IndexGateway.Proofs.Cache.Entries
import IndexGateway.Proofs.Cache.TagIndex

/-!
# Entries and tags in step

A cache keeps its entries, and beside them the keys of every tag. An entry may leave on
four paths: its key is put again, it makes room for another one, it is asked for too
late, or its tag is purged. On each of them its key has to leave its tag as well.

## The model

Three of the four paths are one operation on the cache, `evict`; a put is an eviction,
if one is due, and a new entry in front (`push`). So a cache stays in step if `evict` and
`push` keep it so, and if a purge, which takes the entries of a tag at once, does.

## What is proved

* `IsInStep` — what it means that entries and tags are in step, with the bound on the
  number of entries.
* `IsInStep.put_cases` — what a put does to a cache in step, said once for all that follows.
* `IsInStep.perform` — every operation keeps a cache in step.
* `tags_performAll` — so every history does, and then the tags say of the entries what
  the entries themselves say, and a purge takes out exactly the entries of its tag.
-/

namespace IndexGateway.Cache

variable {cache : Cache} {key tag : String} {c : CacheEntry} {now : Moment}

/-! ### Entries by key -/

theorem mem_without {e : String × CacheEntry} {entries : List (String × CacheEntry)} :
    e ∈ without key entries ↔ e ∈ entries ∧ e.1 ≠ key := by
  simp [without]

theorem entry?_eq_none_iff : cache.entry? key = none ↔ ∀ e ∈ cache.entries, e.1 ≠ key := by
  unfold entry?
  rw [List.lookup_eq_none_iff]
  exact forall₂_congr fun e _ => by rw [bne_iff_ne, ne_comm]

/-- Where keys are distinct, an entry is found under its key. -/
theorem entry?_eq_some_iff (h : (cache.entries.map Prod.fst).Nodup) :
    cache.entry? key = some c ↔ (key, c) ∈ cache.entries := by
  refine ⟨mem_of_entry?_eq_some, fun hmem => ?_⟩
  cases hentry : cache.entry? key with
  | none => exact absurd rfl (entry?_eq_none_iff.mp hentry _ hmem)
  | some c' =>
    have hmem' := mem_of_entry?_eq_some hentry
    have hsame := List.inj_on_of_nodup_map h hmem hmem' rfl
    rw [(Prod.mk.inj hsame).2]

theorem nodup_without {entries : List (String × CacheEntry)} (h : (entries.map Prod.fst).Nodup)
    (key : String) : ((without key entries).map Prod.fst).Nodup :=
  h.sublist (List.filter_sublist.map _)

/-- Where keys are distinct, an entry at the front and the others are all entries. -/
theorem perm_cons_without {entries : List (String × CacheEntry)} (h : (entries.map Prod.fst).Nodup)
    (hmem : (key, c) ∈ entries) : ((key, c) :: without key entries).Perm entries := by
  have hfresh : (key, c) ∉ without key entries := fun hc => (mem_without.mp hc).2 rfl
  rw [List.perm_ext_iff_of_nodup (List.nodup_cons.mpr ⟨hfresh, (nodup_without h key).of_map _⟩)
    (h.of_map _)]
  intro e
  rw [List.mem_cons, mem_without]
  constructor
  · rintro (rfl | ⟨he, -⟩)
    · exact hmem
    · exact he
  · intro he
    by_cases hkey : e.1 = key
    · left
      exact List.inj_on_of_nodup_map h he hmem hkey
    · exact .inr ⟨he, hkey⟩

/-- Where keys are distinct, the others than the last are those in front of it. -/
theorem without_append_singleton {rest : List (String × CacheEntry)} {last : String × CacheEntry}
    (h : ((rest ++ [last]).map Prod.fst).Nodup) : without last.1 (rest ++ [last]) = rest := by
  rw [List.map_append, List.nodup_append] at h
  have hrest : without last.1 rest = rest := by
    refine List.filter_eq_self.mpr fun e he => ?_
    simpa using h.2.2 e.1 (List.mem_map_of_mem he) last.1 (by simp)
  have hlast : without last.1 [last] = [] := by simp [without]
  unfold without at hrest hlast ⊢
  rw [List.filter_append, hrest, hlast, List.append_nil]

/-! ### In step -/

/-- **Entries and tags are in step**, and there is room for all entries. -/
structure IsInStep (cache : Cache) : Prop where
  /-- No key has two entries. -/
  nodup : (cache.entries.map Prod.fst).Nodup
  /-- The tags are well kept. -/
  tidy : cache.tags.IsTidy
  /-- A key is listed under a tag exactly if it has an entry of this tag. -/
  listed : ∀ tag key, key ∈ cache.tags.keys tag ↔ ∃ c, (key, c) ∈ cache.entries ∧ c.tag = tag
  /-- There is room for something. -/
  pos : 0 < cache.capacity
  /-- There is room for all entries. -/
  size_le : cache.size ≤ cache.capacity

theorem isInStep_empty (capacity : Nat) : (empty capacity).IsInStep where
  nodup := List.nodup_nil
  tidy := TagIndex.isTidy_empty
  listed tag key := by
    unfold empty
    rw [TagIndex.keys_empty]
    simp
  pos := by
    unfold empty defaultCapacity
    dsimp only
    split <;> omega
  size_le := Nat.zero_le _

/-- The order of entries does not matter. -/
theorem IsInStep.of_perm (h : cache.IsInStep) {entries : List (String × CacheEntry)}
    (hperm : entries.Perm cache.entries) : IsInStep { cache with entries } where
  nodup := (hperm.map Prod.fst).nodup_iff.mpr h.nodup
  tidy := h.tidy
  listed tag key := by
    rw [h.listed tag key]
    simp only [hperm.mem_iff]
  pos := h.pos
  size_le := by
    unfold size
    rw [hperm.length_eq]
    exact h.size_le

/-- Entries of distinct keys have at most one tag for each key. -/
theorem IsInStep.entry_unique (h : cache.IsInStep) {c' : CacheEntry} (hc : (key, c) ∈ cache.entries)
    (hc' : (key, c') ∈ cache.entries) : c = c' :=
  (Prod.mk.inj (List.inj_on_of_nodup_map h.nodup hc hc' rfl)).2

/-! ### Eviction -/

theorem entries_evict (cache : Cache) (key : String) :
    (cache.evict key).entries = without key cache.entries := by
  unfold evict
  split
  · next h =>
    have hall := entry?_eq_none_iff.mp h
    exact (List.filter_eq_self.mpr fun e he => by simpa using hall e he).symm
  · rfl

theorem mem_evict_iff {e : String × CacheEntry} :
    e ∈ (cache.evict key).entries ↔ e ∈ cache.entries ∧ e.1 ≠ key := by
  rw [entries_evict, mem_without]

theorem capacity_evict (cache : Cache) (key : String) :
    (cache.evict key).capacity = cache.capacity := by
  unfold evict
  split <;> rfl

/-- An entry that leaves takes its key along. -/
theorem IsInStep.evict (h : cache.IsInStep) (key : String) : (cache.evict key).IsInStep := by
  cases hentry : cache.entry? key with
  | none =>
    unfold Cache.evict
    rw [hentry]
    exact h
  | some old =>
    have hold := mem_of_entry?_eq_some hentry
    have hevict : cache.evict key = { cache with
        entries := without key cache.entries, tags := cache.tags.remove old.tag key } := by
      unfold Cache.evict
      rw [hentry]
    rw [hevict]
    refine ⟨nodup_without h.nodup key, h.tidy.remove old.tag key, fun tag' key' => ?_, h.pos, ?_⟩
    · rw [h.tidy.mem_keys_remove, h.listed]
      simp only [mem_without]
      constructor
      · rintro ⟨hother, c, hc, rfl⟩
        refine ⟨c, ⟨hc, ?_⟩, rfl⟩
        rintro rfl
        exact hother ⟨by rw [h.entry_unique hold hc], rfl⟩
      · rintro ⟨c, ⟨hc, hne⟩, hctag⟩
        exact ⟨fun h' => hne h'.2.symm, c, hc, hctag⟩
    · exact Nat.le_trans (List.length_filter_le _ _) h.size_le

/-! ### A new entry -/

/-- The cache with a new entry in front. -/
def push (cache : Cache) (key : String) (c : CacheEntry) : Cache :=
  { cache with entries := (key, c) :: cache.entries, tags := cache.tags.add c.tag key }

theorem IsInStep.push (h : cache.IsInStep) (hfresh : ∀ e ∈ cache.entries, e.1 ≠ key)
    (hroom : cache.size < cache.capacity) (c : CacheEntry) : (cache.push key c).IsInStep := by
  refine ⟨?_, h.tidy.add c.tag key, fun tag' key' => ?_, h.pos, hroom⟩
  · refine List.nodup_cons.mpr ⟨?_, h.nodup⟩
    rw [List.mem_map]
    rintro ⟨e, he, hkey⟩
    exact hfresh e he hkey
  · unfold Cache.push
    dsimp only
    rw [TagIndex.mem_keys_add, h.listed]
    simp only [List.mem_cons, Prod.mk.injEq]
    constructor
    · rintro (⟨rfl, rfl⟩ | ⟨c', hc', rfl⟩)
      · exact ⟨c, .inl ⟨rfl, rfl⟩, rfl⟩
      · exact ⟨c', .inr hc', rfl⟩
    · rintro ⟨c', ⟨rfl, rfl⟩ | hc', rfl⟩
      · exact .inl ⟨rfl, rfl⟩
      · exact .inr ⟨c', hc', rfl⟩

/-- The entry that a put makes. -/
def entryOf (now : Moment) (value : String) (tag : CacheTag) : CacheEntry :=
  { value, tag := tag.name, expiresAt := now + tag.ttl }

/-- What is put is there afterwards. -/
theorem entryOf_mem_put (cache : Cache) (now : Moment) (key value : String) (tag : CacheTag) :
    (key, entryOf now value tag) ∈ (cache.put now key value tag).entries := by
  unfold put
  dsimp only
  split <;> exact List.mem_cons_self

theorem put_of_leaving_none (h : cache.leaving key = none) (now : Moment) (value : String)
    (tag : CacheTag) : cache.put now key value tag = cache.push key (entryOf now value tag) := by
  unfold put
  rw [h]
  rfl

theorem put_of_leaving_some {old : String × CacheEntry} (h : cache.leaving key = some old)
    (hold : cache.entry? old.1 = some old.2) (now : Moment) (value : String) (tag : CacheTag) :
    cache.put now key value tag = (cache.evict old.1).push key (entryOf now value tag) := by
  unfold put evict
  rw [h, hold]
  rfl

/-- **What a put does.** A key that has an entry gets a new one in front, and the old one leaves. A
new key gets an entry in front; the last entry leaves if there is no room otherwise. -/
theorem IsInStep.put_cases (h : cache.IsInStep) (now : Moment) (key value : String)
    (tag : CacheTag) :
    (∃ old, cache.entry? key = some old ∧
      cache.put now key value tag = (cache.evict key).push key (entryOf now value tag)) ∨
    (cache.entry? key = none ∧ cache.size < cache.capacity ∧
      cache.put now key value tag = cache.push key (entryOf now value tag)) ∨
    (cache.entry? key = none ∧ cache.size = cache.capacity ∧ ∃ rest last,
      cache.entries = rest ++ [last] ∧ (cache.evict last.1).entries = rest ∧
      cache.put now key value tag = (cache.evict last.1).push key (entryOf now value tag)) := by
  cases hentry : cache.entry? key with
  | some old =>
    have hleaving : cache.leaving key = some (key, old) := by
      unfold leaving
      rw [hentry]
    exact .inl ⟨old, rfl, put_of_leaving_some hleaving hentry now value tag⟩
  | none =>
    right
    by_cases hroom : cache.entries.length < cache.capacity
    · have hleaving : cache.leaving key = none := by
        unfold leaving
        rw [hentry]
        exact if_pos hroom
      exact .inl ⟨rfl, hroom, put_of_leaving_none hleaving now value tag⟩
    · have hfull : cache.size = cache.capacity :=
        Nat.le_antisymm h.size_le (Nat.le_of_not_lt hroom)
      have hne : cache.entries ≠ [] := by
        intro hnil
        have hzero : cache.size = 0 := congrArg List.length hnil
        have hpos := h.pos
        omega
      obtain ⟨rest, last, heq⟩ : ∃ rest last, cache.entries = rest ++ [last] :=
        ⟨_, _, (List.dropLast_append_getLast hne).symm⟩
      have hleaving : cache.leaving key = some last := by
        unfold leaving
        rw [hentry, heq, List.getLast?_concat]
        exact if_neg (heq ▸ hroom)
      have hmem : (last.1, last.2) ∈ cache.entries := by
        rw [heq]
        exact List.mem_append_right rest (List.mem_singleton_self last)
      have hlast := (entry?_eq_some_iff h.nodup).mpr hmem
      have hnodup := h.nodup
      rw [heq] at hnodup
      refine .inr ⟨rfl, hfull, rest, last, heq, ?_, put_of_leaving_some hleaving hlast now value tag⟩
      rw [entries_evict, heq, without_append_singleton hnodup]

/-! ### Operations -/

theorem IsInStep.put (h : cache.IsInStep) (now : Moment) (key value : String) (tag : CacheTag) :
    (cache.put now key value tag).IsInStep := by
  -- an eviction of an entry that is there makes room
  have hroom : ∀ {old : String} {c : CacheEntry}, (old, c) ∈ cache.entries →
      (cache.evict old).size < (cache.evict old).capacity := by
    intro old c hmem
    have hlength := (perm_cons_without h.nodup hmem).length_eq
    rw [List.length_cons] at hlength
    have hle := h.size_le
    unfold size at hle ⊢
    rw [entries_evict, capacity_evict]
    omega
  rcases h.put_cases now key value tag with ⟨old, hold, heq⟩ | ⟨hnew, hlt, heq⟩ |
    ⟨hnew, -, rest, last, hentries, -, heq⟩
  · rw [heq]
    refine (h.evict key).push (fun e he => (mem_evict_iff.mp he).2) ?_ _
    exact hroom (mem_of_entry?_eq_some hold)
  · rw [heq]
    exact h.push (entry?_eq_none_iff.mp hnew) hlt _
  · rw [heq]
    have hlast : (last.1, last.2) ∈ cache.entries := by
      rw [hentries]
      exact List.mem_append_right rest (List.mem_singleton_self last)
    refine (h.evict last.1).push (fun e he => ?_) (hroom hlast) _
    exact entry?_eq_none_iff.mp hnew e (mem_evict_iff.mp he).1

theorem IsInStep.get (h : cache.IsInStep) (now : Moment) (key : String) :
    (cache.get now key).2.IsInStep := by
  unfold Cache.get
  split
  · exact h
  · next c hc =>
    split
    · exact h.of_perm (perm_cons_without h.nodup (mem_of_entry?_eq_some hc))
    · exact h.evict key

/-- The keys of a tag are those of its entries. -/
theorem IsInStep.mem_keys_iff (h : cache.IsInStep) {e : String × CacheEntry}
    (he : e ∈ cache.entries) (tag : String) : e.1 ∈ cache.tags.keys tag ↔ e.2.tag = tag := by
  rw [h.listed]
  constructor
  · rintro ⟨c, hc, rfl⟩
    rw [h.entry_unique hc he]
  · exact fun htag => ⟨e.2, he, htag⟩

/-- **What a purge leaves** is the entries of other tags, in their order. -/
theorem IsInStep.entries_purge (h : cache.IsInStep) (tag : String) :
    (cache.purge tag).2.entries = cache.entries.filter fun e => e.2.tag ≠ tag := by
  unfold Cache.purge
  refine List.filter_congr fun e he => ?_
  rw [List.contains_eq_mem, ← decide_not, decide_eq_decide, h.mem_keys_iff he]

theorem IsInStep.purge (h : cache.IsInStep) (tag : String) : (cache.purge tag).2.IsInStep where
  nodup := by
    rw [h.entries_purge]
    exact h.nodup.sublist (List.filter_sublist.map _)
  tidy := h.tidy.erase tag
  listed tag' key := by
    rw [h.entries_purge]
    show key ∈ TagIndex.keys (Std.HashMap.erase cache.tags tag) tag' ↔ _
    rw [TagIndex.keys_erase]
    simp only [List.mem_filter, decide_eq_true_eq]
    split
    · next htag =>
      subst htag
      constructor
      · exact fun hkey => nomatch hkey
      · rintro ⟨c, ⟨-, hne⟩, htag⟩
        exact absurd htag hne
    · next htag =>
      rw [h.listed]
      refine exists_congr fun c => and_congr_left fun hc => ?_
      exact ⟨fun hmem => ⟨hmem, fun heq => htag (heq.symm.trans hc)⟩, fun hmem => hmem.1⟩
  pos := h.pos
  size_le := by
    unfold size
    rw [h.entries_purge]
    exact Nat.le_trans (List.length_filter_le _ _) h.size_le

/-- A purge changes nothing about a key that is not listed under its tag. -/
theorem IsInStep.get_purge (h : cache.IsInStep) (now : Moment)
    (hother : ∀ c, (key, c) ∈ cache.entries → c.tag ≠ tag) :
    ((cache.purge tag).2.get now key).1 = (cache.get now key).1 := by
  have hentry : Cache.entry? (cache.purge tag).2 key = cache.entry? key := by
    ext c
    rw [entry?_eq_some_iff (h.purge tag).nodup, entry?_eq_some_iff h.nodup, h.entries_purge]
    simp only [List.mem_filter, decide_eq_true_eq]
    exact ⟨fun hc => hc.1, fun hc => ⟨hc, hother c hc⟩⟩
  unfold Cache.get
  rw [hentry]
  split
  · rfl
  · split <;> rfl

/-- **Every operation keeps a cache in step.** -/
theorem IsInStep.perform (h : cache.IsInStep) (now : Moment) (op : Operation) :
    (cache.perform now op).IsInStep := by
  cases op with
  | put key value tag => exact h.put now key value tag
  | get key => exact h.get now key
  | purge tag => exact h.purge tag

theorem IsInStep.performAll (h : cache.IsInStep) (history : List (Moment × Operation)) :
    (cache.performAll history).IsInStep := by
  induction history generalizing cache with
  | nil => exact h
  | cons x history ih => exact ih (h.perform x.1 x.2)

/-! ### Counting -/

/-- **A tag has as many keys as there are entries with it.** -/
theorem IsInStep.tagged_eq (h : cache.IsInStep) (tag : String) :
    cache.tagged tag = cache.entries.countP fun e => e.2.tag = tag := by
  have hnodup : ((cache.entries.filter fun e => e.2.tag = tag).map Prod.fst).Nodup :=
    h.nodup.sublist (List.filter_sublist.map _)
  have hperm : (cache.tags.keys tag).Perm
      ((cache.entries.filter fun e => e.2.tag = tag).map Prod.fst) := by
    rw [List.perm_ext_iff_of_nodup (h.tidy.nodup tag) hnodup]
    intro key
    rw [h.listed]
    simp only [List.mem_map, List.mem_filter, decide_eq_true_eq]
    constructor
    · rintro ⟨c, hc, htag⟩
      exact ⟨(key, c), ⟨hc, htag⟩, rfl⟩
    · rintro ⟨e, ⟨he, htag⟩, rfl⟩
      exact ⟨e.2, he, htag⟩
  unfold tagged
  rw [hperm.length_eq, List.length_map, List.countP_eq_length_filter]

/-- A purge returns the number of the keys of its tag. -/
theorem IsInStep.removed_purge (h : cache.IsInStep) (tag : String) :
    (cache.purge tag).1 = cache.tagged tag := by
  have hall : ∀ key ∈ cache.tags.keys tag, (cache.entry? key).isSome = true := by
    intro key hkey
    obtain ⟨c, hc, -⟩ := (h.listed tag key).mp hkey
    rw [(entry?_eq_some_iff h.nodup).mpr hc]
    rfl
  exact List.countP_eq_length.mpr hall

theorem capacity_perform (cache : Cache) (now : Moment) (op : Operation) :
    (cache.perform now op).capacity = cache.capacity := by
  cases op with
  | put key value tag =>
    unfold perform Cache.put
    dsimp only
    split <;> rfl
  | get key =>
    unfold perform Cache.get
    dsimp only
    split
    · rfl
    · split
      · rfl
      · exact capacity_evict cache key
  | purge tag => rfl

theorem capacity_performAll (cache : Cache) (history : List (Moment × Operation)) :
    (cache.performAll history).capacity = cache.capacity := by
  induction history generalizing cache with
  | nil => rfl
  | cons x history ih => exact (ih _).trans (capacity_perform cache x.1 x.2)

/-- **Tags and entries never drift apart.** After every history of an empty cache, a key is listed
under a tag exactly if its entry has this tag, so under no two tags, and no tag is listed without
keys; there are no more entries than there is room for. Hence the number of keys of a tag is the
number of its entries, and a purge of the tag returns this number and leaves the other entries as
they were and in their order. -/
theorem tags_performAll (capacity : Nat) (history : List (Moment × Operation)) :
    let cache := (empty capacity).performAll history
    (∀ tag key, key ∈ cache.tags.keys tag ↔ ∃ c, cache.entry? key = some c ∧ c.tag = tag) ∧
    (∀ tag tag' key, key ∈ cache.tags.keys tag → key ∈ cache.tags.keys tag' → tag = tag') ∧
    (∀ tag : String, cache.tags[tag]? ≠ some []) ∧
    (cache.entries.map Prod.fst).Nodup ∧
    cache.size ≤ (if capacity = 0 then 1000 else capacity) ∧
    ∀ tag,
      cache.tagged tag = (cache.entries.countP fun e => e.2.tag = tag) ∧
      (cache.purge tag).1 = (cache.entries.countP fun e => e.2.tag = tag) ∧
      (cache.purge tag).2.entries = (cache.entries.filter fun e => e.2.tag ≠ tag) := by
  intro cache
  have h : cache.IsInStep := (isInStep_empty capacity).performAll history
  have hlisted : ∀ tag key, key ∈ cache.tags.keys tag ↔
      ∃ c, cache.entry? key = some c ∧ c.tag = tag := by
    intro tag key
    rw [h.listed]
    simp only [entry?_eq_some_iff h.nodup]
  refine ⟨hlisted, ?_, h.tidy.ne_nil, h.nodup, ?_, fun tag => ⟨h.tagged_eq tag, ?_, ?_⟩⟩
  · intro tag tag' key hkey hkey'
    obtain ⟨c, hc, rfl⟩ := (hlisted tag key).mp hkey
    obtain ⟨c', hc', rfl⟩ := (hlisted tag' key).mp hkey'
    rw [Option.some.inj (hc.symm.trans hc')]
  · have hcapacity : cache.capacity = (empty capacity).capacity := capacity_performAll _ history
    have hle := h.size_le
    rw [hcapacity] at hle
    exact hle
  · rw [h.removed_purge, h.tagged_eq]
  · exact h.entries_purge tag

end IndexGateway.Cache

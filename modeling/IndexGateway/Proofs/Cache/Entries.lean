import IndexGateway.Cache.Responses

/-!
# Where the entries of a cache come from

No operation makes up an entry: what is in a cache afterwards was there before, or
was put there. What a look-up serves is the text of an entry.
-/

namespace IndexGateway

namespace Cache

variable {cache : Cache} {key : String} {e : String × CacheEntry}

theorem mem_of_mem_without {entries : List (String × CacheEntry)} (h : e ∈ without key entries) :
    e ∈ entries :=
  (List.mem_filter.mp h).1

theorem mem_of_entry?_eq_some {c : CacheEntry} (h : cache.entry? key = some c) :
    (key, c) ∈ cache.entries := by
  unfold entry? at h
  obtain ⟨before, behind, heq, -⟩ := List.lookup_eq_some_iff.mp h
  rw [heq]
  exact List.mem_append_right _ List.mem_cons_self

theorem mem_entries_evict (h : e ∈ (cache.evict key).entries) : e ∈ cache.entries := by
  unfold evict at h
  split at h
  · exact h
  · exact mem_of_mem_without h

theorem mem_entries_get {now : Moment} (h : e ∈ (cache.get now key).2.entries) :
    e ∈ cache.entries := by
  unfold get at h
  split at h
  · exact h
  · next c hc =>
    split at h
    · rcases List.mem_cons.mp h with rfl | h
      · exact mem_of_entry?_eq_some hc
      · exact mem_of_mem_without h
    · exact mem_entries_evict h

theorem mem_entries_put {now : Moment} {value : String} {tag : CacheTag}
    (h : e ∈ (cache.put now key value tag).entries) :
    e = (key, ⟨value, tag.name, now + tag.ttl⟩) ∨ e ∈ cache.entries := by
  unfold put at h
  split at h
  · exact List.mem_cons.mp h
  · exact (List.mem_cons.mp h).imp id mem_of_mem_without

theorem mem_entries_purge {tag : String} (h : e ∈ (cache.purge tag).2.entries) :
    e ∈ cache.entries :=
  (List.mem_filter.mp h).1

/-- What is served is the text of an entry. -/
theorem exists_mem_of_get {now : Moment} {text : String} (h : (cache.get now key).1 = some text) :
    ∃ c, (key, c) ∈ cache.entries ∧ c.value = text := by
  unfold get at h
  split at h
  · cases h
  · next c hc =>
    split at h
    · exact ⟨c, mem_of_entry?_eq_some hc, Option.some.inj h⟩
    · cases h

end Cache

namespace Responses

variable (cache : Cache) (now : Moment) (method : String) (params : Params)

/-- Looking up a response does to the cache what looking up its key does. -/
theorem cache_get : (get cache now method params).2.1 = (cache.get now (responseKey method params)).2 := by
  unfold get
  dsimp only
  split
  · next h => rw [h]
  · next h =>
    rw [h]
    split <;> rfl

variable {cache now method params}

/-- A response that is found is the value of the text that is served. -/
theorem exists_of_get {value : Json} (h : (get cache now method params).1 = .ok (some value)) :
    ∃ text, (cache.get now (responseKey method params)).1 = some text ∧
      Json.parse? text = some value := by
  unfold get at h
  dsimp only at h
  split at h
  · cases h
  · next text _ hget =>
    split at h
    · next v hparse =>
      cases h
      exact ⟨text, by rw [hget], hparse⟩
    · cases h

/-- What is found for a call, and what is logged about it, is up to what its key serves. -/
theorem get_congr {cache' : Cache}
    (h : (cache.get now (responseKey method params)).1 = (cache'.get now (responseKey method params)).1) :
    (get cache now method params).1 = (get cache' now method params).1 ∧
      (get cache now method params).2.2 = (get cache' now method params).2.2 := by
  unfold get
  dsimp only
  generalize cache.get now (responseKey method params) = looked at h
  generalize cache'.get now (responseKey method params) = looked' at h
  obtain ⟨found, after⟩ := looked
  obtain ⟨found', after'⟩ := looked'
  obtain rfl : found = found' := h
  cases found with
  | none => exact ⟨rfl, rfl⟩
  | some text =>
    dsimp only
    split <;> exact ⟨rfl, rfl⟩

end Responses

end IndexGateway

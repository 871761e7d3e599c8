import IndexGateway.Cache.Basic
import Mathlib.Data.List.Nodup

/-!
# The keys of a tag

What adding a key to a tag, taking one from it and dropping a tag do to the keys of
every tag. A tag index is *tidy* if it lists no key twice under a tag and no tag without
keys; all three keep it so.
-/

namespace IndexGateway.TagIndex

variable {index : TagIndex} {tag tag' key key' : String}

/-- No key is listed twice under a tag, and no tag is listed without keys. -/
structure IsTidy (index : TagIndex) : Prop where
  /-- The keys of a tag are distinct. -/
  nodup : ∀ tag : String, (index.keys tag).Nodup
  /-- A tag that is listed has keys. -/
  ne_nil : ∀ tag : String, index[tag]? ≠ some []

theorem keys_of_getElem? {keys : List String} (h : index[tag]? = some keys) :
    index.keys tag = keys := by
  unfold TagIndex.keys
  rw [h]
  rfl

theorem keys_empty (tag : String) : TagIndex.keys ∅ tag = [] := by
  unfold TagIndex.keys
  rw [Std.HashMap.getElem?_empty]
  rfl

theorem isTidy_empty : IsTidy ∅ where
  nodup tag := by
    rw [keys_empty]
    exact List.nodup_nil
  ne_nil tag := by
    rw [Std.HashMap.getElem?_empty]
    exact nofun

theorem keys_insert (keys : List String) :
    TagIndex.keys (Std.HashMap.insert index tag keys) tag' =
      if tag = tag' then keys else index.keys tag' := by
  unfold TagIndex.keys
  rw [Std.HashMap.getElem?_insert]
  by_cases h : tag = tag' <;> simp [h]

theorem keys_erase :
    TagIndex.keys (Std.HashMap.erase index tag) tag' = if tag = tag' then [] else index.keys tag' := by
  unfold TagIndex.keys
  rw [Std.HashMap.getElem?_erase]
  by_cases h : tag = tag' <;> simp [h]

/-- The keys of a tag with one key more. -/
theorem keys_add : (index.add tag key).keys tag' =
    if tag = tag' ∧ key ∉ index.keys tag then key :: index.keys tag else index.keys tag' := by
  unfold add
  dsimp only
  split
  · next h => rw [if_neg fun h' => h'.2 h]
  · next h =>
    rw [keys_insert]
    by_cases htag : tag = tag'
    · subst htag
      rw [if_pos rfl, if_pos ⟨rfl, h⟩]
    · rw [if_neg htag, if_neg fun h' => htag h'.1]

/-- The keys of a tag with one key less. -/
theorem keys_remove : (index.remove tag key).keys tag' =
    if tag = tag' then (index.keys tag).erase key else index.keys tag' := by
  unfold remove
  split
  · next h =>
    have hnil : index.keys tag = [] := by
      unfold TagIndex.keys
      rw [h]
      rfl
    split
    · next htag => rw [← htag, hnil, List.erase_nil]
    · rfl
  · next keys h =>
    rw [keys_of_getElem? h]
    split
    · next hnil => rw [keys_erase, hnil]
    · exact keys_insert _

theorem mem_keys_add : key' ∈ (index.add tag key).keys tag' ↔
    (tag = tag' ∧ key = key') ∨ key' ∈ index.keys tag' := by
  rw [keys_add]
  grind

theorem IsTidy.mem_keys_remove (h : index.IsTidy) : key' ∈ (index.remove tag key).keys tag' ↔
    ¬ (tag = tag' ∧ key = key') ∧ key' ∈ index.keys tag' := by
  rw [keys_remove]
  split
  · next htag =>
    subst htag
    rw [(h.nodup tag).mem_erase_iff]
    grind
  · next htag => grind

theorem IsTidy.add (h : index.IsTidy) (tag key : String) : (index.add tag key).IsTidy where
  nodup tag' := by
    rw [keys_add]
    split
    · next hnew => exact List.nodup_cons.mpr ⟨hnew.2, h.nodup tag⟩
    · exact h.nodup tag'
  ne_nil tag' := by
    unfold TagIndex.add
    dsimp only
    split
    · exact h.ne_nil tag'
    · rw [Std.HashMap.getElem?_insert]
      split
      · simp
      · exact h.ne_nil tag'

theorem IsTidy.erase (h : index.IsTidy) (tag : String) :
    TagIndex.IsTidy (Std.HashMap.erase index tag) where
  nodup tag' := by
    rw [keys_erase]
    split
    · exact List.nodup_nil
    · exact h.nodup tag'
  ne_nil tag' := by
    rw [Std.HashMap.getElem?_erase]
    split
    · exact nofun
    · exact h.ne_nil tag'

theorem IsTidy.remove (h : index.IsTidy) (tag key : String) : (index.remove tag key).IsTidy where
  nodup tag' := by
    rw [keys_remove]
    split
    · exact (h.nodup tag).erase key
    · exact h.nodup tag'
  ne_nil tag' := by
    unfold TagIndex.remove
    split
    · exact h.ne_nil tag'
    · split
      · exact (h.erase tag).ne_nil tag'
      · next hne =>
        rw [Std.HashMap.getElem?_insert]
        split
        · simpa using hne
        · exact h.ne_nil tag'

end IndexGateway.TagIndex

import IndexGateway.Proofs.Json.Cleaned
import IndexGateway.Proofs.Json.Collected
import IndexGateway.Proofs.Text.Safe

/-!
# Safe values

A value is safe if all its texts and all keys of its objects are, at any depth. A clean
value is safe, and cleaning it once more changes nothing (`clean_clean`). This needs the
keys, too: cleaning puts equal keys together, but the keys of a clean value are distinct
already and stay as they are.
-/

namespace IndexGateway.Json

/-- **Every text and every key in a value is safe.** -/
inductive IsSafe : Json → Prop where
  /-- There is no text in the null value. -/
  | null : IsSafe .null
  /-- There is no text in a truth value. -/
  | bool (b : Bool) : IsSafe (.bool b)
  /-- There is no text in a number. -/
  | num (n : Number) : IsSafe (.num n)
  /-- A safe text. -/
  | str {s : String} : Text.IsSafe s → IsSafe (.str s)
  /-- A list of such values. -/
  | arr {items : List Json} : (∀ v ∈ items, IsSafe v) → IsSafe (.arr items)
  /-- An object of such values, with safe keys. -/
  | obj {fields : List (String × Json)} : (∀ key ∈ keys fields, Text.IsSafe key) →
      (∀ f ∈ fields, IsSafe f.2) → IsSafe (.obj fields)

theorem isSafe_str_iff (s : String) : IsSafe (.str s) ↔ Text.IsSafe s := by
  constructor
  · rintro ⟨⟩
    assumption
  · exact .str

theorem isSafe_arr_iff (items : List Json) : IsSafe (.arr items) ↔ ∀ v ∈ items, IsSafe v := by
  constructor
  · rintro ⟨⟩
    assumption
  · exact .arr

theorem isSafe_obj_iff (fields : List (String × Json)) : IsSafe (.obj fields) ↔
    (∀ key ∈ keys fields, Text.IsSafe key) ∧ ∀ f ∈ fields, IsSafe f.2 := by
  constructor
  · rintro ⟨⟩
    exact ⟨by assumption, by assumption⟩
  · exact fun h => .obj h.1 h.2

/-- **A clean value is safe.** -/
theorem isSafe_clean (v : Json) : IsSafe v.clean := by
  induction v using Json.induct with
  | null => exact .null
  | bool b => exact .bool b
  | num n => exact .num n
  | str s => exact .str (Text.isSafe_clean s)
  | arr items ih =>
    rw [clean, cleanItems_eq_map, isSafe_arr_iff, List.forall_mem_map]
    exact ih
  | obj fields ih =>
    rw [clean, isSafe_obj_iff, keys, List.forall_mem_map, ← forall₂_and]
    intro f hf
    obtain ⟨g, hg, rfl⟩ := exists_eq_of_mem_collectFields_cleanEntries hf
    exact ⟨Text.isSafe_clean g.1, ih g hg⟩

/-- Cleaning an object with distinct safe keys cleans its values. -/
theorem clean_obj_of_isSafe {fields : List (String × Json)} (hdistinct : (keys fields).Nodup)
    (hsafe : ∀ key ∈ keys fields, Text.IsSafe key) :
    (obj fields).clean = .obj (fields.map fun f => (f.1, f.2.clean)) := by
  have hfields : (fields.map fun f => (Text.clean f.1, f.2.clean)) =
      fields.map fun f => (f.1, f.2.clean) := by
    refine List.map_congr_left fun f hf => Prod.ext ?_ rfl
    exact Text.clean_eq_self_iff.mpr (hsafe f.1 (List.mem_map_of_mem hf))
  have hkeys : (keys (fields.map fun f => (f.1, f.2.clean))).Nodup := by
    rwa [keys, List.map_map]
  rw [clean, cleanEntries_eq_map, hfields, collectFields_of_nodup hkeys]

/-- **Cleaning leaves a safe value with distinct keys as it is.** -/
theorem clean_of_isSafe {v : Json} (h : IsSafe v) (hkeys : HasDistinctKeys v) : v.clean = v := by
  induction v using Json.induct with
  | null => rfl
  | bool b => rfl
  | num n => rfl
  | str s => rw [clean, Text.clean_eq_self_iff.mpr ((isSafe_str_iff s).mp h)]
  | arr items ih =>
    rw [isSafe_arr_iff] at h
    rw [hasDistinctKeys_arr_iff] at hkeys
    have hitems : items.map clean = items.map id :=
      List.map_congr_left fun v hv => ih v hv (h v hv) (hkeys v hv)
    rw [clean, cleanItems_eq_map, hitems, List.map_id]
  | obj fields ih =>
    rw [isSafe_obj_iff] at h
    rw [hasDistinctKeys_obj_iff] at hkeys
    have hfields : fields.map (fun f => (f.1, f.2.clean)) = fields.map id :=
      List.map_congr_left fun f hf => Prod.ext rfl (ih f hf (h.2 f hf) (hkeys.2 f hf))
    rw [clean_obj_of_isSafe hkeys.1 h.1, hfields, List.map_id]

/-- **Cleaning twice is cleaning once.** -/
theorem clean_clean (v : Json) : v.clean.clean = v.clean :=
  clean_of_isSafe (isSafe_clean v) (hasDistinctKeys_clean v)

end IndexGateway.Json

import IndexGateway.Proofs.Json.Shape
import IndexGateway.Text.Clean

/-!
# The shape of clean values

Cleaning changes texts and keys only. A clean value has distinct keys whatever the
keys were before, it is not nested deeper than before, and it holds no
floating-point number if there was none.
-/

namespace IndexGateway.Json

theorem cleanItems_eq_map (items : List Json) : cleanItems items = items.map clean := by
  induction items with
  | nil => rfl
  | cons v rest ih => rw [cleanItems, ih, List.map_cons]

theorem cleanEntries_eq_map (fields : List (String × Json)) :
    cleanEntries fields = fields.map fun f => (Text.clean f.1, f.2.clean) := by
  induction fields with
  | nil => rfl
  | cons f rest ih => rw [cleanEntries, ih, List.map_cons]

/-- A field of a clean object is the clean form of a field that was there before. -/
theorem exists_eq_of_mem_collectFields_cleanEntries {fields : List (String × Json)}
    {f : String × Json} (h : f ∈ collectFields (cleanEntries fields)) :
    ∃ g ∈ fields, f = (Text.clean g.1, g.2.clean) := by
  have hmem := (collectFields_spec _).2 f h
  rw [cleanEntries_eq_map, List.mem_map] at hmem
  obtain ⟨g, hg, rfl⟩ := hmem
  exact ⟨g, hg, rfl⟩

/-- The value of a field of a clean object is the clean form of a value that was there before. -/
theorem exists_of_mem_collectFields_cleanEntries {fields : List (String × Json)} {f : String × Json}
    (h : f ∈ collectFields (cleanEntries fields)) : ∃ g ∈ fields, f.2 = g.2.clean := by
  obtain ⟨g, hg, rfl⟩ := exists_eq_of_mem_collectFields_cleanEntries h
  exact ⟨g, hg, rfl⟩

theorem hasDistinctKeys_clean (v : Json) : HasDistinctKeys v.clean := by
  induction v using Json.induct with
  | null => exact .null
  | bool b => exact .bool b
  | num n => exact .num n
  | str s => exact .str (Text.clean s)
  | arr items ih =>
    rw [clean, cleanItems_eq_map, hasDistinctKeys_arr_iff, List.forall_mem_map]
    exact ih
  | obj fields ih =>
    rw [clean, hasDistinctKeys_obj_iff]
    refine ⟨(collectFields_spec _).1, fun f hf => ?_⟩
    obtain ⟨g, hg, heq⟩ := exists_of_mem_collectFields_cleanEntries hf
    rw [heq]
    exact ih g hg

theorem nesting_clean_le (v : Json) : v.clean.nesting ≤ v.nesting := by
  induction v using Json.induct with
  | null => exact Nat.le_refl _
  | bool b => exact Nat.le_refl _
  | num n => exact Nat.le_refl _
  | str s => exact Nat.le_refl _
  | arr items ih =>
    rw [clean, cleanItems_eq_map, nesting, nesting, Nat.add_le_add_iff_right,
      nestingOfItems_le_iff, List.forall_mem_map]
    exact fun v hv => Nat.le_trans (ih v hv) (nestingOfItems_le_iff.mp (Nat.le_refl _) v hv)
  | obj fields ih =>
    rw [clean, nesting, nesting, Nat.add_le_add_iff_right, nestingOfFields_le_iff]
    intro f hf
    obtain ⟨g, hg, heq⟩ := exists_of_mem_collectFields_cleanEntries hf
    rw [heq]
    exact Nat.le_trans (ih g hg) (nestingOfFields_le_iff.mp (Nat.le_refl _) g hg)

theorem IsFloatless.clean {v : Json} (h : IsFloatless v) : IsFloatless v.clean := by
  induction v using Json.induct with
  | null => exact h
  | bool b => exact h
  | num n => exact h
  | str s => exact .str (Text.clean s)
  | arr items ih =>
    rw [isFloatless_arr_iff] at h
    rw [Json.clean, cleanItems_eq_map, isFloatless_arr_iff, List.forall_mem_map]
    exact fun v hv => ih v hv (h v hv)
  | obj fields ih =>
    rw [isFloatless_obj_iff] at h
    rw [Json.clean, isFloatless_obj_iff]
    intro f hf
    obtain ⟨g, hg, heq⟩ := exists_of_mem_collectFields_cleanEntries hf
    rw [heq]
    exact ih g hg (h g hg)

end IndexGateway.Json

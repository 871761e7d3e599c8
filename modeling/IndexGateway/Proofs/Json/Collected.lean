import IndexGateway.Proofs.Json.Shape
import IndexGateway.Proofs.Sorting

/-!
# Collected fields

An object that is built field by field has each key where it came first, and under it the
value that came last. `IsLastOf` says which item of a list is the last one with a key, by
a split of the list behind which the key does not appear again; the keys may be any
function of the items, as those of an object that is cleaned are.

## What is proved

* `keys_collectFields` — the keys are those of the entries, without later repetitions.
* `mem_collectFields_map_iff` — the value of a key comes from the last item with the key.
* `collectFields_of_nodup` — entries with distinct keys are the fields.
-/

namespace IndexGateway.Json

variable {α : Type} {k : α → String} {key : String} {value : Json}

/-! ### Last items -/

/-- **An item is the last one with a key** in a list. -/
def IsLastOf (k : α → String) (xs : List α) (key : String) (a : α) : Prop :=
  k a = key ∧ ∃ before behind, xs = before ++ a :: behind ∧ ∀ other ∈ behind, k other ≠ key

theorem not_isLastOf_nil (a : α) : ¬ IsLastOf k [] key a := by
  rintro ⟨-, before, behind, heq, -⟩
  simp at heq

theorem isLastOf_append_singleton {xs : List α} {x a : α} :
    IsLastOf k (xs ++ [x]) key a ↔ if k x = key then a = x else IsLastOf k xs key a := by
  constructor
  · rintro ⟨hkey, before, behind, heq, hbehind⟩
    rcases List.eq_nil_or_concat' behind with rfl | ⟨behind, y, rfl⟩
    · obtain ⟨-, hlast⟩ := List.append_inj' heq rfl
      obtain rfl : x = a := List.singleton_inj.mp hlast
      rw [if_pos hkey]
    · rw [← List.cons_append, ← List.append_assoc] at heq
      obtain ⟨hxs, hlast⟩ := List.append_inj' heq rfl
      obtain rfl : x = y := List.singleton_inj.mp hlast
      rw [if_neg (hbehind x (by simp))]
      exact ⟨hkey, before, behind, hxs, fun other hother => hbehind other (by simp [hother])⟩
  · split
    · next hkey =>
      rintro rfl
      exact ⟨hkey, xs, [], rfl, nofun⟩
    · next hne =>
      rintro ⟨hkey, before, behind, rfl, hbehind⟩
      refine ⟨hkey, before, behind ++ [x], by simp, fun other hother => ?_⟩
      rcases List.mem_append.mp hother with hother | hother
      · exact hbehind other hother
      · rwa [List.mem_singleton.mp hother]

/-! ### Inserting and collecting -/

/-- A field that is inserted replaces the field with its key, and no other. -/
theorem mem_insertField_iff {fields : List (String × Json)} (h : (keys fields).Nodup)
    {f : String × Json} :
    f ∈ insertField key value fields ↔ if f.1 = key then f.2 = value else f ∈ fields := by
  induction fields with
  | nil => simp [insertField, Prod.ext_iff]
  | cons g rest ih =>
    obtain ⟨hg, hrest⟩ := List.nodup_cons.mp h
    have hkey : f ∈ rest → f.1 ≠ g.1 := fun hf heq => hg (heq ▸ List.mem_map_of_mem hf)
    by_cases hgkey : g.1 = key
    · subst hgkey
      rw [insertField, if_pos rfl, List.mem_cons, List.mem_cons]
      split
      · next hf => simp [Prod.ext_iff, hf, mt hkey (not_not.mpr hf)]
      · next hf => simp [Prod.ext_iff, hf]
    · rw [insertField, if_neg hgkey, List.mem_cons, List.mem_cons, ih hrest]
      split
      · next hf =>
        have hne : ¬ f = g := fun heq => hgkey (heq ▸ hf)
        simp [hne]
      · rfl

theorem collectFields_append_singleton (entries : List (String × Json)) (e : String × Json) :
    collectFields (entries ++ [e]) = insertField e.1 e.2 (collectFields entries) :=
  List.foldl_append

/-- **Keys stand where they came first.** -/
theorem keys_collectFields (entries : List (String × Json)) :
    keys (collectFields entries) = (keys entries).eraseDups := by
  induction entries using List.reverseRecOn with
  | nil => rfl
  | append_singleton entries e ih =>
    have hkeys : keys (entries ++ [e]) = keys entries ++ [e.1] := List.map_append
    rw [collectFields_append_singleton, keys_insertField, hkeys, eraseDups_append_singleton, ih]
    simp only [List.mem_eraseDups]

/-- **A key has the value of the last item with the key.** -/
theorem mem_collectFields_map_iff {xs : List α} {v : α → Json} :
    (key, value) ∈ collectFields (xs.map fun a => (k a, v a)) ↔
      ∃ a, IsLastOf k xs key a ∧ v a = value := by
  induction xs using List.reverseRecOn with
  | nil => simp [collectFields, not_isLastOf_nil]
  | append_singleton xs x ih =>
    rw [List.map_append, List.map_singleton, collectFields_append_singleton,
      mem_insertField_iff (collectFields_spec _).1]
    simp only [isLastOf_append_singleton, eq_comm (a := key)]
    split
    · simp [eq_comm]
    · exact ih

/-- Entries with distinct keys are collected as they are. -/
theorem collectFields_of_nodup {fields : List (String × Json)} (h : (keys fields).Nodup) :
    collectFields fields = fields := by
  induction fields using List.reverseRecOn with
  | nil => rfl
  | append_singleton fields f ih =>
    have hkeys : (f.1 :: keys fields).Nodup := by
      rw [keys, List.map_append] at h
      exact List.nodup_append_comm.mp h
    obtain ⟨hf, hfields⟩ := List.nodup_cons.mp hkeys
    rw [collectFields_append_singleton, ih hfields, insertField_of_not_mem hf]

end IndexGateway.Json

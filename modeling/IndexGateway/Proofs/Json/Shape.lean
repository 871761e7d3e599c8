import IndexGateway.Json.Basic
import Mathlib.Data.List.Nodup

/-!
# The shape of JSON values

Values are nested, so most facts about them are proved by an induction that assumes
the fact of every item of a list and of every value of an object; `Json.induct` is
that induction. Three properties of shape decide whether a value survives being
written and read again: whether it holds floating-point numbers, whether its objects
have each key once, and how deep it is nested.
-/

namespace IndexGateway.Json

/-- Induction over values: what holds of all items holds of a list, and what holds of all values
of its fields holds of an object. -/
@[elab_as_elim]
theorem induct {motive : Json → Prop} (null : motive .null) (bool : ∀ b, motive (.bool b))
    (num : ∀ n, motive (.num n)) (str : ∀ s, motive (.str s))
    (arr : ∀ items, (∀ v ∈ items, motive v) → motive (.arr items))
    (obj : ∀ fields, (∀ f ∈ fields, motive f.2) → motive (.obj fields)) (v : Json) : motive v :=
  @Json.rec motive (fun items => ∀ v ∈ items, motive v) (fun fields => ∀ f ∈ fields, motive f.2)
    (fun f => motive f.2) null bool num str arr obj
    (fun _ h => nomatch h) (fun _ _ hv hrest => List.forall_mem_cons.mpr ⟨hv, hrest⟩)
    (fun _ h => nomatch h) (fun _ _ hf hrest => List.forall_mem_cons.mpr ⟨hf, hrest⟩)
    (fun _ _ hv => hv) v

/-! ### Values without floating-point numbers -/

/-- No number in the value is a floating-point number. -/
inductive IsFloatless : Json → Prop where
  /-- There is no number in the null value. -/
  | null : IsFloatless .null
  /-- There is no number in a truth value. -/
  | bool (b : Bool) : IsFloatless (.bool b)
  /-- A whole number. -/
  | int (n : Integer) : IsFloatless (.num (.int n))
  /-- There is no number in a text. -/
  | str (s : String) : IsFloatless (.str s)
  /-- A list of such values. -/
  | arr {items : List Json} : (∀ v ∈ items, IsFloatless v) → IsFloatless (.arr items)
  /-- An object of such values. -/
  | obj {fields : List (String × Json)} : (∀ f ∈ fields, IsFloatless f.2) → IsFloatless (.obj fields)

@[simp] theorem isFloatless_num_iff (n : Number) : IsFloatless (.num n) ↔ ∃ i, n = .int i := by
  constructor
  · rintro ⟨⟩
    exact ⟨_, rfl⟩
  · rintro ⟨i, rfl⟩
    exact .int i

@[simp] theorem isFloatless_arr_iff (items : List Json) :
    IsFloatless (.arr items) ↔ ∀ v ∈ items, IsFloatless v := by
  constructor
  · rintro ⟨⟩
    assumption
  · exact .arr

@[simp] theorem isFloatless_obj_iff (fields : List (String × Json)) :
    IsFloatless (.obj fields) ↔ ∀ f ∈ fields, IsFloatless f.2 := by
  constructor
  · rintro ⟨⟩
    assumption
  · exact .obj

attribute [simp] IsFloatless.null IsFloatless.bool IsFloatless.str

/-! ### Objects with each key once -/

/-- The keys of fields. -/
def keys (fields : List (String × Json)) : List String := fields.map Prod.fst

/-- Every object in the value has each of its keys once. -/
inductive HasDistinctKeys : Json → Prop where
  /-- There is no object in the null value. -/
  | null : HasDistinctKeys .null
  /-- There is no object in a truth value. -/
  | bool (b : Bool) : HasDistinctKeys (.bool b)
  /-- There is no object in a number. -/
  | num (n : Number) : HasDistinctKeys (.num n)
  /-- There is no object in a text. -/
  | str (s : String) : HasDistinctKeys (.str s)
  /-- A list of such values. -/
  | arr {items : List Json} : (∀ v ∈ items, HasDistinctKeys v) → HasDistinctKeys (.arr items)
  /-- An object of such values, with distinct keys. -/
  | obj {fields : List (String × Json)} : (keys fields).Nodup →
      (∀ f ∈ fields, HasDistinctKeys f.2) → HasDistinctKeys (.obj fields)

theorem hasDistinctKeys_arr_iff (items : List Json) :
    HasDistinctKeys (.arr items) ↔ ∀ v ∈ items, HasDistinctKeys v := by
  constructor
  · rintro ⟨⟩
    assumption
  · exact .arr

theorem hasDistinctKeys_obj_iff (fields : List (String × Json)) :
    HasDistinctKeys (.obj fields) ↔
      (keys fields).Nodup ∧ ∀ f ∈ fields, HasDistinctKeys f.2 := by
  constructor
  · rintro ⟨⟩
    exact ⟨by assumption, by assumption⟩
  · exact fun h => .obj h.1 h.2

/-! ### Inserting fields -/

theorem mem_insertField {key : String} {value : Json} {fields : List (String × Json)}
    {f : String × Json} (h : f ∈ insertField key value fields) :
    f = (key, value) ∨ f ∈ fields := by
  induction fields with
  | nil => simpa [insertField] using h
  | cons g rest ih =>
    obtain ⟨k, v⟩ := g
    by_cases hk : k = key
    · rw [insertField, if_pos hk, hk] at h
      rcases List.mem_cons.mp h with h | h
      · exact .inl h
      · exact .inr (List.mem_cons_of_mem _ h)
    · rw [insertField, if_neg hk] at h
      rcases List.mem_cons.mp h with h | h
      · exact .inr (h ▸ List.mem_cons_self)
      · exact (ih h).imp id (List.mem_cons_of_mem _)

theorem keys_insertField (key : String) (value : Json) (fields : List (String × Json)) :
    keys (insertField key value fields) =
      if key ∈ keys fields then keys fields else keys fields ++ [key] := by
  induction fields with
  | nil => simp [insertField, keys]
  | cons g rest ih =>
    obtain ⟨k, v⟩ := g
    by_cases hk : k = key
    · rw [insertField, if_pos hk]
      simp [keys, hk]
    · have hk' : ¬ key = k := fun h => hk h.symm
      rw [insertField, if_neg hk]
      simp only [keys, List.map_cons, List.mem_cons, hk', false_or] at ih ⊢
      rw [ih]
      exact apply_ite (k :: ·) _ _ _

/-- A new key goes behind the others. -/
theorem insertField_of_not_mem {key : String} {fields : List (String × Json)}
    (h : key ∉ keys fields) (value : Json) :
    insertField key value fields = fields ++ [(key, value)] := by
  induction fields with
  | nil => rfl
  | cons g rest ih =>
    obtain ⟨k, v⟩ := g
    simp only [keys, List.map_cons, List.mem_cons, not_or] at h
    rw [insertField, if_neg fun hk => h.1 hk.symm, ih h.2]
    rfl

theorem nodup_keys_insertField {key : String} {fields : List (String × Json)}
    (h : (keys fields).Nodup) (value : Json) : (keys (insertField key value fields)).Nodup := by
  rw [keys_insertField]
  split
  · exact h
  · next hmem => exact List.nodup_append.mpr ⟨h, List.nodup_singleton _, by grind⟩

/-- Collected fields have distinct keys, and each was among the entries. -/
theorem collectFields_spec (entries : List (String × Json)) :
    (keys (collectFields entries)).Nodup ∧ ∀ f ∈ collectFields entries, f ∈ entries := by
  unfold collectFields
  suffices h : ∀ fields : List (String × Json), (keys fields).Nodup →
      (keys (entries.foldl (fun fields e => insertField e.1 e.2 fields) fields)).Nodup ∧
        ∀ f ∈ entries.foldl (fun fields e => insertField e.1 e.2 fields) fields,
          f ∈ fields ∨ f ∈ entries by
    obtain ⟨hnodup, hmem⟩ := h [] List.nodup_nil
    exact ⟨hnodup, fun f hf => (hmem f hf).resolve_left (List.not_mem_nil)⟩
  induction entries with
  | nil => exact fun fields h => ⟨h, fun f hf => .inl hf⟩
  | cons e rest ih =>
    intro fields h
    obtain ⟨hnodup, hmem⟩ := ih (insertField e.1 e.2 fields) (nodup_keys_insertField h e.2)
    refine ⟨hnodup, fun f hf => ?_⟩
    rcases hmem f hf with hf | hf
    · rcases mem_insertField hf with rfl | hf
      · exact .inr List.mem_cons_self
      · exact .inl hf
    · exact .inr (List.mem_cons_of_mem _ hf)

/-! ### Nesting -/

mutual

/-- How deep lists and objects are nested in a value. -/
def nesting : Json → Nat
  | .arr items => nestingOfItems items + 1
  | .obj fields => nestingOfFields fields + 1
  | _ => 0

/-- How deep lists and objects are nested in items. -/
def nestingOfItems : List Json → Nat
  | [] => 0
  | v :: rest => max v.nesting (nestingOfItems rest)

/-- How deep lists and objects are nested in the values of fields. -/
def nestingOfFields : List (String × Json) → Nat
  | [] => 0
  | (_, v) :: rest => max v.nesting (nestingOfFields rest)

end

theorem nestingOfItems_le_iff {items : List Json} {n : Nat} :
    nestingOfItems items ≤ n ↔ ∀ v ∈ items, v.nesting ≤ n := by
  induction items with
  | nil => simp [nestingOfItems]
  | cons v rest ih => rw [nestingOfItems, Nat.max_le, ih, List.forall_mem_cons]

theorem nestingOfFields_le_iff {fields : List (String × Json)} {n : Nat} :
    nestingOfFields fields ≤ n ↔ ∀ f ∈ fields, f.2.nesting ≤ n := by
  induction fields with
  | nil => simp [nestingOfFields]
  | cons f rest ih => rw [nestingOfFields, Nat.max_le, ih, List.forall_mem_cons]

theorem nesting_arr_le_iff {items : List Json} {n : Nat} :
    nesting (.arr items) ≤ n + 1 ↔ ∀ v ∈ items, v.nesting ≤ n := by
  rw [nesting, ← nestingOfItems_le_iff]
  omega

theorem nesting_obj_le_iff {fields : List (String × Json)} {n : Nat} :
    nesting (.obj fields) ≤ n + 1 ↔ ∀ f ∈ fields, f.2.nesting ≤ n := by
  rw [nesting, ← nestingOfFields_le_iff]
  omega

end IndexGateway.Json

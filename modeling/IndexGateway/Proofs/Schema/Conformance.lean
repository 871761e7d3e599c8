import IndexGateway.Schema.ParamType

/-!
# The values of a type

Which values belong to a type is said here by rules, one or two for each kind of type,
without paths and without lists of violations. Checking a value against a type finds
nothing wrong with it exactly if the rules make it a value of the type
(`check_eq_nil_iff`), whatever path it is said to stand at.

## The model

A rule never converts a value: a whole number is neither a text of digits nor a
floating-point number, and a truth value is no number. The keys of an object count as
texts. No value belongs to a union without members.
-/

namespace IndexGateway.ParamType

/-- **A value belongs to a type**. -/
inductive Conforms : ParamType → Json → Prop where
  /-- Every value is one of any type. -/
  | any (v : Json) : Conforms .any v
  /-- A truth value. -/
  | bool (b : Bool) : Conforms .bool (.bool b)
  /-- A whole number of the signed 64-bit range. -/
  | int {n : Integer} : n.val < 9223372036854775808 → Conforms .int (.num (.int n))
  /-- A text. -/
  | str (s : String) : Conforms .str (.str s)
  /-- The null value is one of every optional type. -/
  | null (inner : ParamType) : Conforms (.optional inner) .null
  /-- So is a value of the type that is optional. -/
  | optional {inner : ParamType} {v : Json} : Conforms inner v → Conforms (.optional inner) v
  /-- A list of values of one type. -/
  | list {inner : ParamType} {items : List Json} :
      (∀ v ∈ items, Conforms inner v) → Conforms (.list inner) (.arr items)
  /-- An object with keys of one type and values of another. -/
  | mapping {key value : ParamType} {fields : List (String × Json)} :
      (∀ f ∈ fields, Conforms key (.str f.1)) → (∀ f ∈ fields, Conforms value f.2) →
      Conforms (.mapping key value) (.obj fields)
  /-- A value of a member of a union. -/
  | union {members : List ParamType} {t : ParamType} {v : Json} :
      t ∈ members → Conforms t v → Conforms (.union members) v

/-! ### The rules read backwards -/

variable {inner key value : ParamType} {members : List ParamType} {v : Json}

theorem conforms_bool_iff : Conforms .bool v ↔ ∃ b, v = .bool b := by
  constructor
  · rintro ⟨⟩
    exact ⟨_, rfl⟩
  · rintro ⟨b, rfl⟩
    exact .bool b

theorem conforms_int_iff :
    Conforms .int v ↔ ∃ n : Integer, v = .num (.int n) ∧ n.val < 9223372036854775808 := by
  constructor
  · intro h
    cases h with
    | int hn => exact ⟨_, rfl, hn⟩
  · rintro ⟨n, rfl, hn⟩
    exact .int hn

theorem conforms_str_iff : Conforms .str v ↔ ∃ s, v = .str s := by
  constructor
  · rintro ⟨⟩
    exact ⟨_, rfl⟩
  · rintro ⟨s, rfl⟩
    exact .str s

theorem conforms_optional_iff : Conforms (.optional inner) v ↔ v = .null ∨ Conforms inner v := by
  constructor
  · intro h
    cases h with
    | null => exact .inl rfl
    | optional h => exact .inr h
  · rintro (rfl | h)
    · exact .null inner
    · exact .optional h

theorem conforms_list_iff :
    Conforms (.list inner) v ↔ ∃ items, v = .arr items ∧ ∀ item ∈ items, Conforms inner item := by
  constructor
  · intro h
    cases h with
    | list h => exact ⟨_, rfl, h⟩
  · rintro ⟨items, rfl, h⟩
    exact .list h

theorem conforms_mapping_iff : Conforms (.mapping key value) v ↔ ∃ fields, v = .obj fields ∧
    ∀ f ∈ fields, Conforms key (.str f.1) ∧ Conforms value f.2 := by
  constructor
  · intro h
    cases h with
    | mapping hkeys hvalues => exact ⟨_, rfl, fun f hf => ⟨hkeys f hf, hvalues f hf⟩⟩
  · rintro ⟨fields, rfl, h⟩
    exact .mapping (fun f hf => (h f hf).1) fun f hf => (h f hf).2

theorem conforms_union_iff : Conforms (.union members) v ↔ ∃ t ∈ members, Conforms t v := by
  constructor
  · intro h
    cases h with
    | union ht h => exact ⟨_, ht, h⟩
  · rintro ⟨t, ht, h⟩
    exact .union ht h

/-! ### Views of values -/

theorem isSome_bool?_iff : v.bool?.isSome ↔ ∃ b, v = .bool b := by
  cases v <;> simp [Json.bool?]

theorem isSome_text?_iff : v.text?.isSome ↔ ∃ s, v = .str s := by
  cases v <;> simp [Json.text?]

theorem isSome_int64?_iff :
    v.int64?.isSome ↔ ∃ n : Integer, v = .num (.int n) ∧ n.val < 9223372036854775808 := by
  constructor
  · intro h
    unfold Json.int64? at h
    split at h
    · next n =>
      refine ⟨n, rfl, ?_⟩
      unfold Integer.toInt64? at h
      split at h
      · assumption
      · simp at h
    · simp at h
  · rintro ⟨n, rfl, hn⟩
    simp [Json.int64?, Integer.toInt64?, hn]

/-! ### Checking -/

/-- Induction over types: what holds of all members holds of a union. -/
@[elab_as_elim]
theorem induct {motive : ParamType → Prop} (any : motive .any) (bool : motive .bool)
    (int : motive .int) (str : motive .str)
    (optional : ∀ inner, motive inner → motive (.optional inner))
    (list : ∀ inner, motive inner → motive (.list inner))
    (mapping : ∀ key value, motive key → motive value → motive (.mapping key value))
    (union : ∀ members, (∀ t ∈ members, motive t) → motive (.union members))
    (t : ParamType) : motive t :=
  @ParamType.rec motive (fun members => ∀ t ∈ members, motive t) any bool int str optional list
    mapping union (fun _ h => nomatch h) (fun _ _ ht hmore => List.forall_mem_cons.mpr ⟨ht, hmore⟩) t

theorem acceptedByAny_iff (members : List ParamType) (v : Json) :
    acceptedByAny members v ↔ ∃ t ∈ members, t.check v "" = [] := by
  induction members with
  | nil => simp [acceptedByAny]
  | cons t more ih => simp [acceptedByAny, ih]

/-- **A check finds nothing wrong exactly with the values of the type**, at whatever path. The
induction is on the type; the path grows on the way down, and is empty inside a union. -/
theorem check_eq_nil_iff {t : ParamType} {v : Json} {path : String} :
    t.check v path = [] ↔ Conforms t v := by
  induction t using ParamType.induct generalizing v path with
  | any => exact ⟨fun _ => .any v, fun _ => rfl⟩
  | bool =>
    rw [conforms_bool_iff, ← isSome_bool?_iff, check]
    split <;> simp_all
  | int =>
    rw [conforms_int_iff, ← isSome_int64?_iff, check]
    split <;> simp_all
  | str =>
    rw [conforms_str_iff, ← isSome_text?_iff, check]
    split <;> simp_all
  | optional inner ih =>
    rw [conforms_optional_iff, check.eq_def]
    dsimp only
    split
    · simp
    · next hne => rw [ih, or_iff_right hne]
  | list inner ih =>
    rw [conforms_list_iff, check.eq_def]
    dsimp only
    split
    · next items =>
      simp only [List.flatMap_eq_nil_iff, ih, Json.arr.injEq, exists_eq_left', Prod.forall,
        List.mk_mem_zipIdx_iff_getElem?]
      constructor
      · intro h item hitem
        obtain ⟨i, hi⟩ := List.mem_iff_getElem?.mp hitem
        exact h item i hi
      · intro h item i hi
        exact h item (List.mem_of_getElem? hi)
    · next hne => exact iff_of_false (List.cons_ne_nil _ _) fun ⟨items, h, _⟩ => hne items h
  | mapping key value ihkey ihvalue =>
    rw [conforms_mapping_iff, check.eq_def]
    dsimp only
    split
    · next fields =>
      simp only [List.flatMap_eq_nil_iff, List.append_eq_nil_iff, ihkey, ihvalue, Json.obj.injEq,
        exists_eq_left']
    · next hne => exact iff_of_false (List.cons_ne_nil _ _) fun ⟨fields, h, _⟩ => hne fields h
  | union members ih =>
    have haccepted : acceptedByAny members v ↔ Conforms (.union members) v := by
      rw [acceptedByAny_iff, conforms_union_iff]
      exact exists_congr fun t => and_congr_right fun ht => ih t ht
    rw [← haccepted, check]
    split <;> simp_all

end IndexGateway.ParamType

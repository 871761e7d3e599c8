import IndexGateway.Proofs.Schema.Conformance
import Mathlib.Data.List.Basic

/-!
# What a check reports

A check of a value against a type goes down into lists and objects and reports every value
on the way that does not fit. This module says which values these are, in which order they
are reported, and how the path of each is made up.

## The model

The place of a value inside another one is told by a way: for each list or object that is
entered, the step that was taken (`Step`). Which ways lead to a value that does not fit is
said by rules (`Fails`). A way ends at a value that is not looked into: at one that should
be a truth value, a number or a text, at one that should be a list or an object and is none,
and at a value that should belong to a union, of whose members nothing is reported.

Ways are ordered by the step at which they part: items by their index, fields by theirs,
and the key of a field comes before its value (`Mismatch.Before`).

## What is proved

* `check_eq` — a check reports a list of mismatches (`mismatches`) that does not depend on
  the path at which the value is said to stand. The path only comes in front.
* `mem_mismatches_iff`, `pairwise_mismatches` — the mismatches are all those that the rules
  give, each of them once, in the order of the ways.
* `check_decides_conformance` — hence a check adds nothing to a report exactly if the value
  belongs to the type, and otherwise one violation for each value that does not fit.
-/

namespace IndexGateway

/-! ### Ways into a value -/

/-- A step from a value to one inside it. -/
inductive Step where
  /-- To the item of a list at an index. -/
  | item (index : Nat)
  /-- To the key of the field at an index, which is given. -/
  | key (index : Nat) (name : String)
  /-- To the value of the field at an index, whose key is given. -/
  | value (index : Nat) (name : String)
  deriving DecidableEq, Repr

namespace Step

/-- What a step adds to a path. -/
def segments : Step → List String
  | .item i => [String.ofList (Text.Numeral.ofNat i)]
  | .key _ name => [name, "[key]"]
  | .value _ name => [name]

/-- The place of a step among those that can be taken: the key of a field comes right before its
value. -/
def place : Step → Nat
  | .item i => i
  | .key i _ => 2 * i
  | .value i _ => 2 * i + 1

end Step

/-- Texts joined by dots. An empty text at the front is no segment, so there is no dot behind it. -/
def dotted (segments : List String) : String := ".".intercalate (segments.dropWhile (· = ""))

/-- A value that does not fit, and what is wrong with it. -/
@[ext]
structure Mismatch where
  /-- The way that leads to the value. -/
  way : List Step
  /-- What is wrong there. -/
  reason : Violation.Reason
  deriving DecidableEq, Repr

namespace Mismatch

/-- The same mismatch, seen from a value that is one step further up. -/
def behind (s : Step) (m : Mismatch) : Mismatch := ⟨s :: m.way, m.reason⟩

/-- How a mismatch is reported of a value that stands at a path. -/
def violation (path : String) (m : Mismatch) : Violation :=
  ⟨dotted (path :: m.way.flatMap Step.segments), m.reason⟩

/-- Whether one mismatch lies before another one. -/
def Before (m m' : Mismatch) : Prop := m.way.map Step.place < m'.way.map Step.place

theorem before_behind_iff {s : Step} {m m' : Mismatch} :
    (m.behind s).Before (m'.behind s) ↔ m.Before m' := by
  simp [Before, behind]

theorem before_behind_of_lt {s s' : Step} (h : s.place < s'.place) (m m' : Mismatch) :
    (m.behind s).Before (m'.behind s') :=
  List.Lex.rel h

end Mismatch

/-! ### Paths -/

theorem dotted_of_ne {path : String} (h : path ≠ "") (segments : List String) :
    dotted (path :: segments) = ".".intercalate (path :: segments) := by
  simp [dotted, h]

theorem dotted_singleton (path : String) : dotted [path] = path := by
  by_cases h : path = ""
  · simp [dotted, h]
  · rw [dotted_of_ne h, String.intercalate_singleton]

/-- A longer path has one segment more. -/
theorem dotted_extend (path segment : String) (segments : List String) :
    dotted (ParamType.extend path segment :: segments) = dotted (path :: segment :: segments) := by
  unfold ParamType.extend
  split
  · next h => simp [dotted, h]
  · next h =>
    have hne : path ++ "." ++ segment ≠ "" := by simp
    rw [dotted_of_ne hne, dotted_of_ne h, String.intercalate_cons_cons]
    cases segments with
    | nil => simp
    | cons s segments => simp only [String.intercalate_cons_cons, String.append_assoc]

namespace ParamType

/-! ### The rules -/

/-- **A way leads to a value that does not fit** the type that is expected there. -/
inductive Fails : ParamType → Json → List Step → Violation.Reason → Prop where
  /-- A value that is no truth value. -/
  | bool {v : Json} : ¬ Conforms .bool v → Fails .bool v [] .notBool
  /-- A value that is no whole number of the signed 64-bit range. -/
  | int {v : Json} : ¬ Conforms .int v → Fails .int v [] .notInt
  /-- A value that is no text. -/
  | str {v : Json} : ¬ Conforms .str v → Fails .str v [] .notStr
  /-- A value that is no list. -/
  | list {inner : ParamType} {v : Json} :
      (∀ items, v ≠ .arr items) → Fails (.list inner) v [] .notList
  /-- A value that is no object. -/
  | mapping {key value : ParamType} {v : Json} :
      (∀ fields, v ≠ .obj fields) → Fails (.mapping key value) v [] .notMapping
  /-- A value of no member of a union. -/
  | union {members : List ParamType} {v : Json} : ¬ Conforms (.union members) v →
      Fails (.union members) v [] (.noMember (text (.union members)))
  /-- A value other than null has to fit the type that is optional. -/
  | optional {inner : ParamType} {v : Json} {way : List Step} {reason : Violation.Reason} :
      v ≠ .null → Fails inner v way reason → Fails (.optional inner) v way reason
  /-- The items of a list have to fit. -/
  | item {inner : ParamType} {items : List Json} {i : Nat} {item : Json} {way : List Step}
      {reason : Violation.Reason} : items[i]? = some item → Fails inner item way reason →
      Fails (.list inner) (.arr items) (.item i :: way) reason
  /-- The keys of an object have to fit, as texts. -/
  | key {key value : ParamType} {fields : List (String × Json)} {i : Nat} {f : String × Json}
      {way : List Step} {reason : Violation.Reason} :
      fields[i]? = some f → Fails key (.str f.1) way reason →
      Fails (.mapping key value) (.obj fields) (.key i f.1 :: way) reason
  /-- So have the values. -/
  | value {key value : ParamType} {fields : List (String × Json)} {i : Nat} {f : String × Json}
      {way : List Step} {reason : Violation.Reason} :
      fields[i]? = some f → Fails value f.2 way reason →
      Fails (.mapping key value) (.obj fields) (.value i f.1 :: way) reason

/-! ### The rules read backwards -/

variable {inner key value : ParamType} {members : List ParamType} {v : Json} {way : List Step}
  {reason : Violation.Reason}

theorem fails_bool_iff :
    Fails .bool v way reason ↔ ¬ Conforms .bool v ∧ way = [] ∧ reason = .notBool := by
  constructor
  · intro h
    cases h with
    | bool h => exact ⟨h, rfl, rfl⟩
  · rintro ⟨h, rfl, rfl⟩
    exact .bool h

theorem fails_int_iff :
    Fails .int v way reason ↔ ¬ Conforms .int v ∧ way = [] ∧ reason = .notInt := by
  constructor
  · intro h
    cases h with
    | int h => exact ⟨h, rfl, rfl⟩
  · rintro ⟨h, rfl, rfl⟩
    exact .int h

theorem fails_str_iff :
    Fails .str v way reason ↔ ¬ Conforms .str v ∧ way = [] ∧ reason = .notStr := by
  constructor
  · intro h
    cases h with
    | str h => exact ⟨h, rfl, rfl⟩
  · rintro ⟨h, rfl, rfl⟩
    exact .str h

theorem fails_union_iff : Fails (.union members) v way reason ↔
    ¬ Conforms (.union members) v ∧ way = [] ∧ reason = .noMember (text (.union members)) := by
  constructor
  · intro h
    cases h with
    | union h => exact ⟨h, rfl, rfl⟩
  · rintro ⟨h, rfl, rfl⟩
    exact .union h

theorem fails_optional_iff :
    Fails (.optional inner) v way reason ↔ v ≠ .null ∧ Fails inner v way reason := by
  constructor
  · intro h
    cases h with
    | optional hne h => exact ⟨hne, h⟩
  · rintro ⟨hne, h⟩
    exact .optional hne h

theorem fails_arr_iff {items : List Json} : Fails (.list inner) (.arr items) way reason ↔
    ∃ i item rest, items[i]? = some item ∧ way = .item i :: rest ∧ Fails inner item rest reason := by
  constructor
  · intro h
    cases h with
    | list hne => exact absurd rfl (hne items)
    | item hitem h => exact ⟨_, _, _, hitem, rfl, h⟩
  · rintro ⟨i, item, rest, hitem, rfl, h⟩
    exact .item hitem h

theorem fails_list_iff (hne : ∀ items, v ≠ .arr items) :
    Fails (.list inner) v way reason ↔ way = [] ∧ reason = .notList := by
  constructor
  · intro h
    cases h with
    | list => exact ⟨rfl, rfl⟩
    | item => exact absurd rfl (hne _)
  · rintro ⟨rfl, rfl⟩
    exact .list hne

theorem fails_obj_iff {fields : List (String × Json)} :
    Fails (.mapping key value) (.obj fields) way reason ↔ ∃ i f rest, fields[i]? = some f ∧
      (way = .key i f.1 :: rest ∧ Fails key (.str f.1) rest reason ∨
        way = .value i f.1 :: rest ∧ Fails value f.2 rest reason) := by
  constructor
  · intro h
    cases h with
    | mapping hne => exact absurd rfl (hne fields)
    | key hf h => exact ⟨_, _, _, hf, .inl ⟨rfl, h⟩⟩
    | value hf h => exact ⟨_, _, _, hf, .inr ⟨rfl, h⟩⟩
  · rintro ⟨i, f, rest, hf, ⟨rfl, h⟩ | ⟨rfl, h⟩⟩
    · exact .key hf h
    · exact .value hf h

theorem fails_mapping_iff (hne : ∀ fields, v ≠ .obj fields) :
    Fails (.mapping key value) v way reason ↔ way = [] ∧ reason = .notMapping := by
  constructor
  · intro h
    cases h with
    | mapping => exact ⟨rfl, rfl⟩
    | key => exact absurd rfl (hne _)
    | value => exact absurd rfl (hne _)
  · rintro ⟨rfl, rfl⟩
    exact .mapping hne

/-! ### What a check finds -/

/-- The mismatch that is found where a value is not looked into. -/
def mismatchUnless (fits : Bool) (reason : Violation.Reason) : List Mismatch :=
  if fits then [] else [⟨[], reason⟩]

/-- What a check finds in a value, in the order of the value. -/
def mismatches : ParamType → Json → List Mismatch
  | .any, _ => []
  | .bool, v => mismatchUnless v.bool?.isSome .notBool
  | .int, v => mismatchUnless v.int64?.isSome .notInt
  | .str, v => mismatchUnless v.text?.isSome .notStr
  | .optional inner, v =>
    match v with
    | .null => []
    | v => inner.mismatches v
  | .list inner, v =>
    match v with
    | .arr items => items.zipIdx.flatMap fun (item, i) =>
        (inner.mismatches item).map (.behind (.item i))
    | _ => mismatchUnless false .notList
  | .mapping key value, v =>
    match v with
    | .obj fields => fields.zipIdx.flatMap fun (f, i) =>
        (key.mismatches (.str f.1)).map (.behind (.key i f.1)) ++
          (value.mismatches f.2).map (.behind (.value i f.1))
    | _ => mismatchUnless false .notMapping
  | .union members, v =>
    mismatchUnless (acceptedByAny members v) (.noMember (text (.union members)))

theorem map_mismatchUnless (path : String) (fits : Bool) (reason : Violation.Reason) :
    (mismatchUnless fits reason).map (Mismatch.violation path) =
      if fits then [] else [⟨path, reason⟩] := by
  cases fits
  · simp [mismatchUnless, Mismatch.violation, dotted_singleton]
  · rfl

theorem violation_behind_item (path : String) (i : Nat) (m : Mismatch) :
    (m.behind (.item i)).violation path =
      m.violation (extend path (String.ofList (Text.Numeral.ofNat i))) := by
  simp [Mismatch.violation, Mismatch.behind, Step.segments, dotted_extend]

theorem violation_behind_key (path : String) (i : Nat) (name : String) (m : Mismatch) :
    (m.behind (.key i name)).violation path = m.violation (extend (extend path name) "[key]") := by
  simp [Mismatch.violation, Mismatch.behind, Step.segments, dotted_extend]

theorem violation_behind_value (path : String) (i : Nat) (name : String) (m : Mismatch) :
    (m.behind (.value i name)).violation path = m.violation (extend path name) := by
  simp [Mismatch.violation, Mismatch.behind, Step.segments, dotted_extend]

theorem flatMap_zipIdx_fst {α β : Type} (l : List α) (f : α → List β) :
    (l.zipIdx.flatMap fun x => f x.1) = l.flatMap f := by
  rw [← List.flatMap_map, List.zipIdx_map_fst]

/-- **A check reports its mismatches**, each with the path in front of its way. -/
theorem check_eq (t : ParamType) (v : Json) (path : String) :
    t.check v path = (t.mismatches v).map (Mismatch.violation path) := by
  induction t using ParamType.induct generalizing v path with
  | any => rfl
  | bool => rw [check, mismatches, map_mismatchUnless]
  | int => rw [check, mismatches, map_mismatchUnless]
  | str => rw [check, mismatches, map_mismatchUnless]
  | optional inner ih =>
    rw [check.eq_def, mismatches.eq_def]
    cases v with
    | null => rfl
    | _ => exact ih _ _
  | list inner ih =>
    rw [check.eq_def, mismatches.eq_def]
    cases v with
    | arr items =>
      dsimp only
      rw [List.map_flatMap]
      refine List.flatMap_congr fun x _ => ?_
      obtain ⟨item, i⟩ := x
      rw [ih, List.map_map]
      exact List.map_congr_left fun m _ => (violation_behind_item path i m).symm
    | _ => exact (map_mismatchUnless path false .notList).symm
  | mapping key value ihkey ihvalue =>
    rw [check.eq_def, mismatches.eq_def]
    cases v with
    | obj fields =>
      dsimp only
      -- a violation does not show the index of the field
      rw [List.map_flatMap, ← flatMap_zipIdx_fst]
      refine List.flatMap_congr fun x _ => ?_
      obtain ⟨f, i⟩ := x
      dsimp only
      rw [ihkey, ihvalue, List.map_append, List.map_map, List.map_map]
      congr 1
      · exact List.map_congr_left fun m _ => (violation_behind_key path i f.1 m).symm
      · exact List.map_congr_left fun m _ => (violation_behind_value path i f.1 m).symm
    | _ => exact (map_mismatchUnless path false .notMapping).symm
  | union members => rw [check, mismatches, map_mismatchUnless]

/-! ### All of them -/

theorem mem_mismatchUnless_iff {fits : Bool} {reason : Violation.Reason} {m : Mismatch} :
    m ∈ mismatchUnless fits reason ↔ fits = false ∧ m.way = [] ∧ m.reason = reason := by
  obtain ⟨way, reason'⟩ := m
  cases fits <;> simp [mismatchUnless]

theorem acceptedByAny_iff_conforms : acceptedByAny members v ↔ Conforms (.union members) v := by
  rw [acceptedByAny_iff, conforms_union_iff]
  exact exists_congr fun t => and_congr_right fun _ => check_eq_nil_iff

/-- **The mismatches are those that the rules give.** The induction is on the type. -/
theorem mem_mismatches_iff {t : ParamType} {v : Json} {m : Mismatch} :
    m ∈ t.mismatches v ↔ Fails t v m.way m.reason := by
  induction t using ParamType.induct generalizing v m with
  | any => exact iff_of_false List.not_mem_nil nofun
  | bool =>
    rw [mismatches, mem_mismatchUnless_iff, fails_bool_iff, conforms_bool_iff, ← isSome_bool?_iff,
      Bool.not_eq_true]
  | int =>
    rw [mismatches, mem_mismatchUnless_iff, fails_int_iff, conforms_int_iff, ← isSome_int64?_iff,
      Bool.not_eq_true]
  | str =>
    rw [mismatches, mem_mismatchUnless_iff, fails_str_iff, conforms_str_iff, ← isSome_text?_iff,
      Bool.not_eq_true]
  | optional inner ih =>
    rw [mismatches.eq_def, fails_optional_iff]
    cases v with
    | null => simp
    | _ => exact ih.trans (and_iff_right nofun).symm
  | list inner ih =>
    rw [mismatches.eq_def]
    cases v with
    | arr items =>
      rw [fails_arr_iff]
      simp only [List.mem_flatMap, List.mem_map, Prod.exists, List.mk_mem_zipIdx_iff_getElem?, ih]
      constructor
      · rintro ⟨item, i, hitem, m', hm', rfl⟩
        exact ⟨i, item, m'.way, hitem, rfl, hm'⟩
      · rintro ⟨i, item, rest, hitem, hway, hfails⟩
        exact ⟨item, i, hitem, ⟨rest, m.reason⟩, hfails, Mismatch.ext hway.symm rfl⟩
    | _ =>
      rw [fails_list_iff (by simp)]
      exact mem_mismatchUnless_iff.trans (and_iff_right rfl)
  | mapping key value ihkey ihvalue =>
    rw [mismatches.eq_def]
    cases v with
    | obj fields =>
      rw [fails_obj_iff]
      simp only [List.mem_flatMap, List.mem_append, List.mem_map, Prod.exists,
        List.mk_mem_zipIdx_iff_getElem?, ihkey, ihvalue]
      constructor
      · rintro ⟨name, item, i, hf, ⟨m', hm', rfl⟩ | ⟨m', hm', rfl⟩⟩
        · exact ⟨i, name, item, m'.way, hf, .inl ⟨rfl, hm'⟩⟩
        · exact ⟨i, name, item, m'.way, hf, .inr ⟨rfl, hm'⟩⟩
      · rintro ⟨i, name, item, rest, hf, ⟨hway, hfails⟩ | ⟨hway, hfails⟩⟩
        · exact ⟨name, item, i, hf, .inl ⟨⟨rest, m.reason⟩, hfails, Mismatch.ext hway.symm rfl⟩⟩
        · exact ⟨name, item, i, hf, .inr ⟨⟨rest, m.reason⟩, hfails, Mismatch.ext hway.symm rfl⟩⟩
    | _ =>
      rw [fails_mapping_iff (by simp)]
      exact mem_mismatchUnless_iff.trans (and_iff_right rfl)
  | union members =>
    rw [mismatches, mem_mismatchUnless_iff, fails_union_iff, ← acceptedByAny_iff_conforms,
      Bool.not_eq_true]

/-! ### In order -/

theorem pairwise_zipIdx {α : Type} (l : List α) : l.zipIdx.Pairwise fun x y => x.2 < y.2 := by
  have hrange : (l.zipIdx.map Prod.snd).Pairwise (· < ·) := by
    rw [List.zipIdx_map_snd]
    exact List.pairwise_lt_range'
  exact List.pairwise_map.mp hrange

theorem pairwise_mismatchUnless (fits : Bool) (reason : Violation.Reason) :
    (mismatchUnless fits reason).Pairwise Mismatch.Before := by
  cases fits
  · exact List.pairwise_singleton _ _
  · exact List.Pairwise.nil

theorem pairwise_map_behind {found : List Mismatch} (h : found.Pairwise Mismatch.Before) (s : Step) :
    (found.map (.behind s)).Pairwise Mismatch.Before :=
  List.pairwise_map.mpr (h.imp Mismatch.before_behind_iff.mpr)

/-- **Mismatches are found in the order of their ways**, and none of them twice. -/
theorem pairwise_mismatches (t : ParamType) (v : Json) :
    (t.mismatches v).Pairwise Mismatch.Before := by
  induction t using ParamType.induct generalizing v with
  | any => exact List.Pairwise.nil
  | bool => exact pairwise_mismatchUnless _ _
  | int => exact pairwise_mismatchUnless _ _
  | str => exact pairwise_mismatchUnless _ _
  | optional inner ih =>
    rw [mismatches.eq_def]
    cases v with
    | null => exact List.Pairwise.nil
    | _ => exact ih _
  | list inner ih =>
    rw [mismatches.eq_def]
    cases v with
    | arr items =>
      refine List.pairwise_flatMap.mpr ⟨fun (item, i) _ => pairwise_map_behind (ih item) _, ?_⟩
      refine (pairwise_zipIdx items).imp fun {x y} hlt => ?_
      rintro _ hm _ hm'
      obtain ⟨m, -, rfl⟩ := List.mem_map.mp hm
      obtain ⟨m', -, rfl⟩ := List.mem_map.mp hm'
      have hplace : (Step.item x.2).place < (Step.item y.2).place := hlt
      exact Mismatch.before_behind_of_lt hplace m m'
    | _ => exact pairwise_mismatchUnless _ _
  | mapping key value ihkey ihvalue =>
    rw [mismatches.eq_def]
    cases v with
    | obj fields =>
      have hfield : ∀ (x : (String × Json) × Nat) (m : Mismatch),
          m ∈ (key.mismatches (.str x.1.1)).map (.behind (.key x.2 x.1.1)) ++
            (value.mismatches x.1.2).map (.behind (.value x.2 x.1.1)) →
          ∃ s m', m = Mismatch.behind s m' ∧ 2 * x.2 ≤ s.place ∧ s.place ≤ 2 * x.2 + 1 := by
        intro x m hm
        rcases List.mem_append.mp hm with hm | hm
        · obtain ⟨m', -, rfl⟩ := List.mem_map.mp hm
          exact ⟨_, m', rfl, Nat.le_refl _, Nat.le_succ _⟩
        · obtain ⟨m', -, rfl⟩ := List.mem_map.mp hm
          exact ⟨_, m', rfl, Nat.le_succ _, Nat.le_refl _⟩
      refine List.pairwise_flatMap.mpr ⟨fun (f, i) _ => ?_, ?_⟩
      · -- within a field the key comes first
        refine List.pairwise_append.mpr
          ⟨pairwise_map_behind (ihkey _) _, pairwise_map_behind (ihvalue _) _, ?_⟩
        rintro _ hm _ hm'
        obtain ⟨m, -, rfl⟩ := List.mem_map.mp hm
        obtain ⟨m', -, rfl⟩ := List.mem_map.mp hm'
        exact Mismatch.before_behind_of_lt (Nat.lt_succ_self _) m m'
      · refine (pairwise_zipIdx fields).imp fun {x y} hlt => ?_
        rintro _ hm _ hm'
        obtain ⟨s, m, rfl, -, hle⟩ := hfield x _ hm
        obtain ⟨s', m', rfl, hge, -⟩ := hfield y _ hm'
        exact Mismatch.before_behind_of_lt (by omega) m m'
    | _ => exact pairwise_mismatchUnless _ _
  | union members => exact pairwise_mismatchUnless _ _

/-! ### Deciding conformance -/

/-- **A check decides whether a value belongs to a type, and reports all that does not fit.**
Whatever has been collected before, and whatever path the value is said to stand at, the check adds
nothing exactly if the value belongs to the type; a type accepts just these values. Otherwise there
is one violation for each value inside that does not fit, in the order of the ways that lead there,
with the path that the way makes up behind the given one. -/
theorem check_decides_conformance (t : ParamType) (v : Json) :
    (∀ (found : List Violation) (path : String), found ++ t.check v path = found ↔ Conforms t v) ∧
    (t.accepts v = true ↔ Conforms t v) ∧
    ∃ misfits : List Mismatch,
      (∀ m, m ∈ misfits ↔ Fails t v m.way m.reason) ∧
      misfits.Pairwise Mismatch.Before ∧
      ∀ path, t.check v path = misfits.map fun m =>
        ⟨dotted (path :: m.way.flatMap Step.segments), m.reason⟩ := by
  refine ⟨fun found path => ?_, ?_, t.mismatches v, fun m => mem_mismatches_iff,
    pairwise_mismatches t v, check_eq t v⟩
  · rw [List.append_right_eq_self, check_eq_nil_iff]
  · rw [accepts, List.isEmpty_iff, check_eq_nil_iff]

/-- The key does not fit, and of the value the first item does while the second one does not. -/
example : (mapping .int (.list .str)).check (.obj [("a", .arr [.str "b", .null])]) "spec" =
    [⟨"spec.a.[key]", .notInt⟩, ⟨"spec.a.1", .notStr⟩] := by rfl

end ParamType

end IndexGateway

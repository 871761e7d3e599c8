import IndexGateway.Proofs.Schema.Conformance
import IndexGateway.Proofs.Schema.Seats

/-!
# Typed access to bound arguments

A handler asks for an argument by the name of a parameter and by the kind of value that
it expects, while the schema says separately which values are accepted under the name.
The two fit if the handler expects what the type of the parameter says.

## The model

A list of parameters is sound (`Schema.IsSound`) if their names are distinct and their
defaults are values of their types. Distinct names are needed, since a handler gets the
first argument of a name and could not ask for the second.

## What is proved

* `IsSound.exists_get?` — after a binding, every parameter of a sound list has an
  argument, and this is a value of its type, whether it was given or is the default.
* `IsSound.exists_text`, `exists_bool`, `exists_int`, `exists_texts` — hence each typed
  access to an argument of this type succeeds.
-/

namespace IndexGateway

open Json

/-! ### Views of values of a type -/

namespace ParamType

variable {v : Json}

theorem Conforms.exists_text (h : Conforms .str v) : ∃ s, v.text? = some s := by
  obtain ⟨s, rfl⟩ := conforms_str_iff.mp h
  exact ⟨s, rfl⟩

theorem Conforms.exists_bool (h : Conforms .bool v) : ∃ b, v.bool? = some b := by
  obtain ⟨b, rfl⟩ := conforms_bool_iff.mp h
  exact ⟨b, rfl⟩

theorem Conforms.exists_int64 (h : Conforms .int v) : ∃ n, v.int64? = some n :=
  Option.isSome_iff_exists.mp (isSome_int64?_iff.mpr (conforms_int_iff.mp h))

theorem Conforms.exists_texts (h : Conforms (.list .str) v) : ∃ l, v.texts? = some l := by
  obtain ⟨items, rfl, hitems⟩ := conforms_list_iff.mp h
  have hall : ∃ l, items.mapM text? = some l := by
    clear h
    induction items with
    | nil => exact ⟨[], rfl⟩
    | cons item items ih =>
      rw [List.forall_mem_cons] at hitems
      obtain ⟨s, hs⟩ := hitems.1.exists_text
      obtain ⟨l, hl⟩ := ih hitems.2
      exact ⟨s :: l, by simp [hs, hl]⟩
  exact hall

end ParamType

namespace Schema

/-! ### Bound arguments -/

/-- The argument of a seat with no violation is a value of the parameter's type. -/
theorem Seat.exists_binding? {s : Seat} (h : Seat.violations s = [])
    (hdefault : ∀ v, s.param.default = some v → s.param.type.Conforms v) :
    ∃ v, Seat.binding? s = some (s.param.name, v) ∧ s.param.type.Conforms v := by
  obtain ⟨p, given⟩ := s
  unfold Seat.violations at h
  unfold Seat.binding?
  cases given with
  | some v => exact ⟨v, rfl, ParamType.check_eq_nil_iff.mp h⟩
  | none =>
    cases hp : p.default with
    | some v => exact ⟨v, by simp, hdefault v hp⟩
    | none => simp [hp] at h

theorem Seat.name_of_binding? {s : Seat} {f : String × Json} (h : Seat.binding? s = some f) :
    f.1 = s.param.name := by
  unfold Seat.binding? at h
  split at h <;> cases h <;> rfl

/-- With distinct names, the argument of a name is the one of its seat. -/
theorem field?_filterMap_binding? {seats : List Seat} (hnodup : (seats.map (·.param.name)).Nodup)
    {s : Seat} (hs : s ∈ seats) {v : Json} (hv : Seat.binding? s = some (s.param.name, v)) :
    field? s.param.name (seats.filterMap Seat.binding?) = some v := by
  induction seats with
  | nil => cases hs
  | cons s' seats ih =>
    rw [List.map_cons, List.nodup_cons] at hnodup
    rcases List.mem_cons.mp hs with rfl | hmem
    · rw [List.filterMap_cons_some hv, field?, if_pos rfl]
    · have hne : s'.param.name ≠ s.param.name := by
        intro heq
        exact hnodup.1 (heq ▸ List.mem_map_of_mem hmem)
      cases hs' : Seat.binding? s' with
      | none => simpa [List.filterMap_cons_none hs'] using ih hnodup.2 hmem
      | some f =>
        obtain ⟨name, w⟩ := f
        obtain rfl : name = s'.param.name := Seat.name_of_binding? hs'
        rw [List.filterMap_cons_some hs', field?, if_neg hne]
        exact ih hnodup.2 hmem

/-- Every parameter can be asked for by its name, and its default, if it has one, is of its type. -/
structure IsSound (params : List Param) : Prop where
  /-- No two parameters have one name. -/
  nodup : (params.map Param.name).Nodup
  /-- Defaults are values of the types. -/
  defaults : ∀ p ∈ params, ∀ v, p.default = some v → p.type.Conforms v

namespace IsSound

variable {params : List Param} {given : Params} {args : Arguments} {name : String}
  {default : Option Json} (hsound : IsSound params)
  (h : bind (.checked params) given = .ok args)

include hsound h

/-- **Every parameter has an argument of its type**, which is found under its name. -/
theorem exists_get? {p : Param} (hp : p ∈ params) :
    ∃ v, args.get? p.name = some v ∧ p.type.Conforms v := by
  obtain ⟨hnone, rfl⟩ := bind_checked_eq_ok_iff.mp h
  have hparams := map_param_examine params given
  have hfits := violations_eq_nil_of_examine hnone
  generalize (examine params given).2 = seats at hparams hfits
  subst hparams
  obtain ⟨s, hs, rfl⟩ := List.mem_map.mp hp
  obtain ⟨v, hv, hconforms⟩ := Seat.exists_binding? (hfits s hs) (hsound.defaults s.param hp)
  have hnodup := hsound.nodup
  rw [List.map_map] at hnodup
  exact ⟨v, field?_filterMap_binding? hnodup hs hv, hconforms⟩

/-- An access succeeds whose view opens all values of the parameter's type. -/
theorem exists_expect {α : Type} {view : Json → Option α} {expected : String} {p : Param}
    (hp : p ∈ params) (hview : ∀ v, p.type.Conforms v → ∃ a, view v = some a) :
    ∃ a, args.expect p.name view expected = .ok a := by
  obtain ⟨v, hget, hconforms⟩ := hsound.exists_get? h hp
  obtain ⟨a, ha⟩ := hview v hconforms
  refine ⟨a, ?_⟩
  simp [Arguments.expect, hget, ha]

theorem exists_text (hp : ⟨name, .str, default⟩ ∈ params) : ∃ s, args.text name = .ok s :=
  hsound.exists_expect h hp fun _ hv => hv.exists_text

theorem exists_bool (hp : ⟨name, .bool, default⟩ ∈ params) : ∃ b, args.bool name = .ok b :=
  hsound.exists_expect h hp fun _ hv => hv.exists_bool

theorem exists_int (hp : ⟨name, .int, default⟩ ∈ params) : ∃ n, args.int name = .ok n :=
  hsound.exists_expect h hp fun _ hv => hv.exists_int64

theorem exists_texts (hp : ⟨name, .list .str, default⟩ ∈ params) : ∃ l, args.texts name = .ok l :=
  hsound.exists_expect h hp fun _ hv => hv.exists_texts

end IsSound

end Schema

end IndexGateway

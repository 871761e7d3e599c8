import IndexGateway.Proofs.Schema.Binding

/-!
# Defaults that do not fit

Arguments are checked against the types of their parameters, whether they are given by their
place or by their name. A default that fills an empty seat is taken as it was declared. So
what a handler gets for a parameter is a value of its type, unless it is a default of
another type.

## What is proved

* `getElem?_bindings` — what is bound at a place is what the call supplies there, or else
  the default.
* `bound_conforms_iff` — all that a call supplies is of the types of its parameters; and so
  is all that is bound, exactly if the defaults are that were filled in.
* `bound_not_conforms` — a handler may get a text for a parameter that is a whole number.
-/

namespace IndexGateway.Schema

variable {params : List Param} {given : Params} {args : Arguments}

/-- What is bound at a place: what is supplied, or else the default. -/
theorem getElem?_bindings (accepted : bind (.checked params) given = .ok args) (place : Nat) :
    args.bindings[place]? = (params[place]?).bind fun p =>
      ((supplied? params given place p).or p.default).map (p.name, ·) := by
  obtain ⟨hnone, rfl⟩ := bind_checked_eq_ok_iff.mp accepted
  rw [examine_eq] at hnone ⊢
  have hbound := congrArg (·[place]?) (map_some_filterMap_binding? (problems_eq_nil_iff.mp hnone))
  rw [List.getElem?_map, List.getElem?_mapIdx] at hbound
  cases hp : params[place]? with
  | none => simpa [hp] using hbound
  | some p =>
    rw [hp] at hbound
    obtain ⟨bound, hplace, hvalue⟩ := Option.map_eq_some_iff.mp hbound
    exact hplace.trans hvalue

/-- A call that is accepted is well-formed. -/
theorem isWellFormed_of_bind (accepted : bind (.checked params) given = .ok args) :
    IsWellFormed params given := by
  have hnone := (bind_checked_eq_ok_iff.mp accepted).1
  rw [examine_eq] at hnone
  exact problems_eq_nil_iff.mp hnone

/-- **What handlers get is of the types of the parameters, as far as it was checked.** Every parameter
of a call that is accepted has a bound value. If the call supplies a value for it, by its place or
by its name, then this value is bound, and it is one of the parameter's type. Hence all bound values
are of the types of their parameters exactly if those defaults are that stand in for a value. -/
theorem bound_conforms_iff (params : List Param) (given : Params) (args : Arguments)
    (accepted : bind (.checked params) given = .ok args) :
    args.bindings.map Prod.fst = params.map Param.name ∧
    (∀ (place : Nat) (p : Param) (value : Json), params[place]? = some p →
      supplied? params given place p = some value →
      args.bindings[place]? = some (p.name, value) ∧ p.type.Conforms value) ∧
    ((∀ (place : Nat) (p : Param) (name : String) (value : Json), params[place]? = some p →
        args.bindings[place]? = some (name, value) → p.type.Conforms value) ↔
      ∀ (place : Nat) (p : Param) (value : Json), params[place]? = some p →
        supplied? params given place p = none → p.default = some value → p.type.Conforms value) := by
  have hformed := isWellFormed_of_bind accepted
  refine ⟨?_, ?_, ?_, ?_⟩
  · refine List.ext_getElem? fun place => ?_
    rw [List.getElem?_map, List.getElem?_map, getElem?_bindings accepted]
    cases hp : params[place]? with
    | none => rfl
    | some p =>
      have hcomplete := hformed.complete place p hp
      rw [Option.bind_some]
      cases hs : supplied? params given place p with
      | some value => rfl
      | none =>
        obtain ⟨value, hvalue⟩ := Option.ne_none_iff_exists'.mp (hcomplete hs)
        rw [hvalue]
        rfl
  · intro place p value hp hs
    rw [getElem?_bindings accepted, hp, Option.bind_some, hs]
    exact ⟨rfl, hformed.conforming place p value hp hs⟩
  · intro hfits place p value hp hs hdefault
    refine hfits place p p.name value hp ?_
    rw [getElem?_bindings accepted, hp, Option.bind_some, hs, hdefault]
    rfl
  · intro hdefaults place p name value hp hbound
    rw [getElem?_bindings accepted, hp, Option.bind_some] at hbound
    obtain ⟨bound, hvalue, heq⟩ := Option.map_eq_some_iff.mp hbound
    obtain ⟨-, rfl⟩ := Prod.mk.inj heq
    cases hs : supplied? params given place p with
    | some value =>
      rw [hs] at hvalue
      obtain rfl : value = bound := Option.some.inj hvalue
      exact hformed.conforming place p value hp hs
    | none =>
      rw [hs] at hvalue
      exact hdefaults place p bound hp hs hvalue

/-- A name is given for the first parameter, and `"rest"` is filled in with its default, which fits. -/
theorem bound_conforms_iff_given :
    let params : List Param := [⟨"names", .list .str, none⟩, ⟨"rest", .optional .int, some .null⟩]
    let given : Params := { keyword := [("names", .arr [.str "a"])] }
    ∃ args, bind (.checked params) given = .ok args ∧
      ∀ (place : Nat) (p : Param) (name : String) (value : Json), params[place]? = some p →
        args.bindings[place]? = some (name, value) → p.type.Conforms value := by
  intro params given
  have accepted : bind (.checked params) given =
      .ok ⟨[("names", .arr [.str "a"]), ("rest", .null)]⟩ := rfl
  refine ⟨_, accepted, (bound_conforms_iff params given _ accepted).2.2.mpr ?_⟩
  intro place p value hp hs hdefault
  match place with
  | 0 =>
    obtain rfl : _ = p := Option.some.inj hp
    cases hdefault
  | 1 =>
    obtain rfl : _ = p := Option.some.inj hp
    obtain rfl : _ = value := Option.some.inj hdefault
    exact .null .int
  | place + 2 => cases hp

/-- A parameter is declared as a whole number with a text as its default. A call without arguments is
accepted and binds the text, and a handler that asks for the whole number fails. -/
theorem bound_not_conforms : ∃ args,
    bind (.checked [⟨"limit", .int, some (.str "ten")⟩]) {} = .ok args ∧
    args.bindings[0]? = some ("limit", .str "ten") ∧ ¬ ParamType.Conforms .int (.str "ten") ∧
    args.int "limit" = .error (Arguments.mistyped "limit" "an integer") := by
  refine ⟨⟨[("limit", .str "ten")]⟩, rfl, rfl, ?_, rfl⟩
  exact nofun

end IndexGateway.Schema

import IndexGateway.Proofs.Schema.Conformance
import IndexGateway.Proofs.Schema.Seats

/-!
# Which calls are accepted, and what is reported of the others

Arguments take seats one after the other, and a later argument may take the seat of an
earlier one. This module says what comes of it without seats: which value a call supplies
for each parameter (`supplied?`), when a call is well-formed (`IsWellFormed`), and all
that is wrong with a call that is not (`problems`).

## The model

Seats stand in the order of the parameters, so the seats of a call are told by a function
that says what lies at each place (`seated`). The positional arguments are such a
function, and a named argument changes it at one place: that of the first parameter of
its name. A parameter that repeats an earlier name is out of reach for named arguments.

## What is proved

* `examine_eq` — the seats hold what the call supplies, and the violations that are
  collected on the way are its problems.
* `problems_eq_nil_iff` — a call is without problems exactly if it is well-formed.
* `bind_checked` — hence a well-formed call is bound, parameter by parameter, and any
  other is answered with the list of its problems.
-/

namespace IndexGateway

open Json

/-! ### Named arguments -/

theorem Json.field?_append (name : String) (fields more : List (String × Json)) :
    field? name (fields ++ more) = (field? name fields).or (field? name more) := by
  induction fields with
  | nil => rfl
  | cons f fields ih =>
    obtain ⟨k, v⟩ := f
    rw [List.cons_append, field?, field?, ih]
    split <;> rfl

/-- The value that a call gives under a name: of several, the last one. -/
def Params.named? (given : Params) (name : String) : Option Json :=
  field? name given.keyword.reverse

namespace Schema

variable (params : List Param) (given : Params)

/-! ### What a call supplies -/

/-- The value that a call supplies for the parameter `p` at a place: the one under its name, if no
parameter before it has that name and the name is given, and else the positional one. -/
def supplied? (place : Nat) (p : Param) : Option Json :=
  if p.name ∈ (params.take place).map Param.name then given.positional[place]?
  else (given.named? p.name).or given.positional[place]?

/-- **A call is well-formed**. -/
structure IsWellFormed : Prop where
  /-- There are no more positional arguments than parameters. -/
  enough : given.positional.length ≤ params.length
  /-- Every name is declared. -/
  declared : ∀ name ∈ keys given.keyword, name ∈ params.map Param.name
  /-- Every parameter for which nothing is supplied has a default. -/
  complete : ∀ (place : Nat) (p : Param), params[place]? = some p →
    supplied? params given place p = none → p.default ≠ none
  /-- Every value that is supplied is one of the type of its parameter. -/
  conforming : ∀ (place : Nat) (p : Param) (value : Json), params[place]? = some p →
    supplied? params given place p = some value → p.type.Conforms value

/-- What is wrong with the value supplied for a parameter, or with its absence. -/
def problemsAt (place : Nat) (p : Param) : List Violation :=
  match supplied? params given place p, p.default with
  | some value, _ => p.type.check value p.name
  | none, some _ => []
  | none, none => [⟨p.name, .missing⟩]

/-- All that is wrong with a call: the places of positional arguments behind the last parameter, the
names that are not declared, and what is wrong for each parameter. -/
def problems : List Violation :=
  (List.range' params.length (given.positional.length - params.length)).map
      (fun place => ⟨String.ofList (Text.Numeral.ofNat place), .unexpectedPositional⟩) ++
    ((keys given.keyword).filter fun name => name ∉ params.map Param.name).map
      (⟨·, .unexpectedKeyword⟩) ++
    (params.mapIdx (problemsAt params given)).flatten

/-! ### Seats by their places -/

/-- The seats of parameters, where a function says what lies at each place. -/
def seated (lies : Nat → Param → Option Json) : List Seat :=
  params.mapIdx fun place p => ⟨p, lies place p⟩

/-- What lies at each place when a named argument has taken its seat. -/
def takeSeat (name : String) (value : Json) (lies : Nat → Param → Option Json) (place : Nat)
    (p : Param) : Option Json :=
  if p.name = name ∧ p.name ∉ (params.take place).map Param.name then some value else lies place p

variable {params given}

theorem seated_congr {lies lies' : Nat → Param → Option Json}
    (h : ∀ place p, params[place]? = some p → lies place p = lies' place p) :
    seated params lies = seated params lies' := by
  refine List.ext_getElem? fun place => ?_
  rw [seated, seated, List.getElem?_mapIdx, List.getElem?_mapIdx]
  cases hp : params[place]? with
  | none => rfl
  | some p => rw [Option.map_some, Option.map_some, h place p hp]

theorem map_seated {α : Type} (f : Seat → α) (lies : Nat → Param → Option Json) :
    (seated params lies).map f = params.mapIdx fun place p => f ⟨p, lies place p⟩ := by
  refine List.ext_getElem? fun place => ?_
  rw [seated, List.getElem?_map, List.getElem?_mapIdx, List.getElem?_mapIdx, Option.map_map]
  rfl

theorem seat_eq (params : List Param) (values : List Json) :
    seat params values = (seated params fun place _ => values[place]?, values.drop params.length) := by
  induction params generalizing values with
  | nil => rfl
  | cons p params ih =>
    cases values with
    | nil => simp [seat, seated, ih]
    | cons v values => simp [seat, seated, ih]

theorem reseat_seated (params : List Param) (lies : Nat → Param → Option Json) (name : String)
    (value : Json) :
    reseat name value (seated params lies) =
      if name ∈ params.map Param.name then some (seated params (takeSeat params name value lies))
      else none := by
  induction params generalizing lies with
  | nil => rfl
  | cons q params ih =>
    have hcons : ∀ lies : Nat → Param → Option Json, seated (q :: params) lies =
        ⟨q, lies 0 q⟩ :: seated params fun place => lies (place + 1) := fun _ => List.mapIdx_cons
    rw [hcons, hcons, reseat]
    by_cases hq : q.name = name
    · have hrest : (fun place => takeSeat (q :: params) name value lies (place + 1)) =
          fun place => lies (place + 1) := by
        funext place p
        exact if_neg (by rintro ⟨hp, hnew⟩; simp_all)
      simp [hq, hrest, takeSeat]
    · have hrest : (fun place => takeSeat (q :: params) name value lies (place + 1)) =
          takeSeat params name value fun place => lies (place + 1) := by
        funext place p
        refine if_congr ?_ rfl rfl
        simp only [List.take_succ_cons, List.map_cons, List.mem_cons, not_or]
        exact and_congr_right fun hp => and_iff_right fun h => hq (h ▸ hp)
      rw [if_neg hq, ih, hrest]
      simp [hq, Ne.symm hq, takeSeat]

/-- **Named arguments change what lies at each place** to the value under the name, where the
parameter is the first of its name and the name is given. -/
theorem reseatAll_seated (fields : List (String × Json)) (lies : Nat → Param → Option Json) :
    reseatAll fields (seated params lies) =
      (seated params fun place p =>
        if p.name ∈ (params.take place).map Param.name then lies place p
        else (field? p.name fields.reverse).or (lies place p),
      (keys fields).filter fun name => name ∉ params.map Param.name) := by
  induction fields generalizing lies with
  | nil => simp [reseatAll, field?, keys]
  | cons f fields ih =>
    obtain ⟨name, value⟩ := f
    rw [reseatAll, reseat_seated]
    by_cases hname : name ∈ params.map Param.name
    · simp only [hname, if_true, ih]
      refine Prod.ext (seated_congr fun place p _ => ?_) ?_
      · rw [List.reverse_cons, field?_append, Option.or_assoc, takeSeat]
        by_cases hrepeated : p.name ∈ (params.take place).map Param.name
        · simp only [hrepeated, not_true_eq_false, and_false, if_true, if_false]
        · by_cases hp : name = p.name
          · subst hp
            simp only [hrepeated, not_false_eq_true, and_self, field?, if_true, if_false, Option.some_or]
          · simp only [hrepeated, hp, Ne.symm hp, field?, if_false, false_and, Option.none_or]
      · exact (List.filter_cons_of_neg (by simpa using hname)).symm
    · simp only [hname, if_false, ih]
      refine Prod.ext (seated_congr fun place p hplace => ?_) ?_
      · have hp : name ≠ p.name := by
          rintro rfl
          exact hname (List.mem_map_of_mem (List.mem_of_getElem? hplace))
        simp [field?_append, field?, hp]
      · exact (List.filter_cons_of_pos (by simpa using hname)).symm

/-! ### Problems -/

theorem surplus_eq (index : Nat) (values : List Json) :
    surplus index values = (List.range' index values.length).map
      fun place => ⟨String.ofList (Text.Numeral.ofNat place), .unexpectedPositional⟩ := by
  rw [surplus, List.range'_eq_map_range, List.range_eq_range', ← List.zipIdx_map_snd 0 values,
    List.map_map, List.map_map]
  rfl

theorem flatMap_violations_seated (params : List Param) (given : Params) :
    (seated params (supplied? params given)).flatMap Seat.violations =
      (params.mapIdx (problemsAt params given)).flatten := by
  rw [List.flatMap_def, map_seated]
  rfl

/-- **The seats of a call hold what it supplies**, and the violations are its problems. -/
theorem examine_eq (params : List Param) (given : Params) :
    examine params given = (problems params given, seated params (supplied? params given)) := by
  have hseats : reseatAll given.keyword (seat params given.positional).1 =
      (seated params (supplied? params given),
        (keys given.keyword).filter fun name => name ∉ params.map Param.name) := by
    rw [seat_eq, reseatAll_seated]
    rfl
  have hrest : (seat params given.positional).2 = given.positional.drop params.length := by
    rw [seat_eq]
  unfold examine
  simp only [hseats, hrest, surplus_eq, List.length_drop, flatMap_violations_seated]
  rfl

theorem problemsAt_eq_nil_iff {place : Nat} {p : Param} :
    problemsAt params given place p = [] ↔
      (supplied? params given place p = none → p.default ≠ none) ∧
        ∀ value, supplied? params given place p = some value → p.type.Conforms value := by
  unfold problemsAt
  split
  · next value _ h => simp [h, ParamType.check_eq_nil_iff]
  · next h hdefault => simp [h, hdefault]
  · next h hdefault => simp [h, hdefault]

/-- A call is without problems exactly if it is well-formed. -/
theorem problems_eq_nil_iff : problems params given = [] ↔ IsWellFormed params given := by
  have hplaces : (params.mapIdx (problemsAt params given)).flatten = [] ↔
      ∀ place p, params[place]? = some p → problemsAt params given place p = [] := by
    rw [List.flatten_eq_nil_iff]
    constructor
    · intro h place p hp
      refine h _ (List.mem_iff_getElem?.mpr ⟨place, ?_⟩)
      rw [List.getElem?_mapIdx, hp, Option.map_some]
    · intro h l hl
      obtain ⟨place, hplace⟩ := List.mem_iff_getElem?.mp hl
      rw [List.getElem?_mapIdx, Option.map_eq_some_iff] at hplace
      obtain ⟨p, hp, rfl⟩ := hplace
      exact h place p hp
  rw [problems, List.append_eq_nil_iff, List.append_eq_nil_iff, List.map_eq_nil_iff,
    List.map_eq_nil_iff, List.range'_eq_nil_iff, Nat.sub_eq_zero_iff_le, List.filter_eq_nil_iff,
    hplaces]
  simp only [decide_eq_true_eq, not_not, problemsAt_eq_nil_iff]
  constructor
  · rintro ⟨⟨henough, hdeclared⟩, hplaces⟩
    exact ⟨henough, hdeclared, fun place p hp => (hplaces place p hp).1,
      fun place p value hp => (hplaces place p hp).2 value⟩
  · rintro ⟨henough, hdeclared, hcomplete, hconforming⟩
    exact ⟨⟨henough, hdeclared⟩, fun place p hp =>
      ⟨hcomplete place p hp, fun value => hconforming place p value hp⟩⟩

/-! ### Binding -/

theorem bind_checked_of_problems (h : problems params given ≠ []) :
    bind (.checked params) given = .error (.invalidParams (report (problems params given))) := by
  rw [bind, examine_eq]
  split
  · next heq => exact absurd (Prod.mk.inj heq).1 h
  · next heq => rw [(Prod.mk.inj heq).1]

/-- A well-formed call fills every seat, with what is supplied or else with the default. -/
theorem map_some_filterMap_binding? (h : IsWellFormed params given) :
    ((seated params (supplied? params given)).filterMap Seat.binding?).map some =
      params.mapIdx fun place p =>
        ((supplied? params given place p).or p.default).map (p.name, ·) := by
  have hbinding : (seated params (supplied? params given)).map Seat.binding? =
      params.mapIdx fun place p =>
        ((supplied? params given place p).or p.default).map (p.name, ·) := by
    rw [map_seated]
    refine congrArg (params.mapIdx ·) (funext fun place => funext fun p => ?_)
    rw [Seat.binding?]
    cases supplied? params given place p <;> cases p.default <;> rfl
  rw [List.map_filterMap_some_eq_filter_map_isSome, hbinding, List.filter_eq_self]
  intro bound hbound
  obtain ⟨place, hplace⟩ := List.mem_iff_getElem?.mp hbound
  rw [List.getElem?_mapIdx, Option.map_eq_some_iff] at hplace
  obtain ⟨p, hp, rfl⟩ := hplace
  cases hs : supplied? params given place p with
  | some value => rfl
  | none =>
    obtain ⟨value, hvalue⟩ := Option.ne_none_iff_exists'.mp (h.complete place p hp hs)
    rw [hvalue]
    rfl

/-- **A call is accepted exactly if it is well-formed, and else all its problems are reported.** The
arguments of an accepted call are, in the order of declaration, one for each parameter: the value
that is supplied for it, or else its default. The text for any other call lists, separated by
semicolons, the places of surplus positional arguments, the names that are not declared, and for
each parameter that it is missing or everything about its value that does not fit its type. Each
problem is told with its path. -/
theorem bind_checked (params : List Param) (given : Params) :
    ((∃ args, bind (.checked params) given = .ok args) ↔ IsWellFormed params given) ∧
    (∀ args, bind (.checked params) given = .ok args →
      args.bindings.map some = params.mapIdx fun place p =>
        ((supplied? params given place p).or p.default).map (p.name, ·)) ∧
    (¬ IsWellFormed params given → bind (.checked params) given = .error (.invalidParams
      ("; ".intercalate ((problems params given).map Violation.message)))) ∧
    ∀ v : Violation, v.message = v.path ++ ": " ++
      match v.reason with
      | .notBool => "input should be a valid boolean"
      | .notInt => "input should be a valid integer"
      | .notStr => "input should be a valid string"
      | .notList => "input should be a valid list"
      | .notMapping => "input should be a valid dictionary"
      | .noMember union => "input should be " ++ union
      | .unexpectedPositional => "unexpected positional argument"
      | .unexpectedKeyword => "unexpected keyword argument"
      | .missing => "missing required argument" := by
  have hok : ∀ args, bind (.checked params) given = .ok args ↔ IsWellFormed params given ∧
      args = ⟨(seated params (supplied? params given)).filterMap Seat.binding?⟩ := by
    intro args
    rw [bind_checked_eq_ok_iff, examine_eq, problems_eq_nil_iff]
  refine ⟨?_, ?_, ?_, ?_⟩
  · constructor
    · rintro ⟨args, h⟩
      exact ((hok args).mp h).1
    · intro h
      exact ⟨_, (hok _).mpr ⟨h, rfl⟩⟩
  · intro args h
    obtain ⟨hformed, rfl⟩ := (hok args).mp h
    exact map_some_filterMap_binding? hformed
  · intro h
    exact bind_checked_of_problems (mt problems_eq_nil_iff.mp h)
  · rintro ⟨path, reason⟩
    cases reason <;> rfl

/-- The name `n` is declared twice: the named argument takes the first seat, in the place of `"x"`,
and nothing is left for the last one. -/
example : bind (.checked [⟨"n", .list .str, none⟩, ⟨"m", .int, none⟩, ⟨"n", .bool, none⟩])
    { positional := [.str "x", .bool true]
      keyword := [("k", .null), ("n", .arr [.str "a", .null])] } =
    .error (.invalidParams ("k: unexpected keyword argument; n.1: input should be a valid string; " ++
      "m: input should be a valid integer; n: missing required argument")) := by
  rfl

end Schema

end IndexGateway

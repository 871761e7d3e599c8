import IndexGateway.Proofs.Json.Alike
import IndexGateway.Schema.Arguments

/-!
# Arguments that are alike bind alike

Two calls whose arguments differ at most in floating-point numbers with the same
text take the same seats. If the parameters are truth values, whole numbers and
texts, no floating-point number gets past them, so the handler sees the same
arguments in both calls (`bind_eq_of_alike`).
-/

namespace IndexGateway

open Json

namespace ParamType

/-- Whether a type describes truth values, whole numbers or texts. -/
def isScalar : ParamType → Bool
  | .bool => true
  | .int => true
  | .str => true
  | _ => false

/-- A scalar type accepts no floating-point number. -/
theorem isFloatless_of_check {t : ParamType} (ht : t.isScalar = true) {v : Json} {path : String}
    (h : t.check v path = []) : IsFloatless v := by
  cases t with
  | bool =>
    cases v with
    | bool b => exact .bool b
    | _ => simp [check, bool?] at h
  | int =>
    cases v with
    | num n =>
      cases n with
      | int n => exact .int n
      | float x => simp [check, int64?] at h
    | _ => simp [check, int64?] at h
  | str =>
    cases v with
    | str s => exact .str s
    | _ => simp [check, text?] at h
  | _ => cases ht

end ParamType

/-- Two seats of one parameter with arguments that are alike. -/
structure Seat.Alike (s s' : Seat) : Prop where
  /-- The parameter is the same. -/
  param : s.param = s'.param
  /-- The arguments are alike. -/
  given : Option.Rel Json.Alike s.given s'.given

namespace Schema

/-! ### Whose seats they are -/

theorem map_param_seat (params : List Param) (values : List Json) :
    (seat params values).1.map Seat.param = params := by
  induction params generalizing values with
  | nil => rfl
  | cons p params ih => cases values <;> exact congrArg (p :: ·) (ih _)

theorem map_param_reseat {name : String} {value : Json} {seats seats' : List Seat}
    (h : reseat name value seats = some seats') :
    seats'.map Seat.param = seats.map Seat.param := by
  induction seats generalizing seats' with
  | nil => cases h
  | cons s seats ih =>
    rw [reseat] at h
    split at h
    · cases h
      rfl
    · obtain ⟨more, hmore, rfl⟩ := Option.map_eq_some_iff.mp h
      exact congrArg (s.param :: ·) (ih hmore)

theorem map_param_reseatAll (fields : List (String × Json)) (seats : List Seat) :
    (reseatAll fields seats).1.map Seat.param = seats.map Seat.param := by
  induction fields generalizing seats with
  | nil => rfl
  | cons f fields ih =>
    obtain ⟨name, value⟩ := f
    rw [reseatAll]
    split
    · next hseats => rw [ih, map_param_reseat hseats]
    · exact ih seats

/-- Every declared parameter has one seat, in the order of declaration. -/
theorem map_param_examine (params : List Param) (given : Params) :
    (examine params given).2.map Seat.param = params := by
  rw [examine, map_param_reseatAll, map_param_seat]

/-! ### Seats that are alike -/

theorem alike_seat (params : List Param) {values values' : List Json}
    (h : List.Forall₂ Alike values values') :
    List.Forall₂ Seat.Alike (seat params values).1 (seat params values').1 := by
  induction params generalizing values values' with
  | nil => exact .nil
  | cons p params ih =>
    cases h with
    | nil => exact .cons ⟨rfl, .none⟩ (ih .nil)
    | cons hvalue hvalues => exact .cons ⟨rfl, .some hvalue⟩ (ih hvalues)

theorem alike_reseat (name : String) {value value' : Json} (hvalue : Alike value value')
    {seats seats' : List Seat} (h : List.Forall₂ Seat.Alike seats seats') :
    Option.Rel (List.Forall₂ Seat.Alike) (reseat name value seats) (reseat name value' seats') := by
  induction h with
  | nil => exact .none
  | @cons s s' _ _ hs hmore ih =>
    rw [reseat, reseat, ← hs.param]
    split
    · exact .some (.cons ⟨rfl, .some hvalue⟩ hmore)
    · have hmap : ∀ {left right : Option (List Seat)}, Option.Rel (List.Forall₂ Seat.Alike) left right →
          Option.Rel (List.Forall₂ Seat.Alike) (left.map (s :: ·)) (right.map (s' :: ·))
        | _, _, .none => .none
        | _, _, .some h => .some (.cons hs h)
      exact hmap ih

theorem alike_reseatAll {fields fields' : List (String × Json)}
    (hfields : List.Forall₂ AlikeField fields fields') {seats seats' : List Seat}
    (h : List.Forall₂ Seat.Alike seats seats') :
    List.Forall₂ Seat.Alike (reseatAll fields seats).1 (reseatAll fields' seats').1 := by
  induction hfields generalizing seats seats' with
  | nil => exact h
  | @cons f f' _ _ hf _ ih =>
    obtain ⟨name, value⟩ := f
    obtain ⟨name', value'⟩ := f'
    obtain ⟨rfl, hvalue⟩ := hf
    have hreseat := alike_reseat name hvalue h
    rw [reseatAll, reseatAll]
    cases hleft : reseat name value seats with
    | none =>
      cases hright : reseat name value' seats' with
      | none => exact ih h
      | some more' =>
        rw [hleft, hright] at hreseat
        cases hreseat
    | some more =>
      cases hright : reseat name value' seats' with
      | none =>
        rw [hleft, hright] at hreseat
        cases hreseat
      | some more' =>
        rw [hleft, hright] at hreseat
        cases hreseat with
        | some hmore => exact ih hmore

theorem alike_examine (params : List Param) {given given' : Params}
    (h : Alike given.toJson given'.toJson) :
    List.Forall₂ Seat.Alike (examine params given).2 (examine params given').2 := by
  obtain ⟨hpositional, hkeyword⟩ := alike_toJson_iff.mp h
  exact alike_reseatAll hkeyword (alike_seat params hpositional)

/-! ### What handlers see -/

/-- Arguments are bound exactly if there are no violations; then every seat is read off. -/
theorem bind_checked_eq_ok_iff {params : List Param} {given : Params} {args : Arguments} :
    bind (.checked params) given = .ok args ↔ (examine params given).1 = [] ∧
      args = ⟨(examine params given).2.filterMap Seat.binding?⟩ := by
  rw [bind]
  split
  · next seats h =>
    rw [h, Except.ok.injEq]
    exact ⟨fun h => ⟨rfl, h.symm⟩, fun h => h.2.symm⟩
  · next violations seats hne h =>
    rw [h]
    constructor
    · exact fun h => nomatch h
    · rintro ⟨rfl, -⟩
      exact (hne rfl).elim

theorem violations_eq_nil_of_examine {params : List Param} {given : Params}
    (h : (examine params given).1 = []) : ∀ s ∈ (examine params given).2, Seat.violations s = [] := by
  have hall := (List.append_eq_nil_iff.mp h).2
  exact List.flatMap_eq_nil_iff.mp hall

/-- A seat with an argument of a scalar type and no violation reads off what a seat like it does. -/
theorem binding?_eq_of_alike {s s' : Seat} (h : s.Alike s') (hscalar : s.param.type.isScalar = true)
    (hs : Seat.violations s = []) (hs' : Seat.violations s' = []) :
    Seat.binding? s = Seat.binding? s' := by
  obtain ⟨param, given⟩ := s
  obtain ⟨param', given'⟩ := s'
  obtain ⟨hparam, hgiven⟩ := h
  obtain rfl : param = param' := hparam
  cases hgiven with
  | none => rfl
  | some hvalue =>
    have heq := hvalue.eq_of_isFloatless (ParamType.isFloatless_of_check hscalar hs)
      (ParamType.isFloatless_of_check hscalar hs')
    rw [heq]

theorem filterMap_binding?_eq_of_alike {seats seats' : List Seat}
    (h : List.Forall₂ Seat.Alike seats seats')
    (hscalar : ∀ s ∈ seats, s.param.type.isScalar = true)
    (hs : ∀ s ∈ seats, Seat.violations s = []) (hs' : ∀ s ∈ seats', Seat.violations s = []) :
    seats.filterMap Seat.binding? = seats'.filterMap Seat.binding? := by
  induction h with
  | nil => rfl
  | cons hhead _ ih =>
    rw [List.forall_mem_cons] at hscalar hs hs'
    rw [List.filterMap_cons, List.filterMap_cons,
      binding?_eq_of_alike hhead hscalar.1 hs.1 hs'.1, ih hscalar.2 hs.2 hs'.2]

/-- **Calls with arguments that are alike show a handler the same arguments**, if the parameters are
scalar and both calls are accepted. -/
theorem bind_eq_of_alike {params : List Param} (hscalar : ∀ p ∈ params, p.type.isScalar = true)
    {given given' : Params} (h : Alike given.toJson given'.toJson) {args args' : Arguments}
    (hargs : bind (.checked params) given = .ok args)
    (hargs' : bind (.checked params) given' = .ok args') : args = args' := by
  obtain ⟨hnone, rfl⟩ := bind_checked_eq_ok_iff.mp hargs
  obtain ⟨hnone', rfl⟩ := bind_checked_eq_ok_iff.mp hargs'
  have hseats : ∀ s ∈ (examine params given).2, s.param.type.isScalar = true := by
    intro s hs
    refine hscalar s.param ?_
    rw [← map_param_examine params given]
    exact List.mem_map_of_mem hs
  rw [filterMap_binding?_eq_of_alike (alike_examine params h) hseats
    (violations_eq_nil_of_examine hnone) (violations_eq_nil_of_examine hnone')]

end Schema

end IndexGateway

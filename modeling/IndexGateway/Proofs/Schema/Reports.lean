import IndexGateway.Proofs.Schema.Binding
import IndexGateway.Proofs.Text.Safe

/-!
# What reports repeat

The report about the arguments of a call is put together from names of parameters,
positions, names of types and fixed texts, and from two kinds of texts that the caller
chose: names that are not declared, and keys of objects. Where no type looks into objects,
only the first are left, and each of them is repeated as it is: a report is safe exactly if
they are (`Schema.isSafe_report_iff`).
-/

namespace IndexGateway

open Json Text

/-! ### Violations of a type -/

namespace ParamType

/-- Whether the violations of a type never show the key of an object. A union shows its own name
only, whatever its members look into. -/
def isKeyless : ParamType → Bool
  | .mapping _ _ => false
  | .optional inner => inner.isKeyless
  | .list inner => inner.isKeyless
  | _ => true

theorem isSafe_alternatives {members : List ParamType} (h : ∀ t ∈ members, IsSafe t.text) :
    IsSafe (alternatives members) := by
  induction members with
  | nil => decide
  | cons t members ih =>
    rw [List.forall_mem_cons] at h
    rw [alternatives, isSafe_append, isSafe_append]
    exact ⟨⟨by decide, h.1⟩, ih h.2⟩

/-- The name of a type is made of fixed texts. -/
theorem isSafe_text (t : ParamType) : IsSafe t.text := by
  induction t using ParamType.induct with
  | any | bool | int | str => decide
  | optional inner ih =>
    rw [text, isSafe_append]
    exact ⟨ih, by decide⟩
  | list inner ih =>
    rw [text, isSafe_append, isSafe_append]
    exact ⟨⟨by decide, ih⟩, by decide⟩
  | mapping key value ihkey ihvalue =>
    rw [text]
    simp only [isSafe_append]
    exact ⟨⟨⟨⟨by decide, ihkey⟩, by decide⟩, ihvalue⟩, by decide⟩
  | union members ih =>
    cases members with
    | nil => decide
    | cons t members =>
      rw [List.forall_mem_cons] at ih
      rw [text, isSafe_append]
      exact ⟨ih.1, isSafe_alternatives ih.2⟩

theorem isSafe_extend {path segment : String} (hpath : IsSafe path) (hsegment : IsSafe segment) :
    IsSafe (extend path segment) := by
  unfold extend
  split
  · exact hsegment
  · rw [isSafe_append, isSafe_append]
    exact ⟨⟨hpath, by decide⟩, hsegment⟩

theorem isSafe_message {path : String} {reason : Violation.Reason} (hreason : IsSafe reason.message) :
    IsSafe (Violation.message ⟨path, reason⟩) ↔ IsSafe path := by
  have hcolon : IsSafe ": " := by decide
  simp [Violation.message, hreason, hcolon]

/-- What is reported of a value at a safe path is safe, if the type shows no keys. -/
theorem isSafe_of_mem_check {t : ParamType} (ht : t.isKeyless = true) {v : Json} {path : String}
    (hpath : IsSafe path) : ∀ violation ∈ t.check v path, IsSafe violation.message := by
  have hsingle : ∀ {reason : Violation.Reason}, IsSafe reason.message →
      ∀ violation ∈ [Violation.mk path reason], IsSafe violation.message := by
    intro reason hreason
    exact List.forall_mem_singleton.mpr ((isSafe_message hreason).mpr hpath)
  induction t using ParamType.induct generalizing v path with
  | any => exact List.forall_mem_nil _
  | bool | int | str =>
    rw [check]
    split
    · exact List.forall_mem_nil _
    · exact hsingle (by decide)
  | optional inner ih =>
    rw [check.eq_def]
    dsimp only
    split
    · exact List.forall_mem_nil _
    · exact ih ht hpath hsingle
  | list inner ih =>
    rw [check.eq_def]
    dsimp only
    split
    · intro violation hmem
      obtain ⟨⟨item, i⟩, -, hmem⟩ := List.mem_flatMap.mp hmem
      have hitem := isSafe_extend hpath (isSafe_ofNat i)
      exact ih ht hitem
        (fun hreason => List.forall_mem_singleton.mpr ((isSafe_message hreason).mpr hitem)) violation hmem
    · exact hsingle (by decide)
  | mapping key value => cases ht
  | union members =>
    rw [check]
    split
    · exact List.forall_mem_nil _
    · have hbefore : IsSafe "input should be " := by decide
      exact hsingle (isSafe_append.mpr ⟨hbefore, isSafe_text _⟩)

end ParamType

/-! ### Reports -/

namespace Schema

variable {params : List Param} {given : Params}

theorem isSafe_of_mem_problemsAt {place : Nat} {p : Param} (hkeyless : p.type.isKeyless = true)
    (hname : IsSafe p.name) :
    ∀ violation ∈ problemsAt params given place p, IsSafe violation.message := by
  unfold problemsAt
  split
  · exact ParamType.isSafe_of_mem_check hkeyless hname
  · exact nofun
  · refine List.forall_mem_singleton.mpr ((ParamType.isSafe_message ?_).mpr hname)
    decide

/-- **A report is safe exactly if all names in it are that were given and are not declared**, where the
names of the parameters are safe and no type shows the keys of objects. -/
theorem isSafe_report_iff (hkeyless : ∀ p ∈ params, p.type.isKeyless = true)
    (hnames : ∀ p ∈ params, IsSafe p.name) : IsSafe (report (problems params given)) ↔
      ∀ name ∈ keys given.keyword, name ∉ params.map Param.name → IsSafe name := by
  have hplaces : ∀ violation ∈ (params.mapIdx (problemsAt params given)).flatten,
      IsSafe violation.message := by
    intro violation hmem
    obtain ⟨found, hfound, hmem⟩ := List.mem_flatten.mp hmem
    obtain ⟨place, hplace, rfl⟩ := List.mem_mapIdx.mp hfound
    have hp := List.getElem_mem hplace
    exact isSafe_of_mem_problemsAt (hkeyless _ hp) (hnames _ hp) violation hmem
  have hsurplus : IsSafe (Violation.Reason.message .unexpectedPositional) := by decide
  have hunknown : IsSafe (Violation.Reason.message .unexpectedKeyword) := by decide
  rw [report, isSafe_intercalate_iff (by decide), List.forall_mem_map, problems]
  simp only [List.forall_mem_append, List.forall_mem_map, ParamType.isSafe_message hsurplus,
    ParamType.isSafe_message hunknown, and_iff_left hplaces, List.mem_filter, decide_eq_true_eq, and_imp]
  exact and_iff_right fun place _ => isSafe_ofNat place

end Schema

end IndexGateway

import IndexGateway.ProjectName
import IndexGateway.Proofs.Text.Lowercase
import Mathlib.Data.List.Chain
import Mathlib.Logic.Relation

/-!
# Spellings of a name

The canonical form of a name is found in one pass from left to right, which only
remembers whether the last character was a separator. What it means is said by the ways
to respell a name that leave its form as it is.

## The model

A name is respelled by putting another run of separators in the place of one that is as
long as it can be, or the lower case of a character in the place of the character
(`Respelled`). Two spellings belong together if such steps, taken forth and back, lead
from one to the other.

## What is proved

* `canonicalFrom_append` — the pass over a text goes on behind a part of it, and all that
  it knows about that part is whether it ends with a separator.
* `canonicalChars_eq_self_iff` — the texts that are their own canonical form are those in
  lower case whose separators are single dashes.
* `canonical_spellings` — the canonical form is such a text, it is kept by each step, and
  the steps connect all names that have it.
-/

namespace IndexGateway.ProjectName

open Text Relation

variable {name name' run run' before behind : List Char} {c d : Char}

/-! ### Separators and lower case -/

theorem isSeparator_iff : isSeparator c = true ↔ c = '-' ∨ c = '_' ∨ c = '.' := by
  simp [isSeparator, or_assoc]

/-- A separator is its own lower case. -/
theorem ofChar_of_isSeparator (h : isSeparator c = true) : Lowercase.ofChar c = [c] := by
  rcases isSeparator_iff.mp h with rfl | rfl | rfl <;> decide +kernel

/-- **Lower case makes no separator** of another character. -/
theorem eq_of_isSeparator_of_mem_ofChar (hd : d ∈ Lowercase.ofChar c) (h : isSeparator d = true) :
    d = c := by
  refine (Lowercase.eq_or_lt_of_mem_ofChar hd).resolve_right ?_
  rcases isSeparator_iff.mp h with rfl | rfl | rfl <;> decide

theorem isSeparator_of_mem_ofChar (hc : isSeparator c = false) (hd : d ∈ Lowercase.ofChar c) :
    isSeparator d = false := by
  rw [← Bool.not_eq_true]
  intro hseparator
  rw [eq_of_isSeparator_of_mem_ofChar hd hseparator, hc] at hseparator
  exact Bool.false_ne_true hseparator

/-- A run of separators, with at least one of them. -/
structure IsRun (run : List Char) : Prop where
  /-- There is a separator. -/
  ne_nil : run ≠ []
  /-- There is nothing else. -/
  separators : ∀ c ∈ run, isSeparator c = true

/-! ### The pass over a text -/

/-- Whether a separator stands in front of what follows a text; the first argument tells whether one
stands in front of the text. -/
def endsInSeparator (afterSeparator : Bool) (name : List Char) : Bool :=
  (name.getLast?.map isSeparator).getD afterSeparator

theorem endsInSeparator_cons (b : Bool) (c : Char) (rest : List Char) :
    endsInSeparator b (c :: rest) = endsInSeparator (isSeparator c) rest := by
  cases hlast : rest.getLast? <;> simp [endsInSeparator, List.getLast?_cons, hlast]

/-- All characters of a text are separators, or none is. -/
theorem endsInSeparator_of_forall {s : Bool} (hne : name ≠ []) (h : ∀ c ∈ name, isSeparator c = s)
    (b : Bool) : endsInSeparator b name = s := by
  rw [endsInSeparator, List.getLast?_eq_some_getLast hne]
  exact h _ (List.getLast_mem hne)

theorem canonicalFrom_cons_of_not (hc : isSeparator c = false) (b : Bool) (rest : List Char) :
    canonicalFrom b (c :: rest) = Lowercase.ofChar c ++ canonicalFrom false rest := by
  rw [canonicalFrom, hc]
  rfl

theorem canonicalFrom_cons_of_isSeparator (hc : isSeparator c = true) (b : Bool) (rest : List Char) :
    canonicalFrom b (c :: rest) = (if b then [] else ['-']) ++ canonicalFrom true rest := by
  rw [canonicalFrom, if_pos hc]
  cases b <;> rfl

/-- **The pass goes on behind a part of a text**, and knows of it only how it ends. -/
theorem canonicalFrom_append (b : Bool) (before behind : List Char) :
    canonicalFrom b (before ++ behind) =
      canonicalFrom b before ++ canonicalFrom (endsInSeparator b before) behind := by
  induction before generalizing b with
  | nil => rfl
  | cons c before ih =>
    cases hc : isSeparator c with
    | false =>
      rw [List.cons_append, canonicalFrom_cons_of_not hc, canonicalFrom_cons_of_not hc, ih,
        endsInSeparator_cons, hc, List.append_assoc]
    | true =>
      rw [List.cons_append, canonicalFrom_cons_of_isSeparator hc, canonicalFrom_cons_of_isSeparator hc,
        ih, endsInSeparator_cons, hc, List.append_assoc]

/-- Behind a separator, more of them are passed over. -/
theorem canonicalFrom_true_of_separators (h : ∀ c ∈ run, isSeparator c = true) :
    canonicalFrom true run = [] := by
  induction run with
  | nil => rfl
  | cons c run ih =>
    obtain ⟨hc, hrun⟩ := List.forall_mem_cons.mp h
    rw [canonicalFrom_cons_of_isSeparator hc, ih hrun]
    rfl

/-- **All runs of separators are passed alike.** -/
theorem IsRun.canonicalFrom_eq (h : IsRun run) (b : Bool) :
    canonicalFrom b run = if b then [] else ['-'] := by
  cases run with
  | nil => exact absurd rfl h.ne_nil
  | cons c run =>
    obtain ⟨hc, hrun⟩ := List.forall_mem_cons.mp h.separators
    rw [canonicalFrom_cons_of_isSeparator hc, canonicalFrom_true_of_separators hrun, List.append_nil]

theorem IsRun.endsInSeparator_eq (h : IsRun run) (b : Bool) : endsInSeparator b run = true :=
  endsInSeparator_of_forall h.ne_nil h.separators b

/-- In front of a character that is none, it does not matter whether there was a separator. -/
theorem canonicalFrom_eq_of_head? (h : ∀ c ∈ name.head?, isSeparator c = false) (b b' : Bool) :
    canonicalFrom b name = canonicalFrom b' name := by
  cases name with
  | nil => rfl
  | cons c name =>
    have hc : isSeparator c = false := h c rfl
    rw [canonicalFrom_cons_of_not hc, canonicalFrom_cons_of_not hc]

/-- A run of separators in front of what is none becomes a dash. -/
theorem IsRun.canonicalFrom_append (h : IsRun run)
    (hbehind : ∀ c ∈ behind.head?, isSeparator c = false) :
    canonicalFrom false (run ++ behind) = ['-'] ++ canonicalFrom false behind := by
  rw [ProjectName.canonicalFrom_append, h.canonicalFrom_eq, h.endsInSeparator_eq,
    canonicalFrom_eq_of_head? hbehind true false]
  rfl

/-- A text that begins with a separator begins with a run that is as long as it can be. -/
theorem exists_run (hc : isSeparator c = true) (rest : List Char) :
    ∃ run behind, c :: rest = run ++ behind ∧ IsRun run ∧
      ∀ d ∈ behind.head?, isSeparator d = false := by
  refine ⟨c :: rest.takeWhile isSeparator, rest.dropWhile isSeparator, ?_, ?_, fun d hd => ?_⟩
  · rw [List.cons_append, List.takeWhile_append_dropWhile]
  · exact ⟨List.cons_ne_nil _ _, List.forall_mem_cons.mpr
      ⟨hc, List.all_eq_true.mp List.all_takeWhile⟩⟩
  · have hfirst := List.head?_dropWhile_not isSeparator rest
    rw [Option.mem_def.mp hd] at hfirst
    exact hfirst

/-! ### Canonical texts -/

/-- **A text in lower case whose separators are single dashes.** -/
structure IsCanonical (name : List Char) : Prop where
  /-- Each character is its own lower case. -/
  lower : ∀ c ∈ name, Lowercase.ofChar c = [c]
  /-- Each separator is a dash. -/
  dash : ∀ c ∈ name, isSeparator c = true → c = '-'
  /-- No separator follows another one. -/
  single : name.IsChain fun c d => ¬ (isSeparator c = true ∧ isSeparator d = true)

theorem IsCanonical.tail (h : IsCanonical (c :: name)) : IsCanonical name where
  lower := (List.forall_mem_cons.mp h.lower).2
  dash := (List.forall_mem_cons.mp h.dash).2
  single := (List.isChain_cons.mp h.single).2

/-- Nothing is to be said about separators where there are none. -/
theorem isChain_of_forall (h : ∀ c ∈ name, isSeparator c = false) :
    name.IsChain fun c d => ¬ (isSeparator c = true ∧ isSeparator d = true) := by
  refine (List.pairwise_of_forall_mem_list fun c hc d _ => ?_).isChain
  simp [h c hc]

theorem isCanonical_ofChar (hc : isSeparator c = false) : IsCanonical (Lowercase.ofChar c) where
  lower _ hd := Lowercase.ofChar_of_mem hd
  dash d hd hseparator := by
    rw [isSeparator_of_mem_ofChar hc hd] at hseparator
    exact absurd hseparator Bool.false_ne_true
  single := isChain_of_forall fun _ hd => isSeparator_of_mem_ofChar hc hd

/-- The pass makes lower-case characters and dashes only. -/
theorem mem_canonicalFrom (b : Bool) (hd : d ∈ canonicalFrom b name) :
    Lowercase.ofChar d = [d] ∧ (isSeparator d = true → d = '-') := by
  induction name generalizing b with
  | nil => cases hd
  | cons c name ih =>
    cases hc : isSeparator c with
    | false =>
      rw [canonicalFrom_cons_of_not hc, List.mem_append] at hd
      rcases hd with hd | hd
      · exact ⟨(isCanonical_ofChar hc).lower d hd, (isCanonical_ofChar hc).dash d hd⟩
      · exact ih false hd
    | true =>
      rw [canonicalFrom_cons_of_isSeparator hc, List.mem_append] at hd
      rcases hd with hd | hd
      · obtain rfl : d = '-' := by cases b <;> simp_all
        exact ⟨ofChar_of_isSeparator rfl, fun _ => rfl⟩
      · exact ih true hd

/-- The pass puts no separator behind another one, and none in front if one stands there. -/
theorem isChain_canonicalFrom (b : Bool) (name : List Char) :
    (canonicalFrom b name).IsChain (fun c d => ¬ (isSeparator c = true ∧ isSeparator d = true)) ∧
      (b = true → ∀ d ∈ (canonicalFrom b name).head?, isSeparator d = false) := by
  induction name generalizing b with
  | nil => exact ⟨List.isChain_nil, fun _ => nofun⟩
  | cons c name ih =>
    cases hc : isSeparator c with
    | false =>
      have hform : ∀ d ∈ Lowercase.ofChar c, isSeparator d = false :=
        fun d hd => isSeparator_of_mem_ofChar hc hd
      rw [canonicalFrom_cons_of_not hc, List.isChain_append]
      refine ⟨⟨(isCanonical_ofChar hc).single, (ih false).1, fun x hx y _ => ?_⟩, fun _ d hd => ?_⟩
      · simp [hform x (List.mem_of_getLast? hx)]
      · rw [List.head?_append_of_ne_nil _ (Lowercase.ofChar_ne_nil c)] at hd
        exact hform d (List.mem_of_head? hd)
    | true =>
      obtain ⟨hchain, hhead⟩ := ih true
      rw [canonicalFrom_cons_of_isSeparator hc]
      cases b with
      | true => exact ⟨hchain, hhead⟩
      | false =>
        refine ⟨List.isChain_cons.mpr ⟨fun d hd => ?_, hchain⟩, nofun⟩
        simp [hhead rfl d hd]

theorem isCanonical_canonicalChars (name : List Char) : IsCanonical (canonicalChars name) where
  lower _ hd := (mem_canonicalFrom false hd).1
  dash _ hd := (mem_canonicalFrom false hd).2
  single := (isChain_canonicalFrom false name).1

/-- The pass leaves a canonical text as it is, unless its first separator follows another one. -/
theorem IsCanonical.canonicalFrom_eq (h : IsCanonical name) (b : Bool)
    (hb : b = true → ∀ d ∈ name.head?, isSeparator d = false) : canonicalFrom b name = name := by
  induction name generalizing b with
  | nil => rfl
  | cons c name ih =>
    cases hc : isSeparator c with
    | false =>
      rw [canonicalFrom_cons_of_not hc, h.lower c List.mem_cons_self, ih h.tail false nofun]
      rfl
    | true =>
      have hfresh : b = false := by
        rw [← Bool.not_eq_true]
        intro hafter
        rw [hb hafter c rfl] at hc
        exact Bool.false_ne_true hc
      have hnext : ∀ d ∈ name.head?, isSeparator d = false := by
        intro d hd
        simpa [hc] using (List.isChain_cons.mp h.single).1 d hd
      obtain rfl := h.dash c List.mem_cons_self hc
      rw [canonicalFrom_cons_of_isSeparator hc, hfresh, ih h.tail true fun _ => hnext]
      rfl

/-- **The texts that are their own canonical form** are those in lower case with single dashes. -/
theorem canonicalChars_eq_self_iff : canonicalChars name = name ↔ IsCanonical name := by
  constructor
  · intro h
    rw [← h]
    exact isCanonical_canonicalChars name
  · exact fun h => h.canonicalFrom_eq false nofun

/-! ### Respelling -/

/-- **One step from a spelling to another one.** -/
inductive Respelled : List Char → List Char → Prop where
  /-- Another run of separators takes the place of one that is as long as it can be. -/
  | separators {before run run' behind : List Char} (hrun : IsRun run) (hrun' : IsRun run')
      (hbefore : ∀ c ∈ before.getLast?, isSeparator c = false)
      (hbehind : ∀ c ∈ behind.head?, isSeparator c = false) :
      Respelled (before ++ run ++ behind) (before ++ run' ++ behind)
  /-- The lower case of a character takes its place. -/
  | lower {before behind : List Char} {c : Char} :
      Respelled (before ++ [c] ++ behind) (before ++ Lowercase.ofChar c ++ behind)

/-- Parts that are passed alike, after a separator or not, can take each other's place. -/
theorem canonicalChars_replace (hform : ∀ b, canonicalFrom b run = canonicalFrom b run')
    (hends : ∀ b, endsInSeparator b run = endsInSeparator b run') (before behind : List Char) :
    canonicalChars (before ++ run ++ behind) = canonicalChars (before ++ run' ++ behind) := by
  simp only [canonicalChars, List.append_assoc, canonicalFrom_append, hform, hends]

/-- A character is passed like its lower case. -/
theorem canonicalFrom_ofChar (b : Bool) (c : Char) :
    canonicalFrom b [c] = canonicalFrom b (Lowercase.ofChar c) ∧
      endsInSeparator b [c] = endsInSeparator b (Lowercase.ofChar c) := by
  cases hc : isSeparator c with
  | true =>
    rw [ofChar_of_isSeparator hc]
    exact ⟨rfl, rfl⟩
  | false =>
    have hform : ∀ d ∈ Lowercase.ofChar c, isSeparator d = false :=
      fun d hd => isSeparator_of_mem_ofChar hc hd
    constructor
    · rw [canonicalFrom_cons_of_not hc, (isCanonical_ofChar hc).canonicalFrom_eq b fun _ d hd =>
        hform d (List.mem_of_head? hd)]
      exact List.append_nil _
    · rw [endsInSeparator_of_forall (Lowercase.ofChar_ne_nil c) hform]
      exact hc

/-- **A respelled name has the same canonical form.** -/
theorem Respelled.canonicalChars_eq (h : Respelled name name') :
    canonicalChars name = canonicalChars name' := by
  cases h with
  | separators hrun hrun' _ _ =>
    refine canonicalChars_replace (fun b => ?_) (fun b => ?_) _ _
    · rw [hrun.canonicalFrom_eq, hrun'.canonicalFrom_eq]
    · rw [hrun.endsInSeparator_eq, hrun'.endsInSeparator_eq]
  | @lower _ _ c =>
    exact canonicalChars_replace (fun b => (canonicalFrom_ofChar b c).1)
      (fun b => (canonicalFrom_ofChar b c).2) _ _

/-- **A name is respelled into its canonical form, from left to right.** The induction is on the length
of what is left. The part that is done may end with a dash only if no separator follows, since a run
is replaced as a whole. -/
theorem eqvGen_canonicalFrom (before name : List Char)
    (hstart : (∀ c ∈ before.getLast?, isSeparator c = false) ∨
      ∀ c ∈ name.head?, isSeparator c = false) :
    EqvGen Respelled (before ++ name) (before ++ canonicalFrom false name) := by
  induction hn : name.length using Nat.strongRecOn generalizing before name with
  | ind n ih =>
    subst hn
    cases name with
    | nil => exact .refl _
    | cons c rest =>
      cases hc : isSeparator c with
      | false =>
        have hstep : Respelled (before ++ [c] ++ rest) (before ++ Lowercase.ofChar c ++ rest) := .lower
        have hlast : ∀ d ∈ (before ++ Lowercase.ofChar c).getLast?, isSeparator d = false := by
          rw [List.getLast?_append_of_ne_nil _ (Lowercase.ofChar_ne_nil c)]
          exact fun d hd => isSeparator_of_mem_ofChar hc (List.mem_of_getLast? hd)
        have hrest := ih rest.length (Nat.lt_succ_self _) _ rest (.inl hlast) rfl
        rw [canonicalFrom_cons_of_not hc, List.append_cons, ← List.append_assoc]
        exact .trans _ _ _ (.rel _ _ hstep) hrest
      | true =>
        obtain ⟨run, behind, hsplit, hrun, hbehind⟩ := exists_run hc rest
        have hdash : IsRun ['-'] := ⟨List.cons_ne_nil _ _, List.forall_mem_singleton.mpr rfl⟩
        have hbefore : ∀ d ∈ before.getLast?, isSeparator d = false := by
          refine hstart.resolve_right fun hhead => ?_
          rw [hhead c rfl] at hc
          exact Bool.false_ne_true hc
        have hlt : behind.length < (c :: rest).length := by
          rw [hsplit, List.length_append]
          exact Nat.lt_add_of_pos_left (List.length_pos_iff.mpr hrun.ne_nil)
        have hrest := ih behind.length hlt (before ++ ['-']) behind (.inr hbehind) rfl
        rw [hsplit, hrun.canonicalFrom_append hbehind, ← List.append_assoc, ← List.append_assoc]
        exact .trans _ _ _ (.rel _ _ (.separators hrun hdash hbefore hbehind)) hrest

theorem eqvGen_canonicalChars (name : List Char) : EqvGen Respelled name (canonicalChars name) :=
  eqvGen_canonicalFrom [] name (.inl nofun)

/-- **Two texts have the same canonical form exactly if one can be respelled into the other.** -/
theorem canonicalChars_eq_iff_eqvGen :
    canonicalChars name = canonicalChars name' ↔ EqvGen Respelled name name' := by
  constructor
  · intro h
    have hback := EqvGen.symm _ _ (eqvGen_canonicalChars name')
    rw [← h] at hback
    exact .trans _ _ _ (eqvGen_canonicalChars name) hback
  · intro h
    induction h with
    | rel _ _ hstep => exact hstep.canonicalChars_eq
    | refl _ => rfl
    | symm _ _ _ ih => exact ih.symm
    | trans _ _ _ _ _ ih ih' => exact ih.trans ih'

/-! ### Names -/

@[simp] theorem toList_canonical (n : String) : (canonical n).toList = canonicalChars n.toList :=
  String.toList_ofList

theorem canonical_eq_iff {n m : String} :
    canonical n = canonical m ↔ canonicalChars n.toList = canonicalChars m.toList := by
  rw [← String.toList_inj, toList_canonical, toList_canonical]

/-- **One spelling stands for all spellings of a name.** The canonical form of a name has no underscore
and no dot, and no dash behind a dash; and it is its own canonical form. A name that is respelled in
one step, by another run of separators in the place of a whole run or by the lower case of one of its
characters, keeps its canonical form; and names with the same canonical form are connected by a
chain of such steps, forth and back. -/
theorem canonical_spellings (n : String) :
    (∀ c ∈ (canonical n).toList, c ≠ '_' ∧ c ≠ '.') ∧
    (∀ before behind, (canonical n).toList ≠ before ++ '-' :: '-' :: behind) ∧
    canonical (canonical n) = canonical n ∧
    (∀ m : String, Respelled n.toList m.toList → canonical m = canonical n) ∧
    ∀ m : String, canonical m = canonical n → EqvGen Respelled n.toList m.toList := by
  have hcanonical : IsCanonical (canonical n).toList := by
    rw [toList_canonical]
    exact isCanonical_canonicalChars n.toList
  refine ⟨fun c hc => ?_, fun before behind hsplit => ?_, ?_, fun m hstep => ?_, fun m hsame => ?_⟩
  · have hdash := hcanonical.dash c hc
    constructor <;> rintro rfl <;> exact absurd (hdash rfl) (by decide)
  · have hsingle := hcanonical.single
    rw [hsplit, List.isChain_append_cons_cons] at hsingle
    exact hsingle.2.1 ⟨rfl, rfl⟩
  · rw [← String.toList_inj, toList_canonical]
    exact canonicalChars_eq_self_iff.mpr hcanonical
  · exact canonical_eq_iff.mpr hstep.canonicalChars_eq.symm
  · exact canonicalChars_eq_iff_eqvGen.mp (canonical_eq_iff.mp hsame).symm

/-- A run at the end of a name counts like one inside: another run takes its place. -/
theorem canonical_spellings_zope :
    let n := "_.Zope.._-INTERFACE-"
    let m := "-Zope.._-INTERFACE-"
    Respelled n.toList m.toList ∧ canonical m = canonical n ∧ canonical n = "-zope-interface-" ∧
      EqvGen Respelled n.toList "-zope-interface-".toList := by
  intro n m
  have hrun : IsRun "_.".toList := ⟨by decide, List.all_eq_true.mp rfl⟩
  have hrun' : IsRun "-".toList := ⟨by decide, List.all_eq_true.mp rfl⟩
  have hbehind : ∀ c ∈ "Zope.._-INTERFACE-".toList.head?, isSeparator c = false := by
    intro c hc
    obtain rfl : 'Z' = c := Option.some.inj hc
    rfl
  have hsplit : n.toList = "_.".toList ++ "Zope.._-INTERFACE-".toList := by decide
  have hsplit' : m.toList = "-".toList ++ "Zope.._-INTERFACE-".toList := by decide
  have hstep : Respelled n.toList m.toList := by
    rw [hsplit, hsplit']
    exact @Respelled.separators [] _ _ _ hrun hrun' nofun hbehind
  obtain ⟨-, -, hself, hkept, hconnected⟩ := canonical_spellings n
  have hn : canonical n = "-zope-interface-" := by decide +kernel
  rw [hn] at hself
  refine ⟨hstep, hkept m hstep, hn, hconnected _ ?_⟩
  rw [hn, hself]

end IndexGateway.ProjectName

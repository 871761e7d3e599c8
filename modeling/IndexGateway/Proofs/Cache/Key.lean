import IndexGateway.Cache.Responses
import IndexGateway.Proofs.Json.Alike

/-!
# The keys of stored responses

A key is the name of a method, a colon and the text of the arguments. A name may
hold colons, quotes and braces, so a key does not show at once where the name ends.
The text of arguments settles it: no proper end of it is, behind a colon, again the
text of arguments (`toJson_chars_ne`).

## The model

The proof runs a small automaton over texts that keeps the depth of brackets and
knows whether it stands in a text. A value brings it back to the depth at which it
was, and the text of arguments takes it from its first to its last state. If the
text of arguments began once more inside, it would either stand outside texts and
bring the automaton back where it was, which is not the last state; or it would
stand in a text, which its first quote would close, and the `p` behind that quote
stands outside of texts in no value.

## What is proved

Two calls share a key exactly if they have the same method and arguments that are
alike, in the same order (`responseKey_eq_iff`).
-/

namespace IndexGateway

open Json Number

/-- Where a scan of the text of arguments stands. -/
inductive Scan where
  /-- At the beginning. -/
  | before
  /-- Outside of texts, in so many brackets besides the outermost. -/
  | outside (depth : Nat)
  /-- In a text. -/
  | inside (depth : Nat)
  /-- In a text, behind a backslash. -/
  | escaped (depth : Nat)
  /-- Behind the last bracket. -/
  | complete
  /-- Behind something that stands in no text of arguments. -/
  | stuck
  deriving DecidableEq

namespace Scan

/-- Where a scan stands that leaves a bracket. -/
def leave : Nat → Scan
  | 0 => complete
  | depth + 1 => outside depth

/-- Where a scan stands behind one more character. -/
def step : Scan → Char → Scan
  | before, c => if c = '{' then outside 0 else stuck
  | outside depth, c =>
    if c = '"' then inside depth
    else if c = '{' ∨ c = '[' then outside (depth + 1)
    else if c = '}' ∨ c = ']' then leave depth
    else if c = 'p' then stuck
    else outside depth
  | inside depth, c =>
    if c = '"' then outside depth else if c = '\\' then escaped depth else inside depth
  | escaped depth, _ => inside depth
  | complete, _ => stuck
  | stuck, _ => stuck

/-- Where a scan stands behind a text. -/
def through (s : Scan) (text : List Char) : Scan := text.foldl step s

@[simp] theorem through_cons (s : Scan) (c : Char) (text : List Char) :
    s.through (c :: text) = (s.step c).through text := rfl

@[simp] theorem through_append (s : Scan) (text more : List Char) :
    s.through (text ++ more) = (s.through text).through more := List.foldl_append

theorem through_stuck (text : List Char) : stuck.through text = stuck := by
  induction text with
  | nil => rfl
  | cons c text ih => exact ih

/-! ### Through values -/

theorem through_escapeChar (depth : Nat) (c : Char) :
    (inside depth).through (escapeChar c) = inside depth := by
  have hdigit : ∀ n < 16, Nat.digitChar n ≠ '"' ∧ Nat.digitChar n ≠ '\\' := by decide
  unfold escapeChar
  split
  · rfl
  split
  · rfl
  split
  · rfl
  split
  · rfl
  split
  · rfl
  split
  · rfl
  split
  · rfl
  split
  · next h =>
    have hlt := toNat_lt_of_lt_space h
    have hhigh := hdigit (c.toNat / 16) (by omega)
    have hlow := hdigit (c.toNat % 16) (by omega)
    show (((inside depth).step (Nat.digitChar (c.toNat / 16))).step _) = _
    rw [step, if_neg hhigh.1, if_neg hhigh.2, step, if_neg hlow.1, if_neg hlow.2]
  · next h1 h2 _ _ _ _ _ _ =>
    rw [through_cons, step, if_neg h1, if_neg h2]
    rfl

theorem through_quote (depth : Nat) (s : String) :
    (outside depth).through (quote s) = outside depth := by
  have htext : ∀ cs : List Char, (inside depth).through (cs.flatMap escapeChar) = inside depth := by
    intro cs
    induction cs with
    | nil => rfl
    | cons c cs ih => rw [List.flatMap_cons, through_append, through_escapeChar, ih]
  rw [quote, List.cons_append, through_cons, through_append]
  show ((inside depth).through _).through _ = _
  rw [htext]
  rfl

/-- A character that neither opens nor closes anything leaves a scan where it is. -/
theorem step_isNumeric (depth : Nat) {c : Char} (h : isNumeric c = true) :
    (outside depth).step c = outside depth := by
  have hne : ∀ d, isNumeric d = false → c ≠ d := by
    rintro d hd rfl
    rw [h] at hd
    exact Bool.noConfusion hd
  simp only [step, hne '"' rfl, hne '{' rfl, hne '[' rfl, hne '}' rfl, hne ']' rfl, hne 'p' rfl,
    or_self, if_false]

theorem through_number (depth : Nat) (n : Number) :
    (outside depth).through n.text = outside depth := by
  have hall := (isNumeral_text n).all
  generalize n.text = text at hall
  induction text with
  | nil => rfl
  | cons c text ih =>
    obtain ⟨hc, htext⟩ := List.forall_mem_cons.mp hall
    rw [through_cons, step_isNumeric depth hc]
    exact ih htext

theorem through_itemChars {items : List Json} (depth : Nat)
    (h : ∀ v ∈ items, (outside depth).through v.chars = outside depth) :
    (outside depth).through (itemChars items) = leave depth := by
  induction items with
  | nil => rfl
  | cons v items ih =>
    obtain ⟨hv, hitems⟩ := List.forall_mem_cons.mp h
    rw [itemChars, List.cons_append, through_cons, through_append]
    show ((outside depth).through _).through _ = _
    rw [hv, ih hitems]

theorem through_fieldChars {fields : List (String × Json)} (depth : Nat)
    (h : ∀ f ∈ fields, (outside depth).through f.2.chars = outside depth) :
    (outside depth).through (fieldChars fields) = leave depth := by
  induction fields with
  | nil => rfl
  | cons f fields ih =>
    obtain ⟨k, v⟩ := f
    obtain ⟨hv, hfields⟩ := List.forall_mem_cons.mp h
    rw [fieldChars, List.append_assoc, List.cons_append, List.cons_append, through_cons, through_append]
    show ((outside depth).through _).through _ = _
    rw [through_quote, through_cons, through_append]
    show ((outside depth).through _).through _ = _
    rw [hv, ih hfields]

/-- The text of a value brings a scan back where it was. -/
theorem through_chars (depth : Nat) (v : Json) :
    (outside depth).through v.chars = outside depth := by
  induction v using Json.induct generalizing depth with
  | null => rfl
  | bool b => cases b <;> rfl
  | num n => exact through_number depth n
  | str s => exact through_quote depth s
  | arr items ih =>
    cases items with
    | nil => rfl
    | cons v items =>
      exact @through_itemChars (v :: items) (depth + 1) fun v hv => ih v hv (depth + 1)
  | obj fields ih =>
    cases fields with
    | nil => rfl
    | cons f fields =>
      exact @through_fieldChars (f :: fields) (depth + 1) fun f hf => ih f hf (depth + 1)

/-! ### Through arguments -/

theorem leave_ne_before (depth : Nat) : leave depth ≠ before := by
  cases depth <;> simp [leave]

theorem step_ne_before (s : Scan) (c : Char) : s.step c ≠ before := by
  cases s <;> grind [step, leave_ne_before]

theorem step_colon_ne_escaped (s : Scan) (depth : Nat) : s.step ':' ≠ escaped depth := by
  cases s <;> simp [step]

end Scan

/-- The text of arguments. -/
theorem chars_toJson (p : Params) : ∃ rest, p.toJson.chars = '{' :: '"' :: 'p' :: rest :=
  ⟨_, rfl⟩

open Scan in
theorem through_toJson (p : Params) : before.through p.toJson.chars = complete := by
  exact @through_fieldChars [("positional", .arr p.positional), ("keyword", .obj p.keyword)] 0
    fun f _ => through_chars 0 f.2

open Scan in
/-- No proper end of the text of arguments is, behind a colon, the text of arguments. -/
theorem toJson_chars_ne (p q : Params) (front : List Char) :
    p.toJson.chars ≠ front ++ ':' :: q.toJson.chars := by
  intro h
  have hscan := through_toJson p
  obtain ⟨rest, hq⟩ := chars_toJson q
  rw [h, through_append, through_cons] at hscan
  -- where the scan stands when the inner text begins
  cases hs : (before.through front).step ':' with
  | before => exact step_ne_before _ _ hs
  | outside depth =>
    rw [hs, through_chars] at hscan
    cases hscan
  | escaped depth => exact step_colon_ne_escaped _ _ hs
  | _ =>
    rw [hs, hq] at hscan
    cases (through_stuck rest).symm.trans hscan

/-- **Keys are unambiguous**: a key determines the method and, up to floating-point numbers with the
same text, the arguments. -/
theorem alike_of_responseKey_eq {m m' : String} {p p' : Params}
    (h : responseKey m p = responseKey m' p') : m = m' ∧ Alike p.toJson p'.toJson := by
  have hchars : m.toList ++ ':' :: p.toJson.chars = m'.toList ++ ':' :: p'.toJson.chars := by
    simpa [responseKey, compact] using congrArg String.toList h
  have hends : ∀ {a b : Params} {rest : List Char}, ':' :: a.toJson.chars = rest ++ ':' :: b.toJson.chars →
      rest = [] ∧ a.toJson.chars = b.toJson.chars := by
    intro a b rest h
    cases rest with
    | nil => exact ⟨rfl, (List.cons.inj h).2⟩
    | cons c rest => exact absurd (List.cons.inj h).2 (toJson_chars_ne a b rest)
  have hboth : m = m' ∧ p.toJson.chars = p'.toJson.chars := by
    rcases List.append_eq_append_iff.mp hchars with ⟨rest, hm, hp⟩ | ⟨rest, hm, hp⟩
    · obtain ⟨rfl, htext⟩ := hends hp
      rw [List.append_nil] at hm
      exact ⟨String.toList_injective hm.symm, htext⟩
    · obtain ⟨rfl, htext⟩ := hends hp
      rw [List.append_nil] at hm
      exact ⟨String.toList_injective hm, htext.symm⟩
  exact ⟨hboth.1, chars_eq_iff_alike.mp hboth.2⟩

/-- **Calls share a key exactly if they are the same call**, but for floating-point numbers with the
same text: the same method, the same positional arguments in the same order and the same named
arguments in the same order. -/
theorem responseKey_eq_iff (m m' : String) (p p' : Params) :
    responseKey m p = responseKey m' p' ↔ m = m' ∧
      List.Forall₂ Alike p.positional p'.positional ∧
      List.Forall₂ AlikeField p.keyword p'.keyword := by
  constructor
  · intro h
    obtain ⟨hmethod, halike⟩ := alike_of_responseKey_eq h
    exact ⟨hmethod, alike_toJson_iff.mp halike⟩
  · rintro ⟨rfl, hparams⟩
    have htext : p.toJson.chars = p'.toJson.chars := (alike_toJson_iff.mpr hparams).chars_eq
    rw [responseKey, responseKey, compact, compact, htext]

end IndexGateway

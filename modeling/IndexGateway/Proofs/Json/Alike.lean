import IndexGateway.Proofs.Json.Numeral
import IndexGateway.Proofs.Json.Quoted
import IndexGateway.Proofs.Json.Shape
import IndexGateway.Request
import Mathlib.Data.List.Forall2

/-!
# Values with the same text

The compact text of a value says everything about the value but which
floating-point numbers it holds: two of them may have the same text. Values are
*alike* if they differ in nothing else.

A text that goes on behind a value shows where the value ends, unless it goes on
with a number, so two texts that begin with values and are equal begin with values
that are alike (`ends`), and values are alike exactly if they have the same text
(`chars_eq_iff_alike`). Whole numbers and floating-point numbers never share a text,
so no value of the one kind is like a value of the other (`alike_num_iff`).
-/

namespace IndexGateway.Json

open Number

/-- Two values that differ at most in floating-point numbers with the same text. -/
inductive Alike : Json → Json → Prop where
  /-- The null value is like itself. -/
  | null : Alike .null .null
  /-- A truth value is like itself. -/
  | bool (b : Bool) : Alike (.bool b) (.bool b)
  /-- Numbers with the same text. -/
  | num {n m : Number} : n.text = m.text → Alike (.num n) (.num m)
  /-- A text is like itself. -/
  | str (s : String) : Alike (.str s) (.str s)
  /-- Lists whose items are alike. -/
  | arr {items items' : List Json} : List.Forall₂ Alike items items' → Alike (.arr items) (.arr items')
  /-- Objects with the same keys, whose values are alike. -/
  | obj {fields fields' : List (String × Json)} : keys fields = keys fields' →
      List.Forall₂ Alike (fields.map Prod.snd) (fields'.map Prod.snd) →
      Alike (.obj fields) (.obj fields')

theorem alike_arr_iff {items items' : List Json} :
    Alike (.arr items) (.arr items') ↔ List.Forall₂ Alike items items' := by
  constructor
  · rintro ⟨⟩
    assumption
  · exact .arr

/-- Two fields with the same key, whose values are alike. -/
def AlikeField (f g : String × Json) : Prop := f.1 = g.1 ∧ Alike f.2 g.2

theorem alike_obj_iff {fields fields' : List (String × Json)} :
    Alike (.obj fields) (.obj fields') ↔ List.Forall₂ AlikeField fields fields' := by
  constructor
  · intro h
    cases h with
    | obj hkeys hvalues =>
      induction fields generalizing fields' with
      | nil =>
        cases fields' with
        | nil => exact .nil
        | cons g more => cases hkeys
      | cons f fields ih =>
        cases fields' with
        | nil => cases hkeys
        | cons g more =>
          obtain ⟨hkey, hkeys⟩ := List.cons.inj hkeys
          cases hvalues with
          | cons hvalue hvalues => exact .cons ⟨hkey, hvalue⟩ (ih hkeys hvalues)
  · intro h
    suffices hboth : keys fields = keys fields' ∧
        List.Forall₂ Alike (fields.map Prod.snd) (fields'.map Prod.snd) from .obj hboth.1 hboth.2
    induction h with
    | nil => exact ⟨rfl, .nil⟩
    | cons hfield _ ih => exact ⟨congrArg₂ List.cons hfield.1 ih.1, .cons hfield.2 ih.2⟩

/-- Whole numbers with the same text are the same. -/
theorem int_of_text_eq {n m : Integer} (h : Number.text (.int n) = Number.text (.int m)) : n = m := by
  obtain ⟨l, hread, hnumber⟩ := read_ofInt n stops_nil
  obtain ⟨l', hread', hnumber'⟩ := read_ofInt m stops_nil
  have htext : Text.Numeral.ofInt n.val = Text.Numeral.ofInt m.val := h
  rw [htext, hread', Option.some.injEq, Prod.mk.injEq] at hread
  rw [← hread.1, hnumber', Option.some.injEq, Number.int.injEq] at hnumber
  exact hnumber.symm

/-- Numbers are alike if they are equal, or are floating-point numbers with the same text. -/
theorem alike_num_iff {n m : Number} :
    Alike (.num n) (.num m) ↔ n = m ∨ ∃ x y : Binary64, n = .float x ∧ m = .float y ∧ x.text = y.text := by
  constructor
  · rintro ⟨⟩
    next htext =>
    cases n with
    | int i =>
      cases m with
      | int j => exact .inl (congrArg Number.int (int_of_text_eq htext))
      | float y => exact absurd htext.symm (text_float_ne_text_int y i)
    | float x =>
      cases m with
      | int j => exact absurd htext (text_float_ne_text_int x j)
      | float y => exact .inr ⟨x, y, rfl, rfl, htext⟩
  · rintro (rfl | ⟨x, y, rfl, rfl, htext⟩)
    · exact .num rfl
    · exact .num htext

theorem eq_of_forall₂_alike {vs ws : List Json} (h : List.Forall₂ Alike vs ws)
    (heq : ∀ v ∈ vs, ∀ w ∈ ws, Alike v w → v = w) : vs = ws := by
  induction h with
  | nil => rfl
  | cons hhead _ ih =>
    rw [heq _ List.mem_cons_self _ List.mem_cons_self hhead,
      ih fun v hv w hw => heq v (List.mem_cons_of_mem _ hv) w (List.mem_cons_of_mem _ hw)]

/-- Values without floating-point numbers are alike only if they are equal. -/
theorem Alike.eq_of_isFloatless {v w : Json} (h : Alike v w) (hv : IsFloatless v)
    (hw : IsFloatless w) : v = w := by
  induction v using Json.induct generalizing w with
  | null =>
    cases h
    rfl
  | bool b =>
    cases h
    rfl
  | num n =>
    cases h with
    | num htext =>
      obtain ⟨i, rfl⟩ := (isFloatless_num_iff _).mp hv
      rcases alike_num_iff.mp (.num htext) with rfl | ⟨x, _, hx, _⟩
      · rfl
      · cases hx
  | str s =>
    cases h
    rfl
  | arr items ih =>
    cases h with
    | arr hitems =>
      rw [isFloatless_arr_iff] at hv hw
      rw [eq_of_forall₂_alike hitems fun v hmem w hw' h => ih v hmem h (hv v hmem) (hw w hw')]
  | obj fields ih =>
    cases h with
    | obj hkeys hvalues =>
      rw [isFloatless_obj_iff] at hv hw
      have hsnd : fields.map Prod.snd = _ := eq_of_forall₂_alike hvalues fun v hv' w hw' h => by
        obtain ⟨f, hf, rfl⟩ := List.mem_map.mp hv'
        obtain ⟨g, hg, rfl⟩ := List.mem_map.mp hw'
        exact ih f hf h (hv f hf) (hw g hg)
      exact congrArg Json.obj ((List.zip_of_prod hkeys hsnd).trans (List.zip_of_prod rfl rfl).symm)

/-! ### Where a value ends -/

/-- The character with which the text of a value begins; a zero stands for every beginning of a
number, and one letter for both truth values. -/
def mark : Json → Char
  | .null => 'n'
  | .bool _ => 't'
  | .num _ => '0'
  | .str _ => '"'
  | .arr _ => '['
  | .obj _ => '{'

/-- The mark of the values whose text begins with a character. -/
def markOf (c : Char) : Char := if isLeading c then '0' else if c = 'f' then 't' else c

theorem chars_begins (v : Json) : ∃ c rest, v.chars = c :: rest ∧ markOf c = v.mark := by
  cases v with
  | null => exact ⟨_, _, rfl, rfl⟩
  | bool b => cases b <;> exact ⟨_, _, rfl, rfl⟩
  | num n =>
    obtain ⟨c, rest, h, hc⟩ := (isNumeral_text n).leads
    exact ⟨c, rest, h, if_pos hc⟩
  | str s => exact ⟨_, _, rfl, rfl⟩
  | arr items => cases items <;> exact ⟨_, _, rfl, rfl⟩
  | obj fields => cases fields <;> exact ⟨_, _, rfl, rfl⟩

theorem mark_eq_of_chars_append_eq {v w : Json} {rest rest' : List Char}
    (h : v.chars ++ rest = w.chars ++ rest') : v.mark = w.mark := by
  obtain ⟨c, cs, hv, hmark⟩ := chars_begins v
  obtain ⟨d, ds, hw, hmark'⟩ := chars_begins w
  rw [hv, hw, List.cons_append, List.cons_append, List.cons.injEq] at h
  rw [← hmark, ← hmark', h.1]

/-- No value begins like the end of a list. -/
theorem chars_append_ne (v : Json) (more rest rest' : List Char) :
    v.chars ++ more ++ rest ≠ ']' :: rest' := by
  intro h
  obtain ⟨c, cs, hv, hmark⟩ := chars_begins v
  rw [hv, List.cons_append, List.cons_append, List.cons.injEq] at h
  rw [h.1] at hmark
  have hne : v.mark ≠ ']' := by cases v <;> simp [mark]
  exact hne hmark.symm

section Marks

variable {v : Json}

theorem eq_null_of_mark (h : v.mark = 'n') : v = .null := by
  cases v <;> simp_all [mark]

theorem exists_of_mark_bool (h : v.mark = 't') : ∃ b, v = .bool b := by
  cases v <;> simp_all [mark]

theorem exists_of_mark_num (h : v.mark = '0') : ∃ n, v = .num n := by
  cases v <;> simp_all [mark]

theorem exists_of_mark_str (h : v.mark = '"') : ∃ s, v = .str s := by
  cases v <;> simp_all [mark]

theorem exists_of_mark_arr (h : v.mark = '[') : ∃ items, v = .arr items := by
  cases v <;> simp_all [mark]

theorem exists_of_mark_obj (h : v.mark = '{') : ∃ fields, v = .obj fields := by
  cases v <;> simp_all [mark]

end Marks

theorem stops_itemChars (items : List Json) (rest : List Char) : Stops (itemChars items ++ rest) := by
  cases items <;> exact stops_cons rfl _

theorem stops_fieldChars (fields : List (String × Json)) (rest : List Char) :
    Stops (fieldChars fields ++ rest) := by
  cases fields <;> exact stops_cons rfl _

/-- That the text of a value shows where it ends. -/
def Ends (v : Json) : Prop :=
  ∀ ⦃w : Json⦄ ⦃rest rest' : List Char⦄, Stops rest → Stops rest' →
    v.chars ++ rest = w.chars ++ rest' → Alike v w ∧ rest = rest'

theorem alike_of_itemChars_append_eq {items items' : List Json} (hitems : ∀ v ∈ items, Ends v)
    {rest rest' : List Char} (h : itemChars items ++ rest = itemChars items' ++ rest') :
    List.Forall₂ Alike items items' ∧ rest = rest' := by
  induction items generalizing items' with
  | nil =>
    cases items' with
    | nil => exact ⟨.nil, (List.cons.inj h).2⟩
    | cons w more => exact absurd (List.cons.inj h).1 (by decide)
  | cons v items ih =>
    obtain ⟨hv, hitems⟩ := List.forall_mem_cons.mp hitems
    cases items' with
    | nil => exact absurd (List.cons.inj h).1 (by decide)
    | cons w more =>
      rw [itemChars, itemChars, List.append_assoc, List.append_assoc, List.cons_append,
        List.cons_append, List.cons.injEq] at h
      obtain ⟨halike, hrest⟩ := hv (stops_itemChars _ _) (stops_itemChars _ _) h.2
      obtain ⟨hmore, hrest⟩ := ih hitems hrest
      exact ⟨.cons halike hmore, hrest⟩

theorem alike_of_fieldChars_append_eq {fields fields' : List (String × Json)}
    (hfields : ∀ f ∈ fields, Ends f.2) {rest rest' : List Char}
    (h : fieldChars fields ++ rest = fieldChars fields' ++ rest') :
    List.Forall₂ AlikeField fields fields' ∧ rest = rest' := by
  induction fields generalizing fields' with
  | nil =>
    cases fields' with
    | nil => exact ⟨.nil, (List.cons.inj h).2⟩
    | cons g more => exact absurd (List.cons.inj h).1 (by decide)
  | cons f fields ih =>
    obtain ⟨hf, hothers⟩ := List.forall_mem_cons.mp hfields
    cases fields' with
    | nil => exact absurd (List.cons.inj h).1 (by decide)
    | cons g more =>
      obtain ⟨k, v⟩ := f
      obtain ⟨k', w⟩ := g
      simp only [fieldChars, List.append_assoc, List.cons_append, List.cons.injEq, true_and] at h
      obtain ⟨hkey, hvalue⟩ := quote_append_inj h
      obtain ⟨halike, hrest⟩ :=
        hf (stops_fieldChars _ _) (stops_fieldChars _ _) (List.cons.inj hvalue).2
      obtain ⟨hmore, hrest⟩ := ih hothers hrest
      exact ⟨.cons ⟨hkey, halike⟩ hmore, hrest⟩

/-- **The text of a value shows where it ends, and which value it is**, up to floating-point numbers
with the same text. -/
theorem ends (v : Json) : Ends v := by
  induction v using Json.induct with
  | null =>
    intro w rest rest' _ _ h
    obtain rfl := eq_null_of_mark (mark_eq_of_chars_append_eq h).symm
    exact ⟨.null, List.append_cancel_left h⟩
  | bool b =>
    intro w rest rest' _ _ h
    obtain ⟨b', rfl⟩ := exists_of_mark_bool (mark_eq_of_chars_append_eq h).symm
    cases b <;> cases b'
    · exact ⟨.bool false, List.append_cancel_left h⟩
    · exact absurd (List.cons.inj h).1 (by decide)
    · exact absurd (List.cons.inj h).1 (by decide)
    · exact ⟨.bool true, List.append_cancel_left h⟩
  | num n =>
    intro w rest rest' hstop hstop' h
    obtain ⟨m, rfl⟩ := exists_of_mark_num (mark_eq_of_chars_append_eq h).symm
    obtain ⟨htext, hrest⟩ := text_append_inj hstop hstop' h
    exact ⟨.num htext, hrest⟩
  | str s =>
    intro w rest rest' _ _ h
    obtain ⟨t, rfl⟩ := exists_of_mark_str (mark_eq_of_chars_append_eq h).symm
    obtain ⟨rfl, hrest⟩ := quote_append_inj h
    exact ⟨.str s, hrest⟩
  | arr items ih =>
    intro w rest rest' _ _ h
    obtain ⟨items', rfl⟩ := exists_of_mark_arr (mark_eq_of_chars_append_eq h).symm
    suffices h' : itemChars items ++ rest = itemChars items' ++ rest' by
      obtain ⟨halike, hrest⟩ := alike_of_itemChars_append_eq ih h'
      exact ⟨.arr halike, hrest⟩
    -- behind its bracket, a list goes on like items behind a comma
    cases items <;> cases items'
    · exact (List.cons.inj h).2
    · exact absurd (List.cons.inj h).2.symm (chars_append_ne _ _ _ _)
    · exact absurd (List.cons.inj h).2 (chars_append_ne _ _ _ _)
    · exact congrArg (',' :: ·) (List.cons.inj h).2
  | obj fields ih =>
    intro w rest rest' _ _ h
    obtain ⟨fields', rfl⟩ := exists_of_mark_obj (mark_eq_of_chars_append_eq h).symm
    suffices h' : fieldChars fields ++ rest = fieldChars fields' ++ rest' by
      obtain ⟨halike, hrest⟩ := alike_of_fieldChars_append_eq ih h'
      exact ⟨alike_obj_iff.mpr halike, hrest⟩
    cases fields <;> cases fields'
    · exact (List.cons.inj h).2
    · exact absurd (List.cons.inj (List.cons.inj h).2).1 (by decide)
    · exact absurd (List.cons.inj (List.cons.inj h).2).1 (by decide)
    · exact congrArg (',' :: ·) (List.cons.inj h).2

/-! ### Values with the same text -/

theorem itemChars_eq_of_alike {items items' : List Json}
    (hitems : ∀ v ∈ items, ∀ w, Alike v w → v.chars = w.chars)
    (h : List.Forall₂ Alike items items') : itemChars items = itemChars items' := by
  induction h with
  | nil => rfl
  | cons hhead _ ih =>
    obtain ⟨hfirst, hitems⟩ := List.forall_mem_cons.mp hitems
    rw [itemChars, itemChars, hfirst _ hhead, ih hitems]

theorem fieldChars_eq_of_alike {fields fields' : List (String × Json)}
    (hfields : ∀ f ∈ fields, ∀ w, Alike f.2 w → f.2.chars = w.chars)
    (h : List.Forall₂ AlikeField fields fields') : fieldChars fields = fieldChars fields' := by
  induction h with
  | nil => rfl
  | @cons f g _ _ hhead _ ih =>
    obtain ⟨hfirst, hfields⟩ := List.forall_mem_cons.mp hfields
    rw [fieldChars, fieldChars, hhead.1, hfirst _ hhead.2, ih hfields]

theorem Alike.chars_eq {v w : Json} (h : Alike v w) : v.chars = w.chars := by
  induction v using Json.induct generalizing w with
  | null =>
    cases h
    rfl
  | bool b =>
    cases h
    rfl
  | num n =>
    cases h with
    | num htext => exact htext
  | str s =>
    cases h
    rfl
  | arr items ih =>
    cases h with
    | arr hitems =>
      have htext := itemChars_eq_of_alike (fun v hv w => ih v hv) hitems
      cases hitems with
      | nil => rfl
      | cons => exact congrArg ('[' :: ·) (List.cons.inj htext).2
  | obj fields ih =>
    cases h with
    | obj hkeys hvalues =>
      have hfields := alike_obj_iff.mp (.obj hkeys hvalues)
      have htext := fieldChars_eq_of_alike (fun f hf w => ih f hf) hfields
      cases hfields with
      | nil => rfl
      | cons => exact congrArg ('{' :: ·) (List.cons.inj htext).2

/-- **Values are alike exactly if they have the same text.** -/
theorem chars_eq_iff_alike {v w : Json} : v.chars = w.chars ↔ Alike v w := by
  refine ⟨fun h => (ends v stops_nil stops_nil ?_).1, Alike.chars_eq⟩
  rw [List.append_nil, List.append_nil, h]

/-- Arguments are alike if each of them is, in the order of the call. -/
theorem alike_toJson_iff {p q : Params} : Alike p.toJson q.toJson ↔
    List.Forall₂ Alike p.positional q.positional ∧ List.Forall₂ AlikeField p.keyword q.keyword := by
  rw [Params.toJson, Params.toJson, alike_obj_iff, List.forall₂_cons, List.forall₂_cons]
  constructor
  · rintro ⟨⟨-, hpositional⟩, ⟨-, hkeyword⟩, -⟩
    exact ⟨alike_arr_iff.mp hpositional, alike_obj_iff.mp hkeyword⟩
  · rintro ⟨hpositional, hkeyword⟩
    exact ⟨⟨rfl, alike_arr_iff.mpr hpositional⟩, ⟨rfl, alike_obj_iff.mpr hkeyword⟩, .nil⟩

end IndexGateway.Json

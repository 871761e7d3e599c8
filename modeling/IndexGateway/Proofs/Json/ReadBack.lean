import IndexGateway.Json.Parser
import IndexGateway.Proofs.Json.Layout
import IndexGateway.Proofs.Json.Numeral
import IndexGateway.Proofs.Json.Quoted
import IndexGateway.Proofs.Json.Shape
import IndexGateway.Proofs.Text.Reader

/-!
# Written values read back

A value that holds no floating-point number is read back from its text as it was,
order of fields included, as long as its objects have distinct keys and it is not
nested too deep.

Reading has two steps, and so has the proof: the text of a value, in any layout, is
read as its outline (`readValue_laid`), and the outline is judged to be that value
exactly if the nesting allows it (`ofOutlineWithin?_outline`).

## What is proved

Both forms of a value are read back as the value if its nesting is within the limit,
and are refused otherwise (`parse?_compact`, `parse?_pretty`). A text is therefore
never read as another value than the one that was written.
-/

namespace IndexGateway.Json

open Outline Number
open Text (Reader)

/-! ### Reading behind blanks -/

theorem skipBlanks_append {blanks : List Char} (h : Blanks blanks)
    (text : List Char) : skipBlanks (blanks ++ text) = skipBlanks text := by
  induction blanks with
  | nil => rfl
  | cons c blanks ih =>
    obtain ⟨hc, hblanks⟩ := List.forall_mem_cons.mp h
    rw [List.cons_append, skipBlanks, List.dropWhile_cons_of_pos hc]
    exact ih hblanks

theorem skipBlanks_blanks {blanks : List Char} (h : Blanks blanks) : skipBlanks blanks = [] :=
  List.dropWhile_eq_nil_iff.mpr h

theorem skipBlanks_cons {c : Char} (h : Outline.isBlank c = false) (text : List Char) :
    skipBlanks (c :: text) = c :: text :=
  List.dropWhile_cons_of_neg (by rw [h]; exact Bool.false_ne_true)

section Behind

variable {α : Type} {mark : Char} {blanks : List Char} (reader : Reader α) (text : List Char)

theorem behind_mark (hmark : Outline.isBlank mark = false) (h : Blanks blanks) :
    behind mark reader (blanks ++ mark :: text) = reader text := by
  rw [behind, skipBlanks_append h, skipBlanks_cons hmark]
  exact if_pos rfl

theorem behind_mark_front (hmark : Outline.isBlank mark = false) :
    behind mark reader (mark :: text) = reader text := by
  rw [behind, skipBlanks_cons hmark]
  exact if_pos rfl

theorem behind_other {c : Char} (hc : Outline.isBlank c = false) (hne : c ≠ mark)
    (h : Blanks blanks) : behind mark reader (blanks ++ c :: text) = none := by
  rw [behind, skipBlanks_append h, skipBlanks_cons hc]
  exact if_neg hne

end Behind

/-! ### Reading items -/

/-- A reader takes a text for a value, whatever stands behind it that does not go on with a
number. -/
def Reads {α : Type} (reader : Reader α) (text : List Char) (a : α) : Prop :=
  ∀ rest, Stops rest → reader (text ++ rest) = some (a, rest)

/-- A text that begins, behind blanks, with another character than a closing mark. -/
def Opens (close : Char) (text : List Char) : Prop :=
  ∃ blanks c rest, text = blanks ++ c :: rest ∧ Blanks blanks ∧
    Outline.isBlank c = false ∧ c ≠ close

theorem isNumeric_of_isBlank {c : Char} (h : Outline.isBlank c = true) : isNumeric c = false := by
  simp only [Outline.isBlank, Bool.or_eq_true, decide_eq_true_eq] at h
  rcases h with ((rfl | rfl) | rfl) | rfl <;> decide

/-- No number goes on in blanks, nor behind them. -/
theorem stops_blanks {blanks : List Char} (h : Blanks blanks) {rest : List Char} (hrest : Stops rest) :
    Stops (blanks ++ rest) := by
  cases blanks with
  | nil => exact hrest
  | cons c blanks => exact stops_cons (isNumeric_of_isBlank (h c List.mem_cons_self)) _

section Listed

variable {α β : Type} {item : Reader α} {text : β → List Char} {value : β → α} {items : List β}
  {tail : List Char}

theorem stops_listed (hstop : Stops tail) :
    Stops (items.flatMap (fun b => ',' :: text b) ++ tail) :=
  Reader.follows_flatMap (fun _ _ _ => stops_cons rfl _) hstop

/-- Items behind commas are read one after the other, up to what no comma begins. -/
theorem many_listed (h : ∀ b ∈ items, Reads item (text b) (value b)) (hstop : Stops tail)
    (hend : behind ',' item tail = none) :
    Reader.many (behind ',' item) (items.flatMap (fun b => ',' :: text b) ++ tail) =
      some (items.map value, tail) := by
  refine Reader.many_flatMap (fun b hb rest hrest => ?_) (fun _ _ _ => stops_cons rfl _) hstop hend
    fun _ _ => List.cons_ne_nil _ _
  rw [List.cons_append, behind_mark_front item _ rfl]
  exact h b hb rest hrest

variable (value) in
/-- Items between marks are read up to and including the closing mark. -/
theorem separated_listed {close : Char} {first : β} (hfirst : Reads item (text first) (value first))
    (hopens : Opens close (text first)) (h : ∀ b ∈ items, Reads item (text b) (value b))
    {blanks : List Char} (hblanks : Blanks blanks) (hclose : Outline.isBlank close = false)
    (hcomma : close ≠ ',') (hnumeric : isNumeric close = false) (rest : List Char) :
    separated item close (text first ++ (items.flatMap (fun b => ',' :: text b) ++
      (blanks ++ close :: rest))) = some ((first :: items).map value, rest) := by
  have hstop : Stops (blanks ++ close :: rest) := stops_blanks hblanks (stops_cons hnumeric rest)
  have hnot : behind close (fun rest => some ((), rest)) (text first ++
      (items.flatMap (fun b => ',' :: text b) ++ (blanks ++ close :: rest))) = none := by
    obtain ⟨bs, c, more, heq, hbs, hc, hne⟩ := hopens
    rw [heq, List.append_assoc, List.cons_append]
    exact behind_other _ _ hc hne hbs
  have hmany : Reader.many (behind ',' item) (items.flatMap (fun b => ',' :: text b) ++
      (blanks ++ close :: rest)) = some (items.map value, blanks ++ close :: rest) :=
    many_listed h hstop (behind_other item rest hclose hcomma hblanks)
  have hdone : behind close (fun rest => some ((), rest)) (blanks ++ close :: rest) =
      some ((), rest) := behind_mark _ rest hclose hblanks
  unfold separated
  rw [hnot, hfirst _ (stops_listed hstop)]
  simp only [hmany, hdone, List.map_cons]

end Listed

/-! ### Reading the text of a value -/

mutual

/-- The outline of a value. -/
def outline : Json → Outline
  | .null => .null
  | .bool b => .bool b
  | .num n => .num (some n)
  | .str s => .str (some s)
  | .arr items => .arr (outlines items)
  | .obj fields => .obj (entries fields)

/-- The outlines of items. -/
def outlines : List Json → List Outline
  | [] => []
  | v :: rest => v.outline :: outlines rest

/-- The outlines of fields. -/
def entries : List (String × Json) → List (Option String × Outline)
  | [] => []
  | (k, v) :: rest => (some k, v.outline) :: entries rest

end

theorem outlines_eq_map (items : List Json) : outlines items = items.map outline := by
  induction items with
  | nil => rfl
  | cons v rest ih => rw [outlines, ih, List.map_cons]

theorem entries_eq_map (fields : List (String × Json)) :
    entries fields = fields.map fun f => (some f.1, f.2.outline) := by
  induction fields with
  | nil => rfl
  | cons f rest ih => rw [entries, ih, List.map_cons]

variable (l : Layout)

theorem isBlank_of_isLeading {c : Char} (h : isLeading c = true) : Outline.isBlank c = false := by
  by_contra hb
  rw [Bool.not_eq_false] at hb
  simp only [Outline.isBlank, Bool.or_eq_true, decide_eq_true_eq] at hb
  rcases hb with ((rfl | rfl) | rfl) | rfl <;> revert h <;> decide

/-- The text of a value begins with a character that is neither blank nor a closing bracket. -/
theorem laid_begins (depth : Nat) (v : Json) :
    ∃ c rest, laid l depth v = c :: rest ∧ Outline.isBlank c = false ∧ c ≠ ']' := by
  cases v with
  | null => exact ⟨_, _, rfl, rfl, by decide⟩
  | bool b => cases b <;> exact ⟨_, _, rfl, rfl, by decide⟩
  | num n =>
    obtain ⟨c, rest, h, hc⟩ := (isNumeral_text n).leads
    refine ⟨c, rest, h, isBlank_of_isLeading hc, ?_⟩
    rintro rfl
    exact absurd hc (by decide)
  | str s => exact ⟨_, _, rfl, rfl, by decide⟩
  | arr items => cases items <;> exact ⟨_, _, rfl, rfl, by decide⟩
  | obj fields => cases fields <;> exact ⟨_, _, rfl, rfl, by decide⟩

theorem opens_itemText (depth : Nat) (v : Json) : Opens ']' (itemText l depth v) := by
  obtain ⟨c, rest, h, hblank, hne⟩ := laid_begins l (depth + 1) v
  exact ⟨_, c, rest, by rw [itemText, h], l.line_blank _, hblank, hne⟩

theorem opens_fieldText (depth : Nat) (f : String × Json) : Opens '}' (fieldText l depth f) :=
  ⟨_, '"', _, rfl, l.line_blank _, rfl, by decide⟩

theorem readValue_blanks {blanks : List Char} (h : Blanks blanks) (fuel : Nat)
    (text : List Char) : readValue fuel (blanks ++ text) = readValue fuel text := by
  cases fuel with
  | zero => rfl
  | succ fuel => rw [readValue, readValue, skipBlanks_append h]

theorem reads_str (s : String) (fuel : Nat) : Reads (readValue (fuel + 1)) (quote s) (.str (some s)) := by
  intro rest _
  rw [quote_append, readValue, skipBlanks_cons rfl]
  simp only [readText_escaped, if_true]

theorem reads_int (n : Integer) (fuel : Nat) :
    Reads (readValue (fuel + 1)) (Number.text (.int n)) (.num (some (.int n))) := by
  intro rest hstop
  obtain ⟨lit, hread, hnumber⟩ := read_ofInt n hstop
  obtain ⟨c, digits, htext, hc⟩ := (isNumeral_text (.int n)).leads
  have hne : ∀ d, isLeading d = false → c ≠ d := fun _ => Reader.ne_of_class hc
  have hread' : Literal.read (c :: (digits ++ rest)) = some (lit, rest) := by
    rw [← hread, ← List.cons_append, ← htext]
    rfl
  rw [htext, List.cons_append, readValue, skipBlanks_cons (isBlank_of_isLeading hc)]
  simp only [hne '"' (by decide), hne '[' (by decide), hne '{' (by decide), hne 'n' (by decide),
    hne 't' (by decide), hne 'f' (by decide), if_false, hread', hnumber]

theorem reads_item {v : Json} {depth fuel : Nat}
    (h : Reads (readValue fuel) (laid l (depth + 1) v) v.outline) :
    Reads (readValue fuel) (itemText l depth v) v.outline := by
  intro rest hstop
  rw [itemText, List.append_assoc, readValue_blanks (l.line_blank _)]
  exact h rest hstop

theorem reads_field {f : String × Json} {depth fuel : Nat}
    (h : Reads (readValue fuel) (laid l (depth + 1) f.2) f.2.outline) :
    Reads (entry (readValue fuel)) (fieldText l depth f) (some f.1, f.2.outline) := by
  intro rest hstop
  have hvalue : behind ':' (readValue fuel) (':' :: (l.gap ++ (laid l (depth + 1) f.2 ++ rest))) =
      some (f.2.outline, rest) := by
    rw [behind_mark_front _ _ rfl, readValue_blanks l.gap_blank]
    exact h rest hstop
  rw [fieldText, List.append_assoc, List.append_assoc, quote_append, entry,
    behind_mark readText _ rfl (l.line_blank _), readText_escaped]
  simp only [List.cons_append, List.append_assoc, hvalue]

/-- **The text of a value is read as its outline**, if there is fuel for its nesting. The induction
is on the value; the depth at which it stands and the fuel change on the way down. -/
theorem readValue_laid {v : Json} (hv : IsFloatless v) (depth : Nat) {fuel : Nat}
    (hfuel : v.nesting ≤ fuel) : Reads (readValue (fuel + 1)) (laid l depth v) v.outline := by
  induction v using Json.induct generalizing depth fuel with
  | null =>
    intro rest _
    rfl
  | bool b =>
    intro rest _
    cases b <;> rfl
  | num n =>
    obtain ⟨i, rfl⟩ := (isFloatless_num_iff n).mp hv
    exact reads_int i fuel
  | str s => exact reads_str s fuel
  | arr items ih =>
    rw [isFloatless_arr_iff] at hv
    obtain ⟨fuel, rfl⟩ : ∃ m, fuel = m + 1 := ⟨fuel - 1, by rw [nesting] at hfuel; omega⟩
    have hnesting := nesting_arr_le_iff.mp hfuel
    have hitems : ∀ v ∈ items, Reads (readValue (fuel + 1)) (itemText l depth v) v.outline :=
      fun v hmem => reads_item l (ih v hmem (hv v hmem) (depth + 1) (hnesting v hmem))
    intro rest _
    cases items with
    | nil => rfl
    | cons first items =>
      obtain ⟨hfirst, hitems⟩ := List.forall_mem_cons.mp hitems
      have hread := separated_listed outline hfirst (opens_itemText l depth first) hitems
        (l.line_blank depth) rfl (by decide) rfl rest
      rw [laid_arr_cons, List.cons_append, readValue, skipBlanks_cons rfl]
      simp only [List.append_assoc, List.cons_append, List.nil_append, hread, outline,
        outlines_eq_map]
      rfl
  | obj fields ih =>
    rw [isFloatless_obj_iff] at hv
    obtain ⟨fuel, rfl⟩ : ∃ m, fuel = m + 1 := ⟨fuel - 1, by rw [nesting] at hfuel; omega⟩
    have hnesting := nesting_obj_le_iff.mp hfuel
    have hfields : ∀ f ∈ fields, Reads (entry (readValue (fuel + 1))) (fieldText l depth f)
        (some f.1, f.2.outline) :=
      fun f hmem => reads_field l (ih f hmem (hv f hmem) (depth + 1) (hnesting f hmem))
    intro rest _
    cases fields with
    | nil => rfl
    | cons first fields =>
      obtain ⟨hfirst, hfields⟩ := List.forall_mem_cons.mp hfields
      have hread := separated_listed (fun f : String × Json => (some f.1, f.2.outline)) hfirst
        (opens_fieldText l depth first) hfields (l.line_blank depth) rfl (by decide) rfl rest
      rw [laid_obj_cons, List.cons_append, readValue, skipBlanks_cons rfl]
      simp only [List.append_assoc, List.cons_append, List.nil_append, hread, outline,
        entries_eq_map]
      rfl

theorem length_le_of_mem_listed {β : Type} {text : β → List Char} {items : List β} {b : β}
    (h : b ∈ items) : (text b).length < (items.flatMap (fun b => ',' :: text b)).length := by
  obtain ⟨before, behind, rfl⟩ := List.append_of_mem h
  simp only [List.flatMap_append, List.flatMap_cons, List.length_append, List.length_cons]
  omega

/-- The text of a value is at least as long as the value is nested. -/
theorem nesting_le_length_laid (v : Json) (depth : Nat) : v.nesting ≤ (laid l depth v).length := by
  induction v using Json.induct generalizing depth with
  | null => exact Nat.zero_le _
  | bool b => exact Nat.zero_le _
  | num n => exact Nat.zero_le _
  | str s => exact Nat.zero_le _
  | arr items ih =>
    cases items with
    | nil => exact Nat.le_succ 1
    | cons first items =>
      rw [laid_arr_cons, List.length_cons, nesting_arr_le_iff]
      intro v hmem
      have hv := ih v hmem (depth + 1)
      have hitem : (itemText l depth v).length < _ := length_le_of_mem_listed hmem
      simp only [itemText, List.flatMap_cons, List.length_append, List.length_cons] at hitem ⊢
      omega
  | obj fields ih =>
    cases fields with
    | nil => exact Nat.le_succ 1
    | cons first fields =>
      rw [laid_obj_cons, List.length_cons, nesting_obj_le_iff]
      intro f hmem
      have hv := ih f hmem (depth + 1)
      have hfield : (fieldText l depth f).length < _ := length_le_of_mem_listed hmem
      simp only [fieldText, List.flatMap_cons, List.length_append, List.length_cons] at hfield ⊢
      omega

/-- A written value that holds no floating-point number is read as its outline; blanks may follow. -/
theorem ofChars?_laid {v : Json} (hv : IsFloatless v) (depth : Nat) {blanks : List Char}
    (hblanks : Blanks blanks) : ofChars? (laid l depth v ++ blanks) = some v.outline := by
  have hstop : Stops blanks := by
    have := stops_blanks hblanks stops_nil
    rwa [List.append_nil] at this
  have hfuel : v.nesting ≤ (laid l depth v ++ blanks).length := by
    rw [List.length_append]
    exact Nat.le_add_right_of_le (nesting_le_length_laid l v depth)
  rw [ofChars?, readValue_laid l hv depth hfuel blanks hstop]
  exact if_pos (skipBlanks_blanks hblanks)

/-! ### Judging outlines -/

theorem itemsWithin?_outlines {depth : Nat} {items : List Json}
    (h : ∀ v ∈ items, ofOutlineWithin? depth v.outline = if v.nesting ≤ depth then some v else none) :
    itemsWithin? depth (outlines items) =
      if nestingOfItems items ≤ depth then some items else none := by
  induction items with
  | nil => rw [outlines, itemsWithin?, nestingOfItems, if_pos (Nat.zero_le depth)]
  | cons v rest ih =>
    obtain ⟨hv, hrest⟩ := List.forall_mem_cons.mp h
    rw [outlines, itemsWithin?, hv, ih hrest, nestingOfItems]
    by_cases hle : v.nesting ≤ depth
    · by_cases hle' : nestingOfItems rest ≤ depth
      · simp only [hle, hle', Nat.max_le, and_self, if_true, Option.map_some]
      · simp only [hle, hle', Nat.max_le, and_false, if_true, if_false, Option.map_none]
    · simp only [hle, Nat.max_le, false_and, if_false]

theorem fieldsWithin?_entries {depth : Nat} {fields before : List (String × Json)}
    (hkeys : (keys (before ++ fields)).Nodup)
    (h : ∀ f ∈ fields,
      ofOutlineWithin? depth f.2.outline = if f.2.nesting ≤ depth then some f.2 else none) :
    fieldsWithin? depth (entries fields) before =
      if nestingOfFields fields ≤ depth then some (before ++ fields) else none := by
  induction fields generalizing before with
  | nil => rw [entries, fieldsWithin?, nestingOfFields, if_pos (Nat.zero_le depth), List.append_nil]
  | cons f rest ih =>
    obtain ⟨k, v⟩ := f
    obtain ⟨hv, hrest⟩ := List.forall_mem_cons.mp h
    rw [entries, fieldsWithin?.eq_def, nestingOfFields]
    by_cases hle : v.nesting ≤ depth
    · have hnew : k ∉ keys before := by
        rw [keys, List.map_append, List.nodup_append] at hkeys
        exact fun hmem => hkeys.2.2 k hmem k List.mem_cons_self rfl
      have happend : before ++ [(k, v)] ++ rest = before ++ (k, v) :: rest :=
        List.append_assoc before [(k, v)] rest
      simp only [hv, hle, if_true, insertField_of_not_mem hnew]
      rw [ih (happend.symm ▸ hkeys) hrest, happend]
      by_cases hle' : nestingOfFields rest ≤ depth
      · simp only [hle', hle, Nat.max_le, and_self, if_true]
      · simp only [hle', Nat.max_le, and_false, if_false]
    · simp only [hv, hle, Nat.max_le, false_and, if_false]

/-- **The outline of a value is judged to be that value**, exactly if its nesting is allowed. -/
theorem ofOutlineWithin?_outline {v : Json} (hv : HasDistinctKeys v) (depth : Nat) :
    ofOutlineWithin? depth v.outline = if v.nesting ≤ depth then some v else none := by
  induction v using Json.induct generalizing depth with
  | null => rfl
  | bool b => rfl
  | num n => rfl
  | str s => rfl
  | arr items ih =>
    rw [hasDistinctKeys_arr_iff] at hv
    cases depth with
    | zero => rfl
    | succ depth =>
      rw [outline, ofOutlineWithin?, nesting,
        itemsWithin?_outlines fun v hmem => ih v hmem (hv v hmem) depth]
      by_cases hle : nestingOfItems items ≤ depth
      · simp only [hle, Nat.add_le_add_iff_right, if_true, Option.map_some]
      · simp only [hle, Nat.add_le_add_iff_right, if_false, Option.map_none]
  | obj fields ih =>
    rw [hasDistinctKeys_obj_iff] at hv
    cases depth with
    | zero => rfl
    | succ depth =>
      rw [outline, ofOutlineWithin?, nesting,
        @fieldsWithin?_entries depth fields [] hv.1 fun f hmem => ih f hmem (hv.2 f hmem) depth]
      by_cases hle : nestingOfFields fields ≤ depth
      · simp only [hle, Nat.add_le_add_iff_right, if_true, Option.map_some, List.nil_append]
      · simp only [hle, Nat.add_le_add_iff_right, if_false, Option.map_none]

/-! ### Both steps -/

theorem parse?_laid {v : Json} (hv : IsFloatless v) (hkeys : HasDistinctKeys v) (depth : Nat)
    {blanks : List Char} (hblanks : Blanks blanks) :
    parse? (String.ofList (laid l depth v ++ blanks)) =
      if v.nesting ≤ nestingLimit then some v else none := by
  rw [parse?, String.toList_ofList, ofChars?_laid l hv depth hblanks]
  exact ofOutlineWithin?_outline hkeys nestingLimit

/-- **The compact text of a value reads back**, or is refused if the value is nested too deep. -/
theorem parse?_compact {v : Json} (hv : IsFloatless v) (hkeys : HasDistinctKeys v) :
    parse? v.compact = if v.nesting ≤ nestingLimit then some v else none := by
  rw [compact, chars_eq_laid 0, ← List.append_nil (laid .compact 0 v)]
  exact parse?_laid .compact hv hkeys 0 (List.forall_mem_nil _)

/-- **The pretty text of a value reads back**, or is refused if the value is nested too deep; the
line may be ended. -/
theorem parse?_pretty {v : Json} (hv : IsFloatless v) (hkeys : HasDistinctKeys v) {blanks : List Char}
    (hblanks : Blanks blanks) : parse? (v.pretty ++ String.ofList blanks) =
      if v.nesting ≤ nestingLimit then some v else none := by
  rw [pretty, prettyChars_eq_laid 0, ← String.ofList_append]
  exact parse?_laid .pretty hv hkeys 0 hblanks

end IndexGateway.Json

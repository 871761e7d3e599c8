import IndexGateway.Toml.Printer

/-!
# Texts in quotes

Whatever the way in which a text is written, it is read back as it was. Between double
quotes the text is read one character at a time: a character stands for itself, or its
escape stands for it. In the forms with three quotes, quotes at the end of the text and
the closing ones are read together, so there the proof looks ahead: two quotes in a row
inside the text are never followed by a third.

What stands behind a text has to be something else than a quote.
-/

namespace IndexGateway.Toml

open Text

/-! ### Escapes -/

/-- A text that is read as a character, by a backslash at its front. -/
inductive IsEscape (c : Char) : List Char → Prop where
  /-- A letter, a quote or a backslash behind the backslash. -/
  | short {e : Char} (h : escaped? e = some c) : IsEscape c ['\\', e]
  /-- The code point of the character. -/
  | numeric {d₁ d₂ d₃ d₄ : Char} (h : charOf? [d₁, d₂, d₃, d₄] = some c) :
    IsEscape c ['\\', 'u', d₁, d₂, d₃, d₄]

theorem isEscape_quote : IsEscape '"' ['\\', '"'] := .short rfl

theorem hexValue_upper : ∀ n < 128,
    Numeral.hexValue ['0', '0', (Nat.digitChar (n / 16)).toUpper, (Nat.digitChar (n % 16)).toUpper] =
      some n := by
  decide +kernel

theorem toNat_lt_of_isControl {c : Char} (h : isControl c = true) : c.toNat < 128 := by
  rcases Bool.or_eq_true_iff.mp h with h | h
  · have : c < ' ' := by simpa using (Bool.and_eq_true_iff.mp h).1
    have : c.toNat < 32 := this
    omega
  · rw [of_decide_eq_true h]
    decide

theorem charOf?_upper {c : Char} (h : isControl c = true) :
    charOf? ['0', '0', (Nat.digitChar (c.toNat / 16)).toUpper,
      (Nat.digitChar (c.toNat % 16)).toUpper] = some c := by
  have hvalid : c.toNat.isValidChar := c.valid
  rw [charOf?, hexValue_upper c.toNat (toNat_lt_of_isControl h)]
  exact dif_pos hvalid

/-- What is written for a character as its escape is read as the character. -/
theorem isEscape_of_escape? {isLong : Bool} {c : Char} {e : List Char}
    (h : escape? isLong c = some e) : IsEscape c e := by
  unfold escape? at h
  split at h
  · next hc => exact hc ▸ Option.some.inj h ▸ .short rfl
  split at h
  · next hc => exact hc ▸ Option.some.inj h ▸ .short rfl
  split at h
  · next hc =>
    split at h
    · cases h
    · exact hc ▸ Option.some.inj h ▸ .short rfl
  split at h
  · next hc => exact hc ▸ Option.some.inj h ▸ .short rfl
  split at h
  · next hc => exact hc ▸ Option.some.inj h ▸ .short rfl
  split at h
  · next hc => exact hc ▸ Option.some.inj h ▸ .short rfl
  split at h
  · next hc => exact Option.some.inj h ▸ .numeric (charOf?_upper hc)
  · cases h

/-- A character that has no escape can stand for itself. -/
theorem plain_of_escape? {isLong : Bool} {c : Char} (h : escape? isLong c = none) :
    c ≠ '\\' ∧ (isControl c = false ∨ isLong = true ∧ c = '\n') := by
  have hback : c ≠ '\\' := by
    rintro rfl
    simp [escape?] at h
  refine ⟨hback, ?_⟩
  cases hcontrol : isControl c with
  | false => exact .inl rfl
  | true =>
    refine .inr ?_
    by_cases hline : c = '\n'
    · subst hline
      cases isLong with
      | false => simp [escape?] at h
      | true => exact ⟨rfl, rfl⟩
    · simp only [escape?, hline, hback, hcontrol, if_false, if_true] at h
      split at h
      · cases h
      split at h
      · cases h
      split at h
      · cases h
      split at h <;> cases h

/-! ### Between double quotes -/

@[simp] theorem prepend_some (c : Char) (text rest : List Char) :
    prepend (some c) (some (text, rest)) = some (c :: text, rest) := rfl

theorem escaped?_ne {e c : Char} (h : escaped? e = some c) : e ≠ 'u' ∧ e ≠ 'U' := by
  constructor <;> rintro rfl <;> cases h

/-- A backslash before the letter of an escape does not end a line. -/
theorem endsLine_of_escaped? {e c : Char} (h : escaped? e = some c) (rest : List Char) :
    endsLine (e :: rest) = false := by
  have hspace : isSpace e = false := by
    simp only [isSpace, Bool.or_eq_false_iff, decide_eq_false_iff_not]
    constructor <;> rintro rfl <;> cases h
  have hline : e ≠ '\n' := by
    rintro rfl
    cases h
  have hreturn : e ≠ '\r' := by
    rintro rfl
    cases h
  simp [endsLine, hspace, behindLineEnd?, hline, hreturn]

theorem readBasic_escape {c : Char} {e : List Char} (h : IsEscape c e) (rest : List Char) :
    readBasic (e ++ rest) = prepend (some c) (readBasic rest) := by
  cases h with
  | short h =>
    obtain ⟨hu, hU⟩ := escaped?_ne h
    simp [readBasic, hu, hU, h]
  | numeric h => simp [readBasic, h]

theorem readBasic_plain {c : Char} (hquote : c ≠ '"') (hback : c ≠ '\\')
    (hcontrol : isControl c = false) (rest : List Char) :
    readBasic (c :: rest) = prepend (some c) (readBasic rest) := by
  simp [readBasic, hback, hcontrol]

theorem readBasic_escapeFrom (run : Nat) (text rest : List Char) :
    readBasic (escapeFrom false run text ++ '"' :: rest) = some (text, rest) := by
  induction text generalizing run with
  | nil => simp [escapeFrom, readBasic]
  | cons c text ih =>
    by_cases hquote : c = '"'
    · subst hquote
      have hread := readBasic_escape isEscape_quote (escapeFrom false 0 text ++ '"' :: rest)
      rw [ih] at hread
      simpa [escapeFrom, quoteLimit] using hread
    · simp only [escapeFrom, hquote, if_false]
      split
      · next e he =>
        rw [List.append_assoc, readBasic_escape (isEscape_of_escape? he), ih, prepend_some]
      · next he =>
        obtain ⟨hback, hcontrol | ⟨hlong, -⟩⟩ := plain_of_escape? he
        · rw [List.cons_append, readBasic_plain hquote hback hcontrol, ih, prepend_some]
        · cases hlong

/-! ### Between single quotes -/

theorem isControl_of_needsEscape {text : List Char} (h : needsEscape text = false) {c : Char}
    (hc : c ∈ text) : isControl c = false ∨ c = '\n' := by
  have hplain := List.any_eq_false.mp h c hc
  by_cases hline : c = '\n'
  · exact .inr hline
  · exact .inl (by simpa [hline] using hplain)

theorem readLiteral_append {text : List Char} (hquote : '\'' ∉ text)
    (hplain : ∀ c ∈ text, isControl c = false) (rest : List Char) :
    readLiteral (text ++ '\'' :: rest) = some (text, rest) := by
  induction text with
  | nil => simp [readLiteral]
  | cons c text ih =>
    obtain ⟨hc, hmore⟩ := List.forall_mem_cons.mp hplain
    have hne : c ≠ '\'' := fun heq => hquote (heq ▸ List.mem_cons_self)
    simp [readLiteral, hc, ih (fun hmem => hquote (List.mem_cons_of_mem _ hmem)) hmore]

/-! ### Between three double quotes -/

/-- At the front of a text with escapes stands a backslash or the first character, the latter only
if it can stand for itself. -/
theorem head?_escapeFrom (isLong : Bool) {run : Nat} {c : Char}
    (h : c ≠ '"' ∨ quoteLimit isLong ≤ run) (text rest : List Char) :
    (escapeFrom isLong run (c :: text) ++ rest).head? = some '\\' ∨
      (escapeFrom isLong run (c :: text) ++ rest).head? = some c ∧ c ≠ '"' ∧
        escape? isLong c = none := by
  by_cases hquote : c = '"'
  · have hlimit : ¬ run < quoteLimit isLong := by
      rcases h with h | h
      · exact absurd hquote h
      · omega
    left
    simp [escapeFrom, hquote, hlimit]
  · simp only [escapeFrom, hquote, if_false]
    split
    · next e he =>
      left
      cases isEscape_of_escape? he with
      | short h => rfl
      | numeric h => rfl
    · next he => exact .inr ⟨rfl, hquote, he⟩

theorem readLongBasic_escape {c : Char} {e : List Char} (h : IsEscape c e) (rest : List Char) :
    readLongBasic false (e ++ rest) = prepend (some c) (readLongBasic false rest) := by
  cases h with
  | @short e h =>
    obtain ⟨hu, hU⟩ := escaped?_ne h
    simp [readLongBasic, hu, hU, h, endsLine_of_escaped? h]
  | numeric h => simp [readLongBasic, h]

theorem readLongBasic_plain {c : Char} (hquote : c ≠ '"') (hback : c ≠ '\\')
    (hcontrol : isControl c = false ∨ c = '\n') (rest : List Char) :
    readLongBasic false (c :: rest) = prepend (some c) (readLongBasic false rest) := by
  have hreturn : c ≠ '\r' := by
    rintro rfl
    simp [isControl] at hcontrol
  rcases hcontrol with hcontrol | rfl
  · simp [readLongBasic, hquote, hreturn, hback, hcontrol]
  · simp [readLongBasic]

/-- A quote that does not belong to three in a row is part of the text. -/
theorem readLongBasic_quote {rest : List Char} (h : ∀ more, rest ≠ '"' :: '"' :: more) :
    readLongBasic false ('"' :: rest) = prepend (some '"') (readLongBasic false rest) := by
  have hcontrol : isControl '"' = false := rfl
  simp [readLongBasic, h, hcontrol]

/-- Behind a quote that is part of the text, at most one more stands without an escape, unless the
text is over. -/
theorem escapeFrom_ne_quotes {run : Nat} (hrun : 0 < run) {c : Char} {text : List Char}
    (h : c ≠ '"' ∨ 2 ≤ run ∨ text ≠ []) (rest more : List Char) :
    escapeFrom true run (c :: text) ++ rest ≠ '"' :: '"' :: more := by
  intro heq
  by_cases hfront : c ≠ '"' ∨ quoteLimit true ≤ run
  · rcases head?_escapeFrom true hfront text rest with hhead | ⟨hhead, hc, -⟩
    · simp [heq] at hhead
    · simp [heq, Ne.symm hc] at hhead
  · obtain ⟨rfl, hlimit⟩ : c = '"' ∧ run < quoteLimit true := by
      simpa [not_or] using hfront
    have hone : run < 2 := hlimit
    have htext : text ≠ [] := by
      rcases h with h | h | h
      · exact absurd rfl h
      · omega
      · exact h
    obtain ⟨d, text, rfl⟩ := List.exists_cons_of_ne_nil htext
    have hsecond : escapeFrom true (run + 1) (d :: text) ++ rest = '"' :: more := by
      simpa [escapeFrom, hlimit] using heq
    have hfront : d ≠ '"' ∨ quoteLimit true ≤ run + 1 := .inr (by show 2 ≤ run + 1; omega)
    rcases head?_escapeFrom true hfront text rest with hhead | ⟨hhead, hd, -⟩
    · simp [hsecond] at hhead
    · simp [hsecond, Ne.symm hd] at hhead

/-- What closes a text of several lines is read with the quotes at the end of the text. -/
theorem readLongBasic_closing (quotes : Nat) (hquotes : quotes ≤ 2) {rest : List Char}
    (hrest : rest.head? ≠ some '"') :
    readLongBasic false (List.replicate quotes '"' ++ '"' :: '"' :: '"' :: rest) =
      some (List.replicate quotes '"', rest) := by
  have hne : ∀ more, rest ≠ '"' :: more := by
    rintro more rfl
    exact hrest rfl
  match quotes, hquotes with
  | 0, _ => simp [readLongBasic, hne]
  | 1, _ => simp [readLongBasic]
  | 2, _ => simp [readLongBasic, List.replicate]

/-- A quote without an escape is part of the text, whether the text ends with it, with one more
behind it, or goes on. -/
theorem readLongBasic_plainQuote {run : Nat} (hrun : run < quoteLimit true) {text rest : List Char}
    (hrest : rest.head? ≠ some '"')
    (hread : readLongBasic false (escapeFrom true (run + 1) text ++ '"' :: '"' :: '"' :: rest) =
      some (text, rest)) :
    readLongBasic false ('"' :: (escapeFrom true (run + 1) text ++ '"' :: '"' :: '"' :: rest)) =
      some ('"' :: text, rest) := by
  by_cases hlast : text = []
  · subst hlast
    exact readLongBasic_closing 1 (by decide) hrest
  obtain ⟨d, text, rfl⟩ := List.exists_cons_of_ne_nil hlast
  by_cases htwo : run = 0 ∧ d = '"' ∧ text = []
  · obtain ⟨rfl, rfl, rfl⟩ := htwo
    exact readLongBasic_closing 2 (Nat.le_refl 2) hrest
  have hmore : d ≠ '"' ∨ 2 ≤ run + 1 ∨ text ≠ [] := by
    by_cases hd : d = '"'
    · by_cases htext : text = []
      · have hpos : run ≠ 0 := fun h => htwo ⟨h, hd, htext⟩
        exact .inr (.inl (by omega))
      · exact .inr (.inr htext)
    · exact .inl hd
  rw [readLongBasic_quote (escapeFrom_ne_quotes (Nat.succ_pos run) hmore _), hread, prepend_some]

theorem readLongBasic_escapeFrom (run : Nat) (text : List Char) {rest : List Char}
    (hrest : rest.head? ≠ some '"') :
    readLongBasic false (escapeFrom true run text ++ '"' :: '"' :: '"' :: rest) =
      some (text, rest) := by
  induction text generalizing run with
  | nil => exact readLongBasic_closing 0 (Nat.zero_le 2) hrest
  | cons c text ih =>
    by_cases hquote : c = '"'
    · subst hquote
      by_cases hrun : run < quoteLimit true
      · simpa [escapeFrom, hrun] using readLongBasic_plainQuote hrun hrest (ih (run + 1))
      · have hread :=
          readLongBasic_escape isEscape_quote (escapeFrom true 0 text ++ '"' :: '"' :: '"' :: rest)
        rw [ih] at hread
        simpa [escapeFrom, hrun] using hread
    · simp only [escapeFrom, hquote, if_false]
      split
      · next e he =>
        rw [List.append_assoc, readLongBasic_escape (isEscape_of_escape? he), ih, prepend_some]
      · next he =>
        obtain ⟨hback, hplain⟩ := plain_of_escape? he
        have hcontrol : isControl c = false ∨ c = '\n' := hplain.imp_right And.right
        rw [List.cons_append, readLongBasic_plain hquote hback hcontrol, ih, prepend_some]

/-! ### Between three single quotes -/

theorem le_longestRunFrom (c : Char) (run : Nat) (text : List Char) :
    run ≤ longestRunFrom c run text := by
  induction text generalizing run with
  | nil => exact Nat.le_refl run
  | cons d text ih =>
    simp only [longestRunFrom]
    split
    · exact Nat.le_of_succ_le (ih (run + 1))
    · exact Nat.le_max_left _ _

theorem readLongLiteral_closing (quotes : Nat) (hquotes : quotes ≤ 2) {rest : List Char}
    (hrest : rest.head? ≠ some '\'') :
    readLongLiteral (List.replicate quotes '\'' ++ '\'' :: '\'' :: '\'' :: rest) =
      some (List.replicate quotes '\'', rest) := by
  have hne : ∀ more, rest ≠ '\'' :: more := by
    rintro more rfl
    exact hrest rfl
  match quotes, hquotes with
  | 0, _ => simp [readLongLiteral, hne]
  | 1, _ => simp [readLongLiteral]
  | 2, _ => simp [readLongLiteral, List.replicate]

theorem readLongLiteral_plain {c : Char} (hquote : c ≠ '\'')
    (hcontrol : isControl c = false ∨ c = '\n') (rest : List Char) :
    readLongLiteral (c :: rest) = prepend (some c) (readLongLiteral rest) := by
  have hreturn : c ≠ '\r' := by
    rintro rfl
    simp [isControl] at hcontrol
  rcases hcontrol with hcontrol | rfl
  · simp [readLongLiteral, hquote, hreturn, hcontrol]
  · simp [readLongLiteral]

theorem readLongLiteral_quote {rest : List Char} (h : ∀ more, rest ≠ '\'' :: '\'' :: more) :
    readLongLiteral ('\'' :: rest) = prepend (some '\'') (readLongLiteral rest) := by
  have hcontrol : isControl '\'' = false := rfl
  simp [readLongLiteral, h, hcontrol]

/-- Behind a single quote at most one more stands, unless the text is over. -/
theorem append_ne_quotes {run : Nat} {c : Char} {text : List Char} (hpos : 0 < run)
    (hrun : longestRunFrom '\'' run (c :: text) ≤ 2) (h : c ≠ '\'' ∨ text ≠ [])
    (rest more : List Char) : c :: text ++ rest ≠ '\'' :: '\'' :: more := by
  intro heq
  obtain ⟨rfl, hmore⟩ := List.cons.inj heq
  obtain ⟨d, text, rfl⟩ := List.exists_cons_of_ne_nil (h.resolve_left fun hne => hne rfl)
  obtain ⟨rfl, -⟩ := List.cons.inj hmore
  simp only [longestRunFrom, if_true] at hrun
  have := le_longestRunFrom '\'' (run + 1 + 1) text
  omega

/-- Without three single quotes in a row a text needs no escapes for them. -/
theorem readLongLiteral_append {run : Nat} {text : List Char}
    (hrun : longestRunFrom '\'' run text ≤ 2)
    (hplain : ∀ c ∈ text, isControl c = false ∨ c = '\n') {rest : List Char}
    (hrest : rest.head? ≠ some '\'') :
    readLongLiteral (text ++ '\'' :: '\'' :: '\'' :: rest) = some (text, rest) := by
  induction text generalizing run with
  | nil => exact readLongLiteral_closing 0 (Nat.zero_le 2) hrest
  | cons c text ih =>
    obtain ⟨hc, hmore⟩ := List.forall_mem_cons.mp hplain
    by_cases hquote : c = '\''
    · subst hquote
      simp only [longestRunFrom, if_true] at hrun
      by_cases hlast : text = []
      · subst hlast
        exact readLongLiteral_closing 1 (by decide) hrest
      obtain ⟨d, text, rfl⟩ := List.exists_cons_of_ne_nil hlast
      by_cases htwo : d = '\'' ∧ text = []
      · obtain ⟨rfl, rfl⟩ := htwo
        exact readLongLiteral_closing 2 (Nat.le_refl 2) hrest
      · have hfront := append_ne_quotes (Nat.succ_pos run) hrun (Decidable.not_and_iff_or_not.mp htwo)
        rw [List.cons_append, readLongLiteral_quote (hfront _), ih hrun hmore, prepend_some]
    · simp only [longestRunFrom, hquote, if_false] at hrun
      rw [List.cons_append, readLongLiteral_plain hquote hc,
        ih (Nat.le_trans (Nat.le_max_right _ _) hrun) hmore, prepend_some]

/-! ### In the plainest way -/

theorem skipFirstLineEnd_of_head? {text : List Char} (hline : text.head? ≠ some '\n')
    (hreturn : text.head? ≠ some '\r') : skipFirstLineEnd text = text := by
  match text with
  | [] => rfl
  | c :: text =>
    have hline : c ≠ '\n' := fun h => hline (congrArg some h)
    have hreturn : c ≠ '\r' := fun h => hreturn (congrArg some h)
    simp [skipFirstLineEnd, behindLineEnd?, hline, hreturn]

/-- What is skipped behind the opening quotes is what was put there. -/
theorem skipFirstLineEnd_opening (text : List Char) {written : List Char}
    (h : '\n' ∉ text → written.head? ≠ some '\n' ∧ written.head? ≠ some '\r') :
    skipFirstLineEnd (opening text ++ written) = written := by
  by_cases hline : '\n' ∈ text
  · simp [opening, hline, skipFirstLineEnd, behindLineEnd?]
  · simp [opening, hline, skipFirstLineEnd_of_head? (h hline).1 (h hline).2]

/-- A text without escapes begins with a line end only if it holds one. -/
theorem head?_append_ne {text : List Char} (hplain : ∀ c ∈ text, isControl c = false ∨ c = '\n')
    (hline : '\n' ∉ text) (rest : List Char) :
    (text ++ '\'' :: rest).head? ≠ some '\n' ∧ (text ++ '\'' :: rest).head? ≠ some '\r' := by
  match text with
  | [] => simp
  | c :: text =>
    have hc : c ≠ '\n' := fun h => hline (h ▸ List.mem_cons_self)
    have hreturn : c ≠ '\r' := by
      rintro rfl
      simpa [isControl] using hplain '\r' List.mem_cons_self
    simp [hc, hreturn]

/-- A text with escapes begins with a line end only if the text does. -/
theorem head?_escapeFrom_ne {text : List Char} (hline : '\n' ∉ text) (rest : List Char) :
    (escapeFrom true 0 text ++ '"' :: rest).head? ≠ some '\n' ∧
      (escapeFrom true 0 text ++ '"' :: rest).head? ≠ some '\r' := by
  match text with
  | [] => simp [escapeFrom]
  | c :: text =>
    have hc : c ≠ '\n' := fun h => hline (h ▸ List.mem_cons_self)
    by_cases hquote : c = '"'
    · simp [escapeFrom, hquote, quoteLimit]
    · have hfront : c ≠ '"' ∨ quoteLimit true ≤ 0 := .inl hquote
      rcases head?_escapeFrom true hfront text ('"' :: rest) with hhead | ⟨hhead, -, hescape⟩
      · rw [hhead]
        decide
      · have hreturn : c ≠ '\r' := by
          rintro rfl
          cases hescape
        rw [hhead]
        exact ⟨fun h => hc (Option.some.inj h), fun h => hreturn (Option.some.inj h)⟩

/-- Whether a text can be written in a style. -/
def Style.Suits (text : List Char) : Style → Prop
  | .basic => True
  | .literal => '\'' ∉ text ∧ ∀ c ∈ text, isControl c = false
  | .longBasic => True
  | .longLiteral => longestRun '\'' text ≤ 2 ∧ ∀ c ∈ text, isControl c = false ∨ c = '\n'

/-- The style that is chosen suits the text. -/
theorem suits_ofText (text : List Char) : (Style.ofText text).Suits text := by
  unfold Style.ofText
  dsimp only
  split
  · trivial
  split
  · next h =>
    simp only [Bool.and_eq_true, Bool.not_eq_true', List.contains_eq_mem, decide_eq_false_iff_not]
      at h
    obtain ⟨⟨hescape, hquote⟩, hline⟩ := h
    refine ⟨hquote, fun c hc => (isControl_of_needsEscape hescape hc).resolve_right ?_⟩
    rintro rfl
    exact hline hc
  split
  · trivial
  split
  · next h =>
    simp only [Bool.and_eq_true, Bool.not_eq_true', decide_eq_true_eq] at h
    exact ⟨h.2, fun c hc => isControl_of_needsEscape h.1 hc⟩
  split <;> trivial

/-- A quote that is not one of three opens a text of one line. -/
theorem readQuoted_basic {written : List Char} (h : ∀ more, written ≠ '"' :: '"' :: more) :
    readQuoted ('"' :: written) = readBasic written := by
  simp [readQuoted]

theorem readQuoted_literal {written : List Char} (h : ∀ more, written ≠ '\'' :: '\'' :: more) :
    readQuoted ('\'' :: written) = readLiteral written := by
  simp [readQuoted]

/-- A text that is written in a style that suits it is read back. -/
theorem readQuoted_write {style : Style} {text rest : List Char} (h : style.Suits text)
    (hbasic : rest.head? ≠ some '"') (hliteral : rest.head? ≠ some '\'') :
    readQuoted (style.write text ++ rest) = some (text, rest) := by
  cases style with
  | basic =>
    have hfront : ∀ more, escapeFrom false 0 text ++ '"' :: rest ≠ '"' :: '"' :: more := by
      intro more heq
      match text with
      | [] => exact hbasic (by simp [(List.cons.inj heq).2])
      | c :: text =>
        have hlimit : c ≠ '"' ∨ quoteLimit false ≤ 0 := .inr (Nat.le_refl 0)
        rcases head?_escapeFrom false hlimit text ('"' :: rest) with hhead | ⟨hhead, hc, -⟩
        · simp [heq] at hhead
        · simp [heq, Ne.symm hc] at hhead
    have hread := readBasic_escapeFrom 0 text rest
    rw [← readQuoted_basic hfront] at hread
    simpa [Style.write] using hread
  | literal =>
    have hfront : ∀ more, text ++ '\'' :: rest ≠ '\'' :: '\'' :: more := by
      intro more heq
      match text, h with
      | [], _ => exact hliteral (by simp [(List.cons.inj heq).2])
      | c :: text, h => exact h.1 (by simp [(List.cons.inj heq).1])
    have hread := readLiteral_append h.1 h.2 rest
    rw [← readQuoted_literal hfront] at hread
    simpa [Style.write] using hread
  | longBasic =>
    have hread := readLongBasic_escapeFrom 0 text hbasic
    have hopening := skipFirstLineEnd_opening text fun hline =>
      head?_escapeFrom_ne hline ('"' :: '"' :: rest)
    simpa [Style.write, readQuoted, hopening] using hread
  | longLiteral =>
    have hread := readLongLiteral_append h.1 h.2 hliteral
    have hopening := skipFirstLineEnd_opening text fun hline =>
      head?_append_ne h.2 hline ('\'' :: '\'' :: rest)
    simpa [Style.write, readQuoted, hopening] using hread

/-- **A written text is read back**, as long as no quote stands behind it. -/
theorem readQuoted_quote (text : List Char) {rest : List Char} (hbasic : rest.head? ≠ some '"')
    (hliteral : rest.head? ≠ some '\'') : readQuoted (quote text ++ rest) = some (text, rest) :=
  readQuoted_write (suits_ofText text) hbasic hliteral

end IndexGateway.Toml

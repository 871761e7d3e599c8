import IndexGateway.Text.Lowercase

/-!
# Lower case is final

What a character becomes in lower case is lower case itself, and it lies beyond the
punctuation of ASCII unless it was there before.

Both are read off the ranges of the table. A range that is moved spans an interval, and
it stays clear of another range if the intervals are apart, or if both ranges take every
second code point and never the same ones. This is tried for each pair of ranges, and not
for each character.
-/

namespace IndexGateway.Text.Lowercase

variable {c d : Char} {r r' : Range} {low high n m : Nat}

/-! ### Ranges -/

/-- Whether a range stays clear of the code points from `low` to `high`, of which only every second
one counts if they are alternate. -/
def Range.clears (r : Range) (alternate : Bool) (low high : Nat) : Bool :=
  Nat.blt high r.first || Nat.blt r.last low ||
    Nat.beq r.step 2 && alternate && Nat.beq ((low - r.first) % 2) 1

/-- Whether a range is moved to characters beyond the punctuation of ASCII that are in no range, nor
the one with a form of two characters. -/
def Range.isFinal (r : Range) : Bool :=
  let low := (r.first + r.shift).toNat
  let high := (r.last + r.shift).toNat
  Nat.blt 0x60 low && (Nat.blt high 0x130 || Nat.blt 0x130 low) &&
    (Nat.blt high 0xD800 || Nat.blt 0xDFFF low && Nat.blt high 0x110000) &&
    ranges.all (·.clears (Nat.beq r.step 2 || Nat.beq r.first r.last) low high)

/-- **All ranges are moved out of all ranges.** -/
theorem all_isFinal : ranges.all Range.isFinal = true := by decide +kernel

theorem Range.holds_eq_false_of_clears {alternate : Bool} (h : r.clears alternate low high = true)
    (hlow : low ≤ m) (hhigh : m ≤ high) (halternate : alternate = true → (m - low) % 2 = 0) :
    r.holds m = false := by
  simp only [clears, Bool.or_eq_true, Bool.and_eq_true, Nat.blt_eq, Nat.beq_eq] at h
  simp only [holds, Bool.and_eq_false_iff, decide_eq_false_iff_not]
  rcases h with (hbefore | hbehind) | ⟨⟨hstep, hsecond⟩, hodd⟩
  · omega
  · omega
  · have heven := halternate hsecond
    rw [hstep]
    omega

/-- What a range says about the code points to which it is moved. -/
structure Moved (m : Nat) : Prop where
  /-- It is one of a character. -/
  valid : m.isValidChar
  /-- It lies beyond the punctuation of ASCII. -/
  beyond : 0x60 < m
  /-- It is not the one whose form has two characters. -/
  ne_dotted : m ≠ dottedCapitalI.toNat
  /-- No range holds it. -/
  unheld : ∀ r ∈ ranges, r.holds m = false

theorem moved_of_holds (hr : r ∈ ranges) (h : r.holds n = true) : Moved (n + r.shift).toNat := by
  have hfinal := List.all_eq_true.mp all_isFinal r hr
  simp only [Range.isFinal, Bool.and_eq_true, Bool.or_eq_true, Nat.blt_eq, List.all_eq_true] at hfinal
  obtain ⟨⟨⟨hbeyond, hdotted⟩, hvalid⟩, hclears⟩ := hfinal
  simp only [Range.holds, Bool.and_eq_true, decide_eq_true_eq] at h
  obtain ⟨⟨hfirst, hlast⟩, hstep⟩ := h
  have hne : dottedCapitalI.toNat = 0x130 := rfl
  refine ⟨?_, by omega, by omega, fun r' hr' => ?_⟩
  · unfold Nat.isValidChar
    omega
  · refine Range.holds_eq_false_of_clears (hclears r' hr') (by omega) (by omega) fun halternate => ?_
    rw [Bool.or_eq_true, Nat.beq_eq, Nat.beq_eq] at halternate
    rcases halternate with htwo | hone
    · rw [htwo] at hstep
      omega
    · omega

/-! ### Characters -/

/-- How a character comes by its lower-case form. -/
theorem ofChar_cases (c : Char) :
    c = dottedCapitalI ∧ ofChar c = ['i', '\u0307'] ∨
    c ≠ dottedCapitalI ∧ (∀ r ∈ ranges, r.holds c.toNat = false) ∧ ofChar c = [c] ∨
    ∃ d, ofChar c = [d] ∧ Moved d.toNat := by
  unfold ofChar
  by_cases hdotted : c = dottedCapitalI
  · exact .inl ⟨hdotted, if_pos hdotted⟩
  · right
    rw [if_neg hdotted]
    split
    · next hnone =>
      refine .inl ⟨hdotted, fun r hr => ?_, rfl⟩
      simpa using List.find?_eq_none.mp hnone r hr
    · next r hsome =>
      have hholds : r.holds c.toNat = true := by simpa using List.find?_some hsome
      have hmoved := moved_of_holds (List.mem_of_find?_eq_some hsome) hholds
      refine .inr ⟨_, rfl, ?_⟩
      rw [Char.ofNat, dif_pos hmoved.valid]
      exact hmoved

theorem ofChar_of_unheld (hdotted : c ≠ dottedCapitalI) (h : ∀ r ∈ ranges, r.holds c.toNat = false) :
    ofChar c = [c] := by
  have hnone : ranges.find? (·.holds c.toNat) = none := by
    rw [List.find?_eq_none]
    intro r hr
    rw [h r hr]
    exact Bool.false_ne_true
  rw [ofChar, if_neg hdotted, hnone]

theorem ofChar_ne_nil (c : Char) : ofChar c ≠ [] := by
  rcases ofChar_cases c with ⟨-, h⟩ | ⟨-, -, h⟩ | ⟨d, h, -⟩ <;> simp [h]

/-- **What a character becomes in lower case is its own lower case.** -/
theorem ofChar_of_mem (h : d ∈ ofChar c) : ofChar d = [d] := by
  rcases ofChar_cases c with ⟨-, heq⟩ | ⟨-, -, heq⟩ | ⟨d', heq, hmoved⟩
  · rw [heq] at h
    simp only [List.mem_cons, List.not_mem_nil, or_false] at h
    rcases h with rfl | rfl <;> decide +kernel
  · rw [heq] at h
    obtain rfl := List.mem_singleton.mp h
    exact heq
  · rw [heq] at h
    obtain rfl := List.mem_singleton.mp h
    refine ofChar_of_unheld (fun hdotted => hmoved.ne_dotted (congrArg Char.toNat hdotted)) ?_
    exact hmoved.unheld

/-- **A lower-case form lies beyond the punctuation of ASCII**, or it is that of itself. -/
theorem eq_or_lt_of_mem_ofChar (h : d ∈ ofChar c) : d = c ∨ 0x60 < d.toNat := by
  rcases ofChar_cases c with ⟨-, heq⟩ | ⟨-, -, heq⟩ | ⟨d', heq, hmoved⟩
  · rw [heq] at h
    simp only [List.mem_cons, List.not_mem_nil, or_false] at h
    rcases h with rfl | rfl <;> exact .inr (by decide)
  · rw [heq] at h
    exact .inl (List.mem_singleton.mp h)
  · rw [heq] at h
    obtain rfl := List.mem_singleton.mp h
    exact .inr hmoved.beyond

end IndexGateway.Text.Lowercase

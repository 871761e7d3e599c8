import IndexGateway.Proofs.Json.Numeral
import IndexGateway.Proofs.Text.Passes

/-!
# Safe texts

A text is safe in a reply if each of its characters is a tab, a line feed, a carriage
return or one of `U+0020` to `U+007E`. These are the characters that cleaning lets
through as they are; what it makes of any other is made of them too.

## What is proved

* `isSafe_iff` — the safe characters are the characters of ASCII that are not illegal.
* `cleanChar_eq` — what cleaning makes of a character: the character, nothing, or a reference.
* `isSafe_clean`, `clean_eq_self_iff` — a clean text is safe, and the safe texts are those
  that cleaning leaves as they are; for these no other text is built.
* `isSafe_append`, `isSafe_intercalate_iff` — a text that is put together is safe exactly
  if its parts are.
-/

namespace IndexGateway.Text

variable {c d : Char} {s t : String}

/-- Whether a reply may hold a character as it is: tab, line feed, carriage return, and `U+0020` to
`U+007E`. -/
def isSafe (c : Char) : Bool :=
  c = '\t' || c = '\n' || c = '\r' || (0x20 ≤ c.toNat && c.toNat ≤ 0x7E)

/-- All characters of a text are safe. -/
def IsSafe (s : String) : Prop := ∀ c ∈ s.toList, isSafe c

instance (s : String) : Decidable (IsSafe s) := List.decidableBAll (isSafe · = true) s.toList

/-! ### Characters -/

theorem char_eq_iff {c d : Char} : c = d ↔ c.toNat = d.toNat := Char.toNat_inj.symm

theorem isIllegal_of_isAscii (h : isAscii c = true) :
    isIllegal c = (decide (c.toNat ≤ 0x08) || (0x0B ≤ c.toNat && c.toNat ≤ 0x0C) ||
      (0x0E ≤ c.toNat && c.toNat ≤ 0x1F) || 0x7F ≤ c.toNat) := by
  have hn : c.toNat < 0x80 := of_decide_eq_true h
  have hbig : ¬ 0xFFFF < c.toNat := by omega
  simp only [isIllegal, hbig, if_false, illegalRanges, List.any_cons, List.any_nil]
  rw [Bool.eq_iff_iff]
  simp
  omega

/-- **The safe characters are those of ASCII that are not illegal.** -/
theorem isSafe_iff : isSafe c = true ↔ isAscii c = true ∧ isIllegal c = false := by
  constructor
  · intro h
    have hcases : c.toNat = 9 ∨ c.toNat = 10 ∨ c.toNat = 13 ∨ (0x20 ≤ c.toNat ∧ c.toNat ≤ 0x7E) := by
      simpa [isSafe, char_eq_iff, or_assoc] using h
    have hascii : isAscii c = true := by
      simp [isAscii]
      omega
    refine ⟨hascii, ?_⟩
    rw [isIllegal_of_isAscii hascii]
    simp
    omega
  · rintro ⟨hascii, hlegal⟩
    have hn : c.toNat < 0x80 := of_decide_eq_true hascii
    rw [isIllegal_of_isAscii hascii] at hlegal
    simp at hlegal
    simp [isSafe, char_eq_iff]
    omega

/-- A safe character is left as it is. -/
theorem cleanChar_of_isSafe (h : isSafe c = true) : cleanChar c = [c] := by
  obtain ⟨hascii, hlegal⟩ := isSafe_iff.mp h
  simp [cleanChar, reference, hascii, hlegal]

theorem isSafe_of_isDigit (h : c.isDigit) : isSafe c = true := by
  have hrange : 48 ≤ c.toNat ∧ c.toNat ≤ 57 := by
    simpa [Char.isDigit, UInt32.le_iff_toNat_le] using h
  simp [isSafe]
  omega

/-- A reference to a character holds safe characters only. -/
theorem isSafe_of_mem_reference (hc : isAscii c = false) (h : d ∈ reference c) : isSafe d = true := by
  rw [reference, hc, if_neg Bool.false_ne_true] at h
  simp only [List.cons_append, List.mem_cons, List.mem_append, List.not_mem_nil, or_false] at h
  rcases h with rfl | rfl | hdigit | rfl
  · decide
  · decide
  · exact isSafe_of_isDigit (Number.isDigit_of_mem_ofNat hdigit)
  · decide

theorem isAscii_of_mem_reference (h : d ∈ reference c) : isAscii d = true := by
  cases hascii : isAscii c with
  | true =>
    rw [reference, if_pos hascii] at h
    rwa [List.mem_singleton.mp h]
  | false => exact (isSafe_iff.mp (isSafe_of_mem_reference hascii h)).1

/-- Whatever cleaning makes of a character is safe. -/
theorem isSafe_of_mem_cleanChar (h : d ∈ cleanChar c) : isSafe d = true := by
  obtain ⟨hmem, hlegal⟩ := List.mem_filter.mp h
  exact isSafe_iff.mpr ⟨isAscii_of_mem_reference hmem, by simpa using hlegal⟩

/-- **What cleaning makes of a character**: of one beyond ASCII a decimal reference to it, of one that
is illegal nothing, and of any other the character itself. -/
theorem cleanChar_eq (c : Char) : cleanChar c =
    if isAscii c then if isIllegal c then [] else [c]
    else '&' :: '#' :: Numeral.ofNat c.toNat ++ [';'] := by
  cases hascii : isAscii c with
  | true => cases hlegal : isIllegal c <;> simp [cleanChar, reference, hascii, hlegal]
  | false =>
    have hkept : cleanChar c = reference c := List.filter_eq_self.mpr fun d hd => by
      simpa using (isSafe_iff.mp (isSafe_of_mem_reference hascii hd)).2
    rw [hkept, reference, hascii]
    rfl

/-! ### Texts -/

/-- **A clean text is safe.** -/
theorem isSafe_clean (s : String) : IsSafe (clean s) := by
  intro d hd
  rw [toList_clean, List.mem_flatMap] at hd
  obtain ⟨c, -, hd⟩ := hd
  exact isSafe_of_mem_cleanChar hd

/-- **Cleaning leaves exactly the safe texts as they are.** -/
theorem clean_eq_self_iff : clean s = s ↔ IsSafe s := by
  constructor
  · intro h
    rw [← h]
    exact isSafe_clean s
  · intro h
    rw [← String.toList_inj, toList_clean,
      List.flatMap_congr fun c hc => cleanChar_of_isSafe (h c hc)]
    exact List.flatMap_singleton' s.toList

/-- **No other text is built exactly if a text is safe.** -/
theorem rebuilt?_eq_none_iff : rebuilt? s = none ↔ IsSafe s := by
  have hsafe : IsSafe s ↔ s.toList.all isAscii = true ∧ s.toList.any isIllegal = false := by
    simp only [IsSafe, isSafe_iff, List.all_eq_true, List.any_eq_false, Bool.not_eq_true,
      ← forall₂_and]
  rw [hsafe, rebuilt?]
  split
  · next hempty =>
    rw [String.isEmpty_iff.mp hempty]
    exact iff_of_true rfl (by decide)
  · cases hascii : s.toList.all isAscii with
    | true => simp [escaped?, hascii, stripped?]
    | false => simp [escaped?, hascii]

theorem clean_clean (s : String) : clean (clean s) = clean s := clean_eq_self_iff.mpr (isSafe_clean s)

@[simp] theorem isSafe_append : IsSafe (s ++ t) ↔ IsSafe s ∧ IsSafe t := by
  simp only [IsSafe, String.toList_append, List.forall_mem_append]

/-- Texts joined by a safe separator are safe exactly if each of them is. -/
theorem isSafe_intercalate_iff {texts : List String} (hs : IsSafe s) :
    IsSafe (s.intercalate texts) ↔ ∀ t ∈ texts, IsSafe t := by
  induction texts with
  | nil => simp [IsSafe]
  | cons t texts ih =>
    cases texts with
    | nil => simp
    | cons u texts =>
      rw [String.intercalate_cons_cons, isSafe_append, isSafe_append, ih, and_iff_left hs]
      simp only [List.forall_mem_cons]

theorem isSafe_ofNat (n : Nat) : IsSafe (String.ofList (Numeral.ofNat n)) := by
  intro c hc
  rw [String.toList_ofList] at hc
  exact isSafe_of_isDigit (Number.isDigit_of_mem_ofNat hc)

theorem isSafe_ofInt (n : Int) : IsSafe (String.ofList (Numeral.ofInt n)) := by
  cases n with
  | ofNat n => exact isSafe_ofNat n
  | negSucc n =>
    have h := isSafe_ofNat (n + 1)
    simp only [IsSafe, String.toList_ofList, Numeral.ofInt, List.forall_mem_cons] at h ⊢
    exact ⟨by decide, h⟩

end IndexGateway.Text

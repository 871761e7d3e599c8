import IndexGateway.Proofs.Json.Numeral
import IndexGateway.Toml.Scalar
import Mathlib.Data.List.TakeDrop

/-!
# Whole numbers and truth values

A whole number is written in decimal digits with a minus sign if it is negative. Read as a
word it is nothing else than a number: dates and times of day hold other characters behind
their first digits, and floating-point numbers go on behind their digits.

A word ends where the line does.
-/

namespace IndexGateway.Toml

open Text Number

/-! ### Words -/

theorem readWord_line {word : List Char} (h : ∀ c ∈ word, isWordChar c) (rest : List Char) :
    readWord (word ++ '\n' :: rest) = (ofWord word).map fun v => (v, '\n' :: rest) := by
  have hline : ∀ c, ('\n' :: rest).head? = some c → isWordChar c = false := by
    intro c hc
    rw [← Option.some.inj hc]
    rfl
  obtain ⟨htake, hdrop⟩ := Reader.takeWhile_append_of_stop h hline
  simp [readWord, List.span_eq_takeWhile_dropWhile, htake, hdrop, secondWord]

theorem isWordChar_of_isDigit {c : Char} (h : c.isDigit) : isWordChar c := by
  simp [isWordChar, Char.isAlphanum, h]

/-! ### Digits -/

theorem ungroup_of_digits {digits : List Char} (hne : digits ≠ []) (h : ∀ c ∈ digits, c.isDigit) :
    ungroup Char.isDigit digits = some digits := by
  match digits with
  | [] => exact absurd rfl hne
  | [c] => simp [ungroup, h c List.mem_cons_self]
  | c :: d :: rest =>
    obtain ⟨hc, hmore⟩ := List.forall_mem_cons.mp h
    have hd : d ≠ '_' := Reader.ne_of_class (hmore d List.mem_cons_self) rfl
    simp [ungroup, hc, hd, ungroup_of_digits (List.cons_ne_nil d rest) hmore]

theorem decimalDigits_ofNat (n : Nat) :
    decimalDigits (Numeral.ofNat n) = some (Numeral.ofNat n) := by
  have hdigits := ungroup_of_digits (ofNat_ne_nil n) fun _ => isDigit_of_mem_ofNat
  unfold decimalDigits
  rw [hdigits]
  rcases Nat.eq_zero_or_pos n with rfl | hpos
  · rfl
  · have hzero := head?_ofNat_ne_zero hpos
    split
    · next h => cases h
    · next h => simp [Option.some.inj h] at hzero
    · next h => simp [Option.some.inj h] at hzero
    · next h => exact h.symm

theorem unsign_ofNat (n : Nat) : unsign (Numeral.ofNat n) = (false, Numeral.ofNat n) := by
  unfold unsign
  split
  · next h => exact absurd h (ofNat_ne_cons rfl _)
  · next h => exact absurd h (ofNat_ne_cons rfl _)
  · rfl

theorem unsign_ofInt (n : Int) :
    unsign (Numeral.ofInt n) = (decide (n < 0), Numeral.ofNat n.natAbs) := by
  cases n with
  | ofNat n => simp [Numeral.ofInt, unsign_ofNat]
  | negSucc n => simp [Numeral.ofInt, unsign, Int.negSucc_lt_zero]

/-! ### What a whole number is not -/

/-- A whole number has nothing behind its digits. -/
theorem isFloat_ofInt (n : Int) : isFloat (Numeral.ofInt n) = false := by
  have hdigits : ∀ c ∈ Numeral.ofNat n.natAbs, c.isDigit := fun _ => isDigit_of_mem_ofNat
  have hrun : (Numeral.ofNat n.natAbs).takeWhile (fun c => c.isDigit || c = '_') =
      Numeral.ofNat n.natAbs := by
    rw [List.takeWhile_eq_self_iff]
    intro c hc
    simp [hdigits c hc]
  have hinf : Numeral.ofNat n.natAbs ≠ ['i', 'n', 'f'] := ofNat_ne_cons rfl _
  have hnan : Numeral.ofNat n.natAbs ≠ ['n', 'a', 'n'] := ofNat_ne_cons rfl _
  simp [isFloat, unsign_ofInt, hrun, hinf, hnan]

theorem exactly_eq_none {mark : Char} {text : List Char} (h : mark ∉ text) :
    Reader.exactly [mark] text = none := by
  match text with
  | [] => rfl
  | c :: text =>
    have hne : mark ≠ c := fun heq => h (heq ▸ List.mem_cons_self)
    simp [Reader.exactly, hne]

/-- Behind digits, a mark is not found that the text does not hold. -/
theorem exactly_of_readDigits {width n : Nat} {mark : Char} {text rest : List Char}
    (h : readDigits width text = some (n, rest)) (hmark : mark ∉ text) :
    Reader.exactly [mark] rest = none := by
  simp only [readDigits] at h
  split at h
  · obtain ⟨-, rfl⟩ := Prod.mk.inj (Option.some.inj h)
    exact exactly_eq_none fun hmem => hmark (List.mem_of_mem_drop hmem)
  · cases h

theorem readDate_of_notMem {text : List Char} (h : '-' ∉ text) : readDate text = none := by
  cases hyear : readDigits 4 text with
  | none => simp [readDate, hyear]
  | some p => simp [readDate, hyear, exactly_of_readDigits hyear h]

theorem readDate_minus (text : List Char) : readDate ('-' :: text) = none := by
  have hyear : readDigits 4 ('-' :: text) = none := by
    simp [readDigits]
  simp [readDate, hyear]

theorem readClock_of_notMem {text : List Char} (h : ':' ∉ text) : readClock text = none := by
  cases hhour : readDigits 2 text with
  | none => simp [readClock, readHours, hhour]
  | some p => simp [readClock, readHours, hhour, exactly_of_readDigits hhour h]

/-- A whole number is no date, as its only dash is at the front, and no time of day. -/
theorem isTime_ofInt (n : Int) : isTime (Numeral.ofInt n) = false := by
  have hdate : readDate (Numeral.ofInt n) = none := by
    cases n with
    | ofNat n => exact readDate_of_notMem (notMem_ofNat rfl)
    | negSucc n => exact readDate_minus _
  have hclock : readClock (Numeral.ofInt n) = none := readClock_of_notMem (notMem_ofInt rfl)
  simp [isTime, hdate, hclock]

/-! ### Leaves -/

theorem int64?_toInt (n : Int64) : int64? n.toInt = some n := by
  have hlower : -9223372036854775808 ≤ n.toInt := n.le_toInt
  have hupper : n.toInt < 9223372036854775808 := n.toInt_lt
  simp [int64?, hlower, hupper]

theorem value_unsign_ofInt (n : Int) :
    (if (unsign (Numeral.ofInt n)).1 then -(Numeral.value (unsign (Numeral.ofInt n)).2 : Int)
      else Numeral.value (unsign (Numeral.ofInt n)).2) = n := by
  rw [unsign_ofInt, value_ofNat]
  simp only [decide_eq_true_eq]
  split <;> omega

theorem whole?_ofInt (n : Int64) : whole? (Numeral.ofInt n.toInt) = some n := by
  have hsecond : ∀ c d cs, isLeading d = false → Numeral.ofInt n.toInt ≠ c :: d :: cs := by
    intro c d cs hd heq
    exact notMem_ofInt (n := n.toInt) hd (by simp [heq])
  have hdigits : decimalDigits (unsign (Numeral.ofInt n.toInt)).2 =
      some (unsign (Numeral.ofInt n.toInt)).2 := by
    rw [unsign_ofInt]
    exact decimalDigits_ofNat _
  unfold whole?
  split
  · next heq => exact absurd heq (hsecond _ _ _ rfl)
  · next heq => exact absurd heq (hsecond _ _ _ rfl)
  · next heq => exact absurd heq (hsecond _ _ _ rfl)
  · simp only [hdigits, value_unsign_ofInt, int64?_toInt]

/-- **A whole number is read back.** -/
theorem ofWord_ofInt (n : Int64) : ofWord (Numeral.ofInt n.toInt) = some (.int n) := by
  have htrue : Numeral.ofInt n.toInt ≠ ['t', 'r', 'u', 'e'] := ofInt_ne_cons rfl _
  have hfalse : Numeral.ofInt n.toInt ≠ ['f', 'a', 'l', 's', 'e'] := ofInt_ne_cons rfl _
  simp [ofWord, htrue, hfalse, isTime_ofInt, isFloat_ofInt, whole?_ofInt]

end IndexGateway.Toml

import IndexGateway.Instant.Parser
import IndexGateway.Instant.Printer
import IndexGateway.Proofs.Instant.Calendar
import IndexGateway.Proofs.Text.Numeral

/-!
# Written instants read back

An instant is read back from its text, to the nanosecond and in every year that can be
represented; a leap second is told from the next second by its second 60.

Reading is more liberal than writing, but no blank and no shorter numeral is ever written,
so each part of the text is read by one branch only. What is read of a text with another
fraction differs in the nanoseconds alone (`ofChars?_wholeText`).
-/

namespace IndexGateway.Instant

open Text

/-! ### Numerals and marks -/

theorem isBlank_of_isDigit {c : Char} (h : c.isDigit) : isBlank c = false := by
  have hrange : 48 ≤ c.toNat ∧ c.toNat ≤ 57 := by
    simpa [Char.isDigit, UInt32.le_iff_toNat_le] using h
  simp only [isBlank, Bool.or_eq_false_iff, Bool.and_eq_false_iff, decide_eq_false_iff_not]
  omega

theorem trimStart_cons {c : Char} (h : isBlank c = false) (rest : List Char) :
    trimStart (c :: rest) = c :: rest := by
  simp [trimStart, h]

theorem trimStart_padded (width n : Nat) (rest : List Char) :
    trimStart (Numeral.padded width n ++ rest) = Numeral.padded width n ++ rest := by
  obtain ⟨c, cs, hcons⟩ := List.exists_cons_of_ne_nil (Numeral.padded_ne_nil width n)
  have hc : c.isDigit := Numeral.isDigit_of_mem_padded (hcons ▸ List.mem_cons_self)
  rw [hcons, List.cons_append, trimStart_cons (isBlank_of_isDigit hc)]

theorem readNumber_padded {width n : Nat} (h : n < 10 ^ width) (hwidth : 0 < width)
    (rest : List Char) : readNumber width (Numeral.padded width n ++ rest) = some (n, rest) := by
  have hlength := Numeral.length_padded h hwidth
  have htake : (Numeral.padded width n ++ rest).take width = Numeral.padded width n :=
    List.take_left' hlength
  have hdrop : (Numeral.padded width n ++ rest).drop (Numeral.padded width n).length = rest :=
    List.drop_left' rfl
  have hdigits : (Numeral.padded width n).takeWhile Char.isDigit = Numeral.padded width n := by
    rw [List.takeWhile_eq_self_iff]
    exact fun c => Numeral.isDigit_of_mem_padded
  unfold readNumber
  rw [trimStart_padded]
  dsimp only
  rw [htake, hdigits]
  split
  · next hnil => exact absurd hnil (Numeral.padded_ne_nil width n)
  · rw [hdrop, Numeral.value_padded]

theorem readMark_cons {mark : Char} (h : isBlank mark = false) (rest : List Char) :
    readMark mark (mark :: rest) = some ((), rest) := by
  simp [readMark, trimStart_cons h]

/-! ### Dates -/

/-- A numeral does not begin with a sign. -/
theorem padded_append_ne {c : Char} (hc : c.isDigit = false) (width n : Nat) (rest more : List Char) :
    Numeral.padded width n ++ rest ≠ c :: more := by
  intro heq
  obtain ⟨d, ds, hcons⟩ := List.exists_cons_of_ne_nil (Numeral.padded_ne_nil width n)
  have hd : d.isDigit := Numeral.isDigit_of_mem_padded (hcons ▸ List.mem_cons_self)
  rw [hcons, List.cons_append] at heq
  rw [(List.cons.inj heq).1, hc] at hd
  cases hd

theorem readYear_unsigned {n : Nat} (h : n < 10 ^ 4) (rest : List Char) :
    readYear (Numeral.padded 4 n ++ rest) = some ((n : Int), rest) := by
  unfold readYear
  rw [trimStart_padded]
  split
  · next heq => exact absurd heq (padded_append_ne rfl _ _ _ _)
  · next heq => exact absurd heq (padded_append_ne rfl _ _ _ _)
  · rw [readNumber_padded h (by decide)]

theorem readYear_yearText (year : Int) (rest : List Char) :
    readYear (yearText year ++ '-' :: rest) = some (year, '-' :: rest) := by
  have hrun : Reader.run1 Char.isDigit (Numeral.padded 4 year.natAbs ++ '-' :: rest) =
      some (Numeral.padded 4 year.natAbs, '-' :: rest) :=
    Reader.run1_append (Numeral.padded_ne_nil _ _) (fun _ => Numeral.isDigit_of_mem_padded) (by simp)
  unfold yearText
  split
  · next h =>
    rw [readYear_unsigned (by omega), Int.toNat_of_nonneg h.1]
  · by_cases hneg : year < 0
    · simp [hneg, readYear, trimStart_cons, isBlank, hrun, abs_of_neg hneg]
    · simp [hneg, readYear, trimStart_cons, isBlank, hrun, abs_of_nonneg (not_lt.mp hneg)]

/-- **A date is read back.** -/
theorem readDate_dateText {d : Calendar.Date} (hvalid : d.isValid = true)
    (hyear : -262143 ≤ d.year ∧ d.year ≤ 262142) (rest : List Char) :
    readDate (dateText d ++ rest) = some (d, rest) := by
  have hranges : d.month ≤ 12 ∧ d.day ≤ Calendar.daysInMonth d.year d.month := by
    simp only [Calendar.Date.isValid, Bool.and_eq_true, decide_eq_true_eq] at hvalid
    exact ⟨hvalid.1.1.2, hvalid.2⟩
  have hdays : Calendar.daysInMonth d.year d.month ≤ 31 := by
    unfold Calendar.daysInMonth
    split_ifs <;> omega
  have hmonth : d.month < 10 ^ 2 := by omega
  have hday : d.day < 10 ^ 2 := by omega
  simp [readDate, dateText, readYear_yearText, readMark_cons, isBlank, readNumber_padded hmonth,
    readNumber_padded hday, hvalid, hyear]

/-! ### Times of day -/

theorem secondOfDay_lt (t : Instant) : t.secondOfDay < 86400 := by
  simp only [secondOfDay]
  omega

/-- Only the last second of a minute has a leap second behind it. -/
theorem second_of_leap {t : Instant} (h : 1000000000 ≤ t.nanos) : t.secondOfDay % 60 = 59 := by
  have := t.leap h
  simp only [secondOfDay]
  omega

/-- The second 60 is told from the others. -/
theorem leapSecond_eq (t : Instant) (nanos : Nat) :
    (if t.secondOfDay % 60 + t.nanos / 1000000000 = 60 then (59, nanos + 1000000000)
      else (t.secondOfDay % 60 + t.nanos / 1000000000, nanos)) =
      (t.secondOfDay % 60, nanos + t.nanos / 1000000000 * 1000000000) := by
  have hnanos := t.nanos_lt
  by_cases hleap : 1000000000 ≤ t.nanos
  · have hquotient : t.nanos / 1000000000 = 1 := by omega
    simp [hquotient, second_of_leap hleap]
  · have hquotient : t.nanos / 1000000000 = 0 := by omega
    have hsecond : ¬ t.secondOfDay % 60 = 60 := by omega
    simp [hquotient, hsecond]

/-- **A time of day is read back**, whatever is read as the fraction behind it. -/
theorem readClock_clockText (t : Instant) {nanos : Nat} {fraction rest : List Char}
    (hfraction : readFraction (fraction ++ rest) = some (nanos, rest)) :
    readClock (t.clockText ++ (fraction ++ rest)) =
      some ((t.secondOfDay, nanos + t.nanos / 1000000000 * 1000000000), rest) := by
  have hday := t.secondOfDay_lt
  have hnanos := t.nanos_lt
  have hhour : t.secondOfDay / 3600 ≤ 23 := by omega
  have hminute : t.secondOfDay / 60 % 60 ≤ 59 := by omega
  have hsecond : t.secondOfDay % 60 + t.nanos / 1000000000 ≤ 60 := by omega
  have hhour' : t.secondOfDay / 3600 < 10 ^ 2 := by omega
  have hminute' : t.secondOfDay / 60 % 60 < 10 ^ 2 := by omega
  have hsecond' : t.secondOfDay % 60 + t.nanos / 1000000000 < 10 ^ 2 := by omega
  have htotal : t.secondOfDay / 3600 * 3600 + t.secondOfDay / 60 % 60 * 60 + t.secondOfDay % 60 =
      t.secondOfDay := by omega
  simp [readClock, clockText, readNumber_padded hhour', readNumber_padded hminute',
    readNumber_padded hsecond', readMark_cons, isBlank, hfraction, hhour, hminute, hsecond,
    leapSecond_eq, htotal]

/-- As many digits as are needed are read as the nanoseconds. -/
theorem readFraction_padded {width n : Nat} (h : n < 10 ^ width) (hwidth : 0 < width)
    (hnine : width ≤ 9) (rest : List Char) :
    readFraction ('.' :: Numeral.padded width n ++ 'Z' :: rest) =
      some (10 ^ (9 - width) * n, 'Z' :: rest) := by
  have hrun : Reader.run1 Char.isDigit (Numeral.padded width n ++ 'Z' :: rest) =
      some (Numeral.padded width n, 'Z' :: rest) :=
    Reader.run1_append (Numeral.padded_ne_nil _ _) (fun _ => Numeral.isDigit_of_mem_padded) (by simp)
  have hlength := Numeral.length_padded h hwidth
  have hnines : (Numeral.padded width n ++ List.replicate 9 '0').take 9 =
      Numeral.padded width n ++ List.replicate (9 - width) '0' := by
    rw [List.take_append, List.take_of_length_le (by omega), List.take_replicate, hlength,
      Nat.min_eq_left (Nat.sub_le 9 width)]
  simp only [List.cons_append, readFraction, hrun, hnines, Numeral.value_append_zeros,
    Numeral.value_padded]

theorem readFraction_fractionText (t : Instant) (rest : List Char) :
    readFraction (t.fractionText ++ 'Z' :: rest) = some (t.nanos % 1000000000, 'Z' :: rest) := by
  unfold fractionText
  dsimp only
  split
  · next h => simp [readFraction, h]
  split
  · next h =>
    have hvalue : 10 ^ (9 - 3) * (t.nanos % 1000000000 / 1000000) = t.nanos % 1000000000 := by omega
    rw [readFraction_padded (by omega) (by decide) (by decide), hvalue]
  split
  · next h =>
    have hvalue : 10 ^ (9 - 6) * (t.nanos % 1000000000 / 1000) = t.nanos % 1000000000 := by omega
    rw [readFraction_padded (by omega) (by decide) (by decide), hvalue]
  · rw [readFraction_padded (by omega) (by decide) (by decide)]
    simp

/-! ### Instants -/

theorem readOffset_utc : readOffset ['Z'] = some (0, []) := rfl

theorem ofParts?_eq (t : Instant) : ofParts? t.seconds t.nanos = some t :=
  dif_pos ⟨t.lower, t.upper, t.nanos_lt, t.leap⟩

theorem readDate_date (t : Instant) (rest : List Char) :
    readDate (dateText t.date ++ rest) = some (t.date, rest) := by
  have hlower := t.lower
  have hupper := t.upper
  exact readDate_dateText (Calendar.isValid_ofDayNumber _)
    (Calendar.year_ofDayNumber (by omega) (by omega)) rest

/-- The day and the second of the day make up the instant. -/
theorem seconds_eq (t : Instant) : t.date.dayNumber * 86400 + t.secondOfDay = t.seconds := by
  rw [date, Calendar.dayNumber_ofDayNumber, secondOfDay]
  omega

/-- With another fraction of the second, another instant of the same second is read. -/
theorem ofChars?_wholeText (t : Instant) {nanos : Nat} {fraction : List Char}
    (hfraction : readFraction (fraction ++ ['Z']) = some (nanos, ['Z'])) :
    ofChars? (t.wholeText ++ fraction ++ ['Z']) =
      ofParts? t.seconds (nanos + t.nanos / 1000000000 * 1000000000) := by
  have hjoint (rest : List Char) : readJoint ('T' :: rest) = some ((), rest) := rfl
  have hend : trimStart [] = [] := rfl
  simp [ofChars?, wholeText, readDate_date, hjoint, readClock_clockText t hfraction, readOffset_utc,
    hend, seconds_eq]

/-- **An instant is read back from its text.** -/
theorem ofText?_text (t : Instant) : ofText? t.text = some t := by
  have hread := ofChars?_wholeText t (readFraction_fractionText t [])
  have hnanos : t.nanos % 1000000000 + t.nanos / 1000000000 * 1000000000 = t.nanos := by omega
  rw [hnanos, ofParts?_eq] at hread
  simpa [ofText?, text, chars] using hread

end IndexGateway.Instant

import IndexGateway.Instant.Calendar

/-!
# Day numbers and dates

Every day number is the number of exactly the date that is found for it, and that date is
on the calendar.

A day is taken apart into cycles of 400 years, centuries, spans of four years, years and
days, all of which start in March. Of these parts, only the last of a longer span has a
different length: a century lacks its last leap day unless it is the last of a cycle, and
the last year of a span has the leap day. The division by which the year is found is then
seen to find these parts (`yearOfCycle_eq`).
-/

namespace IndexGateway.Calendar

/-- The parts of a day. -/
structure Parts (n : Int) where
  /-- The cycle of 400 years. -/
  cycle : Int
  /-- The century of the cycle. -/
  century : Int
  /-- The span of four years of the century. -/
  span : Int
  /-- The year of the span. -/
  year : Int
  /-- The day of the year. -/
  day : Int
  century_nonneg : 0 ≤ century
  century_le : century ≤ 3
  span_nonneg : 0 ≤ span
  span_le : span ≤ 24
  year_nonneg : 0 ≤ year
  year_le : year ≤ 3
  day_nonneg : 0 ≤ day
  day_le : day ≤ 365
  /-- Only the last year of a span has a leap day, but not at the end of the first three centuries. -/
  leap : day = 365 → year = 3 ∧ (span = 24 → century = 3)
  /-- The parts make up the day. -/
  total : n + epochOffset = 146097 * cycle + 36524 * century + 1461 * span + 365 * year + day

/-- Every day can be taken apart. -/
theorem nonempty_parts (n : Int) : Nonempty (Parts n) := by
  let d := (n + epochOffset) % 146097
  let century := min (d / 36524) 3
  let r := d - 36524 * century
  let span := r / 1461
  let year := min (r % 1461 / 365) 3
  refine ⟨{
    cycle := (n + epochOffset) / 146097
    century, span, year
    day := r % 1461 - 365 * year
    century_nonneg := by omega
    century_le := by omega
    span_nonneg := by omega
    span_le := by omega
    year_nonneg := by omega
    year_le := by omega
    day_nonneg := by omega
    day_le := by omega
    leap := by omega
    total := by omega }⟩

namespace Parts

variable {n : Int} (p : Parts n)

/-- The year of the cycle. -/
def yearOfCycle : Int := 100 * p.century + 4 * p.span + p.year

/-- The month, counted from March. -/
def month : Int := (5 * p.day + 2) / 153

/-- The date of a day. -/
def date : Date where
  year := p.yearOfCycle + 400 * p.cycle + if p.month < 10 then 0 else 1
  month := (if p.month < 10 then p.month + 3 else p.month - 9).toNat
  day := (p.day - (153 * p.month + 2) / 5 + 1).toNat

/-- The day of the cycle. -/
def dayOfCycle : Int := 36524 * p.century + 1461 * p.span + 365 * p.year + p.day

theorem dayOfCycle_bounds : 0 ≤ p.dayOfCycle ∧ p.dayOfCycle < 146097 := by
  obtain ⟨cycle, century, span, year, day, h1, h2, h3, h4, h5, h6, h7, h8, h9, -⟩ := p
  simp only [dayOfCycle]
  omega

theorem cycle_eq : (n + epochOffset) / 146097 = p.cycle ∧
    (n + epochOffset) % 146097 = p.dayOfCycle := by
  have htotal := p.total
  have hbounds := p.dayOfCycle_bounds
  simp only [dayOfCycle] at hbounds ⊢
  omega

/-- The year is found by a division, once the leap days before it are taken off. Taking off a day
for each 1460 is early by up to one year, but never so early that it is taken from another year. -/
theorem yearOfCycle_eq :
    (p.dayOfCycle - p.dayOfCycle / 1460 + p.dayOfCycle / 36524 - p.dayOfCycle / 146096) / 365 =
      p.yearOfCycle := by
  obtain ⟨cycle, century, span, year, day, h1, h2, h3, h4, h5, h6, h7, h8, h9, -⟩ := p
  simp only [dayOfCycle, yearOfCycle]
  generalize hd : 36524 * century + 1461 * span + 365 * year + day = d
  have hyear : year = 0 ∨ year = 1 ∨ year = 2 ∨ year = 3 := by omega
  have hspans : d / 1460 = 25 * century + span ∨
      d / 1460 = 25 * century + span + 1 ∧ year = 3 ∧ 1 ≤ day := by omega
  have hleap : day = 365 → d / 1460 = 25 * century + span + 1 := by omega
  have hlast : d ≤ 36524 * century + 36523 ∨ d = 146096 ∧ century = 3 := by omega
  have hcenturies : d / 36524 - d / 146096 = century := by
    rcases hlast with hlast | ⟨rfl, rfl⟩
    · have hlower : 36524 * century ≤ d := by omega
      have hquotient : d / 36524 = century := by omega
      have hcycle : d / 146096 = 0 := by omega
      omega
    · rfl
  omega

/-- What is left is the day of the year. -/
theorem dayOfYear_eq : p.dayOfCycle -
    (365 * p.yearOfCycle + p.yearOfCycle / 4 - p.yearOfCycle / 100) = p.day := by
  obtain ⟨cycle, century, span, year, day, h1, h2, h3, h4, h5, h6, h7, h8, h9, -⟩ := p
  simp only [dayOfCycle, yearOfCycle]
  omega

theorem month_bounds : 0 ≤ p.month ∧ p.month ≤ 11 := by
  have hlower := p.day_nonneg
  have hupper := p.day_le
  simp only [month]
  omega

/-- The date that is found for a day is that of its parts. -/
theorem ofDayNumber_eq : ofDayNumber n = p.date := by
  obtain ⟨hcycle, hday⟩ := p.cycle_eq
  obtain ⟨hlower, hupper⟩ := p.month_bounds
  have hmonth : (5 * p.day + 2) / 153 = p.month := rfl
  simp only [ofDayNumber, hcycle, hday, p.yearOfCycle_eq, p.dayOfYear_eq, hmonth, date,
    Date.mk.injEq, and_true]
  omega

/-- The days before a year that starts in March. -/
theorem daysBefore_eq : 365 * (p.yearOfCycle + 400 * p.cycle) + (p.yearOfCycle + 400 * p.cycle) / 4 -
    (p.yearOfCycle + 400 * p.cycle) / 100 + (p.yearOfCycle + 400 * p.cycle) / 400 =
      146097 * p.cycle + 36524 * p.century + 1461 * p.span + 365 * p.year := by
  obtain ⟨cycle, century, span, year, day, h1, h2, h3, h4, h5, h6, h7, h8, h9, -⟩ := p
  simp only [yearOfCycle]
  omega

/-- The number of the date is that of the day. -/
theorem dayNumber_date : p.date.dayNumber = n := by
  obtain ⟨hlower, hupper⟩ := p.month_bounds
  have hdaysBeforeMonth : 0 ≤ p.day - (153 * p.month + 2) / 5 := by
    simp only [month]
    omega
  have hyear : (if p.date.month ≤ 2 then p.date.year - 1 else p.date.year) =
      p.yearOfCycle + 400 * p.cycle := by
    simp only [date]
    omega
  have hmonth : (((p.date.month + 9) % 12 : Nat) : Int) = p.month := by
    simp only [date]
    omega
  have hday : (p.date.day : Int) - 1 = p.day - (153 * p.month + 2) / 5 := by
    simp only [date]
    omega
  have htotal := p.total
  have hbefore := p.daysBefore_eq
  simp only [Date.dayNumber, hyear, hmonth, hday]
  omega

/-- A leap day is in a leap year. -/
theorem isLeapYear_date (h : p.day = 365) : isLeapYear p.date.year = true := by
  obtain ⟨hyear, hcentury⟩ := p.leap h
  have hmonth : ¬ p.month < 10 := by
    simp only [month, h]
    omega
  have hspan := p.span_nonneg
  have hspan' := p.span_le
  simp only [isLeapYear, date, yearOfCycle, hyear, hmonth, if_false, Bool.and_eq_true,
    Bool.or_eq_true, decide_eq_true_eq]
  omega

/-- The day is within its month. -/
theorem day_le_daysInMonth : p.date.day ≤ daysInMonth p.date.year p.date.month := by
  obtain ⟨hlower, hupper⟩ := p.month_bounds
  have hday := p.day_le
  have hmonth : 153 * p.month ≤ 5 * p.day + 2 ∧ 5 * p.day + 2 < 153 * p.month + 153 := by
    simp only [month]
    omega
  have hleap := p.isLeapYear_date
  simp only [daysInMonth]
  split
  · next h =>
    have hfebruary : p.month = 11 := by
      simp only [date] at h
      omega
    split
    · simp only [date, hfebruary]
      omega
    · next hnot =>
      have : p.day ≠ 365 := fun h => hnot (hleap h)
      simp only [date, hfebruary]
      omega
  · next h =>
    have hother : p.month ≤ 10 := by
      simp only [date] at h
      omega
    split
    · next h =>
      have hshort : p.month = 1 ∨ p.month = 3 ∨ p.month = 6 ∨ p.month = 8 := by
        simp only [date] at h
        omega
      rcases hshort with hm | hm | hm | hm <;> simp only [date, hm] <;> omega
    · next hlong =>
      simp only [date] at hlong ⊢
      omega

/-- The date is on the calendar. -/
theorem isValid_date : p.date.isValid = true := by
  obtain ⟨hlower, hupper⟩ := p.month_bounds
  have hday : 0 ≤ p.day - (153 * p.month + 2) / 5 := by
    simp only [month]
    omega
  have hmonths : 1 ≤ p.date.month ∧ p.date.month ≤ 12 := by
    simp only [date]
    omega
  have hfirst : 1 ≤ p.date.day := by
    simp only [date]
    omega
  simp [Date.isValid, hmonths, hfirst, p.day_le_daysInMonth]

end Parts

/-- **The date of a day has the day's number.** -/
theorem dayNumber_ofDayNumber (n : Int) : (ofDayNumber n).dayNumber = n := by
  obtain ⟨p⟩ := nonempty_parts n
  rw [p.ofDayNumber_eq, p.dayNumber_date]

/-- **The date of a day is on the calendar.** -/
theorem isValid_ofDayNumber (n : Int) : (ofDayNumber n).isValid = true := by
  obtain ⟨p⟩ := nonempty_parts n
  rw [p.ofDayNumber_eq, p.isValid_date]

/-- The years of the days from -96465292 to 95026236. -/
theorem year_ofDayNumber {n : Int} (hlower : -96465292 ≤ n) (hupper : n ≤ 95026236) :
    -262143 ≤ (ofDayNumber n).year ∧ (ofDayNumber n).year ≤ 262142 := by
  obtain ⟨p⟩ := nonempty_parts n
  rw [p.ofDayNumber_eq]
  obtain ⟨cycle, century, span, year, day, h1, h2, h3, h4, h5, h6, h7, h8, h9, htotal⟩ := p
  simp only [epochOffset] at htotal
  simp only [Parts.date, Parts.yearOfCycle, Parts.month]
  constructor
  · have hcycle : -656 ≤ cycle := by omega
    by_cases hlast : cycle = -656
    · subst hlast
      have hcentury : 2 ≤ century := by omega
      omega
    · omega
  · have hcycle : cycle ≤ 655 := by omega
    by_cases hlast : cycle = 655
    · subst hlast
      have hcentury : century ≤ 1 := by omega
      omega
    · omega

end IndexGateway.Calendar

import JsonTables.Time.Calendar
import Mathlib

/-!
# Days and dates

A day of an era of four hundred years is a day of a century, of four years in it and of one
of these.  The year that is estimated from it is that one, so every number of days has a
date that exists, and the date has that number of days.
-/

namespace JsonTables.Time.Date

/-- A day of an era: the whole centuries, groups of four years, years and days before it.
The last day of a year of 366 is in a leap year. -/
structure DayOfEra where
  centuries : Int
  fours : Int
  years : Int
  days : Int
  centuriesBound : 0 ≤ centuries ∧ centuries ≤ 3
  foursBound : 0 ≤ fours ∧ fours ≤ 24
  yearsBound : 0 ≤ years ∧ years ≤ 3
  daysBound : 0 ≤ days ∧ days ≤ 365
  leapDay : days = 365 → years = 3 ∧ (fours = 24 → centuries = 3)

namespace DayOfEra

variable (parts : DayOfEra)

/-- The day of the era, from its first. -/
def day : Int :=
  36524 * parts.centuries + 1461 * parts.fours + 365 * parts.years + parts.days

/-- The year of the era, from its first. -/
def year : Int :=
  100 * parts.centuries + 4 * parts.fours + parts.years

theorem exists_of_day {day : Int} (notBefore : 0 ≤ day) (inEra : day < daysPerEra) :
    ∃ parts : DayOfEra, parts.day = day := by
  rw [daysPerEra] at inEra
  obtain ⟨centuries, isCenturies⟩ : ∃ count, count = min (day / 36524) 3 := ⟨_, rfl⟩
  obtain ⟨fours, isFours⟩ : ∃ count, count = (day - 36524 * centuries) / 1461 := ⟨_, rfl⟩
  obtain ⟨years, isYears⟩ : ∃ count,
      count = min ((day - 36524 * centuries - 1461 * fours) / 365) 3 :=
    ⟨_, rfl⟩
  refine ⟨⟨centuries, fours, years,
    day - 36524 * centuries - 1461 * fours - 365 * years, ?_, ?_, ?_,
    ?_, ?_⟩, ?_⟩
  · omega
  · omega
  · omega
  · omega
  · omega
  · simp only [DayOfEra.day]
    omega

theorem div_century :
    parts.day / 36524 - parts.day / 146096 = parts.centuries := by
  rcases parts with ⟨centuries, fours, years, days, centuriesBound, foursBound, yearsBound,
    daysBound, leapDay⟩
  simp only [DayOfEra.day]
  generalize isDay : 36524 * centuries + 1461 * fours + 365 * years + days = day
  by_cases isLast : day = 146096
  · subst isLast
    omega
  · have inCentury : 1461 * fours + 365 * years + days < 36524 := by omega
    have quotient : day / 36524 = centuries := by omega
    have noEra : day / 146096 = 0 := by omega
    omega

/-- A quotient by the days of four years is one short of a leap day at most at their end. -/
theorem div_fours :
    ∃ short, parts.day / 1460 = 25 * parts.centuries + parts.fours + short ∧
      short ≤ parts.days ∧ parts.days - short ≤ 364 := by
  rcases parts with ⟨centuries, fours, years, days, centuriesBound, foursBound, yearsBound,
    daysBound, leapDay⟩
  simp only [DayOfEra.day]
  by_cases isLate : 1460 ≤ 24 * centuries + fours + 365 * years + days
  · exact ⟨1, by omega, by omega, by omega⟩
  · exact ⟨0, by omega, by omega, by omega⟩

/-- The estimate of the year from the day is right. -/
theorem estimate_eq_year :
    (parts.day - parts.day / 1460 + parts.day / 36524 - parts.day / 146096) / 365 = parts.year := by
  rcases parts.div_fours with ⟨short, isShort, notLess, notMore⟩
  have isCentury := parts.div_century
  have counted : parts.day - parts.day / 1460 + parts.day / 36524 - parts.day / 146096 =
      365 * parts.year + (parts.days - short) := by
    simp only [DayOfEra.day, DayOfEra.year] at isShort isCentury ⊢
    omega
  omega

theorem year_bounds : 0 ≤ parts.year ∧ parts.year < 400 := by
  rcases parts with ⟨centuries, fours, years, days, centuriesBound, foursBound, yearsBound,
    daysBound, leapDay⟩
  simp only [DayOfEra.year]
  omega

theorem days_eq :
    parts.day - (365 * parts.year + parts.year / 4 - parts.year / 100) = parts.days := by
  rcases parts with ⟨centuries, fours, years, days, centuriesBound, foursBound, yearsBound,
    daysBound, leapDay⟩
  simp only [DayOfEra.day, DayOfEra.year]
  omega

/-- The year after one of 366 days, counted from March, has the leap day. -/
theorem isLeap_of_days (last : parts.days = 365) (era : Int) :
    isLeap (parts.year + era * 400 + 1) = true := by
  rcases parts with ⟨centuries, fours, years, days, centuriesBound, foursBound, yearsBound,
    daysBound, leapDay⟩
  have leap := leapDay last
  simp only [DayOfEra.year, isLeap, Bool.and_eq_true, Bool.or_eq_true, beq_iff_eq, bne_iff_ne]
  omega

end DayOfEra

/-- The month of a day of a year counted from March, as `ofDays` finds it, is one of twelve,
and the day of it is in it. -/
theorem isValid_of_dayOfYear {day : Int} (notBefore : 0 ≤ day) (inYear : day ≤ 365) {year : Int}
    (leap : day = 365 → isLeap (year + 1) = true) :
    let monthFromMarch := (5 * day + 2) / 153
    let month := if monthFromMarch < 10 then monthFromMarch + 3 else monthFromMarch - 9
    let date : Date := ⟨if month ≤ 2 then year + 1 else year, month.toNat,
      (day - (153 * monthFromMarch + 2) / 5 + 1).toNat⟩
    date.isValid = true := by
  intro monthFromMarch month date
  have cases : monthFromMarch = 0 ∨ monthFromMarch = 1 ∨ monthFromMarch = 2 ∨ monthFromMarch = 3 ∨
      monthFromMarch = 4 ∨ monthFromMarch = 5 ∨ monthFromMarch = 6 ∨ monthFromMarch = 7 ∨
      monthFromMarch = 8 ∨ monthFromMarch = 9 ∨ monthFromMarch = 10 ∨ monthFromMarch = 11 := by
    omega
  have isMonth : (5 * day + 2) / 153 = monthFromMarch := rfl
  have february : isLeap (year + 1) = true ∨ isLeap (year + 1) = false ∧ day ≠ 365 := by
    cases isLeapYear : isLeap (year + 1) with
    | true => exact .inl rfl
    | false =>
        refine .inr ⟨rfl, ?_⟩
        intro isLast
        rw [leap isLast] at isLeapYear
        cases isLeapYear
  simp only [date, month, isValid]
  clear_value monthFromMarch
  -- One case for each month; only in February does the year count.
  rcases february with isLeapYear | ⟨isLeapYear, notLast⟩
  all_goals
    rcases cases with rfl | rfl | rfl | rfl | rfl | rfl | rfl | rfl | rfl | rfl | rfl | rfl <;>
      simp [daysInMonth, isLeapYear] <;> omega

/-! ### Dates of days -/

/-- The day of the era of a number of days, and the date as it is found from the parts. -/
theorem exists_parts (days : Int) : ∃ (parts : DayOfEra) (era : Int),
    days + epochOffset = era * daysPerEra + parts.day ∧
      ofDays days =
        let monthFromMarch := (5 * parts.days + 2) / 153
        let month := if monthFromMarch < 10 then monthFromMarch + 3 else monthFromMarch - 9
        ⟨if month ≤ 2 then parts.year + era * 400 + 1 else parts.year + era * 400, month.toNat,
          (parts.days - (153 * monthFromMarch + 2) / 5 + 1).toNat⟩ := by
  have positive : 0 < daysPerEra := by decide
  have inEra := Int.emod_nonneg (days + epochOffset) (Int.ne_of_gt positive)
  have notAfter := Int.emod_lt_of_pos (days + epochOffset) positive
  rcases DayOfEra.exists_of_day inEra notAfter with ⟨parts, isDay⟩
  have isDay' : days + epochOffset - (days + epochOffset).fdiv daysPerEra * daysPerEra =
      parts.day := by
    rw [isDay, Int.fdiv_eq_ediv_of_nonneg _ (by decide), Int.emod_def, Int.mul_comm]
  refine ⟨parts, (days + epochOffset).fdiv daysPerEra, by omega, ?_⟩
  simp only [ofDays, isDay', parts.estimate_eq_year, parts.days_eq]

/-- Every number of days has a date that exists. -/
theorem isValid_ofDays (days : Int) : (ofDays days).isValid = true := by
  rcases exists_parts days with ⟨parts, era, _, isDate⟩
  rw [isDate]
  exact isValid_of_dayOfYear parts.daysBound.1 parts.daysBound.2
    (fun isLast => parts.isLeap_of_days isLast era)

/-- The date of a number of days has that number of days. -/
theorem toDays_ofDays (days : Int) : (ofDays days).toDays = days := by
  rcases exists_parts days with ⟨parts, era, isSum, isDate⟩
  have yearBounds := parts.year_bounds
  have daysBound := parts.daysBound
  have daysEq := parts.days_eq
  have sameEra : ∀ year, year = parts.year + era * 400 → year.fdiv 400 = era := by
    intro year isYear
    rw [Int.fdiv_eq_ediv_of_nonneg _ (by decide)]
    omega
  rw [isDate]
  simp only [toDays]
  generalize isMonth : (5 * parts.days + 2) / 153 = monthFromMarch
  by_cases afterFebruary : monthFromMarch < 10
  · have month : ¬(monthFromMarch + 3).toNat ≤ 2 := by omega
    have monthInt : ¬monthFromMarch + 3 ≤ 2 := by omega
    simp only [if_pos afterFebruary, if_neg month, if_neg monthInt, sameEra _ rfl]
    omega
  · have month : (monthFromMarch - 9).toNat ≤ 2 := by omega
    have monthInt : monthFromMarch - 9 ≤ 2 := by omega
    simp only [if_neg afterFebruary, if_pos month, if_pos monthInt, Int.add_sub_cancel,
      sameEra _ rfl]
    omega

end JsonTables.Time.Date

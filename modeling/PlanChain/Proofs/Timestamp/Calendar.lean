import Mathlib.Tactic.IntervalCases
import PlanChain.Timestamp

/-! A day lies in one year of an era of 400 years and in one month of that year, both counted from March. -/

set_option autoImplicit false

namespace PlanChain.Timestamp

def daysBefore (year : Int) : Int := 365 * year + year / 4 - year / 100

-- The year of an era a day lies in. Its last day is the 366th only before a leap year, for years start in March.
structure InYear (dayOfEra year : Int) : Prop where
  inEra : 0 ≤ year ∧ year ≤ 399
  started : daysBefore year ≤ dayOfEra
  lasts : dayOfEra ≤ daysBefore year + 365
  leapDay : dayOfEra = daysBefore year + 365 → (year + 1) % 4 = 0 ∧ ((year + 1) % 100 ≠ 0 ∨ year = 399)

def yearOfEra (dayOfEra : Int) : Int :=
  (dayOfEra - dayOfEra / 1460 + dayOfEra / 36524 - dayOfEra / 146096) / 365

-- An era has four centuries, a century 25 cycles of four years; each but the last century is a day short.
theorem century_of_day (day : Int) (low : 0 ≤ day) (high : day < 146097) :
    ∃ century rest : Int, 0 ≤ century ∧ century ≤ 3 ∧ 0 ≤ rest ∧ rest ≤ 36524 ∧
      (rest = 36524 → century = 3) ∧ day = 36524 * century + rest := by
  by_cases last : day = 146096
  · exact ⟨3, 36524, by omega, by omega, by omega, by omega, by omega, by omega⟩
  · exact ⟨day / 36524, day % 36524, by omega, by omega, by omega, by omega, by omega, by omega⟩

theorem year_of_cycle (rest : Int) (low : 0 ≤ rest) (high : rest ≤ 36524) :
    ∃ cycle year dayOfYear : Int, 0 ≤ cycle ∧ cycle ≤ 24 ∧ 0 ≤ year ∧ year ≤ 3 ∧ 0 ≤ dayOfYear ∧
      dayOfYear ≤ 365 ∧ (dayOfYear = 365 → year = 3 ∧ (cycle < 24 ∨ rest = 36524)) ∧
      rest = 1461 * cycle + 365 * year + dayOfYear := by
  by_cases leapDay : rest % 1461 = 1460
  · exact ⟨rest / 1461, 3, 365, by omega, by omega, by omega, by omega, by omega, by omega, by omega, by omega⟩
  · exact ⟨rest / 1461, rest % 1461 / 365, rest % 1461 % 365, by omega, by omega, by omega, by omega, by omega,
      by omega, by omega, by omega⟩

theorem year_of_day (day : Int) (low : 0 ≤ day) (high : day < 146097) : InYear day (yearOfEra day) := by
  obtain ⟨century, rest, lowC, highC, lowR, highR, lastC, isDay⟩ := century_of_day day low high
  obtain ⟨cycle, year, dayOfYear, lowQ, highQ, lowY, highY, lowD, highD, leap, isRest⟩ := year_of_cycle rest lowR highR
  have quarter : (100 * century + 4 * cycle + year) / 4 = 25 * century + cycle := by omega
  have hundredth : (100 * century + 4 * cycle + year) / 100 = century := by omega
  have before : daysBefore (100 * century + 4 * cycle + year) = day - dayOfYear := by
    rw [daysBefore, quarter, hundredth]
    omega
  have found : yearOfEra day = 100 * century + 4 * cycle + year := by
    rw [yearOfEra]
    by_cases last : day = 146096
    · omega
    · have centuries : day / 36524 = century := by omega
      have eras : day / 146096 = 0 := by omega
      by_cases early : 24 * century + cycle + 365 * year + dayOfYear < 1460
      · have cycles : day / 1460 = 25 * century + cycle := by omega
        omega
      · have cycles : day / 1460 = 25 * century + cycle + 1 := by omega
        omega
  rw [found]
  refine ⟨by omega, by omega, by omega, fun last => ?_⟩
  have isLeap := leap (by omega)
  omega

def daysToMonth (month : Int) : Int := (153 * month + 2) / 5

-- A day of the year from March on, in its month: no month is longer than the days until the next one starts.
structure InMonth (dayOfYear march : Int) : Prop where
  inYear : 0 ≤ march ∧ march ≤ 11
  started : daysToMonth march ≤ dayOfYear
  lasts : dayOfYear < daysToMonth (march + 1)

theorem month_of_day (dayOfYear : Int) (low : 0 ≤ dayOfYear) (high : dayOfYear ≤ 365) :
    InMonth dayOfYear ((5 * dayOfYear + 2) / 153) := by
  refine ⟨by omega, ?_, ?_⟩
  · rw [daysToMonth]
    omega
  · rw [daysToMonth]
    omega

structure Dated (days : Int) (date : Date) (era year march dayOfYear : Int) : Prop where
  inYear : InYear (daysBefore year + dayOfYear) year
  inMonth : InMonth dayOfYear march
  total : days + 719468 = 146097 * era + (daysBefore year + dayOfYear)
  isYear : date.year = 400 * era + year + if march < 10 then 0 else 1
  isMonth : (date.month : Int) = if march < 10 then march + 3 else march - 9
  isDay : (date.day : Int) = dayOfYear - daysToMonth march + 1

theorem date_of_days (days : Int) :
    ∃ era year march dayOfYear, Dated days (Date.ofDays days) era year march dayOfYear := by
  have inYear := year_of_day ((days + 719468) % 146097) (by omega) (by omega)
  have parts : Date.ofDays days =
      let dayOfEra := (days + 719468) % 146097
      let dayOfYear := dayOfEra - daysBefore (yearOfEra dayOfEra)
      let march := (5 * dayOfYear + 2) / 153
      let month := if march < 10 then march + 3 else march - 9
      ⟨yearOfEra dayOfEra + (days + 719468) / 146097 * 400 + (if month ≤ 2 then 1 else 0), month.toNat,
        (dayOfYear - daysToMonth march + 1).toNat⟩ := rfl
  have eras := Int.emod_add_mul_ediv (days + 719468) 146097
  dsimp only at parts
  generalize (days + 719468) % 146097 = dayOfEra at inYear parts eras
  generalize (days + 719468) / 146097 = era at parts eras
  generalize yearOfEra dayOfEra = year at inYear parts
  obtain ⟨dayOfYear, isDay⟩ : ∃ dayOfYear, dayOfEra = daysBefore year + dayOfYear :=
    ⟨dayOfEra - daysBefore year, by omega⟩
  have started := inYear.started
  have lasts := inYear.lasts
  have inMonth := month_of_day dayOfYear (by omega) (by omega)
  have alone : dayOfEra - daysBefore year = dayOfYear := by omega
  rw [alone] at parts
  generalize (5 * dayOfYear + 2) / 153 = march at inMonth parts
  have monthStarted := inMonth.started
  have march12 := inMonth.inYear
  refine ⟨era, year, march, dayOfYear, isDay ▸ inYear, inMonth, by omega, ?_, ?_, ?_⟩
  · rw [parts]
    dsimp only
    split <;> split <;> omega
  · rw [parts]
    dsimp only
    split <;> omega
  · rw [parts]
    dsimp only
    omega

theorem to_days_of_days (days : Int) : (Date.ofDays days).toDays = days := by
  obtain ⟨era, year, march, dayOfYear, dated⟩ := date_of_days days
  obtain ⟨inYear, inMonth, total, isYear, isMonth, isDay⟩ := dated
  generalize Date.ofDays days = date at *
  obtain ⟨y, m, d⟩ := date
  have inEra := inYear.inEra
  have march12 := inMonth.inYear
  have started := inMonth.started
  rw [Date.toDays]
  dsimp only at *
  have marchYear : (if m ≤ 2 then y - 1 else y) = 400 * era + year := by
    split <;> split at isYear <;> omega
  rw [marchYear]
  have eraFound : (400 * era + year) / 400 = era := by omega
  have yearFound : (400 * era + year) % 400 = year := by omega
  have marchFound : ((m : Int) + 9) % 12 = march := by
    split at isMonth <;> omega
  rw [eraFound, yearFound, marchFound]
  have dayFound : (153 * march + 2) / 5 + ((d : Int) - 1) = dayOfYear := by
    rw [daysToMonth] at isDay
    omega
  rw [dayFound]
  rw [daysBefore] at total
  omega

theorem is_leap_year_iff (year : Int) :
    isLeapYear year = true ↔ year % 4 = 0 ∧ (year % 100 ≠ 0 ∨ year % 400 = 0) := by
  simp [isLeapYear]

theorem month_length (year march : Int) (low : 0 ≤ march) (high : march ≤ 10) :
    (daysInMonth year (if march < 10 then march + 3 else march - 9).toNat : Int) =
      daysToMonth (march + 1) - daysToMonth march := by
  interval_cases march <;> rfl

theorem of_days_valid (days : Int) (allowed : yearAllowed (Date.ofDays days).year = true) :
    (Date.ofDays days).isValid = true := by
  obtain ⟨era, year, march, dayOfYear, inYear, inMonth, total, isYear, isMonth, isDay⟩ := date_of_days days
  generalize Date.ofDays days = date at *
  obtain ⟨y, m, d⟩ := date
  dsimp only at *
  have march12 := inMonth.inYear
  have started := inMonth.started
  have lasts := inMonth.lasts
  have inside : d ≤ daysInMonth y m := by
    by_cases february : march = 11
    · have isFebruary : m = 2 := by
        split at isMonth <;> omega
      have yearLasts := inYear.lasts
      have start : daysToMonth march = 337 := by
        rw [february]
        rfl
      rw [daysInMonth, if_pos isFebruary]
      by_cases leap : isLeapYear y = true
      · rw [if_pos leap]
        omega
      · have common := inYear.leapDay
        rw [is_leap_year_iff] at leap
        rw [if_neg (by rwa [is_leap_year_iff])]
        rw [february] at isYear
        omega
    · have length := month_length y march march12.1 (by omega)
      rw [← isMonth, Int.toNat_natCast] at length
      omega
  have months : 1 ≤ m ∧ m ≤ 12 := by
    split at isMonth <;> omega
  rw [Date.isValid]
  simp only [Bool.and_eq_true, decide_eq_true_eq]
  exact ⟨⟨⟨⟨allowed, months.1⟩, months.2⟩, by omega⟩, inside⟩

end PlanChain.Timestamp

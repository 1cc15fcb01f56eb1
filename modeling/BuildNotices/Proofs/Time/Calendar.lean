import BuildNotices.Time.Calendar
import Mathlib.Tactic.IntervalCases
import Mathlib.Tactic.Ring
/-!
Days and dates.

Every day has a date of the calendar, and the date tells the day. An era of four hundred years is
taken apart into centuries, groups of four years, and years; the last part of each may be shorter
or longer than the others by a leap day.
-/

namespace BuildNotices
namespace Date

/-- A day of an era, counted in parts from zero. Years start in March, so a leap day ends a year,
and the year ends its group. -/
structure EraDay where
  century : Nat
  group : Nat
  year : Nat
  day : Nat
  century_lt : century < 4
  group_lt : group < 25
  year_lt : year < 4
  day_le : day ≤ 365
  leapDay : day = 365 → year = 3 ∧ (group < 24 ∨ century = 3)

namespace EraDay

def number (date : EraDay) : Nat :=
  36524 * date.century + 1461 * date.group + 365 * date.year + date.day

def yearNumber (date : EraDay) : Nat :=
  100 * date.century + 4 * date.group + date.year

def monthFromMarch (date : EraDay) : Nat :=
  (5 * date.day + 2) / 153

def toDate (era : Int) (date : EraDay) : Date :=
  let month :=
    if date.monthFromMarch < 10 then date.monthFromMarch + 3 else date.monthFromMarch - 9
  let year := (date.yearNumber : Int) + era * 400
  { year := if month ≤ 2 then year + 1 else year
    month
    day := date.day - (153 * date.monthFromMarch + 2) / 5 + 1 }

theorem exists_number_eq {days : Nat} (inside : days < 146097) :
    ∃ date : EraDay, date.number = days := by
  -- A part that may be longer than the others is the last one, so counts are held at its number.
  obtain ⟨century, centuries, inCentury⟩ : ∃ century < 4, 36524 * century ≤ days ∧
      (days < 36524 * century + 36524 ∨ century = 3 ∧ days = 146096) :=
    ⟨min (days / 36524) 3, by omega⟩
  obtain ⟨group, groups, inGroup⟩ : ∃ group < 25, 36524 * century + 1461 * group ≤ days ∧
      days < 36524 * century + 1461 * group + 1461 :=
    ⟨(days - 36524 * century) / 1461, by omega⟩
  obtain ⟨year, years, inYear⟩ : ∃ year < 4,
      36524 * century + 1461 * group + 365 * year ≤ days ∧
      (days < 36524 * century + 1461 * group + 365 * year + 365 ∨
        year = 3 ∧ days = 36524 * century + 1461 * group + 1460) :=
    ⟨min ((days - 36524 * century - 1461 * group) / 365) 3, by omega⟩
  refine ⟨⟨century, group, year, days - (36524 * century + 1461 * group + 365 * year),
    centuries, groups, years, by omega, by omega⟩, ?_⟩
  dsimp only [number]
  omega

theorem number_lt (date : EraDay) : date.number < 146097 := by
  obtain ⟨century, group, year, day, centuries, groups, years, days, leapDay⟩ := date
  dsimp only [number]
  omega

theorem yearNumber_lt (date : EraDay) : date.yearNumber < 400 := by
  obtain ⟨century, group, year, day, centuries, groups, years, days, leapDay⟩ := date
  dsimp only [yearNumber]
  omega

/-- Each fourth year has a leap day before the next year starts, but for a century. -/
theorem number_eq (date : EraDay) :
    (date.number : Int) =
      (date.yearNumber : Int) * 365 + (date.yearNumber : Int) / 4 -
        (date.yearNumber : Int) / 100 + (date.day : Int) := by
  obtain ⟨century, group, year, day, centuries, groups, years, days, leapDay⟩ := date
  dsimp only [number, yearNumber]
  omega

theorem day_eq (date : EraDay) :
    date.number - (365 * date.yearNumber + date.yearNumber / 4 - date.yearNumber / 100) =
      date.day := by
  obtain ⟨century, group, year, day, centuries, groups, years, days, leapDay⟩ := date
  dsimp only [number, yearNumber]
  omega

/-- Without its leap days an era has years of equal length. -/
theorem yearNumber_eq (date : EraDay) :
    (date.number - date.number / 1460 + date.number / 36524 - date.number / 146096) / 365 =
      date.yearNumber := by
  obtain ⟨century, group, year, day, centuries, groups, years, days, leapDay⟩ := date
  have inGroups : (36524 * century + 1461 * group + 365 * year + day) / 1460 =
      25 * century + group + (24 * century + group + 365 * year + day) / 1460 := by
    rw [← Nat.mul_add_div (by decide)]
    congr 1
    ring
  have inCenturies : (36524 * century + 1461 * group + 365 * year + day) / 36524 =
      century + (1461 * group + 365 * year + day) / 36524 := by
    rw [← Nat.mul_add_div (by decide)]
    congr 1
    ring
  have lastDay : (1461 * group + 365 * year + day) / 36524 =
      (36524 * century + 1461 * group + 365 * year + day) / 146096 := by
    by_cases final : day = 365 ∧ group = 24
    · obtain ⟨rfl, rfl⟩ := final
      obtain ⟨rfl, early | rfl⟩ := leapDay rfl
      · omega
      · rfl
    · rw [Nat.div_eq_of_lt (by omega), Nat.div_eq_of_lt (by omega)]
  dsimp only [number, yearNumber]
  rw [inGroups, inCenturies, lastDay]
  generalize (36524 * century + 1461 * group + 365 * year + day) / 146096 = final
  clear inGroups inCenturies lastDay
  rcases Nat.lt_or_ge (24 * century + group + 365 * year + day) 1460 with early | late
  · have inYear : day < 365 := by omega
    have days : 36524 * century + 1461 * group + 365 * year + day - (25 * century + group + 0) +
        (century + final) - final = day + 365 * (100 * century + 4 * group + year) := by omega
    rw [Nat.div_eq_of_lt early, days, Nat.add_mul_div_left _ _ (by decide),
      Nat.div_eq_of_lt inYear, Nat.zero_add]
  · have inYear : day - 1 < 365 := by omega
    have once : (24 * century + group + 365 * year + day) / 1460 = 1 := by omega
    have days : 36524 * century + 1461 * group + 365 * year + day - (25 * century + group + 1) +
        (century + final) - final = day - 1 + 365 * (100 * century + 4 * group + year) := by omega
    rw [once, days, Nat.add_mul_div_left _ _ (by decide), Nat.div_eq_of_lt inYear, Nat.zero_add]

theorem isLeapYear_of_leapDay (date : EraDay) (last : date.day = 365) (era : Int) :
    isLeapYear ((date.yearNumber : Int) + era * 400 + 1) = true := by
  obtain ⟨final, early⟩ := date.leapDay last
  have groups := date.group_lt
  have centuries := date.century_lt
  unfold isLeapYear yearNumber
  rw [final]
  simp only [Bool.and_eq_true, Bool.or_eq_true, decide_eq_true_eq]
  omega

theorem isValid_toDate (era : Int) (date : EraDay) : (date.toDate era).isValid = true := by
  have days := date.day_le
  have months : date.monthFromMarch = (5 * date.day + 2) / 153 := rfl
  have few : date.monthFromMarch < 12 := by omega
  have leap := date.isLeapYear_of_leapDay
  unfold isValid toDate
  rw [Bool.and_eq_true, decide_eq_true_eq, decide_eq_true_eq]
  dsimp only
  refine ⟨Nat.le_add_left 1 _, ?_⟩
  generalize date.monthFromMarch = month at *
  interval_cases month
  case «11» =>
    change date.day - 337 + 1 ≤
      if isLeapYear ((date.yearNumber : Int) + era * 400 + 1) = true then 29 else 28
    by_cases last : date.day = 365
    · rw [if_pos (leap last era), last]
    · split <;> omega
  all_goals simp [daysInMonth]; omega

theorem dayNumber_toDate (era : Int) (date : EraDay) :
    (date.toDate era).dayNumber = era * 146097 + date.number - 719468 := by
  have days := date.day_le
  have years := date.yearNumber_lt
  have months : date.monthFromMarch = (5 * date.day + 2) / 153 := rfl
  have month : ((date.toDate era).month + 9) % 12 = date.monthFromMarch := by
    dsimp only [toDate]
    split <;> omega
  have year : (if (date.toDate era).month ≤ 2 then (date.toDate era).year - 1
      else (date.toDate era).year) = (date.yearNumber : Int) + 400 * era := by
    dsimp only [toDate]
    split <;> omega
  have day : (153 * date.monthFromMarch + 2) / 5 + (date.toDate era).day - 1 = date.day := by
    dsimp only [toDate]
    omega
  have eras : ((date.yearNumber : Int) + 400 * era).fdiv 400 = era := by
    rw [Int.fdiv_eq_ediv_of_nonneg _ (by decide)]
    omega
  have yearOfEra : ((date.yearNumber : Int) + 400 * era).fmod 400 = date.yearNumber := by
    rw [Int.fmod_eq_emod_of_nonneg _ (by decide)]
    omega
  unfold dayNumber
  dsimp only
  rw [month, year, day, eras, yearOfEra, number_eq]

end EraDay

theorem exists_eraDay (number : Int) :
    ∃ (era : Int) (date : EraDay), number = era * 146097 + date.number - 719468 := by
  have inside : ((number + 719468) % 146097).toNat < 146097 := by omega
  obtain ⟨date, same⟩ := EraDay.exists_number_eq inside
  refine ⟨(number + 719468) / 146097, date, ?_⟩
  rw [same]
  omega

theorem ofDayNumber_eq (era : Int) (date : EraDay) :
    ofDayNumber (era * 146097 + date.number - 719468) = date.toDate era := by
  have small := date.number_lt
  have shifted : era * 146097 + (date.number : Int) - 719468 + 719468 =
      date.number + 146097 * era := by
    ring
  have eras : ((date.number : Int) + 146097 * era).fdiv 146097 = era := by
    rw [Int.fdiv_eq_ediv_of_nonneg _ (by decide)]
    omega
  have inEra : (((date.number : Int) + 146097 * era).fmod 146097).toNat = date.number := by
    rw [Int.fmod_eq_emod_of_nonneg _ (by decide)]
    omega
  unfold ofDayNumber
  dsimp only
  rw [shifted, eras, inEra, date.yearNumber_eq, date.day_eq]
  rfl

/-- The date of a day tells the day. -/
theorem dayNumber_ofDayNumber (number : Int) : (ofDayNumber number).dayNumber = number := by
  obtain ⟨era, date, rfl⟩ := exists_eraDay number
  rw [ofDayNumber_eq, EraDay.dayNumber_toDate]

theorem isValid_ofDayNumber (number : Int) : (ofDayNumber number).isValid = true := by
  obtain ⟨era, date, rfl⟩ := exists_eraDay number
  rw [ofDayNumber_eq, EraDay.isValid_toDate]

/-- A valid date is told by a month and a day of at most two digits each. -/
theorem bounds_of_isValid {date : Date} (valid : date.isValid = true) :
    1 ≤ date.month ∧ date.month ≤ 12 ∧ date.day ≤ 31 := by
  unfold isValid daysInMonth at valid
  rw [Bool.and_eq_true, decide_eq_true_eq, decide_eq_true_eq] at valid
  split at valid
  all_goals grind

end Date
end BuildNotices

import CronSchedule.Proofs.Years
import Mathlib.Tactic.IntervalCases

/-!
# The months of the calendar

Each date has one name: a year, a month and a day within the length of the month
(`Date.ofName?_eq_some_iff`). The days of a month follow each other without a gap,
so another day of the month of a date lies as many days away as their numbers
differ (`Date.sameMonth?_eq_some_iff`). Throughout the calendar the months have
the lengths of the Gregorian one (`month_lengths_gregorian`).
-/

set_option autoImplicit false

namespace CronSchedule

namespace MarchYear

/-- A day number has only one year from March and day of that year. -/
theorem ofDayNumber_eq {number year day : Int} (h : number + 719468 = start year + day)
    (hfirst : 0 ≤ day) (hlast : start year + day < start (year + 1)) :
    ofDayNumber number = ⟨year, day⟩ := by
  obtain ⟨hspec, hnonneg, hlt⟩ := ofDayNumber_spec number
  generalize ofDayNumber number = m at *
  obtain ⟨otherYear, otherDay⟩ := m
  simp only at hspec hnonneg hlt
  -- of two different years the earlier one ends before the later one starts
  have hyear : otherYear = year := by
    rcases Int.lt_trichotomy otherYear year with hbefore | hsame | hafter
    · have hle := start_mono (show otherYear + 1 ≤ year by omega)
      omega
    · exact hsame
    · have hle := start_mono (show year + 1 ≤ otherYear by omega)
      omega
  subst hyear
  rw [show otherDay = day by omega]

end MarchYear

/-! ## Lengths of months -/

/-- The year from March that a month belongs to. -/
def marchYearOf (year : Int) (month : Nat) : Int := if month ≤ 2 then year - 1 else year

/-- Days from March 1 to the first of a month counted from zero in March. -/
def marchDays (month : Int) : Int := (153 * month + 2) / 5

theorem dayNumber_eq (year : Int) (month day : Nat) : dayNumber year month day =
    MarchYear.start (marchYearOf year month) + marchDays ((month + 9) % 12) + day - 1 - 719468 :=
  rfl

theorem dayNumber_add (year : Int) (month day : Nat) :
    dayNumber year month day = dayNumber year month 1 + day - 1 := by
  rw [dayNumber_eq, dayNumber_eq]
  omega

/-- The first of the following month comes when the days of the month are over. -/
theorem dayNumber_add_monthSpan (year : Int) (month : Nat) :
    dayNumber year month 1 + monthSpan year month =
      dayNumber (followingMonth year month).1 (followingMonth year month).2 1 := by
  rw [monthSpan]
  omega

theorem followingMonth_bounds (year : Int) {month : Nat} (h : 1 ≤ month ∧ month ≤ 12) :
    1 ≤ (followingMonth year month).2 ∧ (followingMonth year month).2 ≤ 12 := by
  rw [followingMonth]
  split
  · simp
  · simp only
    omega

/-- A month ends where the next one starts, and February with its year from March. -/
theorem dayNumber_followingMonth (year : Int) {month : Nat} (h : 1 ≤ month ∧ month ≤ 12) :
    dayNumber (followingMonth year month).1 (followingMonth year month).2 1 =
      (if month = 2 then MarchYear.start year
        else MarchYear.start (marchYearOf year month) + marchDays ((month + 9) % 12 + 1)) - 719468 := by
  obtain ⟨hfirst, hlast⟩ := h
  interval_cases month <;> simp [dayNumber_eq, followingMonth, marchYearOf, marchDays]

/-- Length of a month in the Gregorian calendar. -/
def gregorianLength (year : Int) (month : Nat) : Nat :=
  match month with
  | 2 => if IsLeapYear year then 29 else 28
  | 4 | 6 | 9 | 11 => 30
  | _ => 31

/-- The days of a month up to the next one are as many as the Gregorian calendar gives it. -/
theorem monthSpan_eq_gregorianLength (year : Int) {month : Nat} (h : 1 ≤ month ∧ month ≤ 12) :
    monthSpan year month = gregorianLength year month := by
  have hyear := MarchYear.start_eq_start_pred_add year
  rw [monthSpan, dayNumber_followingMonth year h, dayNumber_eq]
  obtain ⟨hfirst, hlast⟩ := h
  interval_cases month <;> simp [marchYearOf, marchDays, gregorianLength]
  -- of all months, only the length of February depends on the year
  rw [hyear]
  split <;> omega

/-- Every month has four whole weeks and no more than 31 days. -/
theorem gregorianLength_bounds (year : Int) (month : Nat) :
    28 ≤ gregorianLength year month ∧ gregorianLength year month ≤ 31 := by
  rw [gregorianLength.eq_def]
  split
  · split <;> omega
  all_goals omega

theorem monthSpan_pos (year : Int) {month : Nat} (h : 1 ≤ month ∧ month ≤ 12) :
    1 ≤ monthSpan year month := by
  obtain ⟨hweeks, -⟩ := gregorianLength_bounds year month
  rw [monthSpan_eq_gregorianLength year h]
  omega

/-- The months of a year lie between its first of January and the next one. -/
theorem dayNumber_month_bounds (year : Int) {month : Nat} (h : 1 ≤ month ∧ month ≤ 12) :
    dayNumber year 1 1 ≤ dayNumber year month 1 ∧
      dayNumber (followingMonth year month).1 (followingMonth year month).2 1 ≤
        dayNumber (year + 1) 1 1 ∧
      (month ≠ 12 → dayNumber (followingMonth year month).1 (followingMonth year month).2 1 <
        dayNumber (year + 1) 1 1) := by
  have hyear := MarchYear.start_lt_start_succ (year - 1)
  rw [Int.sub_add_cancel] at hyear
  rw [dayNumber_followingMonth year h]
  simp only [dayNumber_eq]
  obtain ⟨hfirst, hlast⟩ := h
  interval_cases month <;> simp [marchYearOf, marchDays] <;> omega

/-- A day of a month lies before the end of the month and of its year from March. -/
theorem day_of_march_year {year : Int} {month day : Nat} (h : 1 ≤ month ∧ month ≤ 12)
    (hspan : (day : Int) ≤ monthSpan year month) :
    (((month : Int) + 9) % 12 ≠ 11 →
      (day : Int) ≤ marchDays ((month + 9) % 12 + 1) - marchDays ((month + 9) % 12)) ∧
    MarchYear.start (marchYearOf year month) + (marchDays ((month + 9) % 12) + day - 1) <
      MarchYear.start (marchYearOf year month + 1) := by
  rw [monthSpan, dayNumber_followingMonth year h, dayNumber_eq] at hspan
  split at hspan
  · next hfebruary =>
    subst hfebruary
    refine ⟨fun hne => absurd rfl hne, ?_⟩
    rw [marchYearOf, if_pos (Nat.le_refl 2)] at hspan ⊢
    rw [Int.sub_add_cancel]
    omega
  · have hlength := MarchYear.start_lt_start_succ (marchYearOf year month)
    simp only [marchDays] at hspan ⊢
    omega

namespace Date

variable {date other : Date} {year : Int} {month day : Nat}

/-! ## The name of a date -/

theorem marchYearOf_name (date : Date) :
    marchYearOf date.year date.month = (MarchYear.ofDayNumber date.number).year := by
  rw [marchYearOf, Date.year]
  split <;> omega

theorem month_spec (date : Date) : (1 ≤ date.month ∧ date.month ≤ 12) ∧
    ((date.month : Int) + 9) % 12 = (MarchYear.ofDayNumber date.number).month := by
  have hlength := MarchYear.dayOfYear_lt date.number
  obtain ⟨-, hnonneg, -⟩ := MarchYear.ofDayNumber_spec date.number
  simp only [Date.month]
  generalize MarchYear.ofDayNumber date.number = m at *
  have hmonth : m.month = (5 * m.dayOfYear + 2) / 153 := rfl
  by_cases h : m.month < 10
  · rw [if_pos h]
    omega
  · rw [if_neg h]
    omega

theorem day_spec (date : Date) : 1 ≤ date.day ∧
    marchDays (MarchYear.ofDayNumber date.number).month + date.day - 1 =
      (MarchYear.ofDayNumber date.number).dayOfYear := by
  obtain ⟨-, hnonneg, -⟩ := MarchYear.ofDayNumber_spec date.number
  simp only [Date.day, marchDays, MarchYear.month]
  omega

/-- The day number of its name is that of the date. -/
theorem dayNumber_name (date : Date) : dayNumber date.year date.month date.day = date.number := by
  obtain ⟨hspec, -⟩ := MarchYear.ofDayNumber_spec date.number
  obtain ⟨-, hmonth⟩ := month_spec date
  obtain ⟨-, hday⟩ := day_spec date
  rw [dayNumber_eq, marchYearOf_name, hmonth]
  omega

/-- A date does not lie beyond the end of its month. -/
theorem day_le_monthSpan (date : Date) : (date.day : Int) ≤ monthSpan date.year date.month := by
  obtain ⟨hspec, hnonneg, hlt⟩ := MarchYear.ofDayNumber_spec date.number
  obtain ⟨hbounds, hmonth⟩ := month_spec date
  obtain ⟨-, hday⟩ := day_spec date
  have hyear := marchYearOf_name date
  rw [monthSpan, dayNumber_followingMonth date.year hbounds, dayNumber_eq, hyear, hmonth]
  generalize MarchYear.ofDayNumber date.number = m at *
  split
  · next hfebruary =>
    -- the month ends with its year from March
    rw [marchYearOf, if_pos (by omega)] at hyear
    rw [show date.year = m.year + 1 by omega]
    omega
  · have hnext : m.dayOfYear < marchDays (m.month + 1) := by
      simp only [marchDays, MarchYear.month]
      omega
    omega

/-- A date has no other name. -/
theorem name_eq (hmonth : 1 ≤ month ∧ month ≤ 12) (hday : 1 ≤ day)
    (hspan : (day : Int) ≤ monthSpan year month) (h : date.number = dayNumber year month day) :
    date.year = year ∧ date.month = month ∧ date.day = day := by
  have hdays := day_of_march_year hmonth hspan
  rw [dayNumber_eq] at h
  have hofDayNumber := MarchYear.ofDayNumber_eq (show date.number + 719468 =
    MarchYear.start (marchYearOf year month) + (marchDays ((month + 9) % 12) + day - 1) by omega)
    (by simp only [marchDays]; omega) hdays.2
  have hlength := MarchYear.dayOfYear_lt date.number
  obtain ⟨hbounds, hmonthName⟩ := month_spec date
  obtain ⟨-, hdayName⟩ := day_spec date
  have hyearName := marchYearOf_name date
  rw [hofDayNumber] at hlength hmonthName hdayName hyearName
  have hsame : (MarchYear.month ⟨marchYearOf year month, marchDays ((month + 9) % 12) + day - 1⟩) =
      ((month : Int) + 9) % 12 := by
    simp only [MarchYear.month, marchDays] at hdays hlength ⊢
    omega
  rw [hsame] at hmonthName hdayName
  simp only at hdayName hyearName
  obtain rfl : date.month = month := by omega
  refine ⟨?_, rfl, by omega⟩
  simp only [marchYearOf] at hyearName
  split at hyearName <;> omega

/-- A date is found by its own name only. -/
theorem ofName?_eq_some_iff : ofName? year month day = some date ↔
    date.year = year ∧ date.month = month ∧ date.day = day := by
  rw [ofName?]
  constructor
  · intro h
    split at h
    · next hname =>
      obtain ⟨hfirst, hlast, hday, hspan⟩ := hname
      rw [ofNumber?] at h
      split at h
      · cases h
        exact name_eq ⟨hfirst, hlast⟩ hday hspan rfl
      · cases h
    · cases h
  · rintro ⟨rfl, rfl, rfl⟩
    obtain ⟨⟨hfirst, hlast⟩, -⟩ := month_spec date
    obtain ⟨hday, -⟩ := day_spec date
    rw [if_pos ⟨hfirst, hlast, hday, day_le_monthSpan date⟩, dayNumber_name, ofNumber?,
      dif_pos ⟨date.first_le, date.le_last⟩]

/-! ## The end of a month -/

/-- No date lies beyond the last year of the calendar. -/
theorem year_lt (date : Date) : date.year < 262143 := by
  rw [← Int.not_le, le_year_iff]
  have hlast := date.le_last
  have hend : dayNumber 262143 1 1 = lastDayNumber + 1 := by decide
  omega

/-- Every month in the years of the calendar has a date. -/
theorem exists_of_month {year : Int} {month : Nat} (hyear : -262143 ≤ year ∧ year ≤ 262142)
    (hmonth : 1 ≤ month ∧ month ≤ 12) : ∃ date : Date, date.year = year ∧ date.month = month := by
  obtain ⟨hfirst, hlast, -⟩ := dayNumber_month_bounds year hmonth
  have hspan := monthSpan_pos year hmonth
  have hstart : dayNumber (-262143) 1 1 = firstDayNumber := by decide
  have hend : dayNumber 262143 1 1 = lastDayNumber + 1 := by decide
  -- the year lies between the first and the last one
  have hafter := MarchYear.start_mono (show -262143 - 1 ≤ year - 1 by omega)
  have hbefore := MarchYear.start_mono (show year + 1 - 1 ≤ 262143 - 1 by omega)
  rw [← dayNumber_add_monthSpan] at hlast
  rw [dayNumber_january_first] at hfirst hlast hstart hend
  refine ⟨⟨dayNumber year month 1, by omega, by omega⟩, ?_⟩
  obtain ⟨hyearName, hmonthName, -⟩ := name_eq hmonth (Nat.le_refl 1) hspan
    (show (Date.mk (dayNumber year month 1) (by omega) (by omega)).number = _ from rfl)
  exact ⟨hyearName, hmonthName⟩

/-- No month reaches beyond the calendar, and after the very last one the calendar ends. -/
theorem end_of_month_le (date : Date) :
    dayNumber date.year date.month 1 + monthSpan date.year date.month ≤ lastDayNumber + 1 ∧
    (lastDayNumber < dayNumber date.year date.month 1 + monthSpan date.year date.month ↔
      date.year = 262142 ∧ date.month = 12) := by
  obtain ⟨hbounds, -⟩ := month_spec date
  obtain ⟨-, hle, hlt⟩ := dayNumber_month_bounds date.year hbounds
  have hyear := year_lt date
  have hend : dayNumber 262143 1 1 = lastDayNumber + 1 := by decide
  have hmono := MarchYear.start_mono (show date.year + 1 - 1 ≤ 262143 - 1 by omega)
  rw [← dayNumber_add_monthSpan] at hle hlt
  rw [dayNumber_january_first] at hle hlt hend
  refine ⟨by omega, ?_, ?_⟩
  · intro hreaches
    refine ⟨?_, by omega⟩
    -- an earlier year ends before the last year begins
    apply Classical.byContradiction
    intro hne
    have hearlier := MarchYear.start_mono (show date.year + 1 - 1 ≤ 262142 - 1 by omega)
    have hbegin : dayNumber 262142 1 1 ≤ lastDayNumber := by decide
    rw [dayNumber_january_first] at hbegin
    omega
  · rintro ⟨hlast, hdecember⟩
    rw [hlast, hdecember]
    decide

/-- The date before the first of a month has the last day of the month before. -/
theorem day_eq_monthSpan {last : Date} (hmonth : 1 ≤ month ∧ month ≤ 12)
    (h : last.number + 1 = dayNumber year month 1 + monthSpan year month) :
    (last.day : Int) = monthSpan year month := by
  have hpos := monthSpan_pos year hmonth
  have hnumber : last.number = dayNumber year month (monthSpan year month).toNat := by
    rw [dayNumber_add]
    omega
  obtain ⟨-, -, hday⟩ := name_eq hmonth (by omega) (by omega) hnumber
  omega

/-- The following month begins when the days of the month are over, if the calendar goes on. -/
theorem ofName?_followingMonth (date : Date) :
    ofName? (followingMonth date.year date.month).1 (followingMonth date.year date.month).2 1 =
      ofNumber? (dayNumber date.year date.month 1 + monthSpan date.year date.month) := by
  have hfollowing := followingMonth_bounds date.year (month_spec date).1
  have hspan := monthSpan_pos (followingMonth date.year date.month).1 hfollowing
  rw [ofName?, if_pos ⟨hfollowing.1, hfollowing.2, Nat.le_refl 1, hspan⟩, dayNumber_add_monthSpan]

/-- After the very last month the calendar has no date on which another month could begin. -/
theorem ofName?_followingMonth_eq_none (h : date.year = 262142 ∧ date.month = 12) :
    ofName? (followingMonth date.year date.month).1 (followingMonth date.year date.month).2 1 =
      none := by
  have hend := (end_of_month_le date).2.2 h
  rw [ofName?_followingMonth, ofNumber?, dif_neg (by omega)]

/-- The day before the following month is the last day of the month, unless the calendar ends with
the month. -/
theorem exists_previous_of_followingMonth (h : ¬ (date.year = 262142 ∧ date.month = 12)) :
    ∃ last, (ofName? (followingMonth date.year date.month).1
        (followingMonth date.year date.month).2 1).bind previous? = some last ∧
      (last.day : Int) = monthSpan date.year date.month := by
  obtain ⟨hbounds, -⟩ := month_spec date
  obtain ⟨-, hend⟩ := end_of_month_le date
  rw [← hend] at h
  -- the date itself lies between the first date and the end of the month
  have hday := day_le_monthSpan date
  have hnumber := dayNumber_add date.year date.month date.day
  rw [dayNumber_name] at hnumber
  have hfirst := date.first_le
  rw [ofName?_followingMonth, ofNumber?, dif_pos ⟨by omega, by omega⟩, Option.bind_some, previous?,
    ofNumber?, dif_pos ⟨by simp only; omega, by simp only; omega⟩]
  exact ⟨_, rfl, day_eq_monthSpan hbounds (Int.sub_add_cancel _ _)⟩

/-- The length of a month is the number of days up to the next one. -/
theorem monthLength_eq (date : Date) :
    (date.monthLength : Int) = monthSpan date.year date.month := by
  rw [monthLength, daysInMonth]
  by_cases h : date.year = 262142 ∧ date.month = 12
  · rw [ofName?_followingMonth_eq_none h, Option.bind_none, h.2, monthSpan_december]
    rfl
  · obtain ⟨last, hlast, hday⟩ := exists_previous_of_followingMonth h
    rw [hlast]
    exact hday

theorem monthLength_eq_gregorianLength (date : Date) :
    date.monthLength = gregorianLength date.year date.month := by
  apply Int.ofNat_inj.1
  rw [monthLength_eq, monthSpan_eq_gregorianLength date.year (month_spec date).1]

theorem four_weeks_le_monthLength (date : Date) : 28 ≤ date.monthLength := by
  rw [monthLength_eq_gregorianLength]
  exact (gregorianLength_bounds _ _).1

theorem monthLength_le (date : Date) : date.monthLength ≤ 31 := by
  rw [monthLength_eq_gregorianLength]
  exact (gregorianLength_bounds _ _).2

theorem day_le_monthLength (date : Date) : date.day ≤ date.monthLength := by
  have hspan := day_le_monthSpan date
  rw [← monthLength_eq] at hspan
  omega

/-! ## Other days of the month -/

/-- Another day of the month of a date lies as many days away as its number differs. -/
theorem sameMonth?_eq_some_iff : date.sameMonth? day = some other ↔
    1 ≤ day ∧ day ≤ date.monthLength ∧ other.number = date.number + day - date.day := by
  have hnumber := dayNumber_add date.year date.month date.day
  rw [dayNumber_name] at hnumber
  have hother := dayNumber_add date.year date.month day
  obtain ⟨hbounds, -⟩ := month_spec date
  have hlength := monthLength_eq date
  rw [sameMonth?, ofName?]
  constructor
  · intro h
    split at h
    · next hname =>
      obtain ⟨-, -, hday, hspan⟩ := hname
      rw [ofNumber?] at h
      split at h
      · cases h
        refine ⟨hday, by omega, ?_⟩
        simp only
        omega
      · cases h
    · cases h
  · rintro ⟨hday, hle, h⟩
    have hfirst := other.first_le
    have hlast := other.le_last
    rw [if_pos ⟨hbounds.1, hbounds.2, hday, by omega⟩]
    rw [show dayNumber date.year date.month day = other.number by omega, ofNumber?,
      dif_pos ⟨hfirst, hlast⟩]

/-- The calendar has every day of the month of a date. -/
theorem exists_sameMonth? (date : Date) (hday : 1 ≤ day) (hlast : day ≤ date.monthLength) :
    ∃ other, date.sameMonth? day = some other := by
  obtain ⟨hbounds, -⟩ := month_spec date
  obtain ⟨hmonth, -⟩ := dayNumber_month_bounds date.year hbounds
  obtain ⟨hend, -⟩ := end_of_month_le date
  have hlength := monthLength_eq date
  have hnumber := dayNumber_add date.year date.month date.day
  rw [dayNumber_name] at hnumber
  -- the year of the date is not before the first one of the calendar
  have hstart : firstDayNumber = dayNumber (-262143) 1 1 := by decide
  have hyear : -262143 ≤ date.year := by
    rw [le_year_iff, ← hstart]
    exact date.first_le
  have hmono := MarchYear.start_mono (show -262143 - 1 ≤ date.year - 1 by omega)
  rw [dayNumber_january_first] at hstart hmonth
  exact ⟨⟨date.number + day - date.day, by omega, by omega⟩,
    sameMonth?_eq_some_iff.2 ⟨hday, hlast, rfl⟩⟩

theorem sameMonth?_isSome_iff :
    (date.sameMonth? day).isSome ↔ 1 ≤ day ∧ day ≤ date.monthLength := by
  rw [Option.isSome_iff_exists]
  constructor
  · rintro ⟨other, hother⟩
    obtain ⟨hday, hlast, -⟩ := sameMonth?_eq_some_iff.1 hother
    exact ⟨hday, hlast⟩
  · rintro ⟨hday, hlast⟩
    exact exists_sameMonth? date hday hlast

end Date

/-! ## The Gregorian calendar -/

/-- In every year of the calendar each month has its Gregorian length, and the days of the same month
that a date of it has are those from the first up to that length. The length is the day of the date
before the following month; only after the very last December no month begins. -/
theorem month_lengths_gregorian {year : Int} {month : Nat} (hyear : -262143 ≤ year ∧ year ≤ 262142)
    (hmonth : 1 ≤ month ∧ month ≤ 12) :
    daysInMonth year month = gregorianLength year month ∧
      (∃ date : Date, date.year = year ∧ date.month = month) ∧
      (∀ date : Date, date.year = year → date.month = month → ∀ day,
        (date.sameMonth? day).isSome ↔ 1 ≤ day ∧ day ≤ gregorianLength year month) ∧
      (year = 262142 ∧ month = 12 →
        Date.ofName? (followingMonth year month).1 (followingMonth year month).2 1 = none) ∧
      (¬ (year = 262142 ∧ month = 12) →
        ∃ last, (Date.ofName? (followingMonth year month).1 (followingMonth year month).2 1).bind
          Date.previous? = some last ∧ last.day = gregorianLength year month) := by
  obtain ⟨date, rfl, rfl⟩ := Date.exists_of_month hyear hmonth
  refine ⟨Date.monthLength_eq_gregorianLength date, ⟨date, rfl, rfl⟩, ?_,
    Date.ofName?_followingMonth_eq_none, ?_⟩
  · intro other hotherYear hotherMonth day
    rw [Date.sameMonth?_isSome_iff, Date.monthLength_eq_gregorianLength, hotherYear, hotherMonth]
  · intro hlast
    obtain ⟨last, hprevious, hday⟩ := Date.exists_previous_of_followingMonth hlast
    rw [monthSpan_eq_gregorianLength _ hmonth] at hday
    exact ⟨last, hprevious, Int.ofNat_inj.1 hday⟩

/-- The year -400 is a leap year and the year -100 is not. With December 262142 the calendar ends. -/
theorem month_lengths_gregorian_of_centuries_and_last_december :
    (-262143 ≤ (-400 : Int) ∧ (-400 : Int) ≤ 262142) ∧
      (-262143 ≤ (-100 : Int) ∧ (-100 : Int) ≤ 262142) ∧ (1 ≤ 2 ∧ 2 ≤ 12) ∧
      (-262143 ≤ (262142 : Int) ∧ (262142 : Int) ≤ 262142) ∧ (1 ≤ 12 ∧ 12 ≤ 12) ∧
      daysInMonth (-400) 2 = 29 ∧ daysInMonth (-100) 2 = 28 ∧
      (∀ date : Date, date.year = -100 → date.month = 2 →
        (date.sameMonth? 28).isSome ∧ date.sameMonth? 29 = none) ∧
      daysInMonth 262142 12 = 31 ∧ Date.ofName? 262143 1 1 = none := by
  have hmonth : 1 ≤ 2 ∧ 2 ≤ 12 := by decide
  have hdecember : 1 ≤ 12 ∧ 12 ≤ 12 := by decide
  have hleap : -262143 ≤ (-400 : Int) ∧ (-400 : Int) ≤ 262142 := by decide
  have hcommon : -262143 ≤ (-100 : Int) ∧ (-100 : Int) ≤ 262142 := by decide
  have hlast : -262143 ≤ (262142 : Int) ∧ (262142 : Int) ≤ 262142 := by decide
  obtain ⟨hleapLength, -⟩ := month_lengths_gregorian hleap hmonth
  obtain ⟨hlength, -, hdays, -⟩ := month_lengths_gregorian hcommon hmonth
  obtain ⟨hlastLength, -, -, hend, -⟩ := month_lengths_gregorian hlast hdecember
  refine ⟨hleap, hcommon, hmonth, hlast, hdecember, hleapLength, hlength, ?_, hlastLength,
    hend ⟨rfl, rfl⟩⟩
  intro date hyear hmonth
  refine ⟨(hdays date hyear hmonth 28).2 (by decide), ?_⟩
  rw [← Option.not_isSome_iff_eq_none, hdays date hyear hmonth 29]
  decide

end CronSchedule

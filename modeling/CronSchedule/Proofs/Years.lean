import CronSchedule.Calendar

/-!
# The years of the calendar

A year from March has a leap day at its end if the year in which it ends is a
leap year (`MarchYear.start_eq_start_pred_add`). A day number is the start of its
year from March and the day of that year (`MarchYear.ofDayNumber_spec`). A date
lies in a year or a later one exactly when it is not before the first of January
of that year (`Date.le_year_iff`), so years follow the order of the dates.
-/

set_option autoImplicit false

namespace CronSchedule

/-- A leap year of the Gregorian calendar: every fourth year, but of the full centuries only every
fourth. -/
def IsLeapYear (year : Int) : Prop := 4 ∣ year ∧ ¬ 100 ∣ year ∨ 400 ∣ year

instance : DecidablePred IsLeapYear := fun year =>
  inferInstanceAs (Decidable (4 ∣ year ∧ ¬ 100 ∣ year ∨ 400 ∣ year))

namespace MarchYear

/-- Days from March 1 of the year 0 to March 1 of a year. -/
def start (year : Int) : Int := 365 * year + year / 4 - year / 100 + year / 400

theorem start_of_parts {cycle century four single : Int} (hcentury : 0 ≤ century ∧ century ≤ 3)
    (hfour : 0 ≤ four ∧ four ≤ 24) (hsingle : 0 ≤ single ∧ single ≤ 3) :
    start (400 * cycle + 100 * century + 4 * four + single) =
      146097 * cycle + 36524 * century + 1461 * four + 365 * single := by
  obtain ⟨hc0, hc1⟩ := hcentury
  obtain ⟨hf0, hf1⟩ := hfour
  obtain ⟨hs0, hs1⟩ := hsingle
  -- the smaller parts never add up to a further unit of four, hundred or four hundred years
  have h4 : (400 * cycle + 100 * century + 4 * four + single) / 4 =
      100 * cycle + 25 * century + four := by omega
  have h100 : (400 * cycle + 100 * century + 4 * four + single) / 100 = 4 * cycle + century := by
    omega
  have h400 : (400 * cycle + 100 * century + 4 * four + single) / 400 = cycle := by omega
  rw [start, h4, h100, h400]
  omega

theorem start_lt_start_succ (year : Int) : start year + 365 ≤ start (year + 1) := by
  simp only [start]
  omega

theorem start_mono {a b : Int} (h : a ≤ b) : start a ≤ start b := by
  simp only [start]
  omega

/-- From March 1 of a year back to March 1 of the year before there are the days of a year, with the
leap day if the later year has one. -/
theorem start_eq_start_pred_add (year : Int) :
    start year = start (year - 1) + if IsLeapYear year then 366 else 365 := by
  split
  · next hleap =>
    simp only [start, IsLeapYear] at hleap ⊢
    omega
  · next hcommon =>
    simp only [start, IsLeapYear] at hcommon ⊢
    omega

/-- A year from March ends with a leap day if it is the last of its four, and not the last of its
century unless it is the last of its cycle. -/
theorem isLeapYear_of_parts {cycle century four single : Int} (hcentury : 0 ≤ century ∧ century ≤ 3)
    (hfour : 0 ≤ four ∧ four ≤ 24) (hsingle : 0 ≤ single ∧ single ≤ 3) :
    IsLeapYear (400 * cycle + 100 * century + 4 * four + single + 1) ↔
      single = 3 ∧ (four < 24 ∨ century = 3) := by
  rw [IsLeapYear]
  omega

/-- Days from March 1 of a year to March 1 of the following one. -/
theorem start_succ_of_parts {cycle century four single : Int} (hcentury : 0 ≤ century ∧ century ≤ 3)
    (hfour : 0 ≤ four ∧ four ≤ 24) (hsingle : 0 ≤ single ∧ single ≤ 3) :
    start (400 * cycle + 100 * century + 4 * four + single + 1) =
      start (400 * cycle + 100 * century + 4 * four + single) +
        if single = 3 ∧ (four < 24 ∨ century = 3) then 366 else 365 := by
  rw [start_eq_start_pred_add, Int.add_sub_cancel]
  simp only [isLeapYear_of_parts hcentury hfour hsingle]

/-- A day number is made of the start of its year from March and of a day of that year. -/
theorem ofDayNumber_spec (number : Int) :
    number + 719468 = start (ofDayNumber number).year + (ofDayNumber number).dayOfYear ∧
      0 ≤ (ofDayNumber number).dayOfYear ∧
      start (ofDayNumber number).year + (ofDayNumber number).dayOfYear <
        start ((ofDayNumber number).year + 1) := by
  simp only [ofDayNumber]
  -- name the parts in the order in which the day number is divided
  generalize hcycle : (number + 719468) / 146097 = cycle
  generalize hin : (number + 719468) % 146097 = inCycle
  generalize hcentury : min 3 (inCycle / 36524) = century
  generalize hfour : (inCycle - 36524 * century) / 1461 = four
  generalize hinFour : (inCycle - 36524 * century) % 1461 = inFour
  generalize hsingle : min 3 (inFour / 365) = single
  -- the bound by three keeps the leap day at the end of its century and of its four
  have hc : 0 ≤ century ∧ century ≤ 3 := by omega
  have hf : 0 ≤ four ∧ four ≤ 24 := by omega
  have hs : 0 ≤ single ∧ single ≤ 3 := by omega
  refine ⟨?_, by omega, ?_⟩
  · rw [start_of_parts hc hf hs]
    omega
  · rw [start_succ_of_parts hc hf hs]
    split <;> omega

/-- No year is longer than with its leap day. -/
theorem dayOfYear_lt (number : Int) : (ofDayNumber number).dayOfYear < 366 := by
  obtain ⟨-, -, hlt⟩ := ofDayNumber_spec number
  simp only [start] at hlt
  omega

/-- The twelve months from March fill a year: January is the month that starts on day 306. -/
theorem month_lt_ten_iff (m : MarchYear) : m.month < 10 ↔ m.dayOfYear < 306 := by
  simp only [month]
  omega

end MarchYear

theorem dayNumber_january_first (year : Int) :
    dayNumber year 1 1 = MarchYear.start (year - 1) + 306 - 719468 := by
  simp [dayNumber, MarchYear.start]

theorem dayNumber_december_last (year : Int) :
    dayNumber year 12 31 = dayNumber (year + 1) 1 1 - 1 := by
  simp [dayNumber]
  omega

theorem monthSpan_december (year : Int) : monthSpan year 12 = 31 := by
  have hlast := dayNumber_december_last year
  show dayNumber (year + 1) 1 1 - dayNumber year 12 1 = 31
  simp only [dayNumber] at hlast ⊢
  omega

namespace Date

theorem month_le_two_iff (date : Date) :
    date.month ≤ 2 ↔ 306 ≤ (MarchYear.ofDayNumber date.number).dayOfYear := by
  obtain ⟨hspec, hnonneg, hlt⟩ := MarchYear.ofDayNumber_spec date.number
  have hten := MarchYear.month_lt_ten_iff (MarchYear.ofDayNumber date.number)
  have hlength := MarchYear.dayOfYear_lt date.number
  simp only [Date.month]
  generalize hm : MarchYear.ofDayNumber date.number = m at *
  have hmonth : m.month = (5 * m.dayOfYear + 2) / 153 := rfl
  by_cases h : m.month < 10
  · rw [if_pos h]
    omega
  · rw [if_neg h]
    omega

/-- A date is not before January 1 of a year exactly when it lies in the year or a later one. -/
theorem le_year_iff (date : Date) (year : Int) :
    year ≤ date.year ↔ dayNumber year 1 1 ≤ date.number := by
  have hmonth := month_le_two_iff date
  obtain ⟨hspec, hnonneg, hlt⟩ := MarchYear.ofDayNumber_spec date.number
  rw [dayNumber_january_first, Date.year]
  generalize MarchYear.ofDayNumber date.number = m at *
  -- January and February still belong to the March year before
  rcases Int.lt_trichotomy (year - 1) m.year with hbefore | hsame | hafter
  · have hstart := MarchYear.start_lt_start_succ (year - 1)
    have hle := MarchYear.start_mono (show year - 1 + 1 ≤ m.year by omega)
    constructor
    · omega
    · split <;> omega
  · rw [hsame]
    by_cases h : date.month ≤ 2
    · rw [if_pos h]
      omega
    · rw [if_neg h]
      omega
  · have hle := MarchYear.start_mono (show m.year + 1 ≤ year - 1 by omega)
    constructor
    · split <;> omega
    · omega

theorem year_mono {a b : Date} (h : a.number ≤ b.number) : a.year ≤ b.year := by
  rw [le_year_iff]
  exact Int.le_trans ((le_year_iff a a.year).1 (Int.le_refl _)) h

/-- The first of January of a year in the range of the calendar is a date. -/
theorem ofName?_january_first {year : Int} (hfirst : firstDayNumber ≤ dayNumber year 1 1)
    (hlast : dayNumber year 1 1 ≤ lastDayNumber) :
    ofName? year 1 1 = some ⟨dayNumber year 1 1, hfirst, hlast⟩ := by
  have hfollowing : dayNumber year 2 1 = dayNumber year 1 1 + 31 := by
    rw [dayNumber_january_first]
    simp only [dayNumber, MarchYear.start, Nat.reduceLeDiff, if_true]
    omega
  have hspan : monthSpan year 1 = 31 := by
    show dayNumber year 2 1 - dayNumber year 1 1 = 31
    omega
  rw [ofName?, if_pos (by rw [hspan]; omega), ofNumber?, dif_pos ⟨hfirst, hlast⟩]

/-- The last of December of a year in the range of the calendar is a date. -/
theorem ofName?_december_last {year : Int} (hfirst : firstDayNumber ≤ dayNumber year 12 31)
    (hlast : dayNumber year 12 31 ≤ lastDayNumber) :
    ofName? year 12 31 = some ⟨dayNumber year 12 31, hfirst, hlast⟩ := by
  rw [ofName?, if_pos (by rw [monthSpan_december]; omega), ofNumber?, dif_pos ⟨hfirst, hlast⟩]

end Date

end CronSchedule

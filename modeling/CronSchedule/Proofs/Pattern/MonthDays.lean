import CronSchedule.Pattern.Matching
import CronSchedule.Proofs.LocalTime
import CronSchedule.Proofs.Months

/-!
# Days from Monday to Friday in a month

`LW` selects the last day of a month from Monday to Friday, and `nW` the one
nearest to a day within the month. The two are found by weekdays that the calendar
gives for other days of the month; here they are told by the weekdays of the month
alone (`Pattern.workday_forms_of_month`).
-/

set_option autoImplicit false

namespace CronSchedule

variable {year : Int} {month day other weekday : Nat} {date : Date}

/-! ## Weekdays of a month -/

/-- The weekday of a day of a month, 1 for Monday to 7 for Sunday, if the month has the day. -/
def weekdayOf? (year : Int) (month day : Nat) : Option Nat :=
  (Date.ofName? year month day).map Date.weekday

/-- The month has the day, which is one from Monday to Friday. -/
def IsWorkday (year : Int) (month day : Nat) : Prop :=
  ∃ weekday ∈ weekdayOf? year month day, weekday ≤ 5

instance (year : Int) (month day : Nat) : Decidable (IsWorkday year month day) :=
  inferInstanceAs (Decidable (∃ weekday ∈ weekdayOf? year month day, weekday ≤ 5))

/-- The time lies in the month. -/
def LocalTime.InMonth (time : LocalTime) (year : Int) (month : Nat) : Prop :=
  time.date.year = year ∧ time.date.month = month

instance (time : LocalTime) (year : Int) (month : Nat) : Decidable (time.InMonth year month) :=
  inferInstanceAs (Decidable (time.date.year = year ∧ time.date.month = month))

/-- The weekdays follow each other through the month of a date. -/
theorem Date.weekdayOf?_eq_some_iff : weekdayOf? date.year date.month day = some weekday ↔
    (1 ≤ day ∧ day ≤ date.monthLength) ∧
      (weekday : Int) = (date.number + day - date.day + 3) % 7 + 1 := by
  rw [weekdayOf?, Option.map_eq_some_iff]
  constructor
  · rintro ⟨target, htarget, rfl⟩
    obtain ⟨hfirst, hlast, hnumber⟩ := sameMonth?_eq_some_iff.1 htarget
    refine ⟨⟨hfirst, hlast⟩, ?_⟩
    rw [Date.weekday]
    omega
  · rintro ⟨⟨hfirst, hlast⟩, hweekday⟩
    obtain ⟨target, htarget⟩ := exists_sameMonth? date hfirst hlast
    obtain ⟨-, -, hnumber⟩ := sameMonth?_eq_some_iff.1 htarget
    refine ⟨target, htarget, ?_⟩
    rw [Date.weekday]
    omega

theorem Date.exists_weekdayOf? (hfirst : 1 ≤ day) (hlast : day ≤ date.monthLength) :
    ∃ weekday, weekdayOf? date.year date.month day = some weekday := by
  refine ⟨((date.number + day - date.day + 3) % 7 + 1).toNat, ?_⟩
  rw [weekdayOf?_eq_some_iff]
  omega

theorem Date.isWorkday_iff : IsWorkday date.year date.month day ↔
    (1 ≤ day ∧ day ≤ date.monthLength) ∧ (date.number + day - date.day + 3) % 7 < 5 := by
  constructor
  · rintro ⟨weekday, hweekday, hle⟩
    obtain ⟨hday, hnumber⟩ := weekdayOf?_eq_some_iff.1 hweekday
    exact ⟨hday, by omega⟩
  · rintro ⟨hday, hlt⟩
    obtain ⟨weekday, hweekday⟩ := exists_weekdayOf? hday.1 hday.2
    obtain ⟨-, hnumber⟩ := weekdayOf?_eq_some_iff.1 hweekday
    exact ⟨weekday, hweekday, by omega⟩

theorem LocalTime.exists_on_date (date : Date) : ∃ time : LocalTime, time.date = date := by
  have hfirst := date.first_le
  have hlast := date.le_last
  refine ⟨⟨date.number * secondsPerDay, ?_, ?_⟩, ?_⟩
  · simp only [firstDayNumber, secondsPerDay] at *
    omega
  · simp only [lastDayNumber, secondsPerDay] at *
    omega
  · simp [LocalTime.date, secondsPerDay]

/-- A day from Monday to Friday has times of day. -/
theorem LocalTime.exists_on_day (h : IsWorkday year month day) :
    ∃ time : LocalTime, time.InMonth year month ∧ time.date.day = day := by
  obtain ⟨weekday, hweekday, -⟩ := h
  obtain ⟨date, hdate, -⟩ := Option.map_eq_some_iff.1 hweekday
  obtain ⟨hyear, hmonth, hday⟩ := Date.ofName?_eq_some_iff.1 hdate
  obtain ⟨time, rfl⟩ := exists_on_date date
  exact ⟨time, ⟨hyear, hmonth⟩, hday⟩

namespace Pattern

/-! ## The last day from Monday to Friday -/

/-- A search down through the numbers up to `n` stops at the last one that passes. -/
theorem find?_reverse_range'_eq_some_iff {n : Nat} {p : Nat → Bool} :
    (List.range' 1 n).reverse.find? p = some day ↔
      (1 ≤ day ∧ day ≤ n ∧ p day = true) ∧ ∀ later, day < later → later ≤ n → p later = false := by
  induction n with
  | zero =>
    simp
    omega
  | succ n ih =>
    rw [List.range'_concat, List.reverse_append, List.reverse_singleton, List.singleton_append,
      Nat.one_mul, Nat.add_comm 1 n]
    by_cases hp : p (n + 1) = true
    · rw [List.find?_cons_of_pos hp, Option.some.injEq]
      constructor
      · rintro rfl
        refine ⟨⟨Nat.le_add_left 1 n, Nat.le_refl _, hp⟩, ?_⟩
        intro later hlt hle
        exact absurd hle (Nat.not_le.2 hlt)
      · rintro ⟨⟨-, hle, -⟩, hlater⟩
        -- a day before the end is not the last one that passes
        rcases Nat.lt_or_eq_of_le hle with hlt | heq
        · rw [hlater (n + 1) hlt (Nat.le_refl _)] at hp
          cases hp
        · exact heq.symm
    · rw [List.find?_cons_of_neg hp, ih]
      have hfalse : p (n + 1) = false := by simpa using hp
      constructor
      · rintro ⟨⟨hfirst, hle, hday⟩, hlater⟩
        refine ⟨⟨hfirst, Nat.le_succ_of_le hle, hday⟩, ?_⟩
        intro later hlt hle
        rcases Nat.lt_or_eq_of_le hle with hlt' | rfl
        · exact hlater later hlt (Nat.le_of_lt_succ hlt')
        · exact hfalse
      · rintro ⟨⟨hfirst, hle, hday⟩, hlater⟩
        have hne : day ≠ n + 1 := by
          rintro rfl
          exact hp hday
        refine ⟨⟨hfirst, by omega, hday⟩, ?_⟩
        intro later hlt hle
        exact hlater later hlt (Nat.le_succ_of_le hle)

theorem lastWeekdayOf?_eq_some_iff : lastWeekdayOf? date = some day ↔
    IsWorkday date.year date.month day ∧
      ∀ later, day < later → ¬ IsWorkday date.year date.month later := by
  have hany {n : Nat} : (date.sameMonth? n).any (fun other => decide (other.weekday ≤ 5)) = true ↔
      IsWorkday date.year date.month n := by
    simp [IsWorkday, weekdayOf?, Date.sameMonth?, Option.any_eq_true]
  rw [lastWeekdayOf?, find?_reverse_range'_eq_some_iff, hany]
  constructor
  · rintro ⟨⟨-, -, hday⟩, hlater⟩
    refine ⟨hday, ?_⟩
    intro later hlt hworkday
    obtain ⟨⟨-, hle⟩, -⟩ := Date.isWorkday_iff.1 hworkday
    have hfalse := hlater later hlt hle
    rw [hany.2 hworkday] at hfalse
    cases hfalse
  · rintro ⟨hday, hlater⟩
    obtain ⟨⟨hfirst, hlast⟩, -⟩ := Date.isWorkday_iff.1 hday
    refine ⟨⟨hfirst, hlast, hday⟩, ?_⟩
    intro later hlt _
    exact Bool.eq_false_iff.2 fun htrue => hlater later hlt (hany.1 htrue)

/-- Of the last three days of a month one is a day from Monday to Friday. -/
theorem exists_lastWeekdayOf? (date : Date) : ∃ day, lastWeekdayOf? date = some day := by
  have hweeks := Date.four_weeks_le_monthLength date
  simp only [lastWeekdayOf?_eq_some_iff, Date.isWorkday_iff]
  -- the weekday of the last day tells how many days of the weekend end the month
  generalize hweekday : (date.number + date.monthLength - date.day + 3) % 7 = weekday
  by_cases hworkday : weekday < 5
  · refine ⟨date.monthLength, ⟨by omega, by omega⟩, ?_⟩
    omega
  · by_cases hsaturday : weekday = 5
    · refine ⟨date.monthLength - 1, ⟨by omega, by omega⟩, ?_⟩
      omega
    · refine ⟨date.monthLength - 2, ⟨by omega, by omega⟩, ?_⟩
      omega

/-! ## The day from Monday to Friday nearest to a day -/

theorem nearestWeekdayTo?_eq_some_iff : nearestWeekdayTo? date day = some other ↔
    day ≤ date.monthLength ∧ IsWorkday date.year date.month other ∧
      (other = day ∨ weekdayOf? date.year date.month day = some 6 ∧ other + 1 = day ∨
        weekdayOf? date.year date.month day = some 7 ∧ other = day + 1) := by
  simp only [Date.isWorkday_iff, Date.weekdayOf?_eq_some_iff]
  rw [nearestWeekdayTo?]
  by_cases hmonth : 1 ≤ day ∧ day ≤ date.monthLength
  · obtain ⟨target, htarget⟩ := Date.exists_sameMonth? date hmonth.1 hmonth.2
    obtain ⟨-, -, hnumber⟩ := Date.sameMonth?_eq_some_iff.1 htarget
    rw [htarget, Option.bind_some, Date.weekday]
    split
    · rw [Option.some.injEq]
      omega
    · split
      · split
        · rw [Option.some.injEq]
          omega
        · simp only [reduceCtorEq, false_iff]
          omega
      · split
        · rw [Option.some.injEq]
          omega
        · simp only [reduceCtorEq, false_iff]
          omega
  · have hnone : date.sameMonth? day = none := by
      rw [Option.eq_none_iff_forall_ne_some]
      intro target htarget
      obtain ⟨hfirst, hlast, -⟩ := Date.sameMonth?_eq_some_iff.1 htarget
      exact hmonth ⟨hfirst, hlast⟩
    rw [hnone, Option.bind_none]
    simp only [reduceCtorEq, false_iff]
    omega

/-- There is no such day exactly if the day is not one of the month, or if it is one of a weekend
and the days beside the weekend that is nearer lie in another month. -/
theorem nearestWeekdayTo?_eq_none_iff (hday : 1 ≤ day) : nearestWeekdayTo? date day = none ↔
    date.monthLength < day ∨ day = 1 ∧ weekdayOf? date.year date.month 1 = some 6 ∨
      day = date.monthLength ∧ weekdayOf? date.year date.month day = some 7 := by
  simp only [Option.eq_none_iff_forall_ne_some, ne_eq, nearestWeekdayTo?_eq_some_iff,
    Date.isWorkday_iff, Date.weekdayOf?_eq_some_iff]
  constructor
  · intro h
    by_cases hmonth : day ≤ date.monthLength
    · by_cases hworkday : (date.number + day - date.day + 3) % 7 < 5
      · exact absurd ⟨hmonth, ⟨⟨hday, hmonth⟩, hworkday⟩, .inl rfl⟩ (h day)
      · -- on a weekend, the day beside it is none of the month
        by_cases hsaturday : (date.number + day - date.day + 3) % 7 = 5
        · have hbefore := h (day - 1)
          right
          left
          omega
        · have hafter := h (day + 1)
          right
          right
          omega
    · left
      omega
  · intro h other
    omega

/-! ## Acceptance -/

section Acceptance

variable {value : Nat} {time : LocalTime}

-- what is found for a month is the same from all of its dates

theorem accepts_lastWeekday_iff (h : time.InMonth date.year date.month) :
    lastWeekday.accepts value time = true ↔ lastWeekdayOf? date = some time.date.day := by
  rw [accepts, beq_iff_eq, lastWeekdayOf?, lastWeekdayOf?, Date.monthLength, Date.monthLength, h.1,
    h.2]
  simp only [Date.sameMonth?, h.1, h.2]

theorem accepts_nearestWeekday_iff (h : time.InMonth date.year date.month) :
    (nearestWeekday day).accepts value time = true ↔
      nearestWeekdayTo? date day = some time.date.day := by
  rw [accepts, beq_iff_eq, nearestWeekdayTo?, nearestWeekdayTo?, Date.monthLength,
    Date.monthLength, Date.sameMonth?, Date.sameMonth?, h.1, h.2]

end Acceptance

/-- The form `LW` accepts one day of each month of the calendar: it is one from Monday to Friday,
and no later day of the month is one. The form `nW` accepts at most one day `x` of a month, namely
a day from Monday to Friday that is the day `n` itself, the Friday before it if it is a Saturday or
the Monday after it if it is a Sunday; so it accepts none exactly if the month ends before the day,
begins with it as a Saturday or ends with it as a Sunday. -/
theorem workday_forms_of_month (hyear : -262143 ≤ year ∧ year ≤ 262142)
    (hmonth : 1 ≤ month ∧ month ≤ 12) :
    (∃ last, IsWorkday year month last ∧
      (∀ later, last < later → ¬ IsWorkday year month later) ∧
      ∀ value time, time.InMonth year month →
        (lastWeekday.accepts value time = true ↔ time.date.day = last)) ∧
    ∀ day, 1 ≤ day → day ≤ 31 →
      (∀ value time, time.InMonth year month →
        ((nearestWeekday day).accepts value time = true ↔
          day ≤ daysInMonth year month ∧ IsWorkday year month time.date.day ∧
            (time.date.day = day ∨
              weekdayOf? year month day = some 6 ∧ time.date.day + 1 = day ∨
              weekdayOf? year month day = some 7 ∧ time.date.day = day + 1))) ∧
      (∀ value time other, time.InMonth year month → other.InMonth year month →
        (nearestWeekday day).accepts value time = true →
        (nearestWeekday day).accepts value other = true → time.date.day = other.date.day) ∧
      ((∀ value time, time.InMonth year month → (nearestWeekday day).accepts value time = false) ↔
        daysInMonth year month < day ∨ day = 1 ∧ weekdayOf? year month 1 = some 6 ∨
          day = daysInMonth year month ∧ weekdayOf? year month day = some 7) := by
  obtain ⟨date, rfl, rfl⟩ := Date.exists_of_month hyear hmonth
  constructor
  · obtain ⟨last, hlast⟩ := exists_lastWeekdayOf? date
    obtain ⟨hworkday, hlater⟩ := lastWeekdayOf?_eq_some_iff.1 hlast
    refine ⟨last, hworkday, hlater, ?_⟩
    intro value time htime
    rw [accepts_lastWeekday_iff htime, hlast, Option.some.injEq, eq_comm]
  · intro day hday _
    refine ⟨?_, ?_, ?_⟩
    · intro value time htime
      rw [accepts_nearestWeekday_iff htime, nearestWeekdayTo?_eq_some_iff, Date.monthLength]
    · intro value time other htime hother htimeAccepted hotherAccepted
      rw [accepts_nearestWeekday_iff htime] at htimeAccepted
      rw [accepts_nearestWeekday_iff hother, htimeAccepted] at hotherAccepted
      exact Option.some.inj hotherAccepted
    · rw [← Date.monthLength, ← nearestWeekdayTo?_eq_none_iff hday]
      constructor
      · intro h
        rw [Option.eq_none_iff_forall_ne_some]
        intro other hother
        -- the day found is one of the month, which has times
        obtain ⟨-, hworkday, -⟩ := nearestWeekdayTo?_eq_some_iff.1 hother
        obtain ⟨time, htime, hname⟩ := LocalTime.exists_on_day hworkday
        have hfalse := h 0 time htime
        rw [(accepts_nearestWeekday_iff htime).2 (hname ▸ hother)] at hfalse
        cases hfalse
      · intro hnone value time htime
        rw [Bool.eq_false_iff, ne_eq, accepts_nearestWeekday_iff htime, hnone]
        intro hsome
        cases hsome

/-- November 2025 begins with a Saturday and ends with a Sunday. -/
theorem workday_forms_of_november :
    (-262143 ≤ (2025 : Int) ∧ (2025 : Int) ≤ 262142) ∧ (1 ≤ 11 ∧ 11 ≤ 12) ∧
      (∀ value time, time.InMonth 2025 11 →
        (lastWeekday.accepts value time = true ↔ time.date.day = 28)) ∧
      (∀ value time, time.InMonth 2025 11 → (nearestWeekday 1).accepts value time = false) ∧
      (∀ value time, time.InMonth 2025 11 → (nearestWeekday 30).accepts value time = false) ∧
      ∀ value time, time.InMonth 2025 11 → time.date.day = 17 →
        (nearestWeekday 16).accepts value time = true := by
  have hyear : -262143 ≤ (2025 : Int) ∧ (2025 : Int) ≤ 262142 := by decide
  have hmonth : 1 ≤ 11 ∧ 11 ≤ 12 := by decide
  obtain ⟨⟨last, -, -, haccepts⟩, hnearest⟩ := workday_forms_of_month hyear hmonth
  have hfriday : 28 = last :=
    (haccepts 0 ⟨1764288000, by decide, by decide⟩ (by decide)).1 (by decide)
  subst hfriday
  refine ⟨hyear, hmonth, haccepts, ?_, ?_, ?_⟩
  · exact (hnearest 1 (by decide) (by decide)).2.2.2 (by decide)
  · exact (hnearest 30 (by decide) (by decide)).2.2.2 (by decide)
  · intro value time htime hday
    rw [(hnearest 16 (by decide) (by decide)).1 value time htime, hday]
    decide

end Pattern

end CronSchedule

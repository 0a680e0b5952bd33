import CronSchedule.Proofs.Pattern.MonthDays
import Mathlib.Data.Nat.Count
import Mathlib.Data.Set.Subsingleton

/-!
# Days counted from the ends of a month

`L-k` selects the day that lies `k` days before the last one of a month, `nL` the
last day of a month on a weekday, and `n#k` the `k`-th such day. The days of a
month on a weekday lie a week apart, so a day is preceded by as many of its kind as
there are whole weeks before it (`Date.countBefore_eq_div`). From this count follows
which days the forms select, how many these are, and that the last day on a weekday
is the fifth one or, where there is none, the fourth
(`Pattern.counting_forms_of_month`).
-/

set_option autoImplicit false

namespace CronSchedule

variable {year : Int} {month day first weekday count : Nat} {date : Date}

/-! ## Days of a month on a weekday -/

/-- Number of the days of a month before a day that fall on a weekday. -/
def countBefore (year : Int) (month weekday day : Nat) : Nat :=
  Nat.count (fun earlier => weekdayOf? year month earlier = some weekday) day

/-- The days of a month that fall on a weekday and are the `count`-th ones in it to do so. -/
def nthDays (year : Int) (month weekday count : Nat) : Set Nat :=
  {day | weekdayOf? year month day = some weekday ∧ countBefore year month weekday day + 1 = count}

theorem LocalTime.exists_of_weekdayOf? (h : weekdayOf? year month day = some weekday) :
    ∃ time : LocalTime, time.InMonth year month ∧ time.date.day = day := by
  obtain ⟨date, hdate, -⟩ := Option.map_eq_some_iff.1 h
  obtain ⟨hyear, hmonth, hday⟩ := Date.ofName?_eq_some_iff.1 hdate
  obtain ⟨time, rfl⟩ := exists_on_date date
  exact ⟨time, ⟨hyear, hmonth⟩, hday⟩

namespace Date

theorem weekdayOf?_day (date : Date) :
    weekdayOf? date.year date.month date.day = some date.weekday := by
  rw [weekdayOf?, ofName?_eq_some_iff.2 ⟨rfl, rfl, rfl⟩, Option.map_some]

/-- Every weekday occurs in the first week of a month. -/
theorem exists_first (date : Date) (hweekday : 1 ≤ weekday ∧ weekday ≤ 7) :
    ∃ first, first ≤ 7 ∧ weekdayOf? date.year date.month first = some weekday := by
  have hweeks := four_weeks_le_monthLength date
  refine ⟨(((weekday : Int) - date.number + date.day - 5) % 7 + 1).toNat, by omega, ?_⟩
  rw [weekdayOf?_eq_some_iff]
  omega

/-- The days of a month on the same weekday lie whole weeks apart. -/
theorem weekdayOf?_eq_some_iff_of_first (hfirst : first ≤ 7)
    (h : weekdayOf? date.year date.month first = some weekday) :
    weekdayOf? date.year date.month day = some weekday ↔
      day ≤ date.monthLength ∧ ∃ weeks, day = first + 7 * weeks := by
  obtain ⟨⟨hpos, -⟩, hweekday⟩ := weekdayOf?_eq_some_iff.1 h
  rw [weekdayOf?_eq_some_iff, hweekday]
  constructor
  · rintro ⟨⟨hday, hle⟩, hsame⟩
    refine ⟨hle, (day - first) / 7, ?_⟩
    omega
  · rintro ⟨hle, weeks, rfl⟩
    omega

/-- From the first day on a weekday there is one more of these days behind every week. -/
theorem countBefore_eq (hfirst : first ≤ 7)
    (h : weekdayOf? date.year date.month first = some weekday) (hday : day ≤ date.monthLength + 1) :
    countBefore date.year date.month weekday day = (day + 6 - first) / 7 := by
  obtain ⟨⟨hpos, -⟩, -⟩ := weekdayOf?_eq_some_iff.1 h
  -- induction on the day: the count grows where a day of the kind is passed over
  induction day with
  | zero =>
    rw [countBefore, Nat.count_zero]
    omega
  | succ day ih =>
    have hbefore := ih (Nat.le_of_succ_le hday)
    rw [countBefore] at hbefore ⊢
    rw [Nat.count_succ, hbefore]
    split
    · next hsame =>
      obtain ⟨-, weeks, hweeks⟩ := (weekdayOf?_eq_some_iff_of_first hfirst h).1 hsame
      omega
    · next hother =>
      rw [weekdayOf?_eq_some_iff_of_first hfirst h] at hother
      have hnot : ∀ weeks, day ≠ first + 7 * weeks := by
        intro weeks hweeks
        exact hother ⟨Nat.le_of_succ_le_succ hday, weeks, hweeks⟩
      have hlast := hnot ((day - first) / 7)
      omega

/-- A day of a month is preceded by one day of its kind for each whole week before it. -/
theorem countBefore_eq_div (h : weekdayOf? date.year date.month day = some weekday) :
    countBefore date.year date.month weekday day = (day - 1) / 7 := by
  obtain ⟨⟨-, hle⟩, hweekday⟩ := weekdayOf?_eq_some_iff.1 h
  have hbounds : 1 ≤ weekday ∧ weekday ≤ 7 := by omega
  obtain ⟨first, hfirst, hfirstDay⟩ := exists_first date hbounds
  obtain ⟨-, weeks, rfl⟩ := (weekdayOf?_eq_some_iff_of_first hfirst hfirstDay).1 h
  obtain ⟨⟨hpos, -⟩, -⟩ := weekdayOf?_eq_some_iff.1 hfirstDay
  rw [countBefore_eq hfirst hfirstDay (Nat.le_succ_of_le hle)]
  omega

theorem mem_nthDays_iff : day ∈ nthDays date.year date.month weekday count ↔
    weekdayOf? date.year date.month day = some weekday ∧ (day - 1) / 7 + 1 = count := by
  apply and_congr_right
  intro hday
  rw [countBefore_eq_div hday]

/-- No month has two days that are the same in number of their kind. -/
theorem subsingleton_nthDays : (nthDays date.year date.month weekday count).Subsingleton := by
  intro a ha b hb
  rw [mem_nthDays_iff, weekdayOf?_eq_some_iff] at ha hb
  omega

/-- Four whole weeks hold four days of each kind. -/
theorem nonempty_nthDays (hweekday : 1 ≤ weekday ∧ weekday ≤ 7) (hcount : 1 ≤ count ∧ count ≤ 4) :
    (nthDays date.year date.month weekday count).Nonempty := by
  have hweeks := four_weeks_le_monthLength date
  obtain ⟨first, hfirst, hfirstDay⟩ := exists_first date hweekday
  obtain ⟨⟨hpos, -⟩, -⟩ := weekdayOf?_eq_some_iff.1 hfirstDay
  refine ⟨first + 7 * (count - 1), mem_nthDays_iff.2 ⟨?_, by omega⟩⟩
  rw [weekdayOf?_eq_some_iff_of_first hfirst hfirstDay]
  exact ⟨by omega, count - 1, rfl⟩

/-! ## The last day on a weekday -/

/-- A day of a kind in a month is the last one if the month ends within a week of it. -/
theorem isLast_iff (h : weekdayOf? date.year date.month day = some weekday) :
    (∀ later, day < later → weekdayOf? date.year date.month later ≠ some weekday) ↔
      date.monthLength < day + 7 := by
  rw [weekdayOf?_eq_some_iff] at h
  constructor
  · intro hlater
    have hnext := hlater (day + 7) (by omega)
    rw [ne_eq, weekdayOf?_eq_some_iff] at hnext
    omega
  · intro hend later hlt hsame
    rw [weekdayOf?_eq_some_iff] at hsame
    omega

theorem exists_last (date : Date) (hweekday : 1 ≤ weekday ∧ weekday ≤ 7) :
    ∃ final, weekdayOf? date.year date.month final = some weekday ∧
      date.monthLength < final + 7 := by
  obtain ⟨first, hfirst, hfirstDay⟩ := exists_first date hweekday
  have hweeks := four_weeks_le_monthLength date
  refine ⟨first + 7 * ((date.monthLength - first) / 7), ?_, by omega⟩
  rw [weekdayOf?_eq_some_iff_of_first hfirst hfirstDay]
  exact ⟨by omega, _, rfl⟩

/-- The last day of its kind is the fifth one, or the fourth one in a month without a fifth. -/
theorem nthDays_of_last {final : Nat} (h : weekdayOf? date.year date.month final = some weekday)
    (hend : date.monthLength < final + 7) :
    ((nthDays date.year date.month weekday 5).Nonempty →
      nthDays date.year date.month weekday 5 = {final}) ∧
    (nthDays date.year date.month weekday 5 = ∅ →
      nthDays date.year date.month weekday 4 = {final}) := by
  have hweeks := four_weeks_le_monthLength date
  have hlength := monthLength_le date
  obtain ⟨⟨-, hle⟩, -⟩ := weekdayOf?_eq_some_iff.1 h
  -- the last week of a month begins in its fourth week and ends in its fifth
  have hcount : (final - 1) / 7 + 1 = 4 ∨ (final - 1) / 7 + 1 = 5 := by omega
  rcases hcount with hfourth | hfifth
  · have hmem : final ∈ nthDays date.year date.month weekday 4 := mem_nthDays_iff.2 ⟨h, hfourth⟩
    constructor
    · rintro ⟨day, hday⟩
      -- a fifth day would come after the last one
      rw [mem_nthDays_iff] at hday
      exact absurd hday.1 ((isLast_iff h).2 hend day (by omega))
    · intro _
      exact subsingleton_nthDays.eq_singleton_of_mem hmem
  · have hmem : final ∈ nthDays date.year date.month weekday 5 := mem_nthDays_iff.2 ⟨h, hfifth⟩
    constructor
    · intro _
      exact subsingleton_nthDays.eq_singleton_of_mem hmem
    · intro hempty
      rw [hempty] at hmem
      exact absurd hmem (Set.notMem_empty final)

end Date

/-! ## Acceptance -/

namespace Pattern

/-- The last day of a kind in a month is the one that the next such day follows in another month. -/
theorem isLastOf_iff (h : 1 ≤ weekday ∧ weekday ≤ 7) : isLastOf date weekday = true ↔
    date.weekday = weekday ∧ date.monthLength < date.day + 7 := by
  have hday := (Date.day_spec date).1
  have hspan := Date.day_le_monthSpan date
  rw [← Date.monthLength_eq] at hspan
  obtain ⟨last, hlast⟩ := Date.exists_sameMonth? date (show 1 ≤ date.monthLength by omega)
    (Nat.le_refl _)
  obtain ⟨-, -, hnumber⟩ := Date.sameMonth?_eq_some_iff.1 hlast
  rw [isLastOf, hlast, Option.any_some, beq_iff_eq, Date.weekday, Date.weekday]
  omega

/-- In a month the pattern accepts the times of exactly the given days, all of which the month
has. -/
structure SelectsIn (pattern : Pattern) (year : Int) (month : Nat) (days : Set Nat) : Prop where
  exists_time : ∀ day ∈ days, ∃ time : LocalTime, time.InMonth year month ∧ time.date.day = day
  accepts_iff : ∀ value (time : LocalTime), time.InMonth year month →
    (pattern.accepts value time = true ↔ time.date.day ∈ days)

theorem selectsIn_last_none (date : Date) (offset : Nat) :
    (last offset none).SelectsIn date.year date.month
      {day | offset < date.monthLength ∧ day = date.monthLength - offset} := by
  constructor
  · rintro day ⟨hoffset, rfl⟩
    have hfirst : 1 ≤ date.monthLength - offset := by omega
    obtain ⟨weekday, hweekday⟩ := Date.exists_weekdayOf? hfirst (Nat.sub_le _ _)
    exact LocalTime.exists_of_weekdayOf? hweekday
  · rintro value time ⟨hyear, hmonth⟩
    have hday := (Date.day_spec time.date).1
    rw [accepts, beq_iff_eq, Set.mem_ofPred_eq, Date.monthLength, Date.monthLength, hyear, hmonth]
    omega

theorem selectsIn_last_some (hweekday : 1 ≤ weekday ∧ weekday ≤ 7) (offset : Nat) {final : Nat}
    (h : weekdayOf? date.year date.month final = some weekday)
    (hend : date.monthLength < final + 7) :
    (last offset (some weekday)).SelectsIn date.year date.month {final} := by
  constructor
  · rintro day rfl
    exact LocalTime.exists_of_weekdayOf? h
  · rintro value time ⟨hyear, hmonth⟩
    have hown := Date.weekdayOf?_day time.date
    have hle := Date.day_le_monthLength time.date
    have hlength : time.date.monthLength = date.monthLength := by
      rw [Date.monthLength, Date.monthLength, hyear, hmonth]
    rw [hyear, hmonth] at hown
    rw [Date.weekdayOf?_eq_some_iff] at h hown
    rw [accepts, isLastOf_iff hweekday, Set.mem_singleton_iff]
    omega

theorem selectsIn_nth (date : Date) (weekday count : Nat) :
    (nth weekday count).SelectsIn date.year date.month
      (nthDays date.year date.month weekday count) := by
  constructor
  · rintro day ⟨hday, -⟩
    exact LocalTime.exists_of_weekdayOf? hday
  · rintro value time ⟨hyear, hmonth⟩
    have hown := Date.weekdayOf?_day time.date
    rw [hyear, hmonth] at hown
    rw [accepts, Bool.and_eq_true, beq_iff_eq, beq_iff_eq, Date.mem_nthDays_iff, hown,
      Option.some.injEq]

/-- Of each month of the calendar, the form `L-k` accepts the day that lies `k` days before the last
one if the month has it, and no day otherwise. For a weekday `n`, the form `n#k` accepts the day on
that weekday which `k - 1` such days of the month precede: one day for `k` up to 4 and at most one
for `k = 5`. The form `nL` accepts one day, the last one of the month on the weekday: it is the fifth
such day if there is one and the fourth otherwise. -/
theorem counting_forms_of_month (hyear : -262143 ≤ year ∧ year ≤ 262142)
    (hmonth : 1 ≤ month ∧ month ≤ 12) :
    (∀ offset, (last offset none).SelectsIn year month
      {day | offset < daysInMonth year month ∧ day = daysInMonth year month - offset}) ∧
    ∀ weekday, 1 ≤ weekday → weekday ≤ 7 →
      (∀ count, 1 ≤ count → count ≤ 5 →
        (nth weekday count).SelectsIn year month (nthDays year month weekday count) ∧
        (nthDays year month weekday count).Subsingleton ∧
        (count ≤ 4 → (nthDays year month weekday count).Nonempty)) ∧
      ∃ final, weekdayOf? year month final = some weekday ∧
        (∀ later, final < later → weekdayOf? year month later ≠ some weekday) ∧
        (∀ offset, (last offset (some weekday)).SelectsIn year month {final}) ∧
        ((nthDays year month weekday 5).Nonempty → nthDays year month weekday 5 = {final}) ∧
        (nthDays year month weekday 5 = ∅ → nthDays year month weekday 4 = {final}) := by
  obtain ⟨date, rfl, rfl⟩ := Date.exists_of_month hyear hmonth
  refine ⟨selectsIn_last_none date, ?_⟩
  intro weekday hfirst hlast
  have hweekday : 1 ≤ weekday ∧ weekday ≤ 7 := ⟨hfirst, hlast⟩
  constructor
  · intro count hcount _
    refine ⟨selectsIn_nth date weekday count, Date.subsingleton_nthDays, ?_⟩
    intro hle
    exact Date.nonempty_nthDays hweekday ⟨hcount, hle⟩
  · obtain ⟨final, hfinal, hend⟩ := Date.exists_last date hweekday
    refine ⟨final, hfinal, (Date.isLast_iff hfinal).2 hend, ?_, Date.nthDays_of_last hfinal hend⟩
    intro offset
    exact selectsIn_last_some hweekday offset hfinal hend

/-- February 2024 begins and ends with a Thursday, so it has five of them and four Fridays. -/
theorem counting_forms_of_leap_february :
    (-262143 ≤ (2024 : Int) ∧ (2024 : Int) ≤ 262142) ∧ (1 ≤ 2 ∧ 2 ≤ 12) ∧
      (∀ value time, time.InMonth 2024 2 →
        ((last 28 none).accepts value time = true ↔ time.date.day = 1)) ∧
      (∀ value time, time.InMonth 2024 2 → (last 29 none).accepts value time = false) ∧
      nthDays 2024 2 4 5 = {29} ∧ (last 0 (some 4)).SelectsIn 2024 2 {29} ∧
      nthDays 2024 2 5 5 = ∅ ∧ nthDays 2024 2 5 4 = {23} ∧
      (last 0 (some 5)).SelectsIn 2024 2 {23} := by
  have hyear : -262143 ≤ (2024 : Int) ∧ (2024 : Int) ≤ 262142 := by decide
  have hmonth : 1 ≤ 2 ∧ 2 ≤ 12 := by decide
  have hlength : daysInMonth 2024 2 = 29 := by decide
  obtain ⟨hoffset, hforms⟩ := counting_forms_of_month hyear hmonth
  obtain ⟨-, thursday, -, -, hlastThursday, hfifth, -⟩ := hforms 4 (by decide) (by decide)
  obtain ⟨-, friday, hfriday, -, hlastFriday, hfifthFriday, hfourth⟩ :=
    hforms 5 (by decide) (by decide)
  have hthursday : 29 ∈ nthDays 2024 2 4 5 := by
    constructor
    · decide
    · decide +kernel
  have hthursdays := hfifth ⟨29, hthursday⟩
  obtain rfl : 29 = thursday := by rwa [hthursdays] at hthursday
  -- a fifth Friday would come after the last day
  have hnone : nthDays 2024 2 5 5 = ∅ := by
    rw [Set.eq_empty_iff_forall_notMem]
    intro day hday
    obtain ⟨time, htime, rfl⟩ := LocalTime.exists_of_weekdayOf? hday.1
    have hle := Date.day_le_monthLength time.date
    rw [Date.monthLength, htime.1, htime.2, hlength] at hle
    have hcheck : ∀ day ≤ 29, ¬ (weekdayOf? 2024 2 day = some 5 ∧
        countBefore 2024 2 5 day + 1 = 5) := by decide +kernel
    exact hcheck time.date.day hle hday
  have hmem : 23 ∈ nthDays 2024 2 5 4 := by
    constructor
    · decide
    · decide +kernel
  have hfridays := hfourth hnone
  obtain rfl : 23 = friday := by rwa [hfridays] at hmem
  refine ⟨hyear, hmonth, ?_, ?_, hthursdays, hlastThursday 0, hnone, hfridays, hlastFriday 0⟩
  · intro value time htime
    rw [(hoffset 28).accepts_iff value time htime, Set.mem_ofPred_eq, hlength]
    omega
  · intro value time htime
    rw [Bool.eq_false_iff, ne_eq, (hoffset 29).accepts_iff value time htime, Set.mem_ofPred_eq,
      hlength]
    omega

end Pattern

end CronSchedule

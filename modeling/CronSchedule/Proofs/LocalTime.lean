import CronSchedule.LocalTime
import CronSchedule.Proofs.Years

/-!
# Wall-clock times as numbers of seconds

A wall-clock time is its number of seconds (`LocalTime.ext_seconds`), and what
the calendar and the clock show of it are quotients and remainders of that
number: the second, minute and hour count units of a field modulo its span
(`LocalTime.component_subDay`), and the date and its year follow the order of the
times. Replacing one of these fields moves the time by whole units of the field
within the same day.
-/

set_option autoImplicit false

namespace CronSchedule

/-- Number of values of a field within one unit of the next coarser field; the fields from the
day on have none. -/
def Field.span : Field → Int
  | .second | .minute => 60
  | .hour => 24
  | _ => 1

namespace LocalTime

theorem ext_seconds {a b : LocalTime} (h : a.seconds = b.seconds) : a = b := by
  cases a
  cases b
  cases h
  rfl

theorem ofSeconds?_eq_some_iff {seconds : Int} {time : LocalTime} :
    ofSeconds? seconds = some time ↔ time.seconds = seconds := by
  constructor
  · intro h
    rw [ofSeconds?] at h
    split at h
    · cases h
      rfl
    · cases h
  · intro h
    subst h
    rw [ofSeconds?, dif_pos ⟨time.first_le, time.lt_end⟩]

theorem ofSeconds?_isSome_iff {seconds : Int} :
    (ofSeconds? seconds).isSome ↔
      firstDayNumber * secondsPerDay ≤ seconds ∧ seconds < (lastDayNumber + 1) * secondsPerDay := by
  rw [ofSeconds?]
  split <;> simp_all

theorem add?_eq_some_iff {time result : LocalTime} {seconds : Int} :
    time.add? seconds = some result ↔ result.seconds = time.seconds + seconds :=
  ofSeconds?_eq_some_iff

/-- Every number of seconds on a day between those of two times is that of a time. -/
theorem exists_of_day_between (first last : LocalTime) {seconds : Int}
    (hfirst : first.seconds / secondsPerDay ≤ seconds / secondsPerDay)
    (hlast : seconds / secondsPerDay ≤ last.seconds / secondsPerDay) :
    ∃ time : LocalTime, time.seconds = seconds := by
  have hstart := first.first_le
  have hend := last.lt_end
  refine ⟨⟨seconds, ?_, ?_⟩, rfl⟩
  · simp only [firstDayNumber, secondsPerDay] at *
    omega
  · simp only [lastDayNumber, secondsPerDay] at *
    omega

theorem exists_of_between {first last : LocalTime} {seconds : Int} (hfirst : first.seconds ≤ seconds)
    (hlast : seconds ≤ last.seconds) : ∃ time : LocalTime, time.seconds = seconds :=
  ⟨⟨seconds, Int.le_trans first.first_le hfirst, Int.lt_of_le_of_lt hlast last.lt_end⟩, rfl⟩

theorem exists_of_same_day (time : LocalTime) {seconds : Int}
    (h : seconds / secondsPerDay = time.seconds / secondsPerDay) :
    ∃ result : LocalTime, result.seconds = seconds :=
  exists_of_day_between time time (Int.le_of_eq h.symm) (Int.le_of_eq h)

/-! ## Fields within the day -/

theorem component_subDay (time : LocalTime) {field : Field} (h : field.isSubDay = true) :
    (time.component field : Int) = time.seconds / unitSeconds field % field.span := by
  cases field with
  | second =>
    simp only [component, second, secondOfDay, secondsPerDay, unitSeconds, Field.span]
    omega
  | minute =>
    simp only [component, minute, secondOfDay, secondsPerDay, unitSeconds, Field.span]
    omega
  | hour =>
    simp only [component, hour, secondOfDay, secondsPerDay, unitSeconds, Field.span]
    omega
  | dayOfMonth | month | dayOfWeek | year => cases h

theorem withComponent?_eq_some_iff {time result : LocalTime} {field : Field} {value : Nat}
    (h : field.isSubDay = true) :
    time.withComponent? field value = some result ↔ (value : Int) < field.span ∧
      result.seconds = time.seconds + unitSeconds field * (value - time.component field) := by
  cases field with
  | second =>
    simp only [withComponent?, component, unitSeconds, Field.span, Int.one_mul]
    split
    · rw [add?_eq_some_iff]
      omega
    · simp
      omega
  | minute =>
    simp only [withComponent?, component, unitSeconds, Field.span]
    split
    · rw [add?_eq_some_iff]
      omega
    · simp
      omega
  | hour =>
    simp only [withComponent?, component, unitSeconds, Field.span]
    split
    · rw [add?_eq_some_iff]
      omega
    · simp
      omega
  | dayOfMonth | month | dayOfWeek | year => cases h

/-- Every value of a field within the day can be set. -/
theorem exists_withComponent? (time : LocalTime) {field : Field} {value : Nat}
    (h : field.isSubDay = true) (hvalue : (value : Int) < field.span) :
    ∃ result, time.withComponent? field value = some result := by
  have hcomponent := component_subDay time h
  -- the field stays within its span, so the time stays on its day
  have hday : (time.seconds + unitSeconds field * (value - time.component field)) / secondsPerDay =
      time.seconds / secondsPerDay := by
    rw [hcomponent]
    cases field with
    | second =>
      simp only [unitSeconds, Field.span, secondsPerDay] at *
      omega
    | minute =>
      simp only [unitSeconds, Field.span, secondsPerDay] at *
      omega
    | hour =>
      simp only [unitSeconds, Field.span, secondsPerDay] at *
      omega
    | dayOfMonth | month | dayOfWeek | year => cases h
  obtain ⟨result, hresult⟩ := exists_of_same_day time hday
  exact ⟨result, (withComponent?_eq_some_iff h).2 ⟨hvalue, hresult⟩⟩

/-! ## Dates -/

theorem date_eq_iff {a b : LocalTime} :
    a.date = b.date ↔ a.seconds / secondsPerDay = b.seconds / secondsPerDay := by
  simp [date]

/-- A time is not before the start of a year exactly when it lies in the year or a later one. -/
theorem le_year_iff (time : LocalTime) (year : Int) :
    year ≤ time.date.year ↔ dayNumber year 1 1 * secondsPerDay ≤ time.seconds := by
  rw [Date.le_year_iff]
  simp only [date, secondsPerDay]
  omega

theorem year_mono {a b : LocalTime} (h : a.seconds ≤ b.seconds) : a.date.year ≤ b.date.year := by
  -- days follow seconds, and years follow days
  apply Date.year_mono
  simp only [date, secondsPerDay]
  omega

/-- Does the time lie between the first and the last time of any schedule? -/
def Scheduled (time : LocalTime) : Prop :=
  epoch.seconds ≤ time.seconds ∧ time.seconds ≤ lastScheduled.seconds

/-- The years of a schedule consist of whole hours. -/
theorem Scheduled.of_same_hour {time other : LocalTime} (h : time.Scheduled)
    (hhour : time.seconds / 3600 = other.seconds / 3600) : other.Scheduled := by
  simp only [Scheduled, epoch, lastScheduled] at *
  omega

/-- The calendar goes on for a day before and after the years of a schedule. -/
theorem Scheduled.exists_near {time : LocalTime} (h : time.Scheduled) {seconds : Int}
    (hnear : time.seconds - secondsPerDay ≤ seconds ∧ seconds ≤ time.seconds + secondsPerDay) :
    ∃ other : LocalTime, other.seconds = seconds := by
  have hsome := ofSeconds?_isSome_iff.2 (show firstDayNumber * secondsPerDay ≤ seconds ∧
      seconds < (lastDayNumber + 1) * secondsPerDay by
    simp only [Scheduled, epoch, lastScheduled, firstDayNumber, lastDayNumber, secondsPerDay] at *
    omega)
  obtain ⟨other, hother⟩ := Option.isSome_iff_exists.1 hsome
  exact ⟨other, ofSeconds?_eq_some_iff.1 hother⟩

/-- The times in the years of a schedule are those from the first to the last scheduled one. -/
theorem contains_year_iff (time : LocalTime) :
    Field.year.contains (time.component .year) = true ↔ time.Scheduled := by
  -- the first times of the year 1970 and of the year 2100 bound the scheduled ones
  have hfirst := le_year_iff time 1970
  have hlast := le_year_iff time 2100
  have h1970 : dayNumber 1970 1 1 = 0 := by decide
  have h2100 : dayNumber 2100 1 1 = 47482 := by decide
  rw [h1970] at hfirst
  rw [h2100] at hlast
  have hcontains : Field.year.contains (time.component .year) = true ↔
      1970 ≤ time.date.year.toNat ∧ time.date.year.toNat ≤ 2099 := by
    simp only [Field.contains, Bool.and_eq_true, decide_eq_true_eq]
    simp only [Field.min, Field.max, component]
  rw [hcontains]
  simp only [Scheduled, epoch, lastScheduled, secondsPerDay] at *
  omega

theorem Scheduled.year_bounds {time : LocalTime} (h : time.Scheduled) :
    1970 ≤ time.date.year ∧ time.date.year ≤ 2099 := by
  have hcontains := Field.contains_iff.1 ((contains_year_iff time).2 h)
  simp only [component, Field.min, Field.max] at hcontains
  omega

end LocalTime

end CronSchedule

import CronSchedule.Proofs.Search.Sweep

/-!
# The times that a search looks at

A search moves by seconds within the minute in which it starts, then by minutes
within the hour that it is carried into, by hours within the day that it is
carried into, and by days from there on. In each unit of this stride it looks at
one time only, the one with the first values of the finer fields, and takes it
for all times of the unit (`Schedule.standIn`). Where the schedule accepts a time
it accepts the time that stands in for it, and that one does not lie beyond it
(`Schedule.exists_standIn`).
-/

set_option autoImplicit false

namespace CronSchedule

open LocalTime (unitSeconds)

namespace Direction

variable {d : Direction} {start time other : Int} {field : Field}

/-! ## The stride of a search -/

/-- Number of the unit of a field in which a search from `start` first moves by that field. -/
def firstUnit (d : Direction) (start : Int) (field : Field) : Int :=
  let second := start + d.sign
  let minute := second / 60 + d.sign
  let hour := minute / 60 + d.sign
  match field with
  | .second => second
  | .minute => minute
  | .hour => hour
  | _ => hour / 24 + d.sign

/-- Does the time lie in the coarser unit in which a search from `start` moves by the field? -/
def SweptAt (d : Direction) (start time : Int) (field : Field) : Prop :=
  time / unitSeconds (Schedule.coarser field) = d.firstUnit start field / field.span

instance (d : Direction) (start time : Int) (field : Field) : Decidable (d.SweptAt start time field) :=
  inferInstanceAs (Decidable (_ = _))

/-- The field by which a search from `start` moves when it comes to `time`. -/
def stride (d : Direction) (start time : Int) : Field :=
  if d.SweptAt start time .second then .second
  else if d.SweptAt start time .minute then .minute
  else if d.SweptAt start time .hour then .hour
  else .dayOfMonth

theorem firstUnit_coarser (hfield : field.isSubDay = true) :
    d.firstUnit start (Schedule.coarser field) = d.firstUnit start field / field.span + d.sign := by
  cases field with
  | second | minute | hour => rfl
  | dayOfMonth | month | dayOfWeek | year => cases hfield

/-- From the first unit of a coarser field on, all times lie beyond the units in which the search
moves by the finer field. -/
theorem beyond_of_coarser (field : Field) (hfield : field.isSubDay = true)
    (h : ¬ d.Before (time / unitSeconds (Schedule.coarser field))
      (d.firstUnit start (Schedule.coarser field))) :
    ¬ d.Before (time / unitSeconds field) (d.firstUnit start field) ∧
      ¬ d.SweptAt start time field := by
  rw [firstUnit_coarser hfield] at h
  rw [SweptAt]
  cases field with
  | second | minute | hour =>
    cases d with
    | forward =>
      simp only [before_forward, sign, unitSeconds, Schedule.coarser, Field.span, secondsPerDay] at *
      omega
    | backward =>
      simp only [before_backward, sign, unitSeconds, Schedule.coarser, Field.span, secondsPerDay] at *
      omega
  | dayOfMonth | month | dayOfWeek | year => cases hfield

theorem beyond_of_firstUnit (field : Field) (hfield : field.isSubDay = true)
    (hafter : ¬ d.Before (time / unitSeconds field) (d.firstUnit start field))
    (hswept : ¬ d.SweptAt start time field) :
    ¬ d.Before (time / unitSeconds (Schedule.coarser field))
      (d.firstUnit start (Schedule.coarser field)) := by
  rw [firstUnit_coarser hfield]
  rw [SweptAt] at hswept
  cases field with
  | second | minute | hour =>
    cases d with
    | forward =>
      simp only [before_forward, sign, unitSeconds, Schedule.coarser, Field.span, secondsPerDay] at *
      omega
    | backward =>
      simp only [before_backward, sign, unitSeconds, Schedule.coarser, Field.span, secondsPerDay] at *
      omega
  | dayOfMonth | month | dayOfWeek | year => cases hfield

theorem stride_eq (hfield : field.isSubDay = true)
    (hafter : ¬ d.Before (time / unitSeconds field) (d.firstUnit start field))
    (hswept : d.SweptAt start time field) :
    d.stride start time = field := by
  cases field with
  | second => exact if_pos hswept
  | minute =>
    obtain ⟨-, hsecond⟩ := beyond_of_coarser .second rfl hafter
    rw [stride, if_neg hsecond]
    exact if_pos hswept
  | hour =>
    obtain ⟨hafter, hminute⟩ := beyond_of_coarser .minute rfl hafter
    obtain ⟨-, hsecond⟩ := beyond_of_coarser .second rfl hafter
    rw [stride, if_neg hsecond, if_neg hminute]
    exact if_pos hswept
  | dayOfMonth | month | dayOfWeek | year => cases hfield

theorem stride_eq_day (hafter : ¬ d.Before (time / secondsPerDay) (d.firstUnit start .dayOfMonth)) :
    d.stride start time = .dayOfMonth := by
  obtain ⟨hafter, hhour⟩ := beyond_of_coarser .hour rfl hafter
  obtain ⟨hafter, hminute⟩ := beyond_of_coarser .minute rfl hafter
  obtain ⟨-, hsecond⟩ := beyond_of_coarser .second rfl hafter
  rw [stride, if_neg hsecond, if_neg hminute]
  exact if_neg hhour

/-- A time beyond the start lies at or beyond the first unit of the stride there, and within the
coarser unit of that one unless the search moves by days. -/
theorem stride_spec (hafter : d.Before start time) :
    ¬ d.Before (time / unitSeconds (d.stride start time)) (d.firstUnit start (d.stride start time)) ∧
      (d.stride start time = .dayOfMonth ∨ (d.stride start time).isSubDay = true ∧
        d.SweptAt start time (d.stride start time)) := by
  -- climb from the seconds: where a field is not swept, the next coarser one is reached
  have hsecond : ¬ d.Before (time / unitSeconds .second) (d.firstUnit start .second) := by
    rw [show unitSeconds .second = 1 from rfl, Int.ediv_one]
    exact fun h => Direction.before_add_sign_iff.1 h hafter
  rw [stride]
  split
  · exact ⟨hsecond, .inr ⟨rfl, by assumption⟩⟩
  · have hminute := beyond_of_firstUnit .second rfl hsecond (by assumption)
    split
    · exact ⟨hminute, .inr ⟨rfl, by assumption⟩⟩
    · have hhour := beyond_of_firstUnit .minute rfl hminute (by assumption)
      split
      · exact ⟨hhour, .inr ⟨rfl, by assumption⟩⟩
      · exact ⟨beyond_of_firstUnit .hour rfl hhour (by assumption), .inl rfl⟩

/-- From the first unit of a field on all times lie beyond the start. -/
theorem before_of_firstUnit (field : Field) (hfield : field.isSubDay = true)
    (h : ¬ d.Before (time / unitSeconds field) (d.firstUnit start field)) : d.Before start time := by
  -- descend to the seconds, where the first unit is the second next to the start
  have hsecond : ¬ d.Before (time / unitSeconds .second) (d.firstUnit start .second) := by
    cases field with
    | second => exact h
    | minute => exact (beyond_of_coarser .second rfl h).1
    | hour =>
      exact (beyond_of_coarser .second rfl
        (beyond_of_coarser .minute rfl h).1).1
    | dayOfMonth | month | dayOfWeek | year => cases hfield
  rw [show unitSeconds .second = 1 from rfl, Int.ediv_one] at hsecond
  exact Classical.not_not.1 fun hnot => hsecond (before_add_sign_iff.2 hnot)

/-- The stride is the same at all times of a unit in which the search looks at one. -/
theorem stride_of_same_unit (hafter : d.Before start time)
    (hunit : other / unitSeconds (d.stride start time) = time / unitSeconds (d.stride start time)) :
    d.Before start other ∧ d.stride start other = d.stride start time := by
  obtain ⟨hfirst, hstride⟩ := stride_spec hafter
  rw [← hunit] at hfirst
  generalize d.stride start time = field at *
  rcases hstride with rfl | ⟨hfield, hswept⟩
  · exact ⟨before_of_firstUnit .hour rfl (beyond_of_coarser .hour rfl hfirst).1,
      stride_eq_day hfirst⟩
  · refine ⟨before_of_firstUnit field hfield hfirst, stride_eq hfield hfirst ?_⟩
    rw [SweptAt, ← hswept]
    cases field with
    | second | minute | hour =>
      simp only [unitSeconds, Schedule.coarser, secondsPerDay] at *
      omega
    | dayOfMonth | month | dayOfWeek | year => cases hfield

theorem not_before_firstUnit {later : Int} (h : ¬ d.Before later start) (field : Field) :
    ¬ d.Before (d.firstUnit later field) (d.firstUnit start field) := by
  cases d with
  | forward =>
    cases field with
    | second | minute | hour | dayOfMonth | month | dayOfWeek | year =>
      simp only [before_forward, firstUnit, sign] at *
      omega
  | backward =>
    cases field with
    | second | minute | hour | dayOfMonth | month | dayOfWeek | year =>
      simp only [before_backward, firstUnit, sign] at *
      omega

/-- A search that starts later moves by a field where one that starts earlier does, unless it has
not come to the field there. -/
theorem SweptAt.of_later {later : Int} (hfield : field.isSubDay = true)
    (hswept : d.SweptAt start time field) (hlater : ¬ d.Before later start)
    (hafter : ¬ d.Before (time / unitSeconds field) (d.firstUnit later field)) :
    d.SweptAt later time field := by
  have hunit := not_before_firstUnit hlater field
  rw [SweptAt] at *
  cases field with
  | second | minute | hour =>
    cases d with
    | forward =>
      simp only [before_forward, unitSeconds, Schedule.coarser, Field.span, secondsPerDay] at *
      omega
    | backward =>
      simp only [before_backward, unitSeconds, Schedule.coarser, Field.span, secondsPerDay] at *
      omega
  | dayOfMonth | month | dayOfWeek | year => cases hfield

/-- Once a search moves by days it does so from there on. -/
theorem stride_eq_day_of_beyond (hafter : d.Before start time)
    (hday : d.stride start time = .dayOfMonth) (hbeyond : ¬ d.Before other time) :
    d.stride start other = .dayOfMonth := by
  obtain ⟨hfirst, -⟩ := stride_spec hafter
  rw [hday] at hfirst
  apply stride_eq_day
  cases d with
  | forward =>
    simp only [before_forward, unitSeconds, secondsPerDay] at *
    omega
  | backward =>
    simp only [before_backward, unitSeconds, secondsPerDay] at *
    omega

theorem before_of_next_hour (h : time / 3600 = start / 3600 + d.sign) : d.Before start time := by
  cases d with
  | forward =>
    simp only [before_forward, sign] at *
    omega
  | backward =>
    simp only [before_backward, sign] at *
    omega

theorem hour_of_between (hstart : d.Before start other) (hend : d.Before other time)
    (h : time / 3600 = start / 3600 + d.sign) (hother : other / 3600 ≠ time / 3600) :
    other / 3600 = start / 3600 := by
  cases d with
  | forward =>
    simp only [before_forward, sign] at *
    omega
  | backward =>
    simp only [before_backward, sign] at *
    omega

/-- In the hour after that of its start a search does not move by days yet. -/
theorem stride_of_next_hour (h : time / 3600 = start / 3600 + d.sign) :
    (d.stride start time).isSubDay = true := by
  rw [stride]
  split
  · rfl
  · split
    · rfl
    · split
      · rfl
      case isFalse hminute hhour =>
        exfalso
        rw [SweptAt] at hminute hhour
        cases d with
        | forward =>
          simp only [firstUnit, sign, unitSeconds, Schedule.coarser, Field.span, secondsPerDay] at *
          omega
        | backward =>
          simp only [firstUnit, sign, unitSeconds, Schedule.coarser, Field.span, secondsPerDay] at *
          omega

theorem same_hour_of_same_unit (hfield : field.isSubDay = true)
    (hunit : other / unitSeconds field = time / unitSeconds field) : other / 3600 = time / 3600 := by
  cases field with
  | second | minute | hour =>
    simp only [unitSeconds] at *
    omega
  | dayOfMonth | month | dayOfWeek | year => cases hfield

theorem same_day_of_same_unit (hunit : other / unitSeconds field = time / unitSeconds field) :
    other / secondsPerDay = time / secondsPerDay := by
  cases field with
  | second | minute | hour | dayOfMonth | month | dayOfWeek | year =>
    simp only [unitSeconds, secondsPerDay] at *
    omega

end Direction

namespace Schedule

variable {schedule : Schedule} {d : Direction} {field : Field}

/-! ## The time that stands for a unit -/

/-- Seconds from the start of a unit of a field to the time in it at which the finer fields have
their first values. -/
def firstInUnit (schedule : Schedule) (d : Direction) : Field → Int
  | .second => 0
  | .minute => schedule.firstValue d .second
  | .hour => 60 * schedule.firstValue d .minute + schedule.firstValue d .second
  | _ => 3600 * schedule.firstValue d .hour + 60 * schedule.firstValue d .minute +
      schedule.firstValue d .second

/-- The seconds of the time at which a search from `start` looks in place of `time`. -/
def standIn (schedule : Schedule) (d : Direction) (start time : Int) : Int :=
  time - time % unitSeconds (d.stride start time) + schedule.firstInUnit d (d.stride start time)

theorem firstInUnit_coarser (hfield : field.isSubDay = true) :
    schedule.firstInUnit d (coarser field) =
      unitSeconds field * schedule.firstValue d field + schedule.firstInUnit d field := by
  cases field with
  | second =>
    simp only [coarser, firstInUnit, unitSeconds]
    omega
  | minute | hour =>
    simp only [coarser, firstInUnit, unitSeconds, Int.add_assoc]
  | dayOfMonth | month | dayOfWeek | year => cases hfield

theorem firstInUnit_bounds (schedule : Schedule) (d : Direction) (field : Field) :
    0 ≤ schedule.firstInUnit d field ∧ schedule.firstInUnit d field < unitSeconds field := by
  have hsecond : _ < Field.span .second := schedule.firstValue_lt_span d rfl
  have hminute : _ < Field.span .minute := schedule.firstValue_lt_span d rfl
  have hhour : _ < Field.span .hour := schedule.firstValue_lt_span d rfl
  simp only [Field.span] at hsecond hminute hhour
  cases field with
  | second | minute | hour | dayOfMonth | month | dayOfWeek | year =>
    simp only [firstInUnit, unitSeconds, secondsPerDay]
    omega

/-- The time that stands for a time lies in the same unit, with the finer fields at their first
values. -/
theorem standIn_spec (schedule : Schedule) (d : Direction) (start time : Int) :
    schedule.standIn d start time / unitSeconds (d.stride start time) =
        time / unitSeconds (d.stride start time) ∧
      schedule.standIn d start time % unitSeconds (d.stride start time) =
        schedule.firstInUnit d (d.stride start time) := by
  rw [standIn]
  generalize d.stride start time = field
  obtain ⟨hnonneg, hlt⟩ := schedule.firstInUnit_bounds d field
  -- the start of the unit plus less than a unit
  have hdivmod := Int.emod_add_mul_ediv time (unitSeconds field)
  have hsum : time - time % unitSeconds field + schedule.firstInUnit d field =
      schedule.firstInUnit d field + unitSeconds field * (time / unitSeconds field) := by
    omega
  rw [hsum, Int.add_mul_ediv_left _ _ (by omega), Int.ediv_eq_zero_of_lt hnonneg hlt, Int.zero_add,
    Int.add_mul_emod_self_left, Int.emod_eq_of_lt hnonneg hlt]
  exact ⟨rfl, rfl⟩

/-- A unit and the time that stands for it: each field within the day is either as it was or at its
first value. -/
theorem component_of_reset {time other : LocalTime}
    (h : other.seconds = time.seconds - time.seconds % unitSeconds field +
      schedule.firstInUnit d field) {finer : Field} (hfiner : finer.isSubDay = true) :
    other.component finer = schedule.firstValue d finer ∨
      other.component finer = time.component finer := by
  have hsecond : _ < Field.span .second := schedule.firstValue_lt_span d rfl
  have hminute : _ < Field.span .minute := schedule.firstValue_lt_span d rfl
  have hhour : _ < Field.span .hour := schedule.firstValue_lt_span d rfl
  -- finer fields take their first values, coarser ones keep theirs
  have htime := LocalTime.component_subDay time hfiner
  have hother := LocalTime.component_subDay other hfiner
  rw [h] at hother
  simp only [Field.span] at hsecond hminute hhour
  cases field with
  | second | minute | hour | dayOfMonth | month | dayOfWeek | year =>
    simp only [firstInUnit, unitSeconds, secondsPerDay] at hother
    cases finer with
    | second | minute | hour =>
      simp only [unitSeconds, Field.span] at hother htime
      omega
    | dayOfMonth | month | dayOfWeek | year => cases hfiner

section Compiled

variable (compiled : schedule.Compiled) {time other : LocalTime}
  (htime : schedule.matchesLocal time = true)

include compiled htime

theorem matchesLocal_of_reset (h : other.seconds = time.seconds - time.seconds % unitSeconds field +
    schedule.firstInUnit d field) : schedule.matchesLocal other = true := by
  obtain ⟨hnonneg, hlt⟩ := schedule.firstInUnit_bounds d field
  -- no unit within the day leaves its date
  have hdate : other.date = time.date := by
    rw [LocalTime.date_eq_iff, h]
    cases field with
    | second | minute | hour | dayOfMonth | month | dayOfWeek | year =>
      simp only [unitSeconds, secondsPerDay] at *
      omega
  apply matchesLocal_of_same_day htime hdate
  intro finer hfiner
  rcases component_of_reset h hfiner with hvalue | hvalue
  · rw [hvalue]
    exact (firstValue_spec compiled d finer hfiner htime other).1
  · have hdateFree := compiled.isDateFree (isDay_of_isSubDay hfiner)
    rw [hvalue, Pattern.accepts_of_isDateFree _ other time _ hdateFree]
    exact (matchesLocal_iff.1 htime).2 finer

theorem not_before_reset (d : Direction) (field : Field) :
    ¬ d.Before time.seconds (time.seconds - time.seconds % unitSeconds field +
      schedule.firstInUnit d field) := by
  have hsecond := (firstValue_spec compiled d .second rfl htime time).2
  have hminute := (firstValue_spec compiled d .minute rfl htime time).2
  have hhour := (firstValue_spec compiled d .hour rfl htime time).2
  rw [LocalTime.component_subDay time rfl] at hsecond hminute hhour
  simp only [unitSeconds, Field.span] at hsecond hminute hhour
  cases d with
  | forward =>
    simp only [Direction.before_forward] at *
    cases field with
    | second | minute | hour | dayOfMonth | month | dayOfWeek | year =>
      simp only [firstInUnit, unitSeconds, secondsPerDay]
      omega
  | backward =>
    simp only [Direction.before_backward] at *
    cases field with
    | second | minute | hour | dayOfMonth | month | dayOfWeek | year =>
      simp only [firstInUnit, unitSeconds, secondsPerDay]
      omega

end Compiled

/-! ## The times looked at -/

/-- The wall-clock time at which a search ends. -/
def limit (schedule : Schedule) : Direction → LocalTime
  | .forward => schedule.lastTime
  | .backward => schedule.firstTime

/-- Does a search from a start look at a time? It does not go beyond its limit day by day. -/
structure LooksAt (schedule : Schedule) (d : Direction) (start time : LocalTime) : Prop where
  after : d.Before start.seconds time.seconds
  standIn_eq : schedule.standIn d start.seconds time.seconds = time.seconds
  within : d.stride start.seconds time.seconds = .dayOfMonth →
    ¬ d.Before (schedule.limit d).seconds time.seconds

/-- A search looks at a time that stands for each accepted time which lies beyond its start and
within its limit; it is accepted too, and the search does not meet it later. -/
theorem exists_standIn (compiled : schedule.Compiled) {start time : LocalTime}
    (htime : schedule.matchesLocal time = true) (hafter : d.Before start.seconds time.seconds)
    (hwithin : d.stride start.seconds time.seconds = .dayOfMonth →
      ¬ d.Before (schedule.limit d).seconds time.seconds) :
    ∃ other : LocalTime, other.seconds = schedule.standIn d start.seconds time.seconds ∧
      schedule.LooksAt d start other ∧ schedule.matchesLocal other = true ∧
      ¬ d.Before time.seconds other.seconds := by
  -- the stand-in shares the unit of the time, so the search moves there by the same field
  have hreset := not_before_reset compiled htime d (d.stride start.seconds time.seconds)
  obtain ⟨hunit, hoffset⟩ := schedule.standIn_spec d start.seconds time.seconds
  obtain ⟨hbeyond, hstride⟩ := Direction.stride_of_same_unit hafter hunit
  have hday := Direction.same_day_of_same_unit hunit
  obtain ⟨other, hother⟩ := LocalTime.exists_of_same_day time hday
  rw [← hother] at hunit hoffset hbeyond hstride
  refine ⟨other, hother, ⟨hbeyond, ?_, fun hday h => ?_⟩, ?_, ?_⟩
  · rw [standIn, hstride, hoffset]
    omega
  · exact hwithin (hstride ▸ hday) (h.trans_not_before (hother ▸ hreset))
  · exact matchesLocal_of_reset compiled htime hother
  · exact hother ▸ hreset

end Schedule

end CronSchedule

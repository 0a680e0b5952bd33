import CronSchedule.Proofs.Search.Stride

/-!
# The search day by day

From the fourth stride on a search looks at one time of day on each date up to
its limit. Years before the first one of the schedule are skipped, and beyond its
last one there is nothing to find; neither loses an accepted time
(`Schedule.firstAccepted_daySearch`).
-/

set_option autoImplicit false

namespace CronSchedule

/-! ## The edge of a year -/

namespace LocalTime

variable {d : Direction}

/-- On a date of the calendar there are all times of the day. -/
theorem exists_withDate? (time : LocalTime) {year : Int} {month day : Nat} {date : Date}
    (hdate : Date.ofName? year month day = some date) :
    ∃ result, time.withDate? year month day = some result ∧
      result.seconds = date.number * secondsPerDay + time.seconds % secondsPerDay := by
  have hfirst := date.first_le
  have hlast := date.le_last
  rw [withDate?, hdate, Option.bind_some, onDate?, secondOfDay]
  have hsome := ofSeconds?_isSome_iff.2 (show firstDayNumber * secondsPerDay ≤
      date.number * secondsPerDay + time.seconds % secondsPerDay ∧
      date.number * secondsPerDay + time.seconds % secondsPerDay <
        (lastDayNumber + 1) * secondsPerDay by
    simp only [firstDayNumber, lastDayNumber, secondsPerDay] at *
    omega)
  obtain ⟨result, hresult⟩ := Option.isSome_iff_exists.1 hsome
  exact ⟨result, hresult, ofSeconds?_eq_some_iff.1 hresult⟩

/-- The same time of day on the first date of a year, in the direction of a search. -/
def onYearEdge? (time : LocalTime) (year : Nat) : Direction → Option LocalTime
  | .forward => time.withDate? year 1 1
  | .backward => time.withDate? year 12 31

/-- The first date of a scheduled year has the same time of day, and no time of that year or of a
later one with this time of day comes before it. -/
theorem onYearEdge?_spec (time : LocalTime) {year : Nat} (hyear : 1970 ≤ year ∧ year ≤ 2099) :
    ∃ edge, time.onYearEdge? year d = some edge ∧
      edge.seconds % secondsPerDay = time.seconds % secondsPerDay ∧
      ∀ other : LocalTime, other.seconds % secondsPerDay = time.seconds % secondsPerDay →
        (¬ d.Before other.seconds edge.seconds ↔ ¬ d.Before (other.component .year) year) := by
  -- all scheduled years lie in the calendar
  have hbounds : firstDayNumber ≤ dayNumber year 1 1 ∧ dayNumber year 12 31 ≤ lastDayNumber := by
    rw [dayNumber_december_last, dayNumber_january_first, dayNumber_january_first]
    simp only [MarchYear.start, firstDayNumber, lastDayNumber]
    omega
  have hlength : dayNumber year 1 1 ≤ dayNumber year 12 31 := by
    rw [dayNumber_december_last, dayNumber_january_first, dayNumber_january_first]
    simp only [MarchYear.start]
    omega
  cases d with
  | forward =>
    obtain ⟨edge, hedge, hseconds⟩ := exists_withDate? time
      (Date.ofName?_january_first hbounds.1 (Int.le_trans hlength hbounds.2))
    simp only at hseconds
    refine ⟨edge, hedge, ?_, fun other hother => ?_⟩
    · simp only [secondsPerDay] at *
      omega
    · have hiff := le_year_iff other year
      simp only [Direction.before_forward, component, secondsPerDay] at *
      omega
  | backward =>
    obtain ⟨edge, hedge, hseconds⟩ := exists_withDate? time
      (Date.ofName?_december_last (Int.le_trans hbounds.1 hlength) hbounds.2)
    simp only at hseconds
    refine ⟨edge, hedge, ?_, fun other hother => ?_⟩
    · simp only [secondsPerDay] at *
      omega
    · have hiff := le_year_iff other (year + 1)
      have hlast := dayNumber_december_last year
      simp only [Direction.before_backward, component, secondsPerDay] at *
      omega

end LocalTime

namespace Schedule

variable {schedule : Schedule} {d : Direction} {accept : LocalTime → Option Int}

/-- Number of times that a search day by day tries from a first one on. -/
def daysWithin (schedule : Schedule) (first : LocalTime) : Direction → Nat
  | .forward => dayCount first schedule.lastTime
  | .backward => dayCount schedule.firstTime first

/-- The times tried are those at the time of day of the first one, up to the limit. -/
theorem exists_days_iff {first other : LocalTime} :
    (∃ days : Nat, days < schedule.daysWithin first d ∧
      other.seconds = first.seconds + d.sign * (days * secondsPerDay)) ↔
    other.seconds % secondsPerDay = first.seconds % secondsPerDay ∧
      ¬ d.Before other.seconds first.seconds ∧
      ¬ d.Before (schedule.limit d).seconds other.seconds := by
  cases d with
  | forward =>
    simp only [daysWithin, dayCount, limit, Direction.sign, Direction.before_forward, secondsPerDay]
    constructor
    · rintro ⟨days, hdays, hother⟩
      omega
    · intro h
      exact ⟨((other.seconds - first.seconds) / 86400).toNat, by omega, by omega⟩
  | backward =>
    simp only [daysWithin, dayCount, limit, Direction.sign, Direction.before_backward, secondsPerDay]
    constructor
    · rintro ⟨days, hdays, hother⟩
      omega
    · intro h
      exact ⟨((first.seconds - other.seconds) / 86400).toNat, by omega, by omega⟩

theorem daySearch_eq (time : LocalTime) : schedule.daySearch accept d time =
    match (schedule.pattern .year).first? d .year time,
      (schedule.pattern .year).first? d.opposite .year time with
    | some first, some last =>
      if d.Before last (time.component .year) then none
      else
        (if d.Before (time.component .year) first then time.onYearEdge? first d else some time).bind
          fun start => tryTimes accept (d.sign * secondsPerDay) (schedule.daysWithin start d) start
    | _, _ => none := by
  cases d with
  | forward =>
    simp only [daySearch, daysForward, Pattern.first?, Direction.opposite, Direction.before_forward,
      Int.ofNat_lt]
    cases (schedule.pattern .year).lowest? .year time with
    | none => rfl
    | some low =>
      cases (schedule.pattern .year).highest? .year time with
      | none => rfl
      | some high =>
        by_cases hearly : time.component .year < low
        · simp only [Option.bind_eq_bind, Option.bind_some, if_pos hearly]
          rfl
        · simp only [Option.bind_eq_bind, Option.bind_some, if_neg hearly]
          rfl
  | backward =>
    simp only [daySearch, daysBackward, Pattern.first?, Direction.opposite, Direction.before_backward,
      Int.ofNat_lt]
    cases (schedule.pattern .year).lowest? .year time with
    | none =>
      cases (schedule.pattern .year).highest? .year time with
      | none => rfl
      | some high => rfl
    | some low =>
      cases (schedule.pattern .year).highest? .year time with
      | none => rfl
      | some high =>
        by_cases hlate : high < time.component .year
        · simp only [Option.bind_eq_bind, Option.bind_some, if_pos hlate]
          rfl
        · simp only [Option.bind_eq_bind, Option.bind_some, if_neg hlate]
          rfl

theorem not_before_component_year {time other : LocalTime}
    (h : ¬ d.Before other.seconds time.seconds) :
    ¬ d.Before (other.component .year) (time.component .year) := by
  cases d with
  | forward =>
    have hyear := LocalTime.year_mono (Int.not_lt.1 h)
    simp only [Direction.before_forward, LocalTime.component]
    omega
  | backward =>
    have hyear := LocalTime.year_mono (Int.not_lt.1 h)
    simp only [Direction.before_backward, LocalTime.component]
    omega

section Compiled

variable (compiled : schedule.Compiled) (refines : schedule.Refines accept)

include compiled refines

/-- A search day by day finds the first accepted time up to its limit at its time of day. -/
theorem firstAccepted_daySearch (time : LocalTime) :
    FirstAccepted d accept
      (fun other => other.seconds % secondsPerDay = time.seconds % secondsPerDay ∧
        ¬ d.Before other.seconds time.seconds ∧ ¬ d.Before (schedule.limit d).seconds other.seconds)
      (schedule.daySearch accept d time) := by
  have hbounds {other : LocalTime} (h : schedule.matchesLocal other = true) :
      Field.min .year ≤ other.component .year ∧
        other.component .year ≤ Pattern.upperBound .year time := by
    have hyear := (matchesLocal_iff.1 h).1
    rw [Field.contains, Bool.and_eq_true, decide_eq_true_eq, decide_eq_true_eq] at hyear
    exact hyear
  have hnone (d' : Direction) (h : (schedule.pattern .year).first? d' .year time = none)
      (other : LocalTime) : accept other = none :=
    rejected_of_first?_eq_none compiled refines rfl h hbounds
  have hdays (start : LocalTime) :=
    (firstAccepted_tryTimes (schedule.daysWithin start d) start).widen
      (fun _ => exists_days_iff.1) fun other epoch h (_ : accept other = some epoch) =>
        exists_days_iff.2 h
  rw [daySearch_eq]
  cases hfirst : (schedule.pattern .year).first? d .year time with
  | none => exact .nothing fun other _ => hnone d hfirst other
  | some first =>
    cases hlast : (schedule.pattern .year).first? d.opposite .year time with
    | none => exact .nothing fun other _ => hnone _ hlast other
    | some last =>
      have hscheduled : 1970 ≤ first ∧ first ≤ 2099 := Pattern.bounds_of_first? hfirst
      simp only
      split
      case isTrue hlate =>
        -- the last scheduled year is past, and later times lie in no earlier year
        refine .nothing ?_
        rintro other ⟨-, hother, -⟩
        cases hresult : accept other with
        | none => rfl
        | some epoch =>
          have hyear := Pattern.not_before_first? hlast (hbounds (refines other epoch hresult))
            (accepts_component compiled refines rfl hresult time)
          rw [Direction.before_opposite] at hyear
          exact absurd (hlate.trans_not_before (not_before_component_year hother)) hyear
      case isFalse hlate =>
        split
        case isFalse hearly => exact hdays time
        case isTrue hearly =>
          -- no time before the edge of the first scheduled year is accepted, so nothing is skipped
          obtain ⟨edge, hedge, hoffset, hspec⟩ := time.onYearEdge?_spec (d := d) hscheduled
          rw [hedge, Option.bind_some]
          refine (hdays edge).widen ?_ ?_
          · rintro other ⟨hother, hafter, hwithin⟩
            refine ⟨hother.trans hoffset, ?_, hwithin⟩
            intro hbefore
            have hyear := (hspec other (hother.trans hoffset)).1 hafter
            exact not_before_component_year hbefore.asymm (hearly.trans_not_before hyear)
          · rintro other epoch ⟨hother, hafter, hwithin⟩ haccepted
            refine ⟨hother.trans hoffset.symm, ?_, hwithin⟩
            rw [hspec other hother]
            exact Pattern.not_before_first? hfirst (hbounds (refines other epoch haccepted))
              (accepts_component compiled refines rfl haccepted time)

end Compiled

end Schedule

end CronSchedule

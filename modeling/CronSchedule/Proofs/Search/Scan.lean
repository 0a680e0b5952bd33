import CronSchedule.Proofs.Search.Days

/-!
# What a scan finds

A scan goes through the fields within the day and then day by day. Each stage
keeps one invariant, `Schedule.Reaches`: what the search has passed over so far is
rejected. A scan thus finds the first accepted time among those that it looks at,
and nothing if there is none (`Schedule.firstAccepted_scan`).
-/

set_option autoImplicit false

namespace CronSchedule

open LocalTime (unitSeconds)

namespace Direction

variable {d : Direction} {a b : Int} {field : Field}

theorem before_of_units (field : Field)
    (h : d.Before (a / unitSeconds field) (b / unitSeconds field)) :
    d.Before a b := by
  cases field with
  | second | minute | hour | dayOfMonth | month | dayOfWeek | year =>
    cases d with
    | forward =>
      simp only [before_forward, unitSeconds, secondsPerDay] at *
      omega
    | backward =>
      simp only [before_backward, unitSeconds, secondsPerDay] at *
      omega

theorem units_of_before (field : Field) (hoffset : a % unitSeconds field = b % unitSeconds field)
    (h : d.Before a b) : d.Before (a / unitSeconds field) (b / unitSeconds field) := by
  cases field with
  | second | minute | hour | dayOfMonth | month | dayOfWeek | year =>
    cases d with
    | forward =>
      simp only [before_forward, unitSeconds, secondsPerDay] at *
      omega
    | backward =>
      simp only [before_backward, unitSeconds, secondsPerDay] at *
      omega

end Direction

namespace Schedule

variable {schedule : Schedule} {d : Direction} {accept : LocalTime → Option Int}
  {start time other : LocalTime} {field : Field}

/-! ## The times of one stage -/

theorem lookedAt_offset (h : schedule.LooksAt d start other) :
    other.seconds % unitSeconds (d.stride start.seconds other.seconds) =
      schedule.firstInUnit d (d.stride start.seconds other.seconds) := by
  have hspec := (schedule.standIn_spec d start.seconds other.seconds).2
  rw [h.standIn_eq] at hspec
  exact hspec

theorem standIn_eq_of_offset {start time : Int} (h : time % unitSeconds (d.stride start time) =
    schedule.firstInUnit d (d.stride start time)) : schedule.standIn d start time = time := by
  rw [standIn]
  omega

/-- A time at which the finer fields have their first values has them also without the coarsest of
these. -/
theorem offset_of_coarser (field : Field) (hfield : field.isSubDay = true) {time : Int}
    (h : time % unitSeconds (coarser field) = schedule.firstInUnit d (coarser field)) :
    time % unitSeconds field = schedule.firstInUnit d field := by
  obtain ⟨hnonneg, hlt⟩ := schedule.firstInUnit_bounds d field
  rw [firstInUnit_coarser hfield] at h
  cases field with
  | second | minute | hour =>
    simp only [unitSeconds, coarser, secondsPerDay] at *
    omega
  | dayOfMonth | month | dayOfWeek | year => cases hfield

/-- A search that starts later looks at each time beyond its start at which one does that starts
earlier. -/
theorem LooksAt.of_later {later : LocalTime} (h : schedule.LooksAt d start time)
    (hlater : ¬ d.Before later.seconds start.seconds)
    (hafter : d.Before later.seconds time.seconds) : schedule.LooksAt d later time := by
  have hoffset := lookedAt_offset h
  have hwithin := h.within
  obtain ⟨hfirst, hstride⟩ := Direction.stride_spec hafter
  -- below the later stride, neither of the two searches moves by a field at the time
  have hfiner (field : Field) (hfield : field.isSubDay = true)
      (hbeyond : ¬ d.Before (time.seconds / unitSeconds (coarser field))
        (d.firstUnit later.seconds (coarser field))) :
      ¬ d.Before (time.seconds / unitSeconds field) (d.firstUnit later.seconds field) ∧
        ¬ d.SweptAt start.seconds time.seconds field := by
    obtain ⟨hunit, hnot⟩ := Direction.beyond_of_coarser field hfield hbeyond
    exact ⟨hunit, fun hswept => hnot (hswept.of_later hfield hlater hunit)⟩
  have hgoal : time.seconds % unitSeconds (d.stride later.seconds time.seconds) =
        schedule.firstInUnit d (d.stride later.seconds time.seconds) ∧
      (d.stride later.seconds time.seconds = .dayOfMonth →
        d.stride start.seconds time.seconds = .dayOfMonth) := by
    -- the offset at the earlier stride gives the one at the later stride, field by field
    generalize d.stride later.seconds time.seconds = field at hfirst hstride
    rw [Direction.stride] at hoffset ⊢
    cases field with
    | second =>
      exact ⟨Int.emod_one _, by rintro ⟨⟩⟩
    | minute =>
      obtain ⟨-, hsecond⟩ := hfiner .second rfl hfirst
      rw [if_neg hsecond] at hoffset
      refine ⟨?_, by rintro ⟨⟩⟩
      split at hoffset
      · exact hoffset
      · split at hoffset
        · exact offset_of_coarser .minute rfl hoffset
        · exact offset_of_coarser .minute rfl (offset_of_coarser .hour rfl hoffset)
    | hour =>
      obtain ⟨hfirst, hminute⟩ := hfiner .minute rfl hfirst
      obtain ⟨-, hsecond⟩ := hfiner .second rfl hfirst
      rw [if_neg hsecond, if_neg hminute] at hoffset
      refine ⟨?_, by rintro ⟨⟩⟩
      split at hoffset
      · exact hoffset
      · exact offset_of_coarser .hour rfl hoffset
    | dayOfMonth =>
      obtain ⟨hfirst, hhour⟩ := hfiner .hour rfl hfirst
      obtain ⟨hfirst, hminute⟩ := hfiner .minute rfl hfirst
      obtain ⟨-, hsecond⟩ := hfiner .second rfl hfirst
      rw [if_neg hsecond, if_neg hminute, if_neg hhour] at hoffset ⊢
      exact ⟨hoffset, fun _ => rfl⟩
    | month | dayOfWeek | year => simp [Field.isSubDay] at hstride
  exact ⟨hafter, standIn_eq_of_offset hgoal.1, fun hday => hwithin (hgoal.2 hday)⟩

theorem ediv_unitSeconds_coarser (hfield : field.isSubDay = true) (seconds : Int) :
    seconds / unitSeconds (coarser field) = seconds / unitSeconds field / field.span := by
  cases field with
  | second | minute | hour =>
    simp only [unitSeconds, coarser, Field.span, secondsPerDay]
    omega
  | dayOfMonth | month | dayOfWeek | year => cases hfield

/-- Where a search comes to a field, the times in the sweep through the field are those that it
looks at in the coarser unit. -/
theorem inSweep_iff (other : LocalTime) (hfield : field.isSubDay = true)
    (hunit : time.seconds / unitSeconds field = d.firstUnit start.seconds field)
    (hoffset : time.seconds % unitSeconds field = schedule.firstInUnit d field) :
    InSweep d field time other ↔ schedule.LooksAt d start other ∧
      ¬ d.Before (other.seconds / unitSeconds field) (d.firstUnit start.seconds field) ∧
      d.SweptAt start.seconds other.seconds field := by
  rw [InSweep, hoffset, ediv_unitSeconds_coarser hfield time.seconds, hunit]
  -- in the sweep the stride is the field itself, so the offsets decide
  constructor
  · rintro ⟨hother, hswept, hafter⟩
    have hbeyond : ¬ d.Before (other.seconds / unitSeconds field) (d.firstUnit start.seconds field) := by
      rw [← hunit]
      exact fun h => hafter (Direction.before_of_units field h)
    have hstride := Direction.stride_eq hfield hbeyond hswept
    refine ⟨⟨Direction.before_of_firstUnit field hfield hbeyond, ?_, ?_⟩, hbeyond, hswept⟩
    · exact standIn_eq_of_offset (hstride.symm ▸ hother)
    · intro hday
      rw [hstride] at hday
      rw [hday] at hfield
      cases hfield
  · rintro ⟨hlooks, hbeyond, hswept⟩
    have hother := lookedAt_offset hlooks
    rw [Direction.stride_eq hfield hbeyond hswept] at hother
    refine ⟨hother, hswept, fun h => hbeyond ?_⟩
    rw [← hunit]
    exact Direction.units_of_before field (hother.trans hoffset.symm) h

/-- Where a search comes to the days, the times at that time of day are those that it looks at from
there on. -/
theorem daily_iff (other : LocalTime) (hunit : time.seconds / secondsPerDay = d.firstUnit start.seconds .dayOfMonth)
    (hoffset : time.seconds % secondsPerDay = schedule.firstInUnit d .dayOfMonth) :
    (other.seconds % secondsPerDay = time.seconds % secondsPerDay ∧
      ¬ d.Before other.seconds time.seconds ∧
      ¬ d.Before (schedule.limit d).seconds other.seconds) ↔
    schedule.LooksAt d start other ∧
      ¬ d.Before (other.seconds / secondsPerDay) (d.firstUnit start.seconds .dayOfMonth) := by
  rw [hoffset]
  -- from the first day on the stride is a day
  constructor
  · rintro ⟨hother, hafter, hwithin⟩
    have hbeyond : ¬ d.Before (other.seconds / secondsPerDay)
        (d.firstUnit start.seconds .dayOfMonth) := by
      rw [← hunit]
      exact fun h => hafter (Direction.before_of_units .dayOfMonth h)
    have hstride := Direction.stride_eq_day hbeyond
    have hhour := (Direction.beyond_of_coarser .hour rfl hbeyond).1
    refine ⟨⟨Direction.before_of_firstUnit .hour rfl hhour, ?_, fun _ => hwithin⟩, hbeyond⟩
    exact standIn_eq_of_offset (hstride.symm ▸ hother)
  · rintro ⟨hlooks, hbeyond⟩
    have hstride := Direction.stride_eq_day hbeyond
    have hother := lookedAt_offset hlooks
    rw [hstride] at hother
    refine ⟨hother, fun h => hbeyond ?_, hlooks.within hstride⟩
    rw [← hunit]
    exact Direction.units_of_before .dayOfMonth (hother.trans hoffset.symm) h

/-! ## The invariant of the stages -/

/-- What holds of a search that comes to a field: it has found the first accepted time, or it has
reached the first unit of the field with the finer fields at their first values and what lies
before is rejected, or everything is rejected. -/
inductive Reaches (schedule : Schedule) (d : Direction) (accept : LocalTime → Option Int)
    (start : LocalTime) (field : Field) : SearchState → Prop
  | found {epoch : Int} (h : FirstAccepted d accept (schedule.LooksAt d start) (some epoch)) :
      Reaches schedule d accept start field (.found epoch)
  | reached {time : LocalTime}
      (unit : time.seconds / unitSeconds field = d.firstUnit start.seconds field)
      (offset : time.seconds % unitSeconds field = schedule.firstInUnit d field)
      (rejected : ∀ other : LocalTime, schedule.LooksAt d start other →
        d.Before (other.seconds / unitSeconds field) (d.firstUnit start.seconds field) →
        accept other = none) :
      Reaches schedule d accept start field (.reached time)
  | exhausted (rejected : ∀ other, schedule.LooksAt d start other → accept other = none) :
      Reaches schedule d accept start field .exhausted

/-- A search begins at the second next to its start. -/
theorem reaches_start : schedule.Reaches d accept start .second
    (.ofTime? (start.step? .second d)) := by
  cases hstep : start.step? .second d with
  | some time =>
    have hseconds : time.seconds = start.seconds + d.sign * 1 := LocalTime.step?_eq_some_iff.1 hstep
    refine .reached ?_ ?_ fun other hlooks hbefore => ?_
    · rw [hseconds, Int.mul_one]
      exact Int.ediv_one _
    · exact Int.emod_one _
    · rw [show unitSeconds .second = 1 from rfl, Int.ediv_one] at hbefore
      exact absurd hlooks.after (Direction.before_add_sign_iff.1 hbefore)
  | none =>
    -- the calendar ends at the start
    refine .exhausted ?_
    intro other hlooks
    obtain ⟨next, hnext⟩ := LocalTime.exists_add?_of_beyond (d := d) start other
      (show 0 ≤ unitSeconds .second by decide) (by
        rw [show unitSeconds .second = 1 from rfl, Int.mul_one, Direction.before_add_sign_iff]
        exact fun h => h hlooks.after)
    rw [LocalTime.step?_eq_some_iff.2 (LocalTime.add?_eq_some_iff.1 hnext)] at hstep
    cases hstep

section Compiled

variable (compiled : schedule.Compiled) (refines : schedule.Refines accept)

include compiled refines

/-- A sweep through a field keeps the invariant. -/
theorem reaches_andThen (field : Field) (hfield : field.isSubDay = true) {state : SearchState}
    (h : schedule.Reaches d accept start field state) :
    schedule.Reaches d accept start (coarser field)
      (state.andThen (schedule.fieldSearch accept d field)) := by
  cases h with
  | found h => exact .found h
  | exhausted rejected => exact .exhausted rejected
  | @reached time hunit hoffset hrejected =>
    have hsweep (other : LocalTime) := inSweep_iff other hfield hunit hoffset
    have hcoarser : time.seconds / unitSeconds (coarser field) + d.sign =
        d.firstUnit start.seconds (coarser field) := by
      rw [ediv_unitSeconds_coarser hfield, hunit, Direction.firstUnit_coarser hfield]
    -- what lies before the following coarser unit was passed over already or is in the sweep
    have hpassed (other : LocalTime) (hlooks : schedule.LooksAt d start other)
        (hbefore : d.Before (other.seconds / unitSeconds (coarser field))
          (d.firstUnit start.seconds (coarser field))) :
        accept other = none ∨ InSweep d field time other := by
      by_cases hfirst : d.Before (other.seconds / unitSeconds field)
          (d.firstUnit start.seconds field)
      · exact .inl (hrejected other hlooks hfirst)
      · refine .inr ((hsweep other).2 ⟨hlooks, hfirst, ?_⟩)
        exact Decidable.not_not.1 fun hnot =>
          Direction.beyond_of_firstUnit field hfield hfirst hnot hbefore
    -- three cases as in the sweep: found here, carried on, or out of times
    have hswept := swept (d := d) compiled refines hfield time
    rw [SearchState.andThen]
    generalize schedule.fieldSearch accept d field time = state at hswept ⊢
    cases hswept with
    | found h =>
      cases h with
      | @found first epoch mem accepted hfirst =>
        refine .found (.found ((hsweep first).1 mem).1 accepted ?_)
        intro other hother hbefore
        have hunits : d.Before (other.seconds / unitSeconds (coarser field))
            (d.firstUnit start.seconds (coarser field)) := by
          rw [← hcoarser, Direction.before_add_sign_iff, ← mem.2.1]
          exact fun h => hbefore.asymm (Direction.before_of_units _ h)
        exact (hpassed other hother hunits).elim id fun hin => hfirst other hin hbefore
    | reached rejected unit offset =>
      refine .reached (unit.trans hcoarser) ?_ fun other hlooks hbefore => ?_
      · rw [offset, hoffset, firstInUnit_coarser hfield]
      · exact (hpassed other hlooks hbefore).elim id (rejected other)
    | exhausted rejected beyond =>
      refine .exhausted ?_
      intro other hlooks
      by_cases hbefore : d.Before (other.seconds / unitSeconds (coarser field))
          (d.firstUnit start.seconds (coarser field))
      · exact (hpassed other hlooks hbefore).elim id (rejected other)
      · rw [← hcoarser, Direction.before_add_sign_iff, Classical.not_not] at hbefore
        exact beyond other hbefore

theorem reaches_throughFields (d : Direction) (start : LocalTime) :
    schedule.Reaches d accept start .dayOfMonth
      (throughFields (schedule.fieldSearch accept d) (.ofTime? (start.step? .second d))) :=
  reaches_andThen compiled refines .hour rfl
    (reaches_andThen compiled refines .minute rfl
      (reaches_andThen compiled refines .second rfl reaches_start))

/-- A scan finds the first accepted time among those that it looks at. -/
theorem firstAccepted_scan (d : Direction) (start : LocalTime) :
    FirstAccepted d accept (schedule.LooksAt d start) (schedule.scan accept d start) := by
  have hreaches := reaches_throughFields compiled refines d start
  rw [scan_eq]
  generalize throughFields (schedule.fieldSearch accept d) (.ofTime? (start.step? .second d)) = state
    at hreaches ⊢
  cases hreaches with
  | found h => exact h
  | exhausted rejected => exact .nothing rejected
  | @reached time hunit hoffset hrejected =>
    have hdaily (other : LocalTime) := daily_iff other hunit hoffset
    refine (firstAccepted_daySearch compiled refines time).widen ?_ ?_
    · exact fun other h => ((hdaily other).1 h).1
    · intro other epoch hlooks haccepted
      refine (hdaily other).2 ⟨hlooks, ?_⟩
      intro hbefore
      rw [hrejected other hlooks hbefore] at haccepted
      cases haccepted

end Compiled

end Schedule

end CronSchedule

import CronSchedule.Proofs.Search.FixedOffset

/-!
# Answers beyond the horizon

A search heeds its limit only where it moves by days. Before it does so it has left
the minute, the hour and the day in which it started, each time for the next one, so
it is still on the date of its start or on the one after it
(`Direction.near_day_of_stride`). An answer thus lies within the limit or on one of
these two dates (`Schedule.LooksAt.within_limit_or_near`), and at a fixed offset the
limit is the horizon (`Schedule.answers_within_horizon`).
-/

set_option autoImplicit false

namespace CronSchedule

/-- Until a search moves by days it stays on the day of its start and on the next one. -/
theorem Direction.near_day_of_stride {d : Direction} {start time : Int}
    (hafter : d.Before start time) (hstride : d.stride start time ≠ .dayOfMonth) :
    ¬ d.Before (start / secondsPerDay + d.sign) (time / secondsPerDay) := by
  obtain ⟨-, hspec⟩ := stride_spec hafter
  obtain ⟨hfield, hswept⟩ := hspec.resolve_left hstride
  -- at most one second, one minute and one hour lead from the start to the unit that is swept
  generalize d.stride start time = field at hfield hswept
  rw [SweptAt] at hswept
  cases field with
  | second | minute | hour =>
    cases d with
    | forward =>
      simp only [before_forward, firstUnit, sign, LocalTime.unitSeconds, Schedule.coarser,
        Field.span, secondsPerDay] at *
      omega
    | backward =>
      simp only [before_backward, firstUnit, sign, LocalTime.unitSeconds, Schedule.coarser,
        Field.span, secondsPerDay] at *
      omega
  | dayOfMonth | month | dayOfWeek | year => cases hfield

namespace Schedule

variable {schedule : Schedule} {d : Direction} {minutes reference edge found : Int}
  {start own time last : LocalTime}

/-! ## The limit of a search -/

/-- What a search looks at lies within its limit, or on the date of its start or the next one. -/
theorem LooksAt.within_limit_or_near (h : schedule.LooksAt d start time) :
    ¬ d.Before (schedule.limit d).seconds time.seconds ∨
      ¬ d.Before (start.date.number + d.sign) time.date.number := by
  by_cases hstride : d.stride start.seconds time.seconds = .dayOfMonth
  · exact .inl (h.within hstride)
  · exact .inr (Direction.near_day_of_stride h.after hstride)

/-- The instant at which a search in the direction is to end, if there is one. -/
def edge? (schedule : Schedule) : Direction → Option Int
  | .forward => schedule.horizon.endEpoch
  | .backward => some schedule.horizon.beginEpoch

/-- A search ends no later than the clock shows the instant at which it is to end. -/
theorem not_before_limit_of_edge? (hedge : schedule.edge? d = some edge)
    (hlast : schedule.zone.toLocal? edge = some last) :
    ¬ d.Before last.seconds (schedule.limit d).seconds := by
  cases d with
  | forward =>
    have hend : schedule.horizon.endEpoch.bind schedule.zone.toLocal? = some last :=
      Option.bind_eq_some_iff.2 ⟨edge, hedge, hlast⟩
    rw [limit, lastTime, hend]
    apply Int.not_lt.2
    simp only [LocalTime.earlier]
    split
    · assumption
    · exact Int.le_refl _
  | backward =>
    rw [← Option.some.inj hedge] at hlast
    rw [limit, firstTime, hlast]
    apply Int.not_lt.2
    simp only [LocalTime.later]
    split
    · exact Int.le_refl _
    · apply Int.le_of_lt
      apply Int.not_le.1
      assumption

/-! ## At a fixed offset -/

/-- The answer of a search lies within the horizon, or on the date of the reference or the next
one. -/
theorem within_horizon_or_near (compiled : schedule.Compiled)
    (hzone : schedule.zone = .fixed minutes) (hlow : -maxUtcOffset ≤ minutes)
    (hhigh : minutes ≤ maxUtcOffset) (hown : schedule.zone.toLocal? reference = some own)
    (hfound : schedule.search? d reference = some found) (hedge : schedule.edge? d = some edge)
    (hlast : schedule.zone.toLocal? edge = some last) :
    ¬ d.Before edge found ∨ ∃ time, schedule.zone.toLocal? found = some time ∧
      ¬ d.Before (own.date.number + d.sign) time.date.number := by
  have faithful : schedule.zone.Faithful := hzone ▸ Zone.faithful_fixed hlow hhigh
  rw [search?_eq_scan_of_fixed hzone hown] at hfound
  obtain ⟨time, hlooks, -, htime, -⟩ := scan_sound compiled faithful hfound
  rcases hlooks.within_limit_or_near with hwithin | hnear
  · left
    rw [← Zone.before_iff_of_fixed hzone hlast htime]
    exact Direction.not_before_trans (not_before_limit_of_edge? hedge hlast) hwithin
  · exact .inr ⟨time, htime, hnear⟩

/-- At a fixed offset an answer that lies beyond the end or the begin of the horizon lies on the
date of the reference or on the date next to it in the direction of the search. -/
theorem answers_within_horizon (compiled : schedule.Compiled)
    (hzone : schedule.zone = .fixed minutes) (hlow : -maxUtcOffset ≤ minutes)
    (hhigh : minutes ≤ maxUtcOffset) (hown : schedule.zone.toLocal? reference = some own) :
    (∀ found last, schedule.next? reference = some found →
      schedule.horizon.endEpoch = some last → (schedule.zone.toLocal? last).isSome = true →
      found ≤ last ∨ ∃ time, schedule.zone.toLocal? found = some time ∧
        time.date.number ≤ own.date.number + 1) ∧
    (∀ found, schedule.previous? reference = some found →
      (schedule.zone.toLocal? schedule.horizon.beginEpoch).isSome = true →
      schedule.horizon.beginEpoch ≤ found ∨ ∃ time, schedule.zone.toLocal? found = some time ∧
        own.date.number - 1 ≤ time.date.number) := by
  constructor
  · intro found last hfound hend hshown
    obtain ⟨lastTime, hlast⟩ := Option.isSome_iff_exists.1 hshown
    have h := within_horizon_or_near (d := .forward) compiled hzone hlow hhigh hown hfound hend hlast
    simpa only [Direction.before_forward, Direction.sign, Int.not_lt] using h
  · intro found hfound hshown
    obtain ⟨firstTime, hfirst⟩ := Option.isSome_iff_exists.1 hshown
    have h := within_horizon_or_near (d := .backward) compiled hzone hlow hhigh hown hfound rfl hfirst
    simpa only [Direction.before_backward, Direction.sign, Int.not_lt, Int.sub_eq_add_neg] using h

/-- Half an hour before midnight the next answer comes after the horizon, on the next date; at
midnight the previous one comes before it, on the date before. -/
theorem answers_within_horizon_around_midnight :
    ∃ schedule, compile ⟨0, none⟩ "0 0 0,23 * * ? *" ⟨none, some 0, some 86000, some 85000⟩ =
        .ok schedule ∧
      schedule.next? 84600 = some 86400 ∧ (85000 : Int) < 86400 ∧
      (∃ time, schedule.zone.toLocal? 86400 = some time ∧ time.date.number ≤ 1) ∧
      schedule.previous? 86400 = some 82800 ∧ (82800 : Int) < 86000 ∧
      ∃ time, schedule.zone.toLocal? 82800 = some time ∧ 0 ≤ time.date.number := by
  obtain ⟨schedule, hcompile, compiled, hvalues⟩ := exists_compiled ⟨0, none⟩ "0 0 0,23 * * ? *"
    ⟨none, some 0, some 86000, some 85000⟩ (fun schedule => (schedule.zone, schedule.horizon,
      schedule.next? 84600, schedule.previous? 86400))
    (show _ = some (.fixed 0, ⟨86000, some 85000⟩, some 86400, some 82800) by decide +kernel)
  simp only [Prod.mk.injEq] at hvalues
  obtain ⟨hzone, hhorizon, hnext, hprevious⟩ := hvalues
  have hreference : schedule.zone.toLocal? 84600 = some ⟨84600, by decide, by decide⟩ := by
    rw [hzone]
    decide
  have hmidnight : schedule.zone.toLocal? 86400 = some ⟨86400, by decide, by decide⟩ := by
    rw [hzone]
    decide
  have hshown : (schedule.zone.toLocal? 85000).isSome = true ∧
      (schedule.zone.toLocal? schedule.horizon.beginEpoch).isSome = true := by
    rw [hzone, hhorizon]
    decide
  have hforward := (answers_within_horizon compiled hzone (by decide) (by decide) hreference).1
    86400 85000 hnext (by rw [hhorizon]) hshown.1
  have hbackward := (answers_within_horizon compiled hzone (by decide) (by decide) hmidnight).2
    82800 hprevious hshown.2
  rw [hhorizon] at hbackward
  exact ⟨schedule, hcompile, hnext, by decide, hforward.resolve_left (by decide), hprevious,
    by decide, hbackward.resolve_left (by decide)⟩

end Schedule

end CronSchedule

import CronSchedule.Proofs.Search.Horizon

/-!
# Shifted clocks

A search scans wall-clock times and turns to instants only where it accepts one. So
a scan whose results are relabelled gives the relabelled result
(`Schedule.scan_map`), and it depends on the schedule only through its patterns and
its limit (`Schedule.scan_congr`). At a fixed offset the instants are the times on the
wall less the offset: a schedule gives the same answers there as its patterns give at
UTC for a reference and a horizon moved by the offset, moved back
(`Schedule.answers_shift_with_offset`).
-/

set_option autoImplicit false

namespace CronSchedule

/-! ## Relabelled results -/

namespace SearchState

/-- The state of a search with the instant that it has found relabelled. -/
def map (f : Int → Int) : SearchState → SearchState
  | .found epoch => .found (f epoch)
  | .reached time => .reached time
  | .exhausted => .exhausted

theorem map_ofTime? (f : Int → Int) (time : Option LocalTime) :
    (ofTime? time).map f = ofTime? time := by
  cases time with
  | none => rfl
  | some time => rfl

end SearchState

namespace Schedule

variable {schedule other utc : Schedule} {d : Direction} {accept : LocalTime → Option Int}
  {field : Field} {minutes reference epoch : Int} {start time : LocalTime}

section Relabelled

variable (f : Int → Int)

theorem tryValues_map (values : List Nat) :
    tryValues (fun time => (accept time).map f) field time values =
      (tryValues accept field time values).map f := by
  induction values with
  | nil => rfl
  | cons value values ih =>
    rw [tryValues, tryValues] at ih
    rw [tryValues, tryValues, List.findSome?_cons, List.findSome?_cons, ih]
    cases time.withComponent? field value with
    | none => rfl
    | some candidate =>
      rw [Option.bind_some, Option.bind_some]
      cases accept candidate with
      | none => rfl
      | some epoch => rfl

theorem tryTimes_map (pace : Int) (count : Nat) (time : LocalTime) :
    tryTimes (fun time => (accept time).map f) pace count time =
      (tryTimes accept pace count time).map f := by
  induction count generalizing time with
  | zero => rfl
  | succ count ih =>
    rw [tryTimes, tryTimes]
    cases accept time with
    | some epoch => rfl
    | none =>
      simp only [Option.map_none]
      cases time.add? pace with
      | none => rfl
      | some next => exact ih next

theorem fieldSearch_map (field : Field) (time : LocalTime) :
    schedule.fieldSearch (fun time => (accept time).map f) d field time =
      (schedule.fieldSearch accept d field time).map f := by
  rw [fieldSearch_eq, fieldSearch_eq]
  split
  · next first last _ _ =>
    rw [tryValues_map]
    cases tryValues accept field time (d.values (time.component field) last) with
    | some epoch => rfl
    | none => exact (SearchState.map_ofTime? f _).symm
  · rfl

theorem andThen_map {search search' : LocalTime → SearchState}
    (h : ∀ time, search' time = (search time).map f) (state : SearchState) :
    (state.map f).andThen search' = (state.andThen search).map f := by
  cases state with
  | found epoch => rfl
  | reached time => exact h time
  | exhausted => rfl

theorem throughFields_map (d : Direction) (state : SearchState) :
    throughFields (schedule.fieldSearch (fun time => (accept time).map f) d) (state.map f) =
      (throughFields (schedule.fieldSearch accept d) state).map f := by
  apply List.foldl_hom
  intro state field
  exact andThen_map f (fieldSearch_map f field) state

theorem daySearch_map (d : Direction) (time : LocalTime) :
    schedule.daySearch (fun time => (accept time).map f) d time =
      (schedule.daySearch accept d time).map f := by
  rw [daySearch_eq, daySearch_eq]
  split
  · next first last _ _ =>
    split
    · rfl
    · generalize (if d.Before (time.component .year) first then time.onYearEdge? first d
        else some time) = edge
      cases edge with
      | none => rfl
      | some first => exact tryTimes_map f _ _ first
  · rfl

/-- A scan whose results are relabelled gives the relabelled result. -/
theorem scan_map (d : Direction) (start : LocalTime) :
    schedule.scan (fun time => (accept time).map f) d start =
      (schedule.scan accept d start).map f := by
  have hfields : throughFields (schedule.fieldSearch (fun time => (accept time).map f) d)
      ((SearchState.ofTime? (start.step? .second d)).map f) =
        (throughFields (schedule.fieldSearch accept d) (.ofTime? (start.step? .second d))).map f :=
    throughFields_map f d _
  rw [SearchState.map_ofTime?] at hfields
  rw [scan_eq, scan_eq, hfields]
  cases throughFields (schedule.fieldSearch accept d) (.ofTime? (start.step? .second d)) with
  | found epoch => rfl
  | reached time => exact daySearch_map f d time
  | exhausted => rfl

end Relabelled

/-! ## What a scan depends on -/

theorem daysWithin_congr (hlimit : other.limit d = schedule.limit d) (first : LocalTime) :
    other.daysWithin first d = schedule.daysWithin first d := by
  cases d with
  | forward => exact congrArg (dayCount first) hlimit
  | backward => exact congrArg (dayCount · first) hlimit

/-- Schedules with the same patterns and the same limit scan the same times. -/
theorem scan_congr (hpatterns : other.patterns = schedule.patterns)
    (hlimit : other.limit d = schedule.limit d) (start : LocalTime) :
    other.scan accept d start = schedule.scan accept d start := by
  have hpattern : ∀ field, other.pattern field = schedule.pattern field := by
    intro field
    rw [pattern, pattern, hpatterns]
  have hfields : other.fieldSearch accept d = schedule.fieldSearch accept d := by
    funext field time
    rw [fieldSearch_eq, fieldSearch_eq, hpattern]
  have hdays : other.daySearch accept d = schedule.daySearch accept d := by
    funext time
    rw [daySearch_eq, daySearch_eq, hpattern]
    simp only [daysWithin_congr hlimit]
  rw [scan_eq, scan_eq, hfields, hdays]

/-- What a schedule accepts does not depend on its zone and its horizon. -/
theorem matchesLocal_congr (hpatterns : other.patterns = schedule.patterns) (time : LocalTime) :
    other.matchesLocal time = schedule.matchesLocal time := by
  simp only [matchesLocal, pattern, hpatterns]

end Schedule

/-! ## At a fixed offset -/

/-- Does the instant lie in the years of the calendar? -/
def InCalendar (epoch : Int) : Prop :=
  firstDayNumber * secondsPerDay ≤ epoch ∧ epoch < (lastDayNumber + 1) * secondsPerDay

instance (epoch : Int) : Decidable (InCalendar epoch) :=
  inferInstanceAs (Decidable (_ ∧ _))

/-- An instant is shown at an offset as the instant moved by the offset is shown at UTC. -/
theorem Zone.toLocal?_fixed {minutes epoch : Int} (h : InCalendar epoch)
    (hshifted : InCalendar (epoch + 60 * minutes)) :
    ∃ time : LocalTime, (fixed minutes).toLocal? epoch = some time ∧
      (fixed 0).toLocal? (epoch + 60 * minutes) = some time := by
  refine ⟨⟨epoch + 60 * minutes, hshifted.1, hshifted.2⟩, ?_, ?_⟩
  · rw [toLocal?_eq_some_iff, LocalTime.ofSeconds?_isSome_iff]
    exact ⟨h, rfl⟩
  · rw [toLocal?_eq_some_iff, LocalTime.ofSeconds?_isSome_iff, clock_fixed]
    exact ⟨hshifted, by rw [Int.mul_zero, Int.add_zero]⟩

namespace Schedule

variable {schedule utc : Schedule} {d : Direction} {minutes reference : Int}

/-- At a fixed offset an accepted time is the one instant that shows it, if this lies beyond the
reference. -/
theorem acceptBeyond_fixed (hzone : schedule.zone = .fixed minutes) (time : LocalTime) :
    schedule.acceptBeyond d reference time =
      if schedule.matchesLocal time = true ∧ d.Before (reference + 60 * minutes) time.seconds then
        some (time.seconds - 60 * minutes)
      else none := by
  have horder : schedule.epochsInOrder time d = [time.seconds - 60 * minutes] := by
    rw [epochsInOrder.eq_def, hzone]
    cases d with
    | forward => rfl
    | backward => rfl
  have hbefore : d.Before reference (time.seconds - 60 * minutes) ↔
      d.Before (reference + 60 * minutes) time.seconds := by
    have hshift := Direction.before_sub_iff (d := d) (a := reference + 60 * minutes)
      (b := time.seconds) (c := 60 * minutes)
    rwa [Int.add_sub_cancel] at hshift
  rw [acceptBeyond_eq, horder, List.find?_singleton]
  simp only [decide_eq_true_iff, hbefore]
  by_cases hmatches : schedule.matchesLocal time = true
  · simp only [hmatches, if_true, true_and]
  · rw [if_neg hmatches, if_neg fun h => hmatches h.1]

section Shifted

variable (hzone : schedule.zone = .fixed minutes) (hutc : utc.zone = .fixed 0)

include hzone hutc

theorem acceptBeyond_shift (hpatterns : utc.patterns = schedule.patterns) :
    schedule.acceptBeyond d reference = fun time =>
      (utc.acceptBeyond d (reference + 60 * minutes) time).map (· - 60 * minutes) := by
  funext time
  rw [acceptBeyond_fixed hzone, acceptBeyond_fixed hutc, matchesLocal_congr hpatterns, Int.mul_zero,
    Int.add_zero, Int.sub_zero]
  split
  · rfl
  · rfl

/-- Horizons of which one is the other moved by the offset set the same limit. -/
theorem limit_shift (hedge : utc.edge? d = (schedule.edge? d).map (· + 60 * minutes))
    (hcalendar : ∀ edge, schedule.edge? d = some edge →
      InCalendar edge ∧ InCalendar (edge + 60 * minutes)) : utc.limit d = schedule.limit d := by
  have hshown : (utc.edge? d).bind utc.zone.toLocal? =
      (schedule.edge? d).bind schedule.zone.toLocal? := by
    rw [hedge]
    cases hasked : schedule.edge? d with
    | none => rfl
    | some edge =>
      obtain ⟨hin, hshifted⟩ := hcalendar edge hasked
      obtain ⟨time, htime, htimeUtc⟩ := Zone.toLocal?_fixed hin hshifted
      rw [hzone, hutc, Option.map_some, Option.bind_some, Option.bind_some, htime, htimeUtc]
  cases d with
  | forward =>
    simp only [limit, lastTime]
    rw [show utc.horizon.endEpoch.bind utc.zone.toLocal? = _ from hshown]
    rfl
  | backward =>
    simp only [limit, firstTime]
    rw [show utc.zone.toLocal? utc.horizon.beginEpoch = _ from hshown]
    rfl

/-- A search at an offset answers as one at UTC with reference and horizon moved by the offset. -/
theorem search?_shift (hpatterns : utc.patterns = schedule.patterns)
    (hreference : InCalendar reference) (hshifted : InCalendar (reference + 60 * minutes))
    (hedge : utc.edge? d = (schedule.edge? d).map (· + 60 * minutes))
    (hcalendar : ∀ edge, schedule.edge? d = some edge →
      InCalendar edge ∧ InCalendar (edge + 60 * minutes)) :
    schedule.search? d reference =
      (utc.search? d (reference + 60 * minutes)).map (· - 60 * minutes) := by
  obtain ⟨own, hown, hownUtc⟩ := Zone.toLocal?_fixed hreference hshifted
  rw [← hzone] at hown
  rw [← hutc] at hownUtc
  have hlimit := limit_shift hzone hutc hedge hcalendar
  rw [search?_eq_scan_of_fixed hzone hown, search?_eq_scan_of_fixed hutc hownUtc,
    acceptBeyond_shift hzone hutc hpatterns, scan_map, scan_congr hpatterns hlimit]

end Shifted

/-- Take a schedule at a fixed offset and the same patterns at UTC. Where reference and horizon at
UTC are those at the offset moved by it, the search at the offset answers with the answer at UTC
moved back, in both directions, and it has no answer exactly if the one at UTC has none. -/
theorem answers_shift_with_offset (hpatterns : utc.patterns = schedule.patterns)
    (hzone : schedule.zone = .fixed minutes) (hutc : utc.zone = .fixed 0)
    (hreference : InCalendar reference) (hshifted : InCalendar (reference + 60 * minutes)) :
    (utc.horizon.endEpoch = schedule.horizon.endEpoch.map (· + 60 * minutes) →
      (∀ last, schedule.horizon.endEpoch = some last →
        InCalendar last ∧ InCalendar (last + 60 * minutes)) →
      schedule.next? reference =
        (utc.next? (reference + 60 * minutes)).map (· - 60 * minutes)) ∧
    (utc.horizon.beginEpoch = schedule.horizon.beginEpoch + 60 * minutes →
      InCalendar schedule.horizon.beginEpoch → InCalendar utc.horizon.beginEpoch →
      schedule.previous? reference =
        (utc.previous? (reference + 60 * minutes)).map (· - 60 * minutes)) := by
  constructor
  · intro hend hcalendar
    exact search?_shift (d := .forward) hzone hutc hpatterns hreference hshifted hend hcalendar
  · intro hbegin hin hinUtc
    apply search?_shift (d := .backward) hzone hutc hpatterns hreference hshifted
    · exact congrArg some hbegin
    · intro edge hedge
      cases hedge
      exact ⟨hin, hbegin ▸ hinUtc⟩

/-- Half past two at an offset of two hours is half past midnight at UTC. -/
theorem answers_shift_half_past_two :
    ∃ schedule utc, compile ⟨0, none⟩ "0 30 2 * * ? *" ⟨none, some 120, some 0, some 90000⟩ =
        .ok schedule ∧
      compile ⟨0, none⟩ "0 30 2 * * ? *" ⟨none, some 0, some 7200, some 97200⟩ = .ok utc ∧
      InCalendar 40000 ∧ InCalendar (40000 + 60 * 120) ∧
      utc.next? (40000 + 60 * 120) = some 95400 ∧ schedule.next? 40000 = some 88200 ∧
      utc.previous? (40000 + 60 * 120) = some 9000 ∧ schedule.previous? 40000 = some 1800 := by
  obtain ⟨schedule, hcompile, compiled, hvalues⟩ := exists_compiled ⟨0, none⟩ "0 30 2 * * ? *"
    ⟨none, some 120, some 0, some 90000⟩
    (fun schedule => (schedule.expression, schedule.zone, schedule.horizon))
    (show _ = some ("0 30 2 * * ? *", .fixed 120, ⟨0, some 90000⟩) by decide +kernel)
  obtain ⟨utc, hcompileUtc, compiledUtc, hvaluesUtc⟩ := exists_compiled ⟨0, none⟩ "0 30 2 * * ? *"
    ⟨none, some 0, some 7200, some 97200⟩
    (fun utc => (utc.expression, utc.zone, utc.horizon, utc.next? 47200, utc.previous? 47200))
    (show _ = some ("0 30 2 * * ? *", .fixed 0, ⟨7200, some 97200⟩, some 95400, some 9000) by
      decide +kernel)
  simp only [Prod.mk.injEq] at hvalues hvaluesUtc
  obtain ⟨hexpression, hzone, hhorizon⟩ := hvalues
  obtain ⟨hexpressionUtc, hutc, hhorizonUtc, hnext, hprevious⟩ := hvaluesUtc
  have hpatterns : utc.patterns = schedule.patterns := by
    rw [Compiled, hexpression] at compiled
    rw [Compiled, hexpressionUtc] at compiledUtc
    exact Except.ok.inj (compiledUtc.symm.trans compiled)
  have hcalendar : InCalendar 40000 ∧ InCalendar (40000 + 60 * 120) := by decide
  obtain ⟨hforward, hbackward⟩ :=
    answers_shift_with_offset hpatterns hzone hutc hcalendar.1 hcalendar.2
  have hnextShifted := hforward (by rw [hhorizon, hhorizonUtc]; rfl) (by
    rw [hhorizon]
    rintro last ⟨⟩
    decide)
  have hpreviousShifted := hbackward (by rw [hhorizon, hhorizonUtc]; rfl) (by rw [hhorizon]; decide)
    (by rw [hhorizonUtc]; decide)
  refine ⟨schedule, utc, hcompile, hcompileUtc, hcalendar.1, hcalendar.2, hnext, ?_, hprevious, ?_⟩
  · rw [hnextShifted, show (40000 + 60 * 120 : Int) = 47200 from rfl, hnext]
    rfl
  · rw [hpreviousShifted, show (40000 + 60 * 120 : Int) = 47200 from rfl, hprevious]
    rfl

end Schedule

end CronSchedule

import CronSchedule.Proofs.Search.Nearest
import CronSchedule.Proofs.Zone.FallBack
import CronSchedule.Proofs.Zone.Table

/-!
# Searches across a fall-back

Where clocks go back an hour at a whole hour, a search neither loses nor repeats
an instant. If the nearest matching instant shows a time beyond that of the
reference, the scan from the local time of the reference finds it. Otherwise the
two lie in the two passes of the repeated hour, and the scan from the other
reading finds it: that scan starts in the hour next to the repeated one, whose
times are not shown beyond the reference.
-/

set_option autoImplicit false

namespace CronSchedule

/-! ## Clocks that are only put back -/

namespace Zone

variable {zone : Zone} {d : Direction} {a b reference epoch : Int} {own time : LocalTime}

/-- Are clocks only put back after the first instant up to the last? -/
def FallsBack (zone : Zone) (first last : Int) : Prop :=
  ∀ change, first < change → change ≤ last → zone.offsetAt change ≤ zone.offsetAt (change - 1)

/-- Does every change between two instants set the clock back an hour at a whole hour? -/
def FallsBackHourly (zone : Zone) (first last : Int) : Prop :=
  ∀ change, first < change → change < last → zone.ChangesAt change → zone.FallsBackAt change

theorem FallsBackHourly.mono {first last : Int} (h : zone.FallsBackHourly first last)
    (ha : first ≤ a) (hb : b ≤ last) : zone.FallsBackHourly a b :=
  fun change hafter hbefore => h change (by omega) (by omega)

theorem FallsBackHourly.fallsBack {first last : Int} (h : zone.FallsBackHourly first last)
    (ha : first ≤ a) (hb : b < last) : zone.FallsBack a b := by
  intro change hafter hbefore
  by_cases hchange : zone.ChangesAt change
  · have hfalls := (h change (by omega) (by omega) hchange).1
    omega
  · rw [ChangesAt, Classical.not_not] at hchange
    omega

/-- Clocks that are only put back skip no time. -/
theorem shown_between_of_fallsBack {first middle last : LocalTime}
    (h : zone.FallsBack (min a b) (max a b)) (ha : zone.toLocal? a = some first)
    (hb : zone.toLocal? b = some last) (hab : d.Before a b)
    (hfirst : d.Before first.seconds middle.seconds) (hlast : d.Before middle.seconds last.seconds) :
    ∃ epoch, d.Before a epoch ∧ d.Before epoch b ∧ zone.toLocal? epoch = some middle := by
  rcases shown_between_or_skipped ha hb hab hfirst hlast with
    hshown | ⟨change, hgt, hle, hskipped, hresumed⟩
  · exact hshown
  · have hback := h change hgt hle
    rw [clock] at hskipped hresumed
    omega

/-! ## A reference in a repeated hour -/

/-- The reference lies in the pass of a repeated hour that a search in the direction meets first,
and the instant lies in the other pass. -/
structure RepeatedBetween (zone : Zone) (d : Direction) (reference epoch : Int)
    (own other : LocalTime) : Prop where
  /-- The other reading of the reference lies in the hour that the search meets before. -/
  reading : zone.otherReading? reference = some other
  hour : own.seconds / 3600 = other.seconds / 3600 + d.sign
  /-- Beyond the reference all times of the repeated hour are shown at the offset of the instant. -/
  shown : ∀ time : LocalTime, time.Scheduled → time.seconds / 3600 = own.seconds / 3600 →
    zone.toLocal? (time.seconds - zone.offsetAt epoch) = some time ∧
      d.Before reference (time.seconds - zone.offsetAt epoch)
  /-- Beyond the reference no times of the hour before are shown. -/
  hidden : ∀ beyond, d.Before reference beyond →
    zone.clock beyond / 3600 ≠ other.seconds / 3600

/-- Where an instant beyond the reference shows no time beyond that of the reference, the two lie in
the two passes of a repeated hour. -/
theorem exists_repeatedBetween (sparse : zone.SparseChanges) (faithful : zone.Faithful)
    (hown : zone.toLocal? reference = some own) (htime : zone.toLocal? epoch = some time)
    (hscheduled : time.Scheduled) (hbeyond : d.Before reference epoch)
    (hnot : ¬ d.Before own.seconds time.seconds)
    (hback : ∀ change, min reference epoch < change → change ≤ max reference epoch →
      max reference epoch - secondsPerDay < change → zone.ChangesAt change →
      zone.FallsBackAt change) :
    time.seconds / 3600 = own.seconds / 3600 ∧
      ∃ other, zone.RepeatedBetween d reference epoch own other := by
  have hownClock := (toLocal?_eq_some_iff.1 hown).2
  have htimeClock := (toLocal?_eq_some_iff.1 htime).2
  rw [clock] at hownClock htimeClock
  cases d with
  | forward =>
    rw [Direction.before_forward] at hbeyond hnot
    obtain ⟨change, hfalls, hgt, hle, hfirst, hlast⟩ := exists_fall_back sparse hbeyond
      (by rw [clock, clock]; omega) fun change hgt hle hnear =>
        hback change (by omega) (by omega) (by omega)
    obtain ⟨hour, hhour⟩ := hfalls.2
    have hchange : zone.clock change = change + zone.offsetAt change := rfl
    have hsame : time.seconds / 3600 = own.seconds / 3600 := by omega
    obtain ⟨other, hreading, hother⟩ := exists_otherReading? sparse faithful hfalls
      (hscheduled.of_same_hour hsame) (by omega) (by omega) hown
    rw [if_pos hgt] at hother
    -- the first pass, then the second: the other reading is an hour earlier
    refine ⟨hsame, other, hreading, show _ = _ + (1 : Int) by omega, ?_, ?_⟩
    · intro shown hshown hshownHour
      rw [hlast]
      exact ⟨toLocal?_second_pass sparse hfalls hshown (by omega) (by omega),
        show reference < _ by omega⟩
    · intro beyond hbeyondReference
      rw [Direction.before_forward] at hbeyondReference
      have hhidden := hour_before_hidden sparse hfalls (show change - 3600 ≤ beyond by omega)
      omega
  | backward =>
    rw [Direction.before_backward] at hbeyond hnot
    obtain ⟨change, hfalls, hgt, hle, hfirst, hlast⟩ := exists_fall_back sparse hbeyond
      (by rw [clock, clock]; omega) fun change hgt hle hnear =>
        hback change (by omega) (by omega) (by omega)
    obtain ⟨hour, hhour⟩ := hfalls.2
    have hchange : zone.clock change = change + zone.offsetAt change := rfl
    have hsame : time.seconds / 3600 = own.seconds / 3600 := by omega
    obtain ⟨other, hreading, hother⟩ := exists_otherReading? sparse faithful hfalls
      (hscheduled.of_same_hour hsame) (by omega) (by omega) hown
    -- the second pass, then the first: the other reading is an hour later
    rw [if_neg (by omega)] at hother
    refine ⟨hsame, other, hreading, show _ = _ + (-1 : Int) by omega, ?_, ?_⟩
    · intro shown hshown hshownHour
      rw [hfirst, ← Int.sub_sub]
      exact ⟨toLocal?_first_pass sparse hfalls hshown (by omega) (by omega),
        show _ < reference by omega⟩
    · intro beyond hbeyondReference
      rw [Direction.before_backward] at hbeyondReference
      have hhidden := hour_after_hidden sparse hfalls (show beyond < change + 3600 by omega)
      omega

/-! ## Stockholm -/

theorem spaced_stockholm : ZoneTable.stockholm.Spaced 172800 := by
  decide +kernel

theorem sparseChanges_stockholm : (named .stockholm).SparseChanges :=
  sparseChanges_of_spaced spaced_stockholm (by decide +kernel)

/-- The epoch lies in no repeated hour of Stockholm. -/
theorem epoch_unrepeated_stockholm (change : Int) (h : (named .stockholm).FallsBackAt change) :
    ¬ (change - 3600 ≤ 0 ∧ 0 < change + 3600) := by
  have hchanges : ∀ entry ∈ ZoneTable.stockholm.changes,
      ¬ (entry.epoch - 3600 ≤ 0 ∧ 0 < entry.epoch + 3600) := by
    decide +kernel
  obtain ⟨entry, hentry, rfl⟩ := ZoneTable.exists_of_changesAt h.changesAt
  exact hchanges entry hentry

/-- Around 28 September 1980 the clocks of Stockholm change only by going back an hour. -/
theorem fallsBackHourly_stockholm : (named .stockholm).FallsBackHourly 338864398 339037205 := by
  have hchanges : ∀ entry ∈ ZoneTable.stockholm.changes, 338864398 < entry.epoch →
      entry.epoch < 339037205 → (named .stockholm).FallsBackAt entry.epoch := by
    decide +kernel
  intro change hafter hbefore hchange
  obtain ⟨entry, hentry, rfl⟩ := ZoneTable.exists_of_changesAt hchange
  exact hchanges entry hentry hafter hbefore

end Zone

namespace Schedule

variable {schedule : Schedule} {d : Direction} {reference first : Int} {own other time : LocalTime}

section Compiled

variable (compiled : schedule.Compiled) (faithful : schedule.zone.Faithful)
  (hfirst : schedule.IsNearest d reference first)
  (hown : schedule.zone.toLocal? reference = some own)
  (htime : schedule.zone.toLocal? first = some time)
  (hwithin : ¬ d.Before (schedule.limit d).seconds time.seconds)

include compiled faithful hfirst htime hwithin

/-! ## In the order of the clock -/

include hown in
/-- Where clocks are only put back, the scan from the local time of the reference finds the nearest
matching instant if that one shows a time beyond it. -/
theorem search?_eq_of_before
    (hback : schedule.zone.FallsBack (min reference first) (max reference first))
    (hafter : d.Before own.seconds time.seconds) : schedule.search? d reference = some first := by
  obtain ⟨time', htime', hmatches⟩ := hfirst.exists_time
  cases htime.symm.trans htime'
  -- an accepted time between the two is shown between the two instants, where nothing matches
  have hclear (middle : LocalTime) (hmiddle : d.Before own.seconds middle.seconds)
      (hmatchesMiddle : schedule.matchesLocal middle = true) :
      ¬ d.Before middle.seconds time.seconds := by
    intro hbefore
    obtain ⟨epoch, hbeyond, hnearer, hshown⟩ := Zone.shown_between_of_fallsBack hback hown htime
      hfirst.beyond hmiddle hbefore
    exact hfirst.not_before hbeyond hshown hmatchesMiddle hnearer
  obtain ⟨standIn, -, hlooks, hmatchesStandIn, hnot⟩ :=
    exists_standIn compiled hmatches hafter fun _ => hwithin
  have hsame : standIn = time := LocalTime.ext_seconds
    (Direction.eq_of_not_before (hclear standIn hlooks.after hmatchesStandIn) hnot)
  refine search?_eq_of_lookedAt compiled faithful hfirst htime (.inl hown) (hsame ▸ hlooks) ?_
  intro middle shown hmiddle hbefore hmatchesMiddle _ _
  exact hclear middle hmiddle hmatchesMiddle hbefore

/-! ## In the two passes of an hour -/

/-- Where the reference and the nearest matching instant lie in the two passes of a repeated hour,
the scan from the other reading finds that instant. -/
theorem search?_eq_of_repeated (hhour : time.seconds / 3600 = own.seconds / 3600)
    (h : schedule.zone.RepeatedBetween d reference first own other) :
    schedule.search? d reference = some first := by
  obtain ⟨time', htime', hmatches⟩ := hfirst.exists_time
  cases htime.symm.trans htime'
  have hnext : time.seconds / 3600 = other.seconds / 3600 + d.sign := hhour.trans h.hour
  have hafter := Direction.before_of_next_hour hnext
  -- an accepted time of the repeated hour is shown beyond the reference
  have hclear (middle : LocalTime) (hmiddle : middle.seconds / 3600 = own.seconds / 3600)
      (hmatchesMiddle : schedule.matchesLocal middle = true) :
      ¬ d.Before middle.seconds time.seconds := by
    intro hbefore
    obtain ⟨hshown, hbeyond⟩ := h.shown middle (scheduled_of_matchesLocal hmatchesMiddle) hmiddle
    have hepoch : time.seconds - schedule.zone.offsetAt first = first := by
      rw [(Zone.toLocal?_eq_some_iff.1 htime).2, Zone.clock, Int.add_sub_cancel]
    have hnearer := Direction.before_sub_iff (c := schedule.zone.offsetAt first).2 hbefore
    rw [hepoch] at hnearer
    exact hfirst.not_before hbeyond hshown hmatchesMiddle hnearer
  obtain ⟨standIn, hstandIn, hlooks, hmatchesStandIn, hnot⟩ :=
    exists_standIn compiled hmatches hafter fun _ => hwithin
  -- the search comes to the repeated hour at a stride of at most an hour
  have hstandInHour : standIn.seconds / 3600 = own.seconds / 3600 := by
    rw [hstandIn, ← hhour]
    exact Direction.same_hour_of_same_unit (Direction.stride_of_next_hour hnext)
      (schedule.standIn_spec d other.seconds time.seconds).1
  have hsame : standIn = time := LocalTime.ext_seconds
    (Direction.eq_of_not_before (hclear standIn hstandInHour hmatchesStandIn) hnot)
  refine search?_eq_of_lookedAt compiled faithful hfirst htime (.inr h.reading) (hsame ▸ hlooks) ?_
  intro middle shown hmiddle hbefore hmatchesMiddle hshown hbeyond
  -- times before the repeated hour lie in the hour of the other reading
  by_cases hmiddleHour : middle.seconds / 3600 = own.seconds / 3600
  · exact hclear middle hmiddleHour hmatchesMiddle hbefore
  · apply h.hidden shown hbeyond
    rw [← (Zone.toLocal?_eq_some_iff.1 hshown).2]
    exact Direction.hour_of_between hmiddle hbefore (hhour.symm ▸ h.hour) (hhour ▸ hmiddleHour)

end Compiled

/-! ## Across fall-backs -/

/-- A search finds the nearest matching instant if clocks change only by going back an hour, at a
whole hour, from a day before the two instants to a day after them. -/
theorem search?_eq_nearest (compiled : schedule.Compiled) (faithful : schedule.zone.Faithful)
    (sparse : schedule.zone.SparseChanges) (hfirst : schedule.IsNearest d reference first)
    (hown : schedule.zone.toLocal? reference = some own)
    (hback : schedule.zone.FallsBackHourly (min reference first - secondsPerDay)
      (max reference first + secondsPerDay))
    (hwithin : ∀ time, schedule.zone.toLocal? first = some time → time.Scheduled →
      ¬ d.Before (schedule.limit d).seconds time.seconds) :
    schedule.search? d reference = some first := by
  obtain ⟨time, htime, hmatches⟩ := hfirst.exists_time
  have hscheduled := scheduled_of_matchesLocal hmatches
  have hlimit := hwithin time htime hscheduled
  have hday : secondsPerDay = 86400 := rfl
  -- the clock shows the instant after the reference, or both lie in a repeated hour
  by_cases hafter : d.Before own.seconds time.seconds
  · refine search?_eq_of_before compiled faithful hfirst hown htime hlimit ?_ hafter
    exact hback.fallsBack (by omega) (by omega)
  · obtain ⟨hhour, other, hrepeated⟩ := Zone.exists_repeatedBetween sparse faithful hown htime
      hscheduled hfirst.beyond hafter fun change hgt hle _ =>
        hback change (by omega) (by omega)
    exact search?_eq_of_repeated compiled faithful hfirst htime hlimit hhour hrepeated

/-- An instant outside the repeated hours shows no time after that of a later instant. -/
theorem clock_le_clock_of_unrepeated {zone : Zone} {a b : Int} (sparse : zone.SparseChanges)
    (hab : a ≤ b) (hback : zone.FallsBackHourly (b - secondsPerDay) (b + secondsPerDay))
    (hunrepeated : ∀ change, zone.FallsBackAt change →
      ¬ (change - 3600 ≤ a ∧ a < change + 3600)) : zone.clock a ≤ zone.clock b := by
  apply Int.not_lt.1
  intro hlt
  have hday : secondsPerDay = 86400 := rfl
  have hne : a ≠ b := by
    rintro rfl
    exact Int.lt_irrefl _ hlt
  obtain ⟨change, hfalls, hgt, hle, hfirst, hlast⟩ := Zone.exists_fall_back sparse
    (show a < b by omega) (Int.le_of_lt hlt) fun change hgt hle hnear =>
      hback change hnear (by omega)
  refine hunrepeated change hfalls ⟨?_, by omega⟩
  rw [Zone.clock, Zone.clock] at hlt
  omega

/-- A fall-back loses and repeats nothing. In a zone whose changes are sparse, where clocks change
only by going back an hour at a whole hour from a day before the two instants to a day after them,
the search forward finds the first matching instant after each reference of the calendar, and the
search backward the last one before it that does not lie before the begin of the horizon. -/
theorem finds_nearest_across_fall_back (compiled : schedule.Compiled)
    (faithful : schedule.zone.Faithful) (sparse : schedule.zone.SparseChanges)
    (hend : schedule.horizon.endEpoch = none)
    (hbegin : ∀ change, schedule.zone.FallsBackAt change →
      ¬ (change - 3600 ≤ schedule.horizon.beginEpoch ∧ schedule.horizon.beginEpoch < change + 3600))
    (hreference : (schedule.zone.toLocal? reference).isSome = true) :
    (∀ first, IsLeast {epoch | reference < epoch ∧ schedule.matchesEpoch epoch = true} first →
      schedule.zone.FallsBackHourly (reference - secondsPerDay) (first + secondsPerDay) →
      schedule.next? reference = some first) ∧
    (∀ last, IsGreatest {epoch | epoch < reference ∧ schedule.matchesEpoch epoch = true} last →
      schedule.horizon.beginEpoch ≤ last →
      schedule.zone.FallsBackHourly (last - secondsPerDay) (reference + secondsPerDay) →
      schedule.previous? reference = some last) := by
  obtain ⟨own, hown⟩ := Option.isSome_iff_exists.1 hreference
  constructor
  · intro first hleast hback
    have hbeyond := hleast.1.1
    refine search?_eq_nearest (d := .forward) compiled faithful sparse (isNearest_of_isLeast hleast)
      hown (hback.mono (by omega) (by omega)) fun time htime hscheduled => ?_
    -- without an end the search forward goes up to the last scheduled time
    refine Int.not_lt.2 (not_after_lastTime hscheduled ?_)
    intro epoch last hepoch _
    rw [hend] at hepoch
    cases hepoch
  · intro last hgreatest hfrom hback
    have hbeyond := hgreatest.1.1
    refine search?_eq_nearest (d := .backward) compiled faithful sparse
      (isNearest_of_isGreatest hgreatest) hown (hback.mono (by omega) (by omega))
      fun time htime hscheduled => ?_
    -- the begin lies in no repeated hour, so the clock shows it before the instant
    refine Int.not_lt.2 (not_before_firstTime hscheduled ?_)
    intro first hfirst
    rw [(Zone.toLocal?_eq_some_iff.1 hfirst).2, (Zone.toLocal?_eq_some_iff.1 htime).2]
    exact clock_le_clock_of_unrepeated sparse hfrom (hback.mono (Int.le_refl _) (by omega)) hbegin

/-- The instants of the repeated hour of 28 September 1980 in Stockholm: from the end of its first
pass the search forward comes to the start of the second one, and back again. -/
theorem finds_nearest_in_repeated_hour :
    ∃ schedule, compile ⟨0, none⟩ "5,58 0,59 2 * * ? *"
        ⟨some "Europe/Stockholm", none, none, none⟩ = .ok schedule ∧
      schedule.next? 338950799 = some 338950805 ∧ schedule.previous? 338950805 = some 338950798 := by
  obtain ⟨schedule, hcompile, compiled, hvalues⟩ := exists_compiled ⟨0, none⟩
    "5,58 0,59 2 * * ? *" ⟨some "Europe/Stockholm", none, none, none⟩
    (fun schedule => (schedule.zone, schedule.horizon,
      schedule.matchesEpoch 338950805, schedule.matchesEpoch 338950798,
      (List.range 5).all fun n => !schedule.matchesEpoch (338950799 + 1 + n),
      (List.range 6).all fun n => !schedule.matchesEpoch (338950798 + 1 + n)))
    (show _ = some (.named .stockholm, ⟨0, none⟩, true, true, true, true) by decide +kernel)
  simp only [Prod.mk.injEq, List.all_eq_true, List.mem_range, Bool.not_eq_true'] at hvalues
  obtain ⟨hzone, hhorizon, hfirst, hlast, hbefore, hafter⟩ := hvalues
  have hleast := isLeast_of_range (show (338950805 : Int) = 338950799 + 1 + 5 by decide) hfirst hbefore
  have hgreatest := isGreatest_of_range (show (338950805 : Int) = 338950798 + 1 + 6 by decide) hlast
    hafter
  have hbegin : ∀ change, schedule.zone.FallsBackAt change →
      ¬ (change - 3600 ≤ schedule.horizon.beginEpoch ∧
        schedule.horizon.beginEpoch < change + 3600) := by
    rw [hzone, hhorizon]
    exact Zone.epoch_unrepeated_stockholm
  have hback {first last : Int} (hfrom : 338864398 ≤ first) (hto : last ≤ 339037205) :
      schedule.zone.FallsBackHourly first last := by
    rw [hzone]
    exact Zone.fallsBackHourly_stockholm.mono hfrom hto
  have hfaithful : schedule.zone.Faithful := hzone ▸ ZoneTable.faithful_of_spaced Zone.spaced_stockholm
  have hsparse : schedule.zone.SparseChanges := hzone ▸ Zone.sparseChanges_stockholm
  refine ⟨schedule, hcompile, ?_, ?_⟩
  · exact (finds_nearest_across_fall_back compiled hfaithful hsparse (by rw [hhorizon]) hbegin
      (by rw [hzone]; decide +kernel)).1 338950805 hleast (hback (by decide) (by decide))
  · exact (finds_nearest_across_fall_back compiled hfaithful hsparse (by rw [hhorizon]) hbegin
      (by rw [hzone]; decide +kernel)).2 338950798 hgreatest (by rw [hhorizon]; decide)
      (hback (by decide) (by decide))

/-- The calendar does not reach the reference, so there is no reading of it to start from. -/
theorem next?_none_outside_calendar :
    ∃ schedule, compile ⟨0, none⟩ "* * * * * ? *" ⟨some "UTC", none, none, none⟩ = .ok schedule ∧
      schedule.zone.Faithful ∧ schedule.zone.SparseChanges ∧ schedule.horizon.endEpoch = none ∧
      (∀ change, schedule.zone.FallsBackAt change →
        ¬ (change - 3600 ≤ schedule.horizon.beginEpoch ∧
          schedule.horizon.beginEpoch < change + 3600)) ∧
      IsLeast {epoch | -10000000000000 < epoch ∧ schedule.matchesEpoch epoch = true} 0 ∧
      schedule.zone.FallsBackHourly (-10000000000000 - secondsPerDay) (0 + secondsPerDay) ∧
      schedule.next? (-10000000000000) = none := by
  obtain ⟨schedule, hcompile, -, hvalues⟩ := exists_compiled ⟨0, none⟩ "* * * * * ? *"
    ⟨some "UTC", none, none, none⟩ (fun schedule => (schedule.zone, schedule.horizon,
      schedule.matchesEpoch 0, schedule.next? (-10000000000000)))
    (show _ = some (.named .utc, ⟨0, none⟩, true, none) by decide +kernel)
  simp only [Prod.mk.injEq] at hvalues
  obtain ⟨hzone, hhorizon, hmatches, hnone⟩ := hvalues
  have hconstant (change : Int) : ¬ schedule.zone.ChangesAt change := by
    rw [hzone]
    exact fun h => h rfl
  refine ⟨schedule, hcompile, ?_, ?_, by rw [hhorizon], ?_, ⟨⟨by decide, hmatches⟩, ?_⟩, ?_, hnone⟩
  · rw [hzone]
    exact ZoneTable.faithful_of_find? (show ZoneTable.find? "UTC" = _ by decide +kernel)
  · rw [hzone]
    exact Zone.sparseChanges_of_spaced (by decide) (by decide)
  · exact fun change hfalls => absurd hfalls.changesAt (hconstant change)
  · rintro epoch ⟨-, htrue⟩
    obtain ⟨time, htime, hmatchesTime⟩ := matchesEpoch_iff.1 htrue
    have hscheduled := (scheduled_of_matchesLocal hmatchesTime).1
    have hclock := (Zone.toLocal?_eq_some_iff.1 htime).2
    rw [hzone] at hclock
    rw [hclock, show (Zone.named .utc).clock epoch = epoch + 0 from rfl, Int.add_zero] at hscheduled
    exact hscheduled
  · exact fun change _ _ hchange => absurd hchange (hconstant change)

end Schedule

end CronSchedule

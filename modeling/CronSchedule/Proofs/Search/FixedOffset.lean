import CronSchedule.Proofs.Search.Readings

/-!
# Searches at a fixed offset

At a fixed offset from UTC wall clocks show the instants in their order, each
time once. There a search is exact in both directions: it answers with the
nearest matching instant beyond the reference, and with nothing only if no
instant up to its horizon matches.
-/

set_option autoImplicit false

namespace CronSchedule

/-! ## Fixed offsets -/

namespace Zone

variable {zone : Zone} {minutes epoch : Int} {time : LocalTime} {d : Direction}

theorem clock_fixed : (fixed minutes).clock epoch = epoch + 60 * minutes := rfl

theorem mem_toEpochs_fixed_iff :
    epoch ∈ (fixed minutes).toEpochs time ↔ time.seconds = (fixed minutes).clock epoch := by
  rw [toEpochs, List.mem_singleton, clock_fixed]
  omega

/-- Up to the largest offset, the instants of a scheduled time lie in the calendar. -/
theorem faithful_fixed (hlow : -Schedule.maxUtcOffset ≤ minutes)
    (hhigh : minutes ≤ Schedule.maxUtcOffset) : (fixed minutes).Faithful where
  mem_toEpochs_iff := by
    intro time ⟨hfirst, hlast⟩ epoch
    rw [mem_toEpochs_fixed_iff, toLocal?_eq_some_iff]
    refine ⟨fun h => ⟨?_, h⟩, fun h => h.2⟩
    rw [LocalTime.ofSeconds?_isSome_iff]
    rw [clock_fixed] at h
    simp only [LocalTime.epoch, LocalTime.lastScheduled, Schedule.maxUtcOffset, firstDayNumber,
      lastDayNumber, secondsPerDay] at *
    omega
  ascending := fun _ _ => List.pairwise_singleton _ _

/-- No local time occurs twice. -/
theorem otherReading?_fixed : (fixed minutes).otherReading? epoch = none := by
  rw [otherReading?]
  cases (fixed minutes).toLocal? epoch with
  | none => rfl
  | some time =>
    cases LocalTime.ofSeconds? epoch with
    | none => rfl
    | some utc => rfl

/-- Wall clocks show the instants in their order. -/
theorem before_iff_of_fixed (hzone : zone = fixed minutes) {a b : Int} {first second : LocalTime}
    (ha : zone.toLocal? a = some first) (hb : zone.toLocal? b = some second) :
    d.Before first.seconds second.seconds ↔ d.Before a b := by
  rw [(toLocal?_eq_some_iff.1 ha).2, (toLocal?_eq_some_iff.1 hb).2, hzone, clock_fixed, clock_fixed]
  cases d with
  | forward =>
    rw [Direction.before_forward, Direction.before_forward]
    omega
  | backward =>
    rw [Direction.before_backward, Direction.before_backward]
    omega

end Zone

namespace Schedule

variable {schedule : Schedule} {d : Direction} {minutes reference epoch : Int} {own time : LocalTime}

/-- The reference has one reading, so one scan gives the answer. -/
theorem search?_eq_scan_of_fixed (hzone : schedule.zone = .fixed minutes)
    (hown : schedule.zone.toLocal? reference = some own) :
    schedule.search? d reference = schedule.scan (schedule.acceptBeyond d reference) d own := by
  rw [search?_eq hown, hzone, Zone.otherReading?_fixed, Option.bind_none]
  cases schedule.scan (schedule.acceptBeyond d reference) d own with
  | none => rfl
  | some epoch => rfl

section FixedOffset

variable (compiled : schedule.Compiled) (hzone : schedule.zone = .fixed minutes)
  (hlow : -maxUtcOffset ≤ minutes) (hhigh : minutes ≤ maxUtcOffset)

include compiled hzone hlow hhigh

/-- A search finds a matching instant or a nearer one, unless it would have to go beyond its limit
day by day. -/
theorem exists_search?_of_fixed (hown : schedule.zone.toLocal? reference = some own)
    (htime : schedule.zone.toLocal? epoch = some time)
    (hmatches : schedule.matchesLocal time = true) (hbeyond : d.Before reference epoch)
    (hwithin : d.stride own.seconds time.seconds = .dayOfMonth →
      ¬ d.Before (schedule.limit d).seconds time.seconds) :
    ∃ found, schedule.search? d reference = some found ∧ ¬ d.Before epoch found := by
  have faithful : schedule.zone.Faithful := hzone ▸ Zone.faithful_fixed hlow hhigh
  have hafter := (Zone.before_iff_of_fixed hzone hown htime).2 hbeyond
  obtain ⟨other, -, hlooks, hother, hnot⟩ :=
    exists_standIn compiled hmatches hafter hwithin
  have hmem : other.seconds - 60 * minutes ∈ schedule.zone.toEpochs other := by
    rw [hzone]
    exact List.mem_singleton.2 rfl
  have hshown := (faithful.mem_toEpochs_iff other (scheduled_of_matchesLocal hother) _).1 hmem
  -- the scan answers with a time up to the stand-in, hence with an instant up to this one
  obtain ⟨found, first, hscan, hfirst, hnotOther, -⟩ := scan_complete compiled faithful hlooks hother
    hshown ((Zone.before_iff_of_fixed hzone hown hshown).1 hlooks.after)
  obtain ⟨nearest, hnearest, hfound⟩ := exists_search?_of_reads (.inl hown) hscan
  have hepoch : ¬ d.Before epoch found := by
    rw [← Zone.before_iff_of_fixed hzone htime hfirst]
    exact Direction.not_before_trans hnot hnotOther
  exact ⟨nearest, hnearest, Direction.not_before_trans hepoch hfound⟩

/-- Nothing that matches lies between the reference and the answer. -/
theorem search?_skips_nothing_of_fixed (h : schedule.search? d reference = some epoch) {other : Int}
    (hreference : d.Before reference other) (hother : d.Before other epoch) :
    schedule.matchesEpoch other = false := by
  have faithful : schedule.zone.Faithful := hzone ▸ Zone.faithful_fixed hlow hhigh
  rw [← Bool.not_eq_true, matchesEpoch_iff]
  rintro ⟨skipped, hskipped, hmatches⟩
  obtain ⟨start, hreads, hscan⟩ := exists_reads_of_search? h
  -- there is no other reading at a fixed offset
  have hown : schedule.zone.toLocal? reference = some start := by
    rcases hreads with hown | hreading
    · exact hown
    · rw [hzone, Zone.otherReading?_fixed] at hreading
      cases hreading
  obtain ⟨time, hlooks, -, htime, -⟩ := scan_sound compiled faithful hscan
  have hbefore := (Zone.before_iff_of_fixed hzone hskipped htime).2 hother
  have hafter := (Zone.before_iff_of_fixed hzone hown hskipped).2 hreference
  -- an instant between the two lies within the limit because the answer does
  obtain ⟨found, hfound, hnot⟩ := exists_search?_of_fixed compiled hzone hlow hhigh hown hskipped
    hmatches hreference fun hday hbeyond => by
      have hstride := Direction.stride_eq_day_of_beyond hafter hday hbefore.asymm
      exact hlooks.within hstride (hbeyond.trans hbefore)
  cases h.symm.trans hfound
  exact hnot hother

/-- Without an answer nothing beyond the reference matches up to the limit. -/
theorem search?_misses_nothing_of_fixed (h : schedule.search? d reference = none)
    (hreference : (schedule.zone.toLocal? reference).isSome = true)
    (hbeyond : d.Before reference epoch)
    (hwithin : ∀ time, schedule.zone.toLocal? epoch = some time → time.Scheduled →
      ¬ d.Before (schedule.limit d).seconds time.seconds) :
    schedule.matchesEpoch epoch = false := by
  rw [← Bool.not_eq_true, matchesEpoch_iff]
  rintro ⟨time, htime, hmatches⟩
  obtain ⟨own, hown⟩ := Option.isSome_iff_exists.1 hreference
  obtain ⟨found, hfound, -⟩ := exists_search?_of_fixed compiled hzone hlow hhigh hown htime hmatches
    hbeyond fun _ => hwithin time htime (scheduled_of_matchesLocal hmatches)
  cases h.symm.trans hfound

end FixedOffset

/-! ## Exactness -/

/-- At a fixed offset the search forward is exact: its answer is the first matching instant after
the reference, and without an answer no instant up to the end of the horizon matches. -/
theorem next?_exact_of_fixed (compiled : schedule.Compiled) (hzone : schedule.zone = .fixed minutes)
    (hlow : -maxUtcOffset ≤ minutes) (hhigh : minutes ≤ maxUtcOffset)
    (hreference : (schedule.zone.toLocal? reference).isSome = true) :
    (∀ found, schedule.next? reference = some found →
      reference < found ∧ schedule.matchesEpoch found = true ∧
        ∀ epoch, reference < epoch → epoch < found → schedule.matchesEpoch epoch = false) ∧
    (schedule.next? reference = none → ∀ epoch, reference < epoch →
      (∀ last, schedule.horizon.endEpoch = some last → epoch ≤ last) →
        schedule.matchesEpoch epoch = false) := by
  have faithful : schedule.zone.Faithful := hzone ▸ Zone.faithful_fixed hlow hhigh
  constructor
  · intro found hfound
    obtain ⟨hafter, hmatches⟩ := search?_sound (d := .forward) compiled faithful hfound
    refine ⟨hafter, hmatches, ?_⟩
    intro epoch hepoch hbefore
    exact search?_skips_nothing_of_fixed (d := .forward) compiled hzone hlow hhigh hfound hepoch hbefore
  · intro hnone epoch hafter hend
    refine search?_misses_nothing_of_fixed (d := .forward) compiled hzone hlow hhigh hnone hreference
      hafter fun time htime hscheduled => ?_
    apply Int.not_lt.2
    apply not_after_lastTime hscheduled
    intro last lastTime hlast hshown
    apply Int.not_lt.1
    rw [← Direction.before_forward, Zone.before_iff_of_fixed hzone hshown htime]
    exact Int.not_lt.2 (hend last hlast)

theorem next?_exact_half_past_two :
    ∃ schedule, compile ⟨0, none⟩ "0 30 2 * * ? *" ⟨none, some 120, none, none⟩ = .ok schedule ∧
      schedule.next? 0 = some 1800 ∧
      (∀ epoch, 0 < epoch → epoch < 1800 → schedule.matchesEpoch epoch = false) ∧
      schedule.next? 4102441200 = none ∧
      ∀ epoch, 4102441200 < epoch → schedule.matchesEpoch epoch = false := by
  obtain ⟨schedule, hcompile, compiled, hvalues⟩ := exists_compiled ⟨0, none⟩ "0 30 2 * * ? *"
    ⟨none, some 120, none, none⟩ (fun schedule => (schedule.zone, schedule.horizon.endEpoch,
      schedule.next? 0, schedule.next? 4102441200))
    (show _ = some (.fixed 120, none, some 1800, none) by decide +kernel)
  simp only [Prod.mk.injEq] at hvalues
  obtain ⟨hzone, hend, hfirst, hnone⟩ := hvalues
  refine ⟨schedule, hcompile, hfirst, ?_, hnone, ?_⟩
  · exact ((next?_exact_of_fixed compiled hzone (by decide) (by decide)
      (by rw [hzone]; decide)).1 1800 hfirst).2.2
  · intro epoch hafter
    exact (next?_exact_of_fixed compiled hzone (by decide) (by decide)
      (by rw [hzone]; decide)).2 hnone epoch hafter (by rw [hend]; intro last h; cases h)

/-- At a fixed offset the search backward is exact: its answer is the last matching instant before
the reference, and without an answer no instant from the begin of the horizon on matches. -/
theorem previous?_exact_of_fixed (compiled : schedule.Compiled)
    (hzone : schedule.zone = .fixed minutes) (hlow : -maxUtcOffset ≤ minutes)
    (hhigh : minutes ≤ maxUtcOffset)
    (hreference : (schedule.zone.toLocal? reference).isSome = true) :
    (∀ found, schedule.previous? reference = some found →
      found < reference ∧ schedule.matchesEpoch found = true ∧
        ∀ epoch, found < epoch → epoch < reference → schedule.matchesEpoch epoch = false) ∧
    (schedule.previous? reference = none → ∀ epoch, schedule.horizon.beginEpoch ≤ epoch →
      epoch < reference → schedule.matchesEpoch epoch = false) := by
  have faithful : schedule.zone.Faithful := hzone ▸ Zone.faithful_fixed hlow hhigh
  constructor
  · intro found hfound
    obtain ⟨hbefore, hmatches⟩ := search?_sound (d := .backward) compiled faithful hfound
    refine ⟨hbefore, hmatches, ?_⟩
    intro epoch hafter hepoch
    exact search?_skips_nothing_of_fixed (d := .backward) compiled hzone hlow hhigh hfound hepoch hafter
  · intro hnone epoch hbegin hbefore
    refine search?_misses_nothing_of_fixed (d := .backward) compiled hzone hlow hhigh hnone hreference
      hbefore fun time htime hscheduled => ?_
    apply Int.not_lt.2
    apply not_before_firstTime hscheduled
    intro first hshown
    apply Int.not_lt.1
    rw [← Direction.before_backward, Zone.before_iff_of_fixed hzone hshown htime]
    exact Int.not_lt.2 hbegin

theorem previous?_exact_half_past_two :
    ∃ schedule, compile ⟨0, none⟩ "0 30 2 * * ? *" ⟨none, some 120, none, none⟩ = .ok schedule ∧
      schedule.previous? 5000 = some 1800 ∧
      (∀ epoch, 1800 < epoch → epoch < 5000 → schedule.matchesEpoch epoch = false) ∧
      schedule.previous? 1800 = none ∧
      ∀ epoch, 0 ≤ epoch → epoch < 1800 → schedule.matchesEpoch epoch = false := by
  obtain ⟨schedule, hcompile, compiled, hvalues⟩ := exists_compiled ⟨0, none⟩ "0 30 2 * * ? *"
    ⟨none, some 120, none, none⟩ (fun schedule => (schedule.zone, schedule.horizon.beginEpoch,
      schedule.previous? 5000, schedule.previous? 1800))
    (show _ = some (.fixed 120, 0, some 1800, none) by decide +kernel)
  simp only [Prod.mk.injEq] at hvalues
  obtain ⟨hzone, hbegin, hlast, hnone⟩ := hvalues
  refine ⟨schedule, hcompile, hlast, ?_, hnone, ?_⟩
  · exact ((previous?_exact_of_fixed compiled hzone (by decide) (by decide)
      (by rw [hzone]; decide)).1 1800 hlast).2.2
  · intro epoch hafter hbefore
    exact (previous?_exact_of_fixed compiled hzone (by decide) (by decide)
      (by rw [hzone]; decide)).2 hnone epoch (hbegin ▸ hafter) hbefore

end Schedule

end CronSchedule

import CronSchedule.Proofs.Zone.Inverse

/-!
# The other reading of an instant

An instant whose local time is shown twice can be read under the offset of the
other instant that shows it. Where offsets are whole minutes this reading is the
local time moved by the time between the two instants, backward for the first of
them and forward for the second (`Zone.otherReading?_of_pair`). It exists unless
it lies beyond the calendar, which it does not where the clock only changes
farther away from the ends of the calendar (`Zone.ClearOfEnds.exists_add?`).
-/

set_option autoImplicit false

namespace CronSchedule

namespace Zone

variable {zone : Zone} {a b epoch first second : Int} {time utc : LocalTime}

/-! ## Offsets of whole minutes -/

/-- Are all offsets of the zone whole minutes? -/
def WholeMinutes (zone : Zone) : Prop := ∀ epoch, 60 ∣ zone.offsetAt epoch

theorem wholeMinutes_of_offsets {table : ZoneTable} (h : ∀ offset ∈ table.offsets, 60 ∣ offset) :
    (named table).WholeMinutes :=
  fun epoch => h _ (ZoneTable.offsetAt_mem epoch)

theorem offsetMinutesAt_eq (hwhole : zone.WholeMinutes)
    (hepoch : (LocalTime.ofSeconds? epoch).isSome = true) :
    60 * zone.offsetMinutesAt epoch = zone.offsetAt epoch := by
  have hdvd := hwhole epoch
  cases zone with
  | fixed minutes => rfl
  | named table =>
    rw [offsetMinutesAt, if_pos hepoch]
    exact Int.mul_tdiv_cancel' hdvd

/-- Under the offset of an instant that shows a time, another instant shows the time moved by as much
as it lies away. -/
theorem add?_offsetMinutesAt (hwhole : zone.WholeMinutes)
    (hutc : LocalTime.ofSeconds? a = some utc) (hb : zone.toLocal? b = some time) :
    utc.add? (60 * zone.offsetMinutesAt b) = time.add? (a - b) := by
  obtain ⟨hepoch, hclock⟩ := toLocal?_eq_some_iff.1 hb
  have hseconds := LocalTime.ofSeconds?_eq_some_iff.1 hutc
  rw [offsetMinutesAt_eq hwhole hepoch, LocalTime.add?, LocalTime.add?, hseconds, hclock, clock]
  congr 1
  omega

/-- The other reading of an instant goes by the instants that its local time denotes. -/
theorem otherReading?_eq (h : zone.toLocal? epoch = some time) :
    ∃ utc, LocalTime.ofSeconds? epoch = some utc ∧ zone.otherReading? epoch =
      match zone.toEpochs time with
      | [first, second] =>
        if first = epoch then utc.add? (60 * zone.offsetMinutesAt second)
        else if second = epoch then utc.add? (60 * zone.offsetMinutesAt first)
        else none
      | _ => none := by
  obtain ⟨utc, hutc⟩ := Option.isSome_iff_exists.1 (toLocal?_eq_some_iff.1 h).1
  refine ⟨utc, hutc, ?_⟩
  rw [otherReading?, h, hutc]
  rfl

/-- Of two instants that a time denotes, each is read under the offset of the other. -/
theorem otherReading?_of_pair (hwhole : zone.WholeMinutes)
    (hepochs : zone.toEpochs time = [first, second]) (hfirst : zone.toLocal? first = some time)
    (hsecond : zone.toLocal? second = some time) :
    zone.otherReading? first = time.add? (first - second) ∧
      zone.otherReading? second = time.add? (second - first) := by
  constructor
  · obtain ⟨utc, hutc, hreading⟩ := otherReading?_eq hfirst
    simp only [hreading, hepochs, if_true]
    exact add?_offsetMinutesAt hwhole hutc hsecond
  · obtain ⟨utc, hutc, hreading⟩ := otherReading?_eq hsecond
    simp only [hreading, hepochs, if_true]
    -- if both are the same instant, the reading is that of the first one
    split
    case isTrue hsame =>
      subst hsame
      exact add?_offsetMinutesAt hwhole hutc hsecond
    case isFalse => exact add?_offsetMinutesAt hwhole hutc hfirst

theorem otherReading?_of_single (h : zone.toLocal? epoch = some time)
    (hepochs : (zone.toEpochs time).length = 1) : zone.otherReading? epoch = none := by
  obtain ⟨only, honly⟩ := List.length_eq_one_iff.1 hepochs
  obtain ⟨utc, -, hreading⟩ := otherReading?_eq h
  rw [hreading, honly]

/-! ## The ends of the calendar -/

/-- Offsets are less than a day, and where they change the calendar goes on for three days on either
side. -/
structure ClearOfEnds (zone : Zone) : Prop where
  less_than_day : ∀ epoch, -secondsPerDay < zone.offsetAt epoch ∧ zone.offsetAt epoch < secondsPerDay
  change_inside : ∀ change, zone.ChangesAt change →
    (firstDayNumber + 3) * secondsPerDay ≤ change ∧ change ≤ (lastDayNumber - 2) * secondsPerDay

/-- The zones of the registry change their clocks far from the ends of the calendar. -/
theorem clearOfEnds_of_mem_registry {table : ZoneTable} (h : table ∈ ZoneTable.registry) :
    (named table).ClearOfEnds where
  less_than_day := by
    intro epoch
    have hoffset := ZoneTable.offset_bounds_of_mem_registry table h _ (ZoneTable.offsetAt_mem epoch)
    rw [secondsPerDay]
    omega
  change_inside := by
    have hchanges : ∀ table ∈ ZoneTable.registry, ∀ entry ∈ table.changes,
        (firstDayNumber + 3) * secondsPerDay ≤ entry.epoch ∧
          entry.epoch ≤ (lastDayNumber - 2) * secondsPerDay := by
      decide +kernel
    intro change hchange
    obtain ⟨entry, hentry, rfl⟩ := ZoneTable.exists_of_changesAt hchange
    exact hchanges table h entry hentry

/-- Where two instants show the same time, the offset changes between them. -/
theorem exists_changesAt_of_same_clock (hne : a ≠ b) (hclock : zone.clock a = zone.clock b) :
    ∃ change, zone.ChangesAt change ∧ (a < change ∧ change ≤ b ∨ b < change ∧ change ≤ a) := by
  rw [clock, clock] at hclock
  rcases Int.lt_or_gt_of_ne hne with hlt | hgt
  · obtain ⟨change, hafter, hle, hchange⟩ := exists_changesAt (Int.le_of_lt hlt)
      (show zone.offsetAt a ≠ zone.offsetAt b by omega)
    exact ⟨change, hchange, .inl ⟨hafter, hle⟩⟩
  · obtain ⟨change, hafter, hle, hchange⟩ := exists_changesAt (Int.le_of_lt hgt)
      (show zone.offsetAt b ≠ zone.offsetAt a by omega)
    exact ⟨change, hchange, .inr ⟨hafter, hle⟩⟩

/-- The calendar holds a time that is shown twice also when it is moved by the time between the two
instants. -/
theorem ClearOfEnds.exists_add? (clear : zone.ClearOfEnds) (ha : zone.toLocal? a = some time)
    (hb : zone.toLocal? b = some time) : ∃ reading, time.add? (a - b) = some reading := by
  have hclockA := (toLocal?_eq_some_iff.1 ha).2
  have hclockB := (toLocal?_eq_some_iff.1 hb).2
  by_cases hne : a = b
  · refine ⟨time, LocalTime.add?_eq_some_iff.2 ?_⟩
    omega
  · obtain ⟨change, hchange, hbetween⟩ :=
      exists_changesAt_of_same_clock hne (hclockA.symm.trans hclockB)
    -- both instants lie within two days of the change, and an offset moves them by less than a day
    have hinside := clear.change_inside change hchange
    have hoffsetA := clear.less_than_day a
    have hoffsetB := clear.less_than_day b
    rw [clock] at hclockA hclockB
    apply Option.isSome_iff_exists.1
    rw [LocalTime.add?, LocalTime.ofSeconds?_isSome_iff]
    simp only [secondsPerDay, firstDayNumber, lastDayNumber] at *
    omega

/-! ## Times that are shown twice -/

/-- Let the offsets of a zone be whole minutes and let the local time of an instant denote exactly
the instants that show it. If it denotes one instant, there is no other reading. If it denotes two,
the other reading of the first one is the time less the time between the two, and that of the second
one is the time and the time between the two. Both exist unless they lie beyond the calendar, which
they do not in a zone that stays clear of its ends. -/
theorem otherReading?_under_other_pass (hwhole : zone.WholeMinutes)
    (h : zone.toLocal? epoch = some time)
    (hexact : ∀ other, other ∈ zone.toEpochs time ↔ zone.toLocal? other = some time) :
    ((zone.toEpochs time).length = 1 → zone.otherReading? epoch = none) ∧
      ∀ first second, zone.toEpochs time = [first, second] →
        (epoch = first ∨ epoch = second) ∧
        zone.otherReading? first = time.add? (-(second - first)) ∧
        zone.otherReading? second = time.add? (second - first) ∧
        (zone.ClearOfEnds → ∃ earlier later,
          zone.otherReading? first = some earlier ∧
          earlier.seconds = time.seconds - (second - first) ∧
          zone.otherReading? second = some later ∧
          later.seconds = time.seconds + (second - first)) := by
  refine ⟨otherReading?_of_single h, ?_⟩
  intro first second hepochs
  have hfirst := (hexact first).1 (by rw [hepochs]; exact List.mem_cons_self)
  have hsecond := (hexact second).1 (by rw [hepochs]; simp)
  have hepoch := (hexact epoch).2 h
  rw [hepochs, List.mem_pair] at hepoch
  obtain ⟨hreadFirst, hreadSecond⟩ := otherReading?_of_pair hwhole hepochs hfirst hsecond
  refine ⟨hepoch, by rw [hreadFirst, Int.neg_sub], hreadSecond, ?_⟩
  intro clear
  obtain ⟨earlier, hearlier⟩ := clear.exists_add? hfirst hsecond
  obtain ⟨later, hlater⟩ := clear.exists_add? hsecond hfirst
  refine ⟨earlier, later, hreadFirst.trans hearlier, ?_, hreadSecond.trans hlater,
    LocalTime.add?_eq_some_iff.1 hlater⟩
  rw [LocalTime.add?_eq_some_iff.1 hearlier]
  omega

/-- On 7 April 2024 Lord Howe puts its clocks back by half an hour and shows a quarter to two twice.
The other readings are a quarter past one and a quarter past two; the instant that shows a quarter
past two has no other reading. -/
theorem otherReading?_under_other_pass_lord_howe :
    let twice : LocalTime := ⟨1712454300, by decide, by decide⟩
    let once : LocalTime := ⟨1712456100, by decide, by decide⟩
    LocalTime.ofParts? 2024 4 7 1 45 0 = some twice ∧ (named .lordHowe).WholeMinutes ∧
      (named .lordHowe).toLocal? 1712416500 = some twice ∧
      (∀ other, other ∈ (named .lordHowe).toEpochs twice ↔
        (named .lordHowe).toLocal? other = some twice) ∧
      (named .lordHowe).toEpochs twice = [1712414700, 1712416500] ∧
      (named .lordHowe).ClearOfEnds ∧
      (∃ earlier later, (named .lordHowe).otherReading? 1712414700 = some earlier ∧
        earlier.seconds = twice.seconds - 1800 ∧
        (named .lordHowe).otherReading? 1712416500 = some later ∧
        later.seconds = twice.seconds + 1800) ∧
      (named .lordHowe).toLocal? 1712418300 = some once ∧
      ((named .lordHowe).toEpochs once).length = 1 ∧
      (named .lordHowe).otherReading? 1712418300 = none := by
  intro twice once
  have hmem : ZoneTable.lordHowe ∈ ZoneTable.registry := by decide +kernel
  have jumps : (named .lordHowe).JumpsApart := jumpsApart_of_mem_registry hmem
  have clear : (named .lordHowe).ClearOfEnds := clearOfEnds_of_mem_registry hmem
  have hwhole : (named .lordHowe).WholeMinutes := wholeMinutes_of_offsets (by decide +kernel)
  have htwice : (named .lordHowe).toLocal? 1712416500 = some twice := by decide +kernel
  have honce : (named .lordHowe).toLocal? 1712418300 = some once := by decide +kernel
  have hepochs : (named .lordHowe).toEpochs twice = [1712414700, 1712416500] := by decide +kernel
  have hlength : ((named .lordHowe).toEpochs once).length = 1 := by decide +kernel
  have hexact := (jumps.toEpochs_of_toLocal? htwice).1
  obtain ⟨-, hpair⟩ := otherReading?_under_other_pass hwhole htwice hexact
  obtain ⟨-, -, -, hreadings⟩ := hpair _ _ hepochs
  obtain ⟨hnone, -⟩ :=
    otherReading?_under_other_pass hwhole honce (jumps.toEpochs_of_toLocal? honce).1
  exact ⟨by decide, hwhole, htwice, hexact, hepochs, clear, hreadings clear, honce, hlength,
    hnone hlength⟩

end Zone

end CronSchedule

import CronSchedule.Proofs.Zone.OtherReading
import Mathlib.Data.List.Sort

/-!
# Clocks that go back an hour

Where the changes of a zone lie more than two days apart, a clock that goes back
an hour at a whole hour shows the times of one hour twice, first before the change
and then after it, and no other times (`Zone.offsetAt_of_ge_fall_back`,
`Zone.offsetAt_of_lt_fall_back`). Two instants at which the clock does not follow
the instants lie in such an hour, one in each pass (`Zone.exists_fall_back`).
-/

set_option autoImplicit false

namespace CronSchedule

namespace Zone

variable {zone : Zone} {a b change epoch : Int} {time : LocalTime}

/-! ## Sparse changes -/

/-- Offsets are whole minutes and less than a day, and they change by at most a day at instants
that lie more than two days apart. -/
structure SparseChanges (zone : Zone) : Prop where
  whole_minutes : ∀ epoch, 60 ∣ zone.offsetAt epoch
  less_than_day : ∀ epoch, -secondsPerDay < zone.offsetAt epoch ∧ zone.offsetAt epoch < secondsPerDay
  at_most_day : ∀ change, -secondsPerDay ≤ zone.offsetAt change - zone.offsetAt (change - 1) ∧
    zone.offsetAt change - zone.offsetAt (change - 1) ≤ secondsPerDay
  apart : ∀ first second, zone.ChangesAt first → zone.ChangesAt second → first < second →
    2 * secondsPerDay < second - first

/-- The changes of a table are sparse if they stand more than two days apart between offsets of at
most twelve hours. -/
theorem sparseChanges_of_spaced {table : ZoneTable} (h : table.Spaced 172800)
    (hoffsets : ∀ offset ∈ table.offsets, 60 ∣ offset ∧ -43200 ≤ offset ∧ offset ≤ 43200) :
    (named table).SparseChanges where
  whole_minutes := fun epoch => (hoffsets _ (ZoneTable.offsetAt_mem epoch)).1
  less_than_day := by
    intro epoch
    have hoffset := hoffsets _ (ZoneTable.offsetAt_mem epoch)
    rw [secondsPerDay]
    omega
  at_most_day := by
    intro change
    have hbefore := hoffsets _ (ZoneTable.offsetAt_mem (change - 1))
    have hafter := hoffsets _ (ZoneTable.offsetAt_mem change)
    rw [secondsPerDay]
    omega
  apart := by
    intro first second hfirst hsecond hlt
    obtain ⟨a, ha, rfl⟩ := ZoneTable.exists_of_changesAt hfirst
    obtain ⟨b, hb, rfl⟩ := ZoneTable.exists_of_changesAt hsecond
    have hprecedes := h.precedes ha hb hlt
    rw [ZoneTable.Precedes] at hprecedes
    rw [secondsPerDay]
    omega

/-- Do clocks go back an hour at the instant, and does the hour that is repeated begin on a whole
hour of the clock? -/
def FallsBackAt (zone : Zone) (change : Int) : Prop :=
  zone.offsetAt (change - 1) = zone.offsetAt change + 3600 ∧ 3600 ∣ zone.clock change

instance (zone : Zone) (change : Int) : Decidable (zone.FallsBackAt change) :=
  inferInstanceAs (Decidable (_ ∧ _))

theorem FallsBackAt.changesAt (h : zone.FallsBackAt change) : zone.ChangesAt change := by
  have hoffset := h.1
  rw [ChangesAt]
  omega

section SparseChanges

variable (sparse : zone.SparseChanges)

include sparse

/-- Only the calendar could hide an instant that shows a scheduled time, and it reaches farther. -/
theorem toLocal?_of_scheduled (hscheduled : time.Scheduled) (hclock : time.seconds = zone.clock epoch) :
    zone.toLocal? epoch = some time := by
  have hoffset := sparse.less_than_day epoch
  rw [toLocal?_eq_some_iff, LocalTime.ofSeconds?_isSome_iff]
  refine ⟨?_, hclock⟩
  rw [clock] at hclock
  simp only [LocalTime.Scheduled, LocalTime.epoch, LocalTime.lastScheduled, firstDayNumber,
    lastDayNumber, secondsPerDay] at *
  omega

theorem offsetAt_of_near_after (hchange : zone.ChangesAt change) (hafter : change ≤ epoch)
    (hnear : epoch ≤ change + 2 * secondsPerDay) : zone.offsetAt epoch = zone.offsetAt change := by
  refine (offsetAt_eq_of_no_change hafter ?_).symm
  intro other hgt hle hother
  have hapart := sparse.apart change other hchange hother hgt
  omega

theorem offsetAt_of_near_before (hchange : zone.ChangesAt change) (hbefore : epoch < change)
    (hnear : change - 2 * secondsPerDay ≤ epoch) :
    zone.offsetAt epoch = zone.offsetAt (change - 1) := by
  refine offsetAt_eq_of_no_change (by omega) ?_
  intro other hgt hle hother
  have hapart := sparse.apart other change hother hchange (by omega)
  omega

/-- Within four days after a change the offset changes at most once more. -/
theorem offsetAt_after (hchange : zone.ChangesAt change) (hafter : change ≤ epoch)
    (hnear : epoch ≤ change + 4 * secondsPerDay) :
    zone.offsetAt change - secondsPerDay ≤ zone.offsetAt epoch := by
  by_cases hsame : zone.offsetAt change = zone.offsetAt epoch
  · simp only [secondsPerDay]
    omega
  · obtain ⟨next, hgt, hle, hnext⟩ := exists_changesAt hafter hsame
    -- a second change may follow the first one, a third one lies too far away
    have hapart := sparse.apart change next hchange hnext hgt
    have hbefore : zone.offsetAt change = zone.offsetAt (next - 1) := by
      refine offsetAt_eq_of_no_change (by omega) ?_
      intro other hother hbefore hbetween
      have hfirst := sparse.apart change other hchange hbetween hother
      have hsecond := sparse.apart other next hbetween hnext (by omega)
      omega
    have hthen := offsetAt_of_near_after sparse hnext hle (by omega)
    have hjump := sparse.at_most_day next
    omega

/-- Within four days before a change the offset changes at most once more. -/
theorem offsetAt_before (hchange : zone.ChangesAt change) (hbefore : epoch < change)
    (hnear : change - 4 * secondsPerDay ≤ epoch) :
    zone.offsetAt epoch ≤ zone.offsetAt (change - 1) + secondsPerDay := by
  by_cases hsame : zone.offsetAt epoch = zone.offsetAt (change - 1)
  · simp only [secondsPerDay]
    omega
  · obtain ⟨last, hgt, hle, hlast⟩ := exists_changesAt (by omega) hsame
    -- one change may precede the given one, a further one lies too far away
    have hapart := sparse.apart last change hlast hchange (by omega)
    have hafter : zone.offsetAt epoch = zone.offsetAt (last - 1) := by
      refine offsetAt_eq_of_no_change (by omega) ?_
      intro other hother hle' hbetween
      have hfirst := sparse.apart other last hbetween hlast (by omega)
      omega
    have hthen : zone.offsetAt last = zone.offsetAt (change - 1) := by
      apply offsetAt_eq_of_no_change hle
      intro other hother hle' hbetween
      have hfirst := sparse.apart last other hlast hbetween hother
      have hsecond := sparse.apart other change hbetween hchange (by omega)
      omega
    have hjump := sparse.at_most_day last
    omega

/-! ## The two passes of a repeated hour -/

/-- From a fall-back on the clock shows no time before the repeated hour, and more than two days
later none in it. -/
theorem offsetAt_of_ge_fall_back (h : zone.FallsBackAt change) (hafter : change ≤ epoch) :
    zone.offsetAt epoch = zone.offsetAt change ∨
      change + 2 * secondsPerDay < epoch ∧ zone.clock change + 3600 ≤ zone.clock epoch := by
  -- within four days one more change moves the clock by at most a day, and later no offset makes
  -- up for the distance
  rcases Int.lt_or_le (change + 2 * secondsPerDay) epoch with hfar | hnear
  · refine .inr ⟨hfar, ?_⟩
    have hchange := sparse.less_than_day change
    have hepoch := sparse.less_than_day epoch
    have hclose := fun hnear => offsetAt_after sparse h.changesAt hafter hnear
    simp only [clock, secondsPerDay] at *
    omega
  · exact .inl (offsetAt_of_near_after sparse h.changesAt hafter hnear)

/-- Before a fall-back the clock shows no time after the repeated hour, and more than two days
earlier none in it. -/
theorem offsetAt_of_lt_fall_back (h : zone.FallsBackAt change) (hbefore : epoch < change) :
    zone.offsetAt epoch = zone.offsetAt change + 3600 ∨
      epoch < change - 2 * secondsPerDay ∧ zone.clock epoch < zone.clock change := by
  rcases Int.lt_or_le epoch (change - 2 * secondsPerDay) with hfar | hnear
  · refine .inr ⟨hfar, ?_⟩
    have hchange := sparse.less_than_day change
    have hepoch := sparse.less_than_day epoch
    have hclose := fun hnear => offsetAt_before sparse h.changesAt hbefore hnear
    have hback := h.1
    simp only [clock, secondsPerDay] at *
    omega
  · exact .inl ((offsetAt_of_near_before sparse h.changesAt hbefore hnear).trans h.1)

/-- Where a later instant does not show a later time, the clock has gone back in between, and the
two instants lie in the two passes of the repeated hour. -/
theorem exists_fall_back (hab : a < b) (hclock : zone.clock b ≤ zone.clock a)
    (hback : ∀ change, a < change → change ≤ b → b - secondsPerDay < change →
      zone.ChangesAt change → zone.FallsBackAt change) :
    ∃ change, zone.FallsBackAt change ∧ a < change ∧ change ≤ b ∧
      zone.offsetAt a = zone.offsetAt change + 3600 ∧ zone.offsetAt b = zone.offsetAt change := by
  have hfirst := sparse.less_than_day a
  have hlast := sparse.less_than_day b
  have hdiffer : zone.offsetAt a ≠ zone.offsetAt b := by
    rw [clock, clock] at hclock
    omega
  obtain ⟨change, hgt, hle, hchange⟩ := exists_changesAt (Int.le_of_lt hab) hdiffer
  -- offsets of less than a day cannot reverse instants that lie farther apart
  have hclose : b - a < 2 * secondsPerDay := by
    rw [clock, clock] at hclock
    omega
  have hbefore := offsetAt_of_near_before sparse hchange hgt (by omega)
  have hafter := offsetAt_of_near_after sparse hchange hle (by omega)
  -- a change of at most a day reverses only instants within a day after it
  have hjump := sparse.at_most_day change
  have hfalls := hback change hgt hle (by rw [clock, clock] at hclock; omega) hchange
  exact ⟨change, hfalls, hgt, hle, hbefore.trans hfalls.1, hafter⟩

/-! ## The two readings of a repeated hour -/

theorem clock_first_pass (h : zone.FallsBackAt change) {seconds : Int}
    (hfirst : zone.clock change ≤ seconds) (hlast : seconds < zone.clock change + 3600) :
    zone.clock (seconds - zone.offsetAt change - 3600) = seconds := by
  have hpass := offsetAt_of_lt_fall_back sparse h
    (show seconds - zone.offsetAt change - 3600 < change by rw [clock] at hlast; omega)
  simp only [clock, secondsPerDay] at *
  omega

theorem clock_second_pass (h : zone.FallsBackAt change) {seconds : Int}
    (hfirst : zone.clock change ≤ seconds) (hlast : seconds < zone.clock change + 3600) :
    zone.clock (seconds - zone.offsetAt change) = seconds := by
  have hpass := offsetAt_of_ge_fall_back sparse h
    (show change ≤ seconds - zone.offsetAt change by rw [clock] at hfirst; omega)
  simp only [clock, secondsPerDay] at *
  omega

theorem toLocal?_first_pass (h : zone.FallsBackAt change) (hscheduled : time.Scheduled)
    (hfirst : zone.clock change ≤ time.seconds) (hlast : time.seconds < zone.clock change + 3600) :
    zone.toLocal? (time.seconds - zone.offsetAt change - 3600) = some time :=
  toLocal?_of_scheduled sparse hscheduled (clock_first_pass sparse h hfirst hlast).symm

theorem toLocal?_second_pass (h : zone.FallsBackAt change) (hscheduled : time.Scheduled)
    (hfirst : zone.clock change ≤ time.seconds) (hlast : time.seconds < zone.clock change + 3600) :
    zone.toLocal? (time.seconds - zone.offsetAt change) = some time :=
  toLocal?_of_scheduled sparse hscheduled (clock_second_pass sparse h hfirst hlast).symm

/-- From the first pass on the clock does not show the hour before the repeated one. -/
theorem hour_before_hidden (h : zone.FallsBackAt change) (hfrom : change - 3600 ≤ epoch) :
    zone.clock epoch / 3600 ≠ zone.clock change / 3600 - 1 := by
  obtain ⟨hour, hhour⟩ := h.2
  have hclock : zone.clock epoch = epoch + zone.offsetAt epoch := rfl
  have hchange : zone.clock change = change + zone.offsetAt change := rfl
  have hday : secondsPerDay = 86400 := rfl
  rcases Int.lt_or_le epoch change with hbefore | hafter
  · rcases offsetAt_of_lt_fall_back sparse h hbefore with hoffset | ⟨hfar, -⟩
    · omega
    · omega
  · rcases offsetAt_of_ge_fall_back sparse h hafter with hoffset | ⟨-, hlate⟩
    · omega
    · omega

/-- Up to the second pass the clock does not show the hour after the repeated one. -/
theorem hour_after_hidden (h : zone.FallsBackAt change) (hto : epoch < change + 3600) :
    zone.clock epoch / 3600 ≠ zone.clock change / 3600 + 1 := by
  obtain ⟨hour, hhour⟩ := h.2
  have hclock : zone.clock epoch = epoch + zone.offsetAt epoch := rfl
  have hchange : zone.clock change = change + zone.offsetAt change := rfl
  have hday : secondsPerDay = 86400 := rfl
  rcases Int.lt_or_le epoch change with hbefore | hafter
  · rcases offsetAt_of_lt_fall_back sparse h hbefore with hoffset | ⟨-, hearly⟩
    · omega
    · omega
  · rcases offsetAt_of_ge_fall_back sparse h hafter with hoffset | ⟨hfar, -⟩
    · omega
    · omega

/-- Only one instant of each pass shows a time of the repeated hour. -/
theorem pass_of_repeated (h : zone.FallsBackAt change) {seconds : Int}
    (hfirst : zone.clock change ≤ seconds) (hlast : seconds < zone.clock change + 3600)
    (hclock : zone.clock epoch = seconds) :
    epoch < change ∧ epoch = seconds - zone.offsetAt change - 3600 ∨
      change ≤ epoch ∧ epoch = seconds - zone.offsetAt change := by
  rcases Int.lt_or_le epoch change with hbefore | hafter
  · rcases offsetAt_of_lt_fall_back sparse h hbefore with hoffset | ⟨-, hearly⟩
    · refine .inl ⟨hbefore, ?_⟩
      rw [← hclock, clock]
      omega
    · omega
  · rcases offsetAt_of_ge_fall_back sparse h hafter with hoffset | ⟨-, hlate⟩
    · refine .inr ⟨hafter, ?_⟩
      rw [← hclock, clock]
      omega
    · omega

/-- A time of the repeated hour denotes two instants, one in each pass. -/
theorem toEpochs_of_repeated (faithful : zone.Faithful) (h : zone.FallsBackAt change)
    (hscheduled : time.Scheduled) (hfirst : zone.clock change ≤ time.seconds)
    (hlast : time.seconds < zone.clock change + 3600) :
    zone.toEpochs time =
      [time.seconds - zone.offsetAt change - 3600, time.seconds - zone.offsetAt change] := by
  -- both lists ascend, so it is enough that they have the same members
  refine (faithful.ascending time hscheduled).eq_of_mem_iff ?_ fun {epoch} => ?_
  · exact List.pairwise_pair.2 (by omega)
  · rw [faithful.mem_toEpochs_iff time hscheduled, List.mem_pair]
    constructor
    · intro hshown
      have hclock := (toLocal?_eq_some_iff.1 hshown).2
      exact (pass_of_repeated sparse h hfirst hlast hclock.symm).imp And.right And.right
    · rintro (rfl | rfl)
      · exact toLocal?_first_pass sparse h hscheduled hfirst hlast
      · exact toLocal?_second_pass sparse h hscheduled hfirst hlast

/-- An instant of the repeated hour can be read under the offset of the other pass too, an hour
earlier in the first pass and an hour later in the second. -/
theorem exists_otherReading? (faithful : zone.Faithful) (h : zone.FallsBackAt change)
    (hscheduled : time.Scheduled) (hfirst : zone.clock change ≤ time.seconds)
    (hlast : time.seconds < zone.clock change + 3600) (htime : zone.toLocal? epoch = some time) :
    ∃ other, zone.otherReading? epoch = some other ∧
      other.seconds = if epoch < change then time.seconds - 3600 else time.seconds + 3600 := by
  have hclock := (toLocal?_eq_some_iff.1 htime).2
  obtain ⟨hreadFirst, hreadSecond⟩ := otherReading?_of_pair sparse.whole_minutes
    (toEpochs_of_repeated sparse faithful h hscheduled hfirst hlast)
    (toLocal?_first_pass sparse h hscheduled hfirst hlast)
    (toLocal?_second_pass sparse h hscheduled hfirst hlast)
  have hday : secondsPerDay = 86400 := rfl
  rcases pass_of_repeated sparse h hfirst hlast hclock.symm with ⟨hbefore, rfl⟩ | ⟨hafter, rfl⟩
  · obtain ⟨other, hother⟩ := hscheduled.exists_near (show _ ≤ time.seconds - 3600 ∧ _ by omega)
    refine ⟨other, ?_, by rw [if_pos hbefore, hother]⟩
    rw [hreadFirst, LocalTime.add?_eq_some_iff]
    omega
  · obtain ⟨other, hother⟩ := hscheduled.exists_near (show _ ≤ time.seconds + 3600 ∧ _ by omega)
    refine ⟨other, ?_, by rw [if_neg (by omega), hother]⟩
    rw [hreadSecond, LocalTime.add?_eq_some_iff]
    omega

end SparseChanges

end Zone

end CronSchedule

import CronSchedule.Proofs.Months
import CronSchedule.Proofs.Zone.Table

/-!
# Conversions between instants and times

A time is determined by its name, the date and the clock reading
(`LocalTime.ofParts?_eq_some_iff`), and by the instants at which a zone shows it.
Where any two changes of a zone lie farther apart than their two jumps together,
two instants show the same time only if exactly one change lies between them
(`Zone.JumpsApart.exists_repeating_change`). So no time is shown by three instants,
and the conversions of `Zone.toLocal?` and `Zone.toEpochs` are inverse to each
other (`Zone.conversions_inverse`).
-/

set_option autoImplicit false

namespace CronSchedule

/-! ## Names of times -/

namespace LocalTime

variable {time : LocalTime}

/-- A time is found by the name of its date and its reading of the clock only. -/
theorem ofParts?_eq_some_iff {year : Int} {month day hour minute second : Nat} :
    ofParts? year month day hour minute second = some time ↔
      (time.date.year = year ∧ time.date.month = month ∧ time.date.day = day) ∧
        time.hour = hour ∧ time.minute = minute ∧ time.second = second := by
  have hdate : time.date.number = time.seconds / secondsPerDay := rfl
  rw [ofParts?]
  simp only [LocalTime.hour, LocalTime.minute, LocalTime.second, secondOfDay, secondsPerDay] at *
  constructor
  · intro h
    split at h
    · next hclock =>
      obtain ⟨date, hname, htime⟩ := Option.bind_eq_some_iff.1 h
      have hseconds := ofSeconds?_eq_some_iff.1 htime
      rw [secondsPerDay] at hseconds
      have hnumber : time.date.number = date.number := by omega
      have hsame : time.date = date := by
        cases date
        rw [LocalTime.date, Date.mk.injEq]
        exact hnumber
      rw [hsame]
      exact ⟨Date.ofName?_eq_some_iff.1 hname, by omega, by omega, by omega⟩
    · cases h
  · rintro ⟨hname, hhour, hminute, hsecond⟩
    rw [if_pos (by omega), Date.ofName?_eq_some_iff.2 hname, Option.bind_some]
    apply ofSeconds?_eq_some_iff.2
    rw [secondsPerDay]
    omega

end LocalTime

/-! ## Jumps of a clock -/

namespace Zone

variable {zone : Zone} {a b c epoch : Int} {time : LocalTime}

/-- How far the offset jumps at an instant. -/
def jump (zone : Zone) (epoch : Int) : Int := zone.offsetAt epoch - zone.offsetAt (epoch - 1)

/-- The changes of a named zone ascend, and any two changes of the offset lie farther apart than
their two jumps together. -/
structure JumpsApart (zone : Zone) : Prop where
  ascending : ∀ table, zone = named table → table.Spaced 0
  apart : ∀ first second, zone.ChangesAt first → zone.ChangesAt second → first < second →
    (zone.jump first).natAbs + (zone.jump second).natAbs < second - first

/-- The offset of a fixed zone never jumps. -/
theorem jumpsApart_fixed (minutes : Int) : (fixed minutes).JumpsApart where
  ascending := nofun
  apart := fun _ _ hfirst => absurd rfl hfirst

/-- It is enough that the changes of a table stand farther apart than twice the distance of any two
of its offsets. -/
theorem jumpsApart_of_spaced {table : ZoneTable} {gap : Nat} {low high : Int}
    (h : table.Spaced gap) (hgap : 2 * (high - low) ≤ gap)
    (hoffsets : ∀ offset ∈ table.offsets, low ≤ offset ∧ offset ≤ high) :
    (named table).JumpsApart where
  ascending := by
    rintro other ⟨⟩
    exact h.imp fun hab => by
      rw [ZoneTable.Precedes] at *
      omega
  apart := by
    have hjump (epoch : Int) : ((named table).jump epoch).natAbs ≤ high - low := by
      have hbefore := hoffsets _ (ZoneTable.offsetAt_mem (epoch - 1))
      have hafter := hoffsets _ (ZoneTable.offsetAt_mem epoch)
      rw [jump]
      omega
    intro first second hfirst hsecond hlt
    have hjumpFirst := hjump first
    have hjumpSecond := hjump second
    obtain ⟨x, hx, rfl⟩ := ZoneTable.exists_of_changesAt hfirst
    obtain ⟨y, hy, rfl⟩ := ZoneTable.exists_of_changesAt hsecond
    have hprecedes := h.precedes hx hy hlt
    rw [ZoneTable.Precedes] at hprecedes
    omega

/-- In the zones of the registry, changes lie far enough apart. -/
theorem jumpsApart_of_mem_registry {table : ZoneTable} (h : table ∈ ZoneTable.registry) :
    (named table).JumpsApart :=
  jumpsApart_of_spaced (ZoneTable.spaced_of_mem_registry table h) (by decide)
    (ZoneTable.offset_bounds_of_mem_registry table h)

section JumpsApart

variable (jumps : zone.JumpsApart)

include jumps

/-- Between two instants the offset does not change, or it changes at a first and a last instant.
If these differ, all changes together make up less than the time between them. -/
theorem JumpsApart.changes_between (hab : a ≤ b) :
    (∀ change, a < change → change ≤ b → ¬ zone.ChangesAt change) ∨
      ∃ first last, zone.ChangesAt first ∧ zone.ChangesAt last ∧
        a < first ∧ first ≤ last ∧ last ≤ b ∧
        zone.offsetAt (first - 1) = zone.offsetAt a ∧ zone.offsetAt last = zone.offsetAt b ∧
        (first = last ∨ (zone.offsetAt b - zone.offsetAt a).natAbs < last - first) := by
  -- induction on the last instant
  induction b, hab using Int.leInduction with
  | base => exact .inl fun change hgt hle => absurd hgt (Int.not_lt.2 hle)
  | succ b hab ih =>
    by_cases hchange : zone.ChangesAt (b + 1)
    · refine .inr ?_
      have hbefore : zone.jump (b + 1) = zone.offsetAt (b + 1) - zone.offsetAt b := by
        rw [jump, Int.add_sub_cancel]
      rcases ih with hnone | ⟨first, last, hfirst, hlast, hgt, hle, hlt, hstart, hend, hsize⟩
      · -- the first change of all
        refine ⟨b + 1, b + 1, hchange, hchange, by omega, Int.le_refl _, Int.le_refl _, ?_, rfl,
          .inl rfl⟩
        rw [Int.add_sub_cancel]
        exact (offsetAt_eq_of_no_change hab hnone).symm
      · -- one more change, which lies far enough behind the ones before
        refine ⟨first, b + 1, hfirst, hchange, hgt, by omega, Int.le_refl _, hstart, rfl, .inr ?_⟩
        have hapart := jumps.apart last (b + 1) hlast hchange (by omega)
        have hjump : zone.jump first = zone.offsetAt first - zone.offsetAt a := by
          rw [jump, hstart]
        rcases hsize with rfl | hsize
        · omega
        · omega
    · rw [ChangesAt, Int.add_sub_cancel, Classical.not_not] at hchange
      rw [← hchange]
      rcases ih with hnone | ⟨first, last, hfirst, hlast, hgt, hle, hlt, hstart, hend, hsize⟩
      · refine .inl fun change hafter hbefore => ?_
        rcases Int.lt_or_eq_of_le hbefore with hlt | rfl
        · exact hnone change hafter (by omega)
        · rw [ChangesAt, Int.add_sub_cancel, Classical.not_not]
          exact hchange
      · exact .inr ⟨first, last, hfirst, hlast, hgt, hle, by omega, hstart, hend, hsize⟩

/-- Two instants that show the same time have one change between them, which puts the clock back by
as much as they lie apart. -/
theorem JumpsApart.exists_repeating_change (hab : a < b) (hclock : zone.clock a = zone.clock b) :
    ∃ change, zone.ChangesAt change ∧ a < change ∧ change ≤ b ∧ zone.jump change = a - b := by
  rw [clock, clock] at hclock
  rcases jumps.changes_between (Int.le_of_lt hab) with
    hnone | ⟨first, last, hfirst, -, hgt, hle, hlt, hstart, hend, hsize⟩
  · have hsame := offsetAt_eq_of_no_change (Int.le_of_lt hab) hnone
    omega
  · rcases hsize with rfl | hsize
    · refine ⟨first, hfirst, hgt, hlt, ?_⟩
      rw [jump]
      omega
    · omega

/-- No time is shown by three instants. -/
theorem JumpsApart.not_shown_thrice (hab : a < b) (hbc : b < c)
    (hfirst : zone.clock a = zone.clock b) : zone.clock b ≠ zone.clock c := by
  intro hsecond
  obtain ⟨change, hchange, hgt, hle, hjump⟩ := jumps.exists_repeating_change hab hfirst
  obtain ⟨next, hnext, hgt', hle', hjump'⟩ := jumps.exists_repeating_change hbc hsecond
  have hapart := jumps.apart change next hchange hnext (by omega)
  omega

end JumpsApart

/-! ## Conversions -/

theorem toEpochs_fixed_eq {minutes : Int} (h : (fixed minutes).toLocal? epoch = some time) :
    (fixed minutes).toEpochs time = [epoch] := by
  have hclock : time.seconds = epoch + 60 * minutes := (toLocal?_eq_some_iff.1 h).2
  rw [toEpochs, hclock, Int.add_sub_cancel]

theorem exists_toEpochs_fixed {minutes : Int}
    (h : (LocalTime.ofSeconds? (time.seconds - 60 * minutes)).isSome) :
    ∃ epoch, (fixed minutes).toEpochs time = [epoch] ∧
      (fixed minutes).toLocal? epoch = some time := by
  refine ⟨_, rfl, toLocal?_eq_some_iff.2 ⟨h, ?_⟩⟩
  exact (Int.sub_add_cancel _ _).symm

/-- The instants of a time that is shown are exactly those that show it, in ascending order. -/
theorem JumpsApart.toEpochs_of_toLocal? (jumps : zone.JumpsApart)
    (h : zone.toLocal? epoch = some time) :
    (∀ other, other ∈ zone.toEpochs time ↔ zone.toLocal? other = some time) ∧
      (zone.toEpochs time).Pairwise (· < ·) := by
  cases zone with
  | fixed minutes =>
    rw [toEpochs_fixed_eq h]
    refine ⟨fun other => ?_, List.pairwise_singleton _ _⟩
    rw [List.mem_singleton]
    constructor
    · rintro rfl
      exact h
    · intro hother
      exact (List.cons.inj ((toEpochs_fixed_eq hother).symm.trans (toEpochs_fixed_eq h))).1
  | named table =>
    have hspaced := jumps.ascending table rfl
    exact ⟨fun other => hspaced.mem_toEpochs_iff, hspaced.pairwise_toEpochs time⟩

theorem JumpsApart.length_toEpochs_le_two (jumps : zone.JumpsApart)
    (hshown : ∀ epoch ∈ zone.toEpochs time, zone.toLocal? epoch = some time)
    (hascending : (zone.toEpochs time).Pairwise (· < ·)) : (zone.toEpochs time).length ≤ 2 := by
  have hclock : ∀ epoch ∈ zone.toEpochs time, zone.clock epoch = time.seconds :=
    fun epoch hmem => (toLocal?_eq_some_iff.1 (hshown epoch hmem)).2.symm
  -- three instants in a row would show the same time
  match hepochs : zone.toEpochs time with
  | [] | [_] | [_, _] => simp
  | a :: b :: c :: others =>
    rw [hepochs] at hclock hascending
    simp only [List.pairwise_cons, List.mem_cons, forall_eq_or_imp] at hascending hclock
    obtain ⟨hfirst, hsecond, hthird, -⟩ := hclock
    exact absurd (hsecond.trans hthird.symm)
      (jumps.not_shown_thrice hascending.1.1 hascending.2.1.1 (hfirst.trans hsecond.symm))

/-- The conversions between instants and times are inverse to each other. Where a zone shows a time
at an instant, that time denotes the instant and at most one more, in ascending order, and each of
them shows it; at a fixed offset it is the only one. Conversely, at a fixed offset each time denotes
one instant, which shows it unless it lies beyond the calendar. And a time is found by exactly one
name: its date and its reading of the clock. -/
theorem conversions_inverse :
    (∀ (zone : Zone) (epoch : Int) (time : LocalTime), zone.JumpsApart →
      zone.toLocal? epoch = some time →
      epoch ∈ zone.toEpochs time ∧
        (∀ other ∈ zone.toEpochs time, zone.toLocal? other = some time) ∧
        (zone.toEpochs time).Pairwise (· < ·) ∧ (zone.toEpochs time).length ≤ 2) ∧
    (∀ (minutes epoch : Int) (time : LocalTime), (fixed minutes).toLocal? epoch = some time →
      (fixed minutes).toEpochs time = [epoch]) ∧
    (∀ (minutes : Int) (time : LocalTime),
      (LocalTime.ofSeconds? (time.seconds - 60 * minutes)).isSome →
      ∃ epoch, (fixed minutes).toEpochs time = [epoch] ∧
        (fixed minutes).toLocal? epoch = some time) ∧
    ∀ (time : LocalTime) (year : Int) (month day hour minute second : Nat),
      LocalTime.ofParts? year month day hour minute second = some time ↔
        (time.date.year = year ∧ time.date.month = month ∧ time.date.day = day) ∧
          time.hour = hour ∧ time.minute = minute ∧ time.second = second := by
  refine ⟨?_, fun _ _ _ => toEpochs_fixed_eq, fun _ _ => exists_toEpochs_fixed,
    fun _ _ _ _ _ _ _ => LocalTime.ofParts?_eq_some_iff⟩
  intro zone epoch time jumps h
  obtain ⟨hmem, hascending⟩ := jumps.toEpochs_of_toLocal? h
  have hshown : ∀ other ∈ zone.toEpochs time, zone.toLocal? other = some time :=
    fun other => (hmem other).1
  exact ⟨(hmem epoch).2 h, hshown, hascending, jumps.length_toEpochs_le_two hshown hascending⟩

/-- On 28 September 1980 Stockholm shows two o'clock twice, an hour apart. At the offset of 14 hours
the last second of the year -1 is one instant. -/
theorem conversions_inverse_of_two_o_clock :
    let twice : LocalTime := ⟨338954400, by decide, by decide⟩
    let once : LocalTime := ⟨-62167219201, by decide, by decide⟩
    LocalTime.ofParts? 1980 9 28 2 0 0 = some twice ∧
      LocalTime.ofParts? (-1) 12 31 23 59 59 = some once ∧
      338947200 ∈ (named .stockholm).toEpochs twice ∧
      338950800 ∈ (named .stockholm).toEpochs twice ∧
      ((named .stockholm).toEpochs twice).length ≤ 2 ∧
      (∀ epoch ∈ (named .stockholm).toEpochs twice,
        (named .stockholm).toLocal? epoch = some twice) ∧
      (∃ epoch, (fixed 840).toEpochs once = [epoch] ∧ (fixed 840).toLocal? epoch = some once) ∧
      (fixed 840).toEpochs once = [-62167269601] := by
  intro twice once
  have jumps : (named .stockholm).JumpsApart := jumpsApart_of_mem_registry (by decide +kernel)
  obtain ⟨hnamed, hfixed, hconverse, hname⟩ := conversions_inverse
  obtain ⟨hfirst, hshown, -, hlength⟩ := hnamed _ 338947200 twice jumps (by decide +kernel)
  obtain ⟨hsecond, -⟩ := hnamed _ 338950800 twice jumps (by decide +kernel)
  exact ⟨(hname twice _ _ _ _ _ _).2 (by decide), (hname once _ _ _ _ _ _).2 (by decide), hfirst,
    hsecond, hlength, hshown, hconverse 840 once (by decide), hfixed 840 _ once (by decide)⟩

end Zone

end CronSchedule

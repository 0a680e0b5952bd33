import CronSchedule.Proofs.LocalTime
import CronSchedule.Zone.Basic
import Mathlib.Data.Int.Init

/-!
# The clock of a zone

A wall clock shows the seconds of an instant plus the offset in force. Its offset
stays the same where there is no change (`Zone.offsetAt_eq_of_no_change`), it runs
with the instants where clocks are only put forward (`Zone.clock_lt_clock`), and
between two of its readings it shows each reading that it does not skip
(`Zone.shows_or_skips`).
-/

set_option autoImplicit false

namespace CronSchedule

namespace Zone

variable {zone : Zone} {a b epoch : Int} {time : LocalTime}

/-- Seconds that a wall clock shows at an instant. -/
def clock (zone : Zone) (epoch : Int) : Int := epoch + zone.offsetAt epoch

theorem toLocal?_eq_some_iff : zone.toLocal? epoch = some time ↔
    (LocalTime.ofSeconds? epoch).isSome ∧ time.seconds = zone.clock epoch := by
  rw [toLocal?, clock]
  constructor
  · intro h
    obtain ⟨utc, hutc, htime⟩ := Option.bind_eq_some_iff.1 h
    rw [LocalTime.add?_eq_some_iff, LocalTime.ofSeconds?_eq_some_iff.1 hutc] at htime
    exact ⟨by rw [hutc, Option.isSome_some], htime⟩
  · rintro ⟨hutc, htime⟩
    obtain ⟨utc, hutc⟩ := Option.isSome_iff_exists.1 hutc
    rw [hutc, Option.bind_some, LocalTime.add?_eq_some_iff, LocalTime.ofSeconds?_eq_some_iff.1 hutc]
    exact htime

/-- An instant between two instants of the calendar lies in the calendar. -/
theorem toLocal?_of_between {middle : Int} {first last : LocalTime} (ha : zone.toLocal? a = some first)
    (hb : zone.toLocal? b = some last) (hmiddle : a ≤ middle ∧ middle ≤ b)
    (htime : time.seconds = zone.clock middle) : zone.toLocal? middle = some time := by
  obtain ⟨hfirst, -⟩ := toLocal?_eq_some_iff.1 ha
  obtain ⟨hlast, -⟩ := toLocal?_eq_some_iff.1 hb
  rw [LocalTime.ofSeconds?_isSome_iff] at hfirst hlast
  rw [toLocal?_eq_some_iff, LocalTime.ofSeconds?_isSome_iff]
  exact ⟨⟨by omega, by omega⟩, htime⟩

/-- In a faithful zone each time in the years of a schedule denotes exactly the instants that show
it, in ascending order. -/
structure Faithful (zone : Zone) : Prop where
  mem_toEpochs_iff : ∀ time : LocalTime, time.Scheduled → ∀ epoch,
    epoch ∈ zone.toEpochs time ↔ zone.toLocal? epoch = some time
  ascending : ∀ time : LocalTime, time.Scheduled → (zone.toEpochs time).Pairwise (· < ·)

/-- Each instant that a time in the years of a schedule denotes shows that time. -/
def DenotesShown (zone : Zone) : Prop :=
  ∀ time : LocalTime, time.Scheduled → ∀ epoch ∈ zone.toEpochs time, zone.toLocal? epoch = some time

theorem Faithful.denotesShown (faithful : zone.Faithful) : zone.DenotesShown := by
  intro time hscheduled epoch hmem
  exact (faithful.mem_toEpochs_iff time hscheduled epoch).1 hmem

/-! ## Changes of the offset -/

/-- Does the offset change at the instant? -/
def ChangesAt (zone : Zone) (epoch : Int) : Prop := zone.offsetAt (epoch - 1) ≠ zone.offsetAt epoch

theorem offsetAt_eq_of_no_change (hab : a ≤ b)
    (h : ∀ change, a < change → change ≤ b → ¬ zone.ChangesAt change) :
    zone.offsetAt a = zone.offsetAt b := by
  -- induction on the last instant
  induction b, hab using Int.leInduction with
  | base => rfl
  | succ b hab ih =>
    rw [ih fun change hafter hbefore => h change hafter (by omega)]
    have hsame := h (b + 1) (by omega) (by omega)
    rw [ChangesAt, Int.add_sub_cancel, Classical.not_not] at hsame
    exact hsame

theorem exists_changesAt (hab : a ≤ b) (h : zone.offsetAt a ≠ zone.offsetAt b) :
    ∃ change, a < change ∧ change ≤ b ∧ zone.ChangesAt change := by
  apply Classical.byContradiction
  intro hnone
  refine h (offsetAt_eq_of_no_change hab ?_)
  intro change hafter hbefore hchange
  exact hnone ⟨change, hafter, hbefore, hchange⟩

theorem offsetAt_le_offsetAt (hab : a ≤ b)
    (h : ∀ change, a < change → change ≤ b → zone.offsetAt (change - 1) ≤ zone.offsetAt change) :
    zone.offsetAt a ≤ zone.offsetAt b := by
  induction b, hab using Int.leInduction with
  | base => exact Int.le_refl _
  | succ b hab ih =>
    have hstep := h (b + 1) (by omega) (by omega)
    rw [Int.add_sub_cancel] at hstep
    exact Int.le_trans (ih fun change hafter hbefore => h change hafter (by omega)) hstep

/-- Where clocks are only put forward, they show later instants later. -/
theorem clock_lt_clock (hab : a < b)
    (h : ∀ change, a < change → change ≤ b → zone.offsetAt (change - 1) ≤ zone.offsetAt change) :
    zone.clock a < zone.clock b := by
  have hoffset := offsetAt_le_offsetAt (Int.le_of_lt hab) h
  rw [clock, clock]
  omega

/-- Between two readings the clock shows each reading unless a change skips it. -/
theorem shows_or_skips (zone : Zone) (seconds : Int) (hab : a ≤ b) (hfirst : zone.clock a ≤ seconds)
    (hlast : seconds ≤ zone.clock b) :
    (∃ epoch, a ≤ epoch ∧ epoch ≤ b ∧ zone.clock epoch = seconds) ∨
      ∃ change, a < change ∧ change ≤ b ∧ zone.clock (change - 1) < seconds ∧
        seconds < zone.clock change := by
  -- induction on the last instant: each second shows the reading or is a jump over it
  induction b, hab using Int.leInduction with
  | base => exact .inl ⟨a, Int.le_refl a, Int.le_refl a, Int.le_antisymm hfirst hlast⟩
  | succ b hab ih =>
    rcases Int.lt_or_le (zone.clock b) seconds with hbefore | hafter
    · rcases Int.lt_or_eq_of_le hlast with hlt | heq
      · refine .inr ⟨b + 1, by omega, Int.le_refl _, ?_, hlt⟩
        rw [Int.add_sub_cancel]
        exact hbefore
      · exact .inl ⟨b + 1, by omega, Int.le_refl _, heq.symm⟩
    · rcases ih hafter with ⟨epoch, hge, hle, hshown⟩ | ⟨change, hgt, hle, hskipped⟩
      · exact .inl ⟨epoch, hge, by omega, hshown⟩
      · exact .inr ⟨change, hgt, by omega, hskipped⟩

end Zone

end CronSchedule

import CronSchedule.Proofs.Search.Readings
import Mathlib.Order.Bounds.Defs

/-!
# The nearest matching instant

A search is right if it answers with the nearest matching instant beyond the
reference. It is enough that the scan from one reading of the reference looks at
the local time of that instant, and that what the scan meets before that time is
not shown beyond the reference (`Schedule.search?_eq_of_lookedAt`).
-/

set_option autoImplicit false

namespace CronSchedule

/-! ## Times between two instants -/

namespace Zone

variable {zone : Zone}

/-- A time between those of two instants is shown between them or skipped there. -/
theorem shown_between_or_skipped {d : Direction} {a b : Int} {first middle last : LocalTime}
    (ha : zone.toLocal? a = some first) (hb : zone.toLocal? b = some last) (hab : d.Before a b)
    (hfirst : d.Before first.seconds middle.seconds) (hlast : d.Before middle.seconds last.seconds) :
    (∃ epoch, d.Before a epoch ∧ d.Before epoch b ∧ zone.toLocal? epoch = some middle) ∨
      ∃ change, min a b < change ∧ change ≤ max a b ∧ zone.clock (change - 1) < middle.seconds ∧
        middle.seconds < zone.clock change := by
  have hclockFirst := (toLocal?_eq_some_iff.1 ha).2
  have hclockLast := (toLocal?_eq_some_iff.1 hb).2
  -- the clock reads differently at both ends, so an instant that shows the time lies inside
  have hends {epoch : Int} (hshown : zone.clock epoch = middle.seconds) : epoch ≠ a ∧ epoch ≠ b := by
    constructor
    · rintro rfl
      rw [hclockFirst, hshown] at hfirst
      exact Direction.before_irrefl hfirst
    · rintro rfl
      rw [hclockLast, hshown] at hlast
      exact Direction.before_irrefl hlast
  cases d with
  | forward =>
    rw [Direction.before_forward] at *
    rcases shows_or_skips zone middle.seconds (Int.le_of_lt hab) (by omega) (by omega) with
      ⟨epoch, hge, hle, hshown⟩ | ⟨change, hgt, hle, hskipped⟩
    · obtain ⟨hneFirst, hneLast⟩ := hends hshown
      have hepoch := toLocal?_of_between ha hb ⟨hge, hle⟩ hshown.symm
      exact .inl ⟨epoch, show a < epoch by omega, show epoch < b by omega, hepoch⟩
    · exact .inr ⟨change, by omega, by omega, hskipped⟩
  | backward =>
    rw [Direction.before_backward] at *
    rcases shows_or_skips zone middle.seconds (Int.le_of_lt hab) (by omega) (by omega) with
      ⟨epoch, hge, hle, hshown⟩ | ⟨change, hgt, hle, hskipped⟩
    · obtain ⟨hneFirst, hneLast⟩ := hends hshown
      have hepoch := toLocal?_of_between hb ha ⟨hge, hle⟩ hshown.symm
      exact .inl ⟨epoch, show epoch < a by omega, show b < epoch by omega, hepoch⟩
    · exact .inr ⟨change, by omega, by omega, hskipped⟩

end Zone

namespace Schedule

variable {schedule : Schedule} {d : Direction} {reference found first : Int}
  {start time : LocalTime}

/-! ## The nearest matching instant -/

/-- The nearest matching instant beyond a reference. -/
structure IsNearest (schedule : Schedule) (d : Direction) (reference epoch : Int) : Prop where
  beyond : d.Before reference epoch
  isMatch : schedule.matchesEpoch epoch = true
  nearest : ∀ other, d.Before reference other → schedule.matchesEpoch other = true →
    ¬ d.Before other epoch

theorem isNearest_of_isLeast
    (h : IsLeast {epoch | reference < epoch ∧ schedule.matchesEpoch epoch = true} first) :
    schedule.IsNearest .forward reference first where
  beyond := h.1.1
  isMatch := h.1.2
  nearest := fun _ hbeyond hmatches => Int.not_lt.2 (h.2 ⟨hbeyond, hmatches⟩)

theorem isNearest_of_isGreatest
    (h : IsGreatest {epoch | epoch < reference ∧ schedule.matchesEpoch epoch = true} first) :
    schedule.IsNearest .backward reference first where
  beyond := h.1.1
  isMatch := h.1.2
  nearest := fun _ hbeyond hmatches => Int.not_lt.2 (h.2 ⟨hbeyond, hmatches⟩)

/-- The first matching instant is known once no instant in between matches. -/
theorem isLeast_of_range {count : Nat} (hcount : first = reference + 1 + count)
    (hmatches : schedule.matchesEpoch first = true)
    (hnone : ∀ n < count, schedule.matchesEpoch (reference + 1 + n) = false) :
    IsLeast {epoch | reference < epoch ∧ schedule.matchesEpoch epoch = true} first := by
  refine ⟨⟨by omega, hmatches⟩, ?_⟩
  rintro epoch ⟨hbeyond, htrue⟩
  apply Int.not_lt.1
  intro hlt
  have hfalse := hnone (epoch - reference - 1).toNat (by omega)
  rw [show reference + 1 + ((epoch - reference - 1).toNat : Int) = epoch by omega, htrue] at hfalse
  cases hfalse

/-- The last matching instant is known once no instant in between matches. -/
theorem isGreatest_of_range {count : Nat} (hcount : reference = first + 1 + count)
    (hmatches : schedule.matchesEpoch first = true)
    (hnone : ∀ n < count, schedule.matchesEpoch (first + 1 + n) = false) :
    IsGreatest {epoch | epoch < reference ∧ schedule.matchesEpoch epoch = true} first := by
  refine ⟨⟨by omega, hmatches⟩, ?_⟩
  rintro epoch ⟨hbeyond, htrue⟩
  apply Int.not_lt.1
  intro hlt
  have hfalse := hnone (epoch - first - 1).toNat (by omega)
  rw [show first + 1 + ((epoch - first - 1).toNat : Int) = epoch by omega, htrue] at hfalse
  cases hfalse

/-- An instant beyond the reference that shows an accepted time does not come before the nearest
matching one. -/
theorem IsNearest.not_before (h : schedule.IsNearest d reference first) {epoch : Int}
    (hbeyond : d.Before reference epoch) (htime : schedule.zone.toLocal? epoch = some time)
    (hmatches : schedule.matchesLocal time = true) : ¬ d.Before epoch first :=
  h.nearest epoch hbeyond (matchesEpoch_iff.2 ⟨time, htime, hmatches⟩)

theorem IsNearest.exists_time (h : schedule.IsNearest d reference first) :
    ∃ time, schedule.zone.toLocal? first = some time ∧ schedule.matchesLocal time = true :=
  matchesEpoch_iff.1 h.isMatch

section Compiled

variable (compiled : schedule.Compiled) (faithful : schedule.zone.Faithful)

include compiled faithful

/-- A search passes over no matching instant exactly if its answer is the nearest one. -/
theorem skips_nothing_iff_eq_nearest (hfound : schedule.search? d reference = some found)
    (hfirst : schedule.IsNearest d reference first) :
    (∀ epoch, d.Before reference epoch → d.Before epoch found →
      schedule.matchesEpoch epoch = false) ↔ found = first := by
  obtain ⟨hbeyond, hmatches⟩ := search?_sound compiled faithful hfound
  -- the answer matches itself, so it cannot come before the nearest matching instant
  have hnot := hfirst.nearest found hbeyond hmatches
  constructor
  · intro hnothing
    apply Direction.eq_of_not_before hnot
    intro hbefore
    have hfalse := hnothing first hfirst.beyond hbefore
    rw [hfirst.isMatch] at hfalse
    cases hfalse
  · rintro rfl epoch hepoch hbefore
    rw [← Bool.not_eq_true]
    exact fun htrue => hfirst.nearest epoch hepoch htrue hbefore

/-- A search answers with the nearest matching instant if the scan from a reading of the reference
looks at its local time and meets no accepted time before it that is shown beyond the reference. -/
theorem search?_eq_of_lookedAt (hfirst : schedule.IsNearest d reference first)
    (htime : schedule.zone.toLocal? first = some time)
    (hreads : schedule.zone.Reads reference start) (hlooks : schedule.LooksAt d start time)
    (hclear : ∀ middle shown, d.Before start.seconds middle.seconds →
      d.Before middle.seconds time.seconds → schedule.matchesLocal middle = true →
      schedule.zone.toLocal? shown = some middle → ¬ d.Before reference shown) :
    schedule.search? d reference = some first := by
  obtain ⟨time', htime', hmatches⟩ := hfirst.exists_time
  cases htime.symm.trans htime'
  obtain ⟨near, nearTime, hscan, hnear, hafter, hsame⟩ :=
    scan_complete compiled faithful hlooks hmatches htime hfirst.beyond
  obtain ⟨nearTime', hnearLooks, hnearMatches, hnear', hbeyond⟩ :=
    scan_sound compiled faithful hscan
  cases hnear.symm.trans hnear'
  -- a result at an earlier time would be shown beyond the reference
  have heq : near = first := by
    rcases Direction.before_or_eq_of_not_before hafter with hearlier | hsameTime
    · exact absurd hbeyond (hclear nearTime near hnearLooks.after hearlier hnearMatches hnear)
    · exact Direction.eq_of_not_before (hfirst.not_before hbeyond hnear hnearMatches)
        (hsame (LocalTime.ext_seconds hsameTime))
  obtain ⟨found, hfound, hnot⟩ := exists_search?_of_reads hreads hscan
  obtain ⟨hfoundBeyond, hfoundMatches⟩ := search?_sound compiled faithful hfound
  have hnearest := hfirst.nearest found hfoundBeyond hfoundMatches
  rw [hfound, Direction.eq_of_not_before hnearest (heq ▸ hnot)]

end Compiled

end Schedule

end CronSchedule

import CronSchedule.Proofs.Search.Run
import Mathlib.Data.List.Sort

/-!
# Listings of a window

The matching instants of a window can be found in three ways: by testing each
instant, by a walk forward from its start, and by repeated searches backward from
its end. At a fixed offset all three give the same list
(`Schedule.listings_agree`): a run passes over no matching instant within the
horizon (`Schedule.Run.mem_of_matches`), and a list in the order of a direction is
determined by its members.
-/

set_option autoImplicit false

namespace CronSchedule

/-- Where a member is taken only if those before it are, taking members as long as they are wanted
gives all that are wanted. -/
theorem takeWhile_eq_filter {α : Type} {p : α → Bool} {items : List α}
    (h : items.Pairwise fun a b => p b = true → p a = true) : items.takeWhile p = items.filter p := by
  induction items with
  | nil => rfl
  | cons item items ih =>
    obtain ⟨hfirst, hrest⟩ := List.pairwise_cons.1 h
    by_cases hp : p item = true
    · rw [List.takeWhile_cons_of_pos hp, List.filter_cons_of_pos hp, ih hrest]
    · rw [List.takeWhile_cons_of_neg hp, List.filter_cons_of_neg hp]
      symm
      rw [List.filter_eq_nil_iff]
      intro other hother hwanted
      exact hp (hfirst other hother hwanted)

namespace Schedule

variable {schedule : Schedule} {d : Direction} {minutes reference epoch edge start stop : Int}
  {epochs : List Int} {time : LocalTime}

/-! ## Testing each instant -/

/-- The matching instants from `start` on and before `stop`, found by testing each of them. -/
def matchesFrom (schedule : Schedule) (start stop : Int) : List Int :=
  ((List.range (stop - start).toNat).map fun n : Nat => start + (n : Int)).filter
    schedule.matchesEpoch

theorem mem_matchesFrom_iff : epoch ∈ schedule.matchesFrom start stop ↔
    start ≤ epoch ∧ epoch < stop ∧ schedule.matchesEpoch epoch = true := by
  rw [matchesFrom, List.mem_filter, List.mem_map, ← and_assoc]
  apply and_congr_left'
  constructor
  · rintro ⟨n, hn, rfl⟩
    rw [List.mem_range] at hn
    omega
  · rintro ⟨hstart, hstop⟩
    refine ⟨(epoch - start).toNat, ?_, by omega⟩
    rw [List.mem_range]
    omega

theorem pairwise_matchesFrom : (schedule.matchesFrom start stop).Pairwise (· < ·) := by
  apply List.Pairwise.filter
  rw [List.pairwise_map]
  apply List.pairwise_lt_range.imp
  intro a b hab
  omega

/-! ## The horizon -/

/-- Does an instant lie within the horizon of a search in the direction? -/
def WithinHorizon (schedule : Schedule) : Direction → Int → Prop
  | .forward, epoch => ∀ last, schedule.horizon.endEpoch = some last → epoch ≤ last
  | .backward, epoch => schedule.horizon.beginEpoch ≤ epoch

/-- At a fixed offset the limit of a search leaves out no time of an instant within the horizon. -/
theorem not_before_limit_of_withinHorizon (hzone : schedule.zone = .fixed minutes)
    (htime : schedule.zone.toLocal? epoch = some time) (hscheduled : time.Scheduled)
    (hwithin : schedule.WithinHorizon d epoch) :
    ¬ d.Before (schedule.limit d).seconds time.seconds := by
  cases d with
  | forward =>
    apply Int.not_lt.2
    apply not_after_lastTime hscheduled
    intro last lastTime hlast hshown
    apply Int.not_lt.1
    rw [← Direction.before_forward, Zone.before_iff_of_fixed hzone hshown htime]
    exact Int.not_lt.2 (hwithin last hlast)
  | backward =>
    apply Int.not_lt.2
    apply not_before_firstTime hscheduled
    intro first hshown
    apply Int.not_lt.1
    rw [← Direction.before_backward, Zone.before_iff_of_fixed hzone hshown htime]
    exact Int.not_lt.2 hwithin

/-! ## Runs at a fixed offset -/

section FixedOffset

variable (compiled : schedule.Compiled) (hzone : schedule.zone = .fixed minutes)
  (hlow : -maxUtcOffset ≤ minutes) (hhigh : minutes ≤ maxUtcOffset)

include compiled hzone hlow hhigh

/-- A run holds every matching instant beyond its reference that lies within the horizon. -/
theorem Run.mem_of_matches (h : schedule.Run d reference epochs)
    (hreference : (schedule.zone.toLocal? reference).isSome = true)
    (hbeyond : d.Before reference epoch) (hmatches : schedule.matchesEpoch epoch = true)
    (hwithin : schedule.WithinHorizon d epoch) : epoch ∈ epochs := by
  have faithful : schedule.zone.Faithful := hzone ▸ Zone.faithful_fixed hlow hhigh
  -- induction on the run: no answer passes over the instant, so it comes up as one of them
  induction h with
  | ended hnone =>
    have hfalse := search?_misses_nothing_of_fixed compiled hzone hlow hhigh hnone hreference
      hbeyond fun time htime hscheduled =>
        not_before_limit_of_withinHorizon hzone htime hscheduled hwithin
    rw [hmatches] at hfalse
    cases hfalse
  | @answered reference found epochs hfound _ ih =>
    by_cases hbefore : d.Before epoch found
    · have hfalse := search?_skips_nothing_of_fixed compiled hzone hlow hhigh hfound hbeyond hbefore
      rw [hmatches] at hfalse
      cases hfalse
    rcases Direction.before_or_eq_of_not_before hbefore with hafter | rfl
    · obtain ⟨-, hfoundMatches⟩ := search?_sound compiled faithful hfound
      obtain ⟨own, hown, -⟩ := matchesEpoch_iff.1 hfoundMatches
      exact List.mem_cons_of_mem _ (ih (Option.isSome_of_eq_some hown) hafter)
    · exact List.mem_cons_self

/-- Up to an edge within the horizon a run consists of the matching instants. -/
theorem Run.mem_takeWhile_iff (h : schedule.Run d reference epochs)
    (hreference : (schedule.zone.toLocal? reference).isSome = true)
    (hwithin : ∀ epoch, d.Before reference epoch → d.Before epoch edge →
      schedule.WithinHorizon d epoch) :
    epoch ∈ epochs.takeWhile (fun epoch => decide (d.Before epoch edge)) ↔
      d.Before reference epoch ∧ d.Before epoch edge ∧ schedule.matchesEpoch epoch = true := by
  have shown : schedule.zone.DenotesShown :=
    (hzone ▸ Zone.faithful_fixed hlow hhigh : schedule.zone.Faithful).denotesShown
  obtain ⟨hbeyond, hpairwise⟩ := List.pairwise_cons.1 (h.pairwise compiled shown)
  have htaken : epochs.Pairwise fun a b =>
      decide (d.Before b edge) = true → decide (d.Before a edge) = true := by
    apply hpairwise.imp
    intro a b hab hb
    exact decide_eq_true (hab.trans (of_decide_eq_true hb))
  rw [takeWhile_eq_filter htaken, List.mem_filter, decide_eq_true_iff]
  constructor
  · rintro ⟨hmem, hedge⟩
    exact ⟨hbeyond epoch hmem, hedge, (h.occursAt compiled shown hmem).1⟩
  · rintro ⟨hafter, hedge, hmatches⟩
    exact ⟨h.mem_of_matches compiled hzone hlow hhigh hreference hafter hmatches
      (hwithin epoch hafter hedge), hedge⟩

end FixedOffset

/-! ## The three listings -/

/-- At a fixed offset a walk from before the start of a window, as far as it stays below the end,
yields exactly the matching instants of the window in ascending order, and searches repeated backward
from the end, as far as they stay above the start, answer with the same instants in reverse. -/
theorem listings_agree (compiled : schedule.Compiled) (hzone : schedule.zone = .fixed minutes)
    (hlow : -maxUtcOffset ≤ minutes) (hhigh : minutes ≤ maxUtcOffset)
    (hstart : (schedule.zone.toLocal? (start - 1)).isSome = true)
    (hstop : (schedule.zone.toLocal? stop).isSome = true)
    (hbegin : schedule.horizon.beginEpoch ≤ start)
    (hend : ∀ last, schedule.horizon.endEpoch = some last → stop ≤ last) :
    ∃ ascending descending : List Int,
      (Occurrences.after schedule (start - 1)).Yields ascending ∧
      (∀ count, schedule.preceding stop count = descending.take count) ∧
      ascending.takeWhile (fun epoch => epoch < stop) = schedule.matchesFrom start stop ∧
      descending.takeWhile (fun epoch => start ≤ epoch) =
        (schedule.matchesFrom start stop).reverse := by
  have shown : schedule.zone.DenotesShown :=
    (hzone ▸ Zone.faithful_fixed hlow hhigh : schedule.zone.Faithful).denotesShown
  obtain ⟨ascending, hforward⟩ := exists_run compiled shown .forward (start - 1)
  obtain ⟨descending, hbackward⟩ := exists_run compiled shown .backward stop
  have hascending : ascending.Pairwise (· < ·) :=
    (List.pairwise_cons.1 (hforward.pairwise compiled shown)).2
  have hdescending : descending.Pairwise (· > ·) :=
    (List.pairwise_cons.1 (hbackward.pairwise compiled shown)).2
  refine ⟨ascending, descending, hforward.yields, hbackward.listing_eq, ?_, ?_⟩
  · apply (hascending.sublist (List.takeWhile_sublist _)).eq_of_mem_iff pairwise_matchesFrom
    intro epoch
    have hmem : epoch ∈ ascending.takeWhile (fun epoch => epoch < stop) ↔
        start - 1 < epoch ∧ epoch < stop ∧ schedule.matchesEpoch epoch = true := by
      apply hforward.mem_takeWhile_iff compiled hzone hlow hhigh hstart
      intro epoch _ hbefore last hlast
      exact Int.le_of_lt (Int.lt_of_lt_of_le hbefore (hend last hlast))
    rw [hmem, mem_matchesFrom_iff, Int.sub_one_lt_iff]
  · -- the start itself belongs to the window, so the edge of the run lies one before it
    have hedge : (fun epoch => decide (start ≤ epoch)) =
        fun epoch => decide (Direction.backward.Before epoch (start - 1)) := by
      funext epoch
      rw [decide_eq_decide, Direction.before_backward, Int.sub_one_lt_iff]
    rw [hedge]
    apply (hdescending.sublist (List.takeWhile_sublist _)).eq_of_mem_iff
      (List.pairwise_reverse.2 pairwise_matchesFrom)
    intro epoch
    have hmem : epoch ∈ descending.takeWhile (fun epoch => Direction.backward.Before epoch (start - 1)) ↔
        epoch < stop ∧ start - 1 < epoch ∧ schedule.matchesEpoch epoch = true := by
      apply hbackward.mem_takeWhile_iff compiled hzone hlow hhigh hstop
      intro epoch _ hbefore
      exact Int.le_trans hbegin (Int.sub_one_lt_iff.1 hbefore)
    rw [hmem, List.mem_reverse, mem_matchesFrom_iff, Int.sub_one_lt_iff]
    exact and_left_comm

/-- The minute around a midnight, with a horizon that is no wider than the window. -/
theorem listings_agree_around_midnight :
    ∃ schedule, compile ⟨0, none⟩ "20,50 0,59 0,23 * * ? *"
        ⟨none, some 90, some 80970, some 81030⟩ = .ok schedule ∧
      ∃ ascending descending : List Int,
        (Occurrences.after schedule (80970 - 1)).Yields ascending ∧
        (∀ count, schedule.preceding 81030 count = descending.take count) ∧
        ascending.takeWhile (fun epoch => epoch < 81030) = [80990, 81020] ∧
        descending.takeWhile (fun epoch => 80970 ≤ epoch) = [81020, 80990] := by
  obtain ⟨schedule, hcompile, compiled, hvalues⟩ := exists_compiled ⟨0, none⟩
    "20,50 0,59 0,23 * * ? *" ⟨none, some 90, some 80970, some 81030⟩
    (fun schedule => (schedule.zone, schedule.horizon, schedule.matchesFrom 80970 81030))
    (show _ = some (.fixed 90, ⟨80970, some 81030⟩, [80990, 81020]) by decide +kernel)
  simp only [Prod.mk.injEq] at hvalues
  obtain ⟨hzone, hhorizon, hmatches⟩ := hvalues
  have hend : ∀ last, schedule.horizon.endEpoch = some last → 81030 ≤ last := by
    intro last hlast
    rw [hhorizon] at hlast
    cases hlast
    exact Int.le_refl _
  obtain ⟨ascending, descending, hyields, hpreceding, hforward, hbackward⟩ :=
    listings_agree compiled hzone (by decide) (by decide)
      (show (schedule.zone.toLocal? (80970 - 1)).isSome = true by rw [hzone]; decide)
      (show (schedule.zone.toLocal? 81030).isSome = true by rw [hzone]; decide)
      (by rw [hhorizon]) hend
  rw [hmatches] at hforward hbackward
  exact ⟨schedule, hcompile, ascending, descending, hyields, hpreceding, hforward, hbackward⟩

end Schedule

end CronSchedule

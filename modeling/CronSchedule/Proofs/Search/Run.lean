import CronSchedule.Proofs.Search.FixedOffset
import CronSchedule.Proofs.Zone.Table
import Mathlib.Data.Set.Finite.Lattice

/-!
# Repeated searches

A search can be repeated from its own answer as long as there is one. Its answers
then move in one direction, and since they show the years of a schedule they come
to an end: every run of searches is finite (`Schedule.exists_run`). A walk through
the occurrences and the listings of a schedule are such runs
(`Schedule.Run.yields`, `Schedule.Run.listing_eq`), so what holds of the answer of
one search holds of all that they yield (`Schedule.search_sound_in_every_zone`).
-/

set_option autoImplicit false

namespace CronSchedule

/-! ## The zones of a schedule -/

namespace Zone

variable {zone : Zone}

/-- At a fixed offset the instant of a time shows it; of a named zone that is presumed. -/
theorem denotesShown_of_named
    (hfixed : ∀ minutes, zone = .fixed minutes →
      -Schedule.maxUtcOffset ≤ minutes ∧ minutes ≤ Schedule.maxUtcOffset)
    (hnamed : ∀ table, zone = .named table → zone.DenotesShown) : zone.DenotesShown := by
  cases zone with
  | fixed minutes =>
    obtain ⟨hlow, hhigh⟩ := hfixed minutes rfl
    exact (faithful_fixed hlow hhigh).denotesShown
  | named table => exact hnamed table rfl

/-- A zone has finitely many offsets, so they are bounded. -/
theorem exists_offset_bounds (zone : Zone) :
    ∃ low high, ∀ epoch, low ≤ zone.offsetAt epoch ∧ zone.offsetAt epoch ≤ high := by
  cases zone with
  | fixed minutes =>
    refine ⟨60 * minutes, 60 * minutes, ?_⟩
    intro epoch
    exact ⟨Int.le_refl _, Int.le_refl _⟩
  | named table =>
    obtain ⟨low, hlow⟩ := (List.finite_toSet table.offsets).bddBelow
    obtain ⟨high, hhigh⟩ := (List.finite_toSet table.offsets).bddAbove
    refine ⟨low, high, ?_⟩
    intro epoch
    have hmem : (named table).offsetAt epoch ∈ table.offsets := ZoneTable.offsetAt_mem epoch
    exact ⟨hlow hmem, hhigh hmem⟩

end Zone

/-! ## Walks -/

namespace Occurrences

/-- The walk yields the instants of a list in turn, and nothing from then on. -/
def Yields (walk : Occurrences) (epochs : List Int) : Prop :=
  ∀ count, results count walk =
    (epochs.take count).map some ++ List.replicate (count - epochs.length) none

/-- A walk that has come to its end stays there. -/
theorem results_of_ended (schedule : Schedule) (count : Nat) :
    results count ⟨schedule, none⟩ = List.replicate count none := by
  induction count with
  | zero => rfl
  | succ count ih =>
    rw [results, List.replicate_succ]
    exact congrArg (none :: ·) ih

end Occurrences

namespace Schedule

variable {schedule : Schedule} {d : Direction} {reference found : Int} {epochs : List Int}

/-! ## Runs -/

/-- The answers of repeated searches, each from the one before it, until there is none. -/
inductive Run (schedule : Schedule) (d : Direction) : Int → List Int → Prop
  | ended {reference : Int} : schedule.search? d reference = none → Run schedule d reference []
  | answered {reference found : Int} {epochs : List Int} :
      schedule.search? d reference = some found → Run schedule d found epochs →
      Run schedule d reference (found :: epochs)

/-- At most so many answers of repeated searches. -/
def listing (schedule : Schedule) : Direction → Int → Nat → List Int
  | .forward => schedule.following
  | .backward => schedule.preceding

theorem listing_succ (count : Nat) : schedule.listing d reference (count + 1) =
    match schedule.search? d reference with
    | some epoch => epoch :: schedule.listing d epoch count
    | none => [] := by
  cases d with
  | forward => rfl
  | backward => rfl

/-- A listing holds the first answers of a run. -/
theorem Run.listing_eq (h : schedule.Run d reference epochs) (count : Nat) :
    schedule.listing d reference count = epochs.take count := by
  induction count generalizing reference epochs with
  | zero =>
    rw [List.take_zero]
    cases d with
    | forward => rfl
    | backward => rfl
  | succ count ih =>
    rw [listing_succ]
    cases h with
    | ended hnone => rw [hnone, List.take_nil]
    | answered hfound hrest =>
      rw [hfound, List.take_succ_cons]
      exact congrArg _ (ih hrest)

/-- A walk yields the answers of the run from its start. -/
theorem Run.yields (h : schedule.Run .forward reference epochs) :
    (Occurrences.after schedule reference).Yields epochs := by
  intro count
  induction count generalizing reference epochs with
  | zero => rw [List.take_zero, Nat.zero_sub]; rfl
  | succ count ih =>
    cases h with
    | ended hnone =>
      have hstep : (Occurrences.after schedule reference).step = (none, ⟨schedule, none⟩) :=
        congrArg (fun found => (found, Occurrences.mk schedule found)) hnone
      rw [Occurrences.results, hstep, Occurrences.results_of_ended]
      rfl
    | @answered _ found epochs hfound hrest =>
      have hstep : (Occurrences.after schedule reference).step =
          (some found, Occurrences.after schedule found) :=
        congrArg (fun found => (found, Occurrences.mk schedule found)) hfound
      rw [Occurrences.results, hstep, ih hrest, List.take_succ_cons, List.map_cons,
        List.length_cons, Nat.add_sub_add_right]
      rfl

/-! ## Answers -/

/-- The schedule accepts the instant, in one of the years of a schedule. -/
def OccursAt (schedule : Schedule) (epoch : Int) : Prop :=
  schedule.matchesEpoch epoch = true ∧ ∃ time, schedule.zone.toLocal? epoch = some time ∧
    1970 ≤ time.date.year ∧ time.date.year ≤ 2099

section Compiled

variable (compiled : schedule.Compiled) (shown : schedule.zone.DenotesShown)

include compiled shown

/-- The answer of a search shows an accepted time and lies beyond the reference. -/
theorem exists_time_of_search? (h : schedule.search? d reference = some found) :
    d.Before reference found ∧ ∃ time, schedule.zone.toLocal? found = some time ∧
      schedule.matchesLocal time = true := by
  obtain ⟨start, -, hscan⟩ := exists_reads_of_search? h
  obtain ⟨time, -, hmatches, hmem, hbeyond⟩ := accepted_of_scan compiled hscan
  exact ⟨hbeyond, time, shown time (scheduled_of_matchesLocal hmatches) found hmem, hmatches⟩

theorem occursAt_of_search? (h : schedule.search? d reference = some found) :
    schedule.OccursAt found := by
  obtain ⟨-, time, htime, hmatches⟩ := exists_time_of_search? compiled shown h
  refine ⟨matchesEpoch_iff.2 ⟨time, htime, hmatches⟩, time, htime, ?_⟩
  exact (scheduled_of_matchesLocal hmatches).year_bounds

/-- In each direction the answers of all searches have a bound. -/
theorem exists_farthest (d : Direction) : ∃ farthest, ∀ reference found,
    schedule.search? d reference = some found → ¬ d.Before farthest found := by
  obtain ⟨low, high, hoffset⟩ := schedule.zone.exists_offset_bounds
  have hbounds {reference found : Int} (h : schedule.search? d reference = some found) :
      LocalTime.epoch.seconds - high ≤ found ∧ found ≤ LocalTime.lastScheduled.seconds - low := by
    obtain ⟨-, time, htime, hmatches⟩ := exists_time_of_search? compiled shown h
    obtain ⟨hfirst, hlast⟩ := scheduled_of_matchesLocal hmatches
    -- the clock shows a scheduled time, and its offset is bounded
    rw [(Zone.toLocal?_eq_some_iff.1 htime).2, Zone.clock] at hfirst hlast
    have hfound := hoffset found
    omega
  cases d with
  | forward =>
    refine ⟨LocalTime.lastScheduled.seconds - low, ?_⟩
    intro reference found h
    exact Int.not_lt.2 (hbounds h).2
  | backward =>
    refine ⟨LocalTime.epoch.seconds - high, ?_⟩
    intro reference found h
    exact Int.not_lt.2 (hbounds h).1

/-- Repeated searches come to an end. -/
theorem exists_run (d : Direction) (reference : Int) :
    ∃ epochs, schedule.Run d reference epochs := by
  obtain ⟨farthest, hfarthest⟩ := exists_farthest compiled shown d
  -- induction on the distance to the bound: each answer comes nearer to it
  induction hleft : (d.sign * farthest - d.sign * reference).toNat using Nat.strongRecOn
    generalizing reference with
  | ind left ih =>
    cases hsearch : schedule.search? d reference with
    | none => exact ⟨[], .ended hsearch⟩
    | some found =>
      obtain ⟨hbeyond, -⟩ := exists_time_of_search? compiled shown hsearch
      have hnot := hfarthest reference found hsearch
      rw [Direction.before_iff_sign_mul_lt] at hbeyond hnot
      obtain ⟨epochs, hrun⟩ := ih _ (by omega) found rfl
      exact ⟨found :: epochs, .answered hsearch hrun⟩

/-- The answers of a run move in its direction. -/
theorem Run.pairwise (h : schedule.Run d reference epochs) :
    (reference :: epochs).Pairwise d.Before := by
  induction h with
  | ended => exact List.pairwise_singleton _ _
  | @answered reference found epochs hfound _ ih =>
    obtain ⟨hbeyond, -⟩ := exists_time_of_search? compiled shown hfound
    refine List.pairwise_cons.2 ⟨?_, ih⟩
    intro epoch hepoch
    rcases List.mem_cons.1 hepoch with rfl | hepoch
    · exact hbeyond
    · exact hbeyond.trans ((List.pairwise_cons.1 ih).1 epoch hepoch)

theorem Run.occursAt (h : schedule.Run d reference epochs) {epoch : Int} (hepoch : epoch ∈ epochs) :
    schedule.OccursAt epoch := by
  induction h with
  | ended => cases hepoch
  | answered hfound _ ih =>
    rcases List.mem_cons.1 hepoch with rfl | hepoch
    · exact occursAt_of_search? compiled shown hfound
    · exact ih hepoch

end Compiled

/-! ## Soundness -/

/-- In every zone each answer of a search matches, lies beyond the reference and shows a year from
1970 to 2099; so a walk through the occurrences yields a strictly ascending list of such instants
after the reference, and once it yields nothing it yields nothing from then on. Presumed of a named
zone is that the instants of a time show it. -/
theorem search_sound_in_every_zone (compiled : schedule.Compiled)
    (hfixed : ∀ minutes, schedule.zone = .fixed minutes →
      -maxUtcOffset ≤ minutes ∧ minutes ≤ maxUtcOffset)
    (hnamed : ∀ table, schedule.zone = .named table → schedule.zone.DenotesShown)
    (reference : Int) :
    (∀ found, schedule.next? reference = some found →
      reference < found ∧ schedule.OccursAt found) ∧
    (∀ found, schedule.previous? reference = some found →
      found < reference ∧ schedule.OccursAt found) ∧
    ∃ epochs, (Occurrences.after schedule reference).Yields epochs ∧
      (reference :: epochs).Pairwise (· < ·) ∧ ∀ epoch ∈ epochs, schedule.OccursAt epoch := by
  have shown := Zone.denotesShown_of_named hfixed hnamed
  refine ⟨?_, ?_, ?_⟩
  · intro found hfound
    obtain ⟨hbeyond, -⟩ := exists_time_of_search? (d := .forward) compiled shown hfound
    exact ⟨hbeyond, occursAt_of_search? (d := .forward) compiled shown hfound⟩
  · intro found hfound
    obtain ⟨hbeyond, -⟩ := exists_time_of_search? (d := .backward) compiled shown hfound
    exact ⟨hbeyond, occursAt_of_search? (d := .backward) compiled shown hfound⟩
  · obtain ⟨epochs, hrun⟩ := exists_run compiled shown .forward reference
    exact ⟨epochs, hrun.yields, hrun.pairwise compiled shown,
      fun epoch hepoch => hrun.occursAt compiled shown hepoch⟩

/-- The clocks of Stockholm show half past two twice on 28 September 1980. A walk yields both of the
instants, a search forward from before them answers with the first one and a search backward from
after them with the second one. -/
theorem search_sound_half_past_two_twice :
    ∃ schedule, compile ⟨0, none⟩ "0 30 2 28 9 ? 1980"
        ⟨some "Europe/Stockholm", none, none, some 339500000⟩ = .ok schedule ∧
      Occurrences.results 3 (.after schedule 338940000) =
        [some 338949000, some 338952600, none] ∧
      schedule.next? 338940000 = some 338949000 ∧
      (338940000 : Int) < 338949000 ∧ schedule.OccursAt 338949000 ∧
      schedule.previous? 339000000 = some 338952600 ∧
      (338952600 : Int) < 339000000 ∧ schedule.OccursAt 338952600 ∧
      ∃ epochs, (Occurrences.after schedule 338940000).Yields epochs ∧
        (338940000 :: epochs).Pairwise (· < ·) ∧ ∀ epoch ∈ epochs, schedule.OccursAt epoch := by
  obtain ⟨schedule, hcompile, compiled, hvalues⟩ := exists_compiled ⟨0, none⟩
    "0 30 2 28 9 ? 1980" ⟨some "Europe/Stockholm", none, none, some 339500000⟩
    (fun schedule => (schedule.zone, Occurrences.results 3 (.after schedule 338940000),
      schedule.next? 338940000, schedule.previous? 339000000))
    (show _ = some (.named .stockholm, [some 338949000, some 338952600, none], some 338949000,
      some 338952600) by decide +kernel)
  simp only [Prod.mk.injEq] at hvalues
  obtain ⟨hzone, hresults, hnext, hprevious⟩ := hvalues
  have hfixed : ∀ minutes, schedule.zone = .fixed minutes →
      -maxUtcOffset ≤ minutes ∧ minutes ≤ maxUtcOffset := by
    intro minutes h
    rw [hzone] at h
    cases h
  have hnamed : ∀ table, schedule.zone = .named table → schedule.zone.DenotesShown := by
    intro table _
    rw [hzone]
    have hfind : ZoneTable.find? "Europe/Stockholm" = some .stockholm := by decide +kernel
    exact (ZoneTable.faithful_of_find? hfind).denotesShown
  obtain ⟨hfirst, -, hwalk⟩ := search_sound_in_every_zone compiled hfixed hnamed 338940000
  obtain ⟨-, hlast, -⟩ := search_sound_in_every_zone compiled hfixed hnamed 339000000
  obtain ⟨hafter, hoccurs⟩ := hfirst 338949000 hnext
  obtain ⟨hbefore, hoccursAgain⟩ := hlast 338952600 hprevious
  exact ⟨schedule, hcompile, hresults, hnext, hafter, hoccurs, hprevious, hbefore, hoccursAgain,
    hwalk⟩

end Schedule

end CronSchedule

import CronSchedule.Proofs.Search.Scan
import CronSchedule.Proofs.Zone.Clock

/-!
# From wall-clock times to instants

A search scans wall-clock times but answers with instants. Where each time
denotes the instants that show it (`Zone.Faithful`), a scan accepts a time
exactly if it denotes a matching instant beyond the reference, and the answer of
a search is the nearest of the results of the readings of the reference.
-/

set_option autoImplicit false

namespace CronSchedule

/-- A reading of an instant on the wall clock: the local time of the instant, or the other reading
where its local time occurs twice. -/
def Zone.Reads (zone : Zone) (epoch : Int) (time : LocalTime) : Prop :=
  zone.toLocal? epoch = some time ∨ zone.otherReading? epoch = some time

namespace Schedule

variable {schedule : Schedule} {d : Direction} {reference epoch : Int} {time : LocalTime}

theorem matchesEpoch_iff : schedule.matchesEpoch epoch = true ↔
    ∃ time, schedule.zone.toLocal? epoch = some time ∧ schedule.matchesLocal time = true := by
  rw [matchesEpoch, Option.any_eq_true]

/-! ## Acceptance beyond the reference -/

/-- The instants of a time in the order of a direction. -/
def epochsInOrder (schedule : Schedule) (time : LocalTime) : Direction → List Int
  | .forward => schedule.zone.toEpochs time
  | .backward => (schedule.zone.toEpochs time).reverse

theorem mem_epochsInOrder_iff :
    epoch ∈ schedule.epochsInOrder time d ↔ epoch ∈ schedule.zone.toEpochs time := by
  cases d with
  | forward => exact Iff.rfl
  | backward => exact List.mem_reverse

theorem pairwise_epochsInOrder (h : (schedule.zone.toEpochs time).Pairwise (· < ·)) :
    (schedule.epochsInOrder time d).Pairwise d.Before := by
  cases d with
  | forward => exact h
  | backward => exact List.pairwise_reverse.2 h

theorem acceptBeyond_eq : schedule.acceptBeyond d reference time =
    if schedule.matchesLocal time then
      (schedule.epochsInOrder time d).find? fun epoch => d.Before reference epoch
    else none := by
  cases d with
  | forward => rfl
  | backward => rfl

theorem acceptBeyond_spec (h : schedule.acceptBeyond d reference time = some epoch) :
    schedule.matchesLocal time = true ∧ epoch ∈ schedule.zone.toEpochs time ∧
      d.Before reference epoch := by
  rw [acceptBeyond_eq] at h
  split at h
  case isTrue hmatches =>
    refine ⟨hmatches, mem_epochsInOrder_iff.1 (List.mem_of_find?_eq_some h), ?_⟩
    exact of_decide_eq_true (List.find?_eq_some_iff_append.1 h).1
  case isFalse => cases h

theorem refines_acceptBeyond (d : Direction) (reference : Int) :
    schedule.Refines (schedule.acceptBeyond d reference) :=
  fun _ _ h => (acceptBeyond_spec h).1

/-- An accepted time is accepted for the nearest instant beyond the reference that it denotes. -/
theorem exists_acceptBeyond (faithful : schedule.zone.Faithful)
    (hmatches : schedule.matchesLocal time = true) (htime : schedule.zone.toLocal? epoch = some time)
    (hbeyond : d.Before reference epoch) :
    ∃ found, schedule.acceptBeyond d reference time = some found ∧ ¬ d.Before epoch found := by
  have hscheduled := scheduled_of_matchesLocal hmatches
  have hmem := (faithful.mem_toEpochs_iff time hscheduled epoch).2 htime
  have hdecide : decide (d.Before reference epoch) = true := decide_eq_true hbeyond
  rw [acceptBeyond_eq, if_pos hmatches]
  -- the instants stand in the order of the search, so the first one found is the nearest
  cases hfind : (schedule.epochsInOrder time d).find? fun epoch => d.Before reference epoch with
  | some found =>
    refine ⟨found, rfl, ?_⟩
    exact Direction.first_of_find? (pairwise_epochsInOrder (faithful.ascending time hscheduled)) hfind
      (mem_epochsInOrder_iff.2 hmem) hdecide
  | none =>
    have hnone := List.find?_eq_none.1 hfind epoch (mem_epochsInOrder_iff.2 hmem)
    exact absurd hdecide hnone

/-! ## The nearest result of the readings -/

theorem search?_eq (htime : schedule.zone.toLocal? reference = some time) :
    schedule.search? d reference =
      match schedule.scan (schedule.acceptBeyond d reference) d time,
        (schedule.zone.otherReading? reference).bind
          (schedule.scan (schedule.acceptBeyond d reference) d) with
      | some epoch, some other => some (d.nearer epoch other)
      | some epoch, none => some epoch
      | none, other => other := by
  cases d with
  | forward =>
    simp only [search?, next?, htime, Option.bind_eq_bind, Option.bind_some]
    rfl
  | backward =>
    simp only [search?, previous?, htime, Option.bind_eq_bind, Option.bind_some]
    rfl

theorem isSome_toLocal?_of_reads (h : schedule.zone.Reads reference time) :
    ∃ own, schedule.zone.toLocal? reference = some own := by
  rcases h with hown | hother
  · exact ⟨time, hown⟩
  · rw [Zone.otherReading?] at hother
    obtain ⟨own, hown, -⟩ := Option.bind_eq_some_iff.1 hother
    exact ⟨own, hown⟩

theorem toLocal?_isSome_of_search? (h : schedule.search? d reference = some epoch) :
    ∃ own, schedule.zone.toLocal? reference = some own := by
  cases d with
  | forward =>
    obtain ⟨own, hown, -⟩ := Option.bind_eq_some_iff.1 h
    exact ⟨own, hown⟩
  | backward =>
    obtain ⟨own, hown, -⟩ := Option.bind_eq_some_iff.1 h
    exact ⟨own, hown⟩

/-- The answer of a search is the result of the scan from a reading of the reference. -/
theorem exists_reads_of_search? (h : schedule.search? d reference = some epoch) :
    ∃ start, schedule.zone.Reads reference start ∧
      schedule.scan (schedule.acceptBeyond d reference) d start = some epoch := by
  obtain ⟨own, hown⟩ := toLocal?_isSome_of_search? h
  rw [search?_eq hown] at h
  -- both scans, the first alone, or the second alone give the answer
  split at h
  case h_1 first second hfirst hsecond =>
    obtain ⟨other, hother, hsecond⟩ := Option.bind_eq_some_iff.1 hsecond
    cases h
    rcases Direction.nearer_eq_or (d := d) (a := first) (b := second) with heq | heq
    · exact ⟨own, .inl hown, heq.symm ▸ hfirst⟩
    · exact ⟨other, .inr hother, heq.symm ▸ hsecond⟩
  case h_2 hfirst _ => exact ⟨own, .inl hown, h ▸ hfirst⟩
  case h_3 =>
    obtain ⟨other, hother, hsecond⟩ := Option.bind_eq_some_iff.1 h
    exact ⟨other, .inr hother, hsecond⟩

/-- The answer of a search does not lie beyond the result of the scan from any reading. -/
theorem exists_search?_of_reads {start : LocalTime} (hreads : schedule.zone.Reads reference start)
    (hscan : schedule.scan (schedule.acceptBeyond d reference) d start = some epoch) :
    ∃ found, schedule.search? d reference = some found ∧ ¬ d.Before epoch found := by
  obtain ⟨own, hown⟩ := isSome_toLocal?_of_reads hreads
  rw [search?_eq hown]
  rcases hreads with hstart | hstart
  · cases hown.symm.trans hstart
    rw [hscan]
    cases (schedule.zone.otherReading? reference).bind
        (schedule.scan (schedule.acceptBeyond d reference) d) with
    | some other => exact ⟨_, rfl, Direction.not_before_nearer.1⟩
    | none => exact ⟨epoch, rfl, Direction.before_irrefl⟩
  · rw [hstart, Option.bind_some, hscan]
    cases schedule.scan (schedule.acceptBeyond d reference) d own with
    | some other => exact ⟨_, rfl, Direction.not_before_nearer.2⟩
    | none => exact ⟨epoch, rfl, Direction.before_irrefl⟩

/-! ## The limit of a search -/

theorem not_after_lastTime (hscheduled : time.Scheduled)
    (hend : ∀ epoch last, schedule.horizon.endEpoch = some epoch →
      schedule.zone.toLocal? epoch = some last → time.seconds ≤ last.seconds) :
    time.seconds ≤ schedule.lastTime.seconds := by
  rw [lastTime]
  split
  case h_1 last hlast =>
    obtain ⟨epoch, hepoch, hlast⟩ := Option.bind_eq_some_iff.1 hlast
    rw [LocalTime.earlier]
    split
    · exact hscheduled.2
    · exact hend epoch last hepoch hlast
  case h_2 => exact hscheduled.2

theorem not_before_firstTime (hscheduled : time.Scheduled)
    (hbegin : ∀ first, schedule.zone.toLocal? schedule.horizon.beginEpoch = some first →
      first.seconds ≤ time.seconds) :
    schedule.firstTime.seconds ≤ time.seconds := by
  rw [firstTime]
  split
  case h_1 first hfirst =>
    rw [LocalTime.later]
    split
    · exact hbegin first hfirst
    · exact hscheduled.1
  case h_2 => exact hscheduled.1

/-! ## Soundness and completeness of a scan -/

/-- A scan answers with an instant beyond the reference that an accepted time denotes. -/
theorem accepted_of_scan (compiled : schedule.Compiled) {start : LocalTime}
    (h : schedule.scan (schedule.acceptBeyond d reference) d start = some epoch) :
    ∃ time, schedule.LooksAt d start time ∧ schedule.matchesLocal time = true ∧
      epoch ∈ schedule.zone.toEpochs time ∧ d.Before reference epoch := by
  have hscan := firstAccepted_scan compiled (refines_acceptBeyond d reference) d start
  rw [h] at hscan
  obtain ⟨time, hlooks, haccepted⟩ := hscan.exists_of_some
  obtain ⟨hmatches, hmem, hbeyond⟩ := acceptBeyond_spec haccepted
  exact ⟨time, hlooks, hmatches, hmem, hbeyond⟩

section Compiled

variable (compiled : schedule.Compiled) (faithful : schedule.zone.Faithful) {start : LocalTime}

include compiled faithful

theorem scan_sound (h : schedule.scan (schedule.acceptBeyond d reference) d start = some epoch) :
    ∃ time, schedule.LooksAt d start time ∧ schedule.matchesLocal time = true ∧
      schedule.zone.toLocal? epoch = some time ∧ d.Before reference epoch := by
  obtain ⟨time, hlooks, hmatches, hmem, hbeyond⟩ := accepted_of_scan compiled h
  have hscheduled := scheduled_of_matchesLocal hmatches
  exact ⟨time, hlooks, hmatches, (faithful.mem_toEpochs_iff time hscheduled epoch).1 hmem, hbeyond⟩

/-- Where a scan looks at the local time of a matching instant beyond the reference, it finds an
instant at no later time, and at that same time no farther instant. -/
theorem scan_complete (hlooks : schedule.LooksAt d start time)
    (hmatches : schedule.matchesLocal time = true) (htime : schedule.zone.toLocal? epoch = some time)
    (hbeyond : d.Before reference epoch) :
    ∃ found first, schedule.scan (schedule.acceptBeyond d reference) d start = some found ∧
      schedule.zone.toLocal? found = some first ∧ ¬ d.Before time.seconds first.seconds ∧
      (first = time → ¬ d.Before epoch found) := by
  have hscan := firstAccepted_scan compiled (refines_acceptBeyond d reference) d start
  obtain ⟨nearest, hnearest, hnot⟩ := exists_acceptBeyond faithful hmatches htime hbeyond
  obtain ⟨first, found, hfound, -, haccepted, hafter⟩ := hscan.exists_of_accepted hlooks hnearest
  obtain ⟨hfirst, hmem, -⟩ := acceptBeyond_spec haccepted
  have hscheduled := scheduled_of_matchesLocal hfirst
  refine ⟨found, first, hfound, (faithful.mem_toEpochs_iff first hscheduled found).1 hmem, hafter, ?_⟩
  -- the same time is accepted for its nearest instant only
  rintro rfl
  cases haccepted.symm.trans hnearest
  exact hnot

/-- The answer of a search is a matching instant beyond the reference. -/
theorem search?_sound (h : schedule.search? d reference = some epoch) :
    d.Before reference epoch ∧ schedule.matchesEpoch epoch = true := by
  obtain ⟨start, -, hscan⟩ := exists_reads_of_search? h
  obtain ⟨time, -, hmatches, htime, hbeyond⟩ := scan_sound compiled faithful hscan
  exact ⟨hbeyond, matchesEpoch_iff.2 ⟨time, htime, hmatches⟩⟩

end Compiled

end Schedule

end CronSchedule

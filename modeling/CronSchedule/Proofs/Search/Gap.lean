import CronSchedule.Proofs.Search.Nearest
import CronSchedule.Proofs.Zone.Table

/-!
# Searches across a gap

Where clocks are put forward, wall-clock times are skipped. A search looks at one
time for a whole minute, hour or day, and if just that time is skipped it misses
the times it stands for, although they exist. `Schedule.skips_nothing_iff` says
exactly when that happens: nothing is missed if and only if the time that stands
in for the nearest matching instant is shown by then.
-/

set_option autoImplicit false

namespace CronSchedule

/-! ## Skipped times -/

namespace Zone

variable {zone : Zone}

/-- Are clocks only put forward after the first instant up to the last? -/
def SpringsForward (zone : Zone) (first last : Int) : Prop :=
  ∀ change, first < change → change ≤ last → zone.offsetAt (change - 1) ≤ zone.offsetAt change

/-- A time that a change skips denotes no instant. -/
def ErasesSkipped (zone : Zone) : Prop :=
  ∀ change, ∀ time : LocalTime, time.Scheduled → zone.clock (change - 1) < time.seconds →
    time.seconds < zone.clock change → zone.toEpochs time = []

theorem SpringsForward.mono {first last : Int} (h : zone.SpringsForward first last) {a b : Int}
    (ha : first ≤ a) (hb : b ≤ last) : zone.SpringsForward a b :=
  fun change hafter hbefore => h change (by omega) (by omega)

/-- Where clocks are only ever put forward, a skipped time is shown at no other change. -/
theorem erasesSkipped_of_springsForward (faithful : zone.Faithful)
    (h : ∀ first last, zone.SpringsForward first last) : zone.ErasesSkipped := by
  intro change time hscheduled hskipped hresumed
  apply List.eq_nil_iff_forall_not_mem.2
  intro epoch hmem
  have hclock := (toLocal?_eq_some_iff.1 ((faithful.mem_toEpochs_iff time hscheduled epoch).1 hmem)).2
  -- up to the change the clock stays below the skipped time, from it on above
  rcases Int.lt_trichotomy epoch (change - 1) with hbefore | rfl | hafter
  · have hlt := clock_lt_clock hbefore (h epoch (change - 1))
    omega
  · omega
  · rcases Int.lt_or_eq_of_le (show change ≤ epoch by omega) with hlt | rfl
    · have hgt := clock_lt_clock hlt (h change epoch)
      omega
    · omega

/-- Where clocks are only put forward, their times follow the instants. -/
theorem before_of_springsForward {d : Direction} {a b : Int} {first last : LocalTime}
    (h : zone.SpringsForward (min a b) (max a b)) (ha : zone.toLocal? a = some first)
    (hb : zone.toLocal? b = some last) (hab : d.Before a b) :
    d.Before first.seconds last.seconds := by
  rw [(toLocal?_eq_some_iff.1 ha).2, (toLocal?_eq_some_iff.1 hb).2]
  cases d with
  | forward =>
    rw [Direction.before_forward] at *
    exact clock_lt_clock hab (h.mono (by omega) (by omega))
  | backward =>
    rw [Direction.before_backward] at *
    exact clock_lt_clock hab (h.mono (by omega) (by omega))

/-! ## Kathmandu -/

theorem faithful_kathmandu : (named .kathmandu).Faithful :=
  ZoneTable.faithful_of_find? (show ZoneTable.find? "Asia/Kathmandu" = _ by decide +kernel)

theorem springsForward_kathmandu (first last : Int) :
    (named .kathmandu).SpringsForward first last := by
  intro change _ _
  simp only [offsetAt, ZoneTable.offsetAt, ZoneTable.kathmandu, ZoneTable.ofRecord, List.map_cons,
    List.map_nil, List.append_nil, offsetAfter]
  split
  · split
    · exact Int.le_refl _
    · decide
  · apply Int.le_of_eq
    rw [if_neg (by omega)]

theorem erasesSkipped_kathmandu : (named .kathmandu).ErasesSkipped :=
  erasesSkipped_of_springsForward faithful_kathmandu springsForward_kathmandu

end Zone

namespace Schedule

variable {schedule : Schedule} {d : Direction} {reference found first : Int}

/-! ## The time that stands in -/

/-- From a reading of the reference, the search looks at the time that stands in for the instant,
and the clock shows that time beyond the reference and not later than the instant. -/
def StandInShown (schedule : Schedule) (d : Direction) (reference epoch : Int) : Prop :=
  ∃ start time other shown, schedule.zone.Reads reference start ∧
    schedule.zone.toLocal? epoch = some time ∧
    other.seconds = schedule.standIn d start.seconds time.seconds ∧
    schedule.LooksAt d start other ∧ schedule.zone.toLocal? shown = some other ∧
    d.Before reference shown ∧ ¬ d.Before epoch shown

section Compiled

variable (compiled : schedule.Compiled) (faithful : schedule.zone.Faithful)

include compiled faithful

/-- An instant that the search finds was looked at itself. -/
theorem standInShown_of_search? (hfound : schedule.search? d reference = some found) :
    schedule.StandInShown d reference found := by
  obtain ⟨start, hreads, hscan⟩ := exists_reads_of_search? hfound
  obtain ⟨time, hlooks, -, htime, hbeyond⟩ := scan_sound compiled faithful hscan
  exact ⟨start, time, time, found, hreads, htime, hlooks.standIn_eq.symm, hlooks, htime, hbeyond,
    Direction.before_irrefl⟩

/-- If the clock shows the time that stands in for the nearest matching instant by then, the search
finds that instant. -/
theorem search?_eq_of_standInShown (erases : schedule.zone.ErasesSkipped)
    (hfirst : schedule.IsNearest d reference first)
    (hforward : schedule.zone.SpringsForward (min reference first) (max reference first))
    (hstandIn : schedule.StandInShown d reference first) :
    schedule.search? d reference = some first := by
  obtain ⟨start, time, other, shown, hreads, htime, hother, hlooks, hshown, hbeyond, hby⟩ := hstandIn
  obtain ⟨time', htime', hmatches⟩ := hfirst.exists_time
  cases htime.symm.trans htime'
  -- the time that stands in matches, so the instant that shows it is the nearest one itself
  have hmatchesOther := matchesLocal_of_reset compiled hmatches hother
  cases Direction.eq_of_not_before (hfirst.not_before hbeyond hshown hmatchesOther) hby
  cases htime.symm.trans hshown
  obtain ⟨own, hown⟩ := isSome_toLocal?_of_reads hreads
  have hafter := Zone.before_of_springsForward hforward hown htime hfirst.beyond
  -- a reading before the local time of the reference can be replaced by the latter
  obtain ⟨start, hreads, hlooks, hlater⟩ : ∃ start, schedule.zone.Reads reference start ∧
      schedule.LooksAt d start time ∧ ¬ d.Before start.seconds own.seconds := by
    by_cases hearly : d.Before start.seconds own.seconds
    · exact ⟨own, .inl hown, hlooks.of_later hearly.asymm hafter, Direction.before_irrefl⟩
    · exact ⟨start, hreads, hlooks, hearly⟩
  refine search?_eq_of_lookedAt compiled faithful hfirst htime hreads hlooks ?_
  intro middle epoch hmiddle hbefore hmatchesMiddle hepoch _
  -- an accepted time before that of the nearest instant is shown too early or erased
  rcases Zone.shown_between_or_skipped hown htime hfirst.beyond
    (Direction.Before.of_not_before hlater hmiddle) hbefore with
    ⟨between, hbetween, hearlier, hshownBetween⟩ | ⟨change, -, -, hskipped, hresumed⟩
  · exact hfirst.not_before hbetween hshownBetween hmatchesMiddle hearlier
  · have hscheduled := scheduled_of_matchesLocal hmatchesMiddle
    have hmem := (faithful.mem_toEpochs_iff middle hscheduled epoch).2 hepoch
    rw [erases change middle hscheduled hskipped hresumed] at hmem
    cases hmem

/-- Where clocks are only put forward up to the answer, the search passes over nothing exactly if
the time that stands in for the nearest matching instant is shown by then. -/
theorem skips_nothing_iff_standInShown (erases : schedule.zone.ErasesSkipped)
    (hfound : schedule.search? d reference = some found)
    (hforward : schedule.zone.SpringsForward (min reference found) (max reference found))
    (hfirst : schedule.IsNearest d reference first) :
    (∀ epoch, d.Before reference epoch → d.Before epoch found →
      schedule.matchesEpoch epoch = false) ↔ schedule.StandInShown d reference first := by
  rw [skips_nothing_iff_eq_nearest compiled faithful hfound hfirst]
  constructor
  · rintro rfl
    exact standInShown_of_search? compiled faithful hfound
  · intro hstandIn
    obtain ⟨hbeyond, hmatches⟩ := search?_sound compiled faithful hfound
    have hnot := hfirst.nearest found hbeyond hmatches
    have hfirstBeyond := hfirst.beyond
    -- the nearest instant lies between the reference and the answer
    have hbetween : min reference found ≤ min reference first ∧
        max reference first ≤ max reference found := by
      cases d with
      | forward =>
        rw [Direction.before_forward] at hnot hfirstBeyond
        omega
      | backward =>
        rw [Direction.before_backward] at hnot hfirstBeyond
        omega
    have hsearch := search?_eq_of_standInShown compiled faithful erases hfirst
      (hforward.mono hbetween.1 hbetween.2) hstandIn
    exact Option.some.inj (hfound.symm.trans hsearch)

end Compiled

/-- Where clocks are only put forward between the reference and the answer, a search passes over no
matching instant exactly if the clock shows, by the nearest one, the time that stands in for it. -/
theorem skips_nothing_iff (compiled : schedule.Compiled) (faithful : schedule.zone.Faithful)
    (erases : schedule.zone.ErasesSkipped) (reference : Int) :
    (∀ found first, schedule.next? reference = some found →
      schedule.zone.SpringsForward reference found →
      IsLeast {epoch | reference < epoch ∧ schedule.matchesEpoch epoch = true} first →
      ((∀ epoch, reference < epoch → epoch < found → schedule.matchesEpoch epoch = false) ↔
        schedule.StandInShown .forward reference first)) ∧
    (∀ found last, schedule.previous? reference = some found →
      schedule.zone.SpringsForward found reference →
      IsGreatest {epoch | epoch < reference ∧ schedule.matchesEpoch epoch = true} last →
      ((∀ epoch, found < epoch → epoch < reference → schedule.matchesEpoch epoch = false) ↔
        schedule.StandInShown .backward reference last)) := by
  constructor
  · intro found first hfound hforward hleast
    obtain ⟨hbeyond, -⟩ := search?_sound (d := .forward) compiled faithful hfound
    rw [Direction.before_forward] at hbeyond
    exact skips_nothing_iff_standInShown (d := .forward) compiled faithful erases hfound
      (hforward.mono (by omega) (by omega)) (isNearest_of_isLeast hleast)
  · intro found last hfound hforward hgreatest
    obtain ⟨hbeyond, -⟩ := search?_sound (d := .backward) compiled faithful hfound
    rw [Direction.before_backward] at hbeyond
    rw [← skips_nothing_iff_standInShown (d := .backward) compiled faithful erases hfound
      (hforward.mono (by omega) (by omega)) (isNearest_of_isGreatest hgreatest)]
    exact forall_congr' fun epoch => imp.swap

/-! ## A gap at midnight -/

/-- The clocks of Kathmandu skip the first quarter of an hour of 1986. A search for midnight or a
quarter past it, from the last hour but in an earlier minute than the last, looks at midnight in
place of the whole hour and so misses the quarter past, which exists. -/
theorem next?_misses_after_gap :
    ∃ schedule, compile ⟨0, none⟩ "0 0,15 0 1,2 1 ? 1986"
        ⟨some "Asia/Kathmandu", none, none, none⟩ = .ok schedule ∧
      schedule.zone.Faithful ∧ schedule.zone.ErasesSkipped ∧
      schedule.next? 504901738 = some 504987300 ∧
      schedule.zone.SpringsForward 504901738 504987300 ∧
      ∃ epoch, 504901738 < epoch ∧ epoch < 504987300 ∧ schedule.matchesEpoch epoch = true := by
  obtain ⟨schedule, hcompile, -, hvalues⟩ := exists_compiled ⟨0, none⟩ "0 0,15 0 1,2 1 ? 1986"
    ⟨some "Asia/Kathmandu", none, none, none⟩ (fun schedule => (schedule.zone,
      schedule.next? 504901738, schedule.matchesEpoch 504901800))
    (show _ = some (.named .kathmandu, some 504987300, true) by decide +kernel)
  simp only [Prod.mk.injEq] at hvalues
  obtain ⟨hzone, hfound, hmatches⟩ := hvalues
  refine ⟨schedule, hcompile, ?_, ?_, hfound, ?_, 504901800, by decide, by decide, hmatches⟩
  · exact hzone ▸ Zone.faithful_kathmandu
  · exact hzone ▸ Zone.erasesSkipped_kathmandu
  · exact hzone ▸ Zone.springsForward_kathmandu _ _

theorem skips_nothing_iff_kathmandu :
    ∃ schedule, compile ⟨0, none⟩ "0 0,15 0 1,2 1 ? 1986"
        ⟨some "Asia/Kathmandu", none, none, none⟩ = .ok schedule ∧
      ¬ schedule.StandInShown .forward 504901738 504901800 ∧
      schedule.StandInShown .backward 504901830 504901800 := by
  obtain ⟨schedule, hcompile, compiled, hvalues⟩ := exists_compiled ⟨0, none⟩
    "0 0,15 0 1,2 1 ? 1986" ⟨some "Asia/Kathmandu", none, none, none⟩
    (fun schedule => (schedule.zone, schedule.next? 504901738, schedule.previous? 504901830,
      schedule.matchesEpoch 504901800,
      (List.range 61).all fun n => !schedule.matchesEpoch (504901738 + 1 + n),
      (List.range 29).all fun n => !schedule.matchesEpoch (504901800 + 1 + n)))
    (show _ = some (.named .kathmandu, some 504987300, some 504901800, true, true, true)
      by decide +kernel)
  simp only [Prod.mk.injEq, List.all_eq_true, List.mem_range, Bool.not_eq_true'] at hvalues
  obtain ⟨hzone, hnext, hprevious, hmatches, hbefore, hafter⟩ := hvalues
  have hleast := isLeast_of_range (show (504901800 : Int) = 504901738 + 1 + 61 by decide) hmatches
    hbefore
  have hgreatest := isGreatest_of_range (show (504901830 : Int) = 504901800 + 1 + 29 by decide)
    hmatches hafter
  refine ⟨schedule, hcompile, fun hshown => ?_, ?_⟩
  · have hnothing := ((skips_nothing_iff compiled (hzone ▸ Zone.faithful_kathmandu)
      (hzone ▸ Zone.erasesSkipped_kathmandu) 504901738).1 504987300 504901800 hnext
      (hzone ▸ Zone.springsForward_kathmandu _ _) hleast).2 hshown
    rw [hnothing 504901800 (by decide) (by decide)] at hmatches
    cases hmatches
  · refine ((skips_nothing_iff compiled (hzone ▸ Zone.faithful_kathmandu)
      (hzone ▸ Zone.erasesSkipped_kathmandu) 504901830).2 504901800 504901800 hprevious
      (hzone ▸ Zone.springsForward_kathmandu _ _) hgreatest).1 ?_
    intro epoch hafter hbefore
    rw [← Bool.not_eq_true]
    exact fun htrue => Int.not_lt.2 (hgreatest.2 ⟨hbefore, htrue⟩) hafter

end Schedule

end CronSchedule

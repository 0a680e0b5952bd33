import CronSchedule.CommandLine.Outcome
import CronSchedule.Proofs.Options.Merging

/-!
# Layers of a command

The options of a command come in three layers: its arguments, the environment and
the options file. The arguments are layered over the other two with zone and
offset taken together, the environment over the file key by key. So a command
whose layers each set one of the two is rejected for setting both exactly where
the arguments set neither and environment and file set one each
(`place_of_first_layer_iff`).
-/

set_option autoImplicit false

namespace CronSchedule

namespace CommandLine

variable {arguments : List String} {request : Request} {surroundings : Surroundings}

/-- A request does not set both the zone and the offset. -/
theorem Request.not_both_of_ofArguments (h : Request.ofArguments arguments = .ok request) :
    ¬ (request.flags.timeZone.isSome = true ∧ request.flags.utcOffset.isSome = true) := by
  rw [ofArguments] at h
  obtain ⟨progress, -, h⟩ := Outcome.bind_eq_ok_iff.1 h
  rw [Progress.finish] at h
  split at h
  · cases h
  · cases h
  · split at h
    · cases h
    · next hboth =>
      cases h
      rwa [Bool.and_eq_true] at hboth

/-- The options of a request whose options file holds the given settings. -/
theorem Request.options_eq_ok_iff {stored : Settings}
    (hstored : Settings.stored surroundings.files request.config = .ok stored)
    {options : ScheduleOptions} : request.options surroundings = .ok options ↔ ∃ loaded,
      ((Settings.ofEnvironment surroundings.environment).layeredOn stored).options = .ok loaded ∧
        request.flags.orElse loaded = options := by
  rw [Request.options, Outcome.bind_eq_ok_iff]
  constructor
  · rintro ⟨loaded, hload, h⟩
    obtain ⟨stored', hstored', hloaded⟩ := ScheduleOptions.load_eq_ok_iff.1 hload
    cases hstored.symm.trans hstored'
    exact ⟨loaded, hloaded, Except.ok.inj h⟩
  · rintro ⟨loaded, hloaded, rfl⟩
    exact ⟨loaded, ScheduleOptions.load_eq_ok_iff.2 ⟨stored, hstored, hloaded⟩, rfl⟩

theorem run_eq_rejected_iff (hrequest : Request.ofArguments arguments = .ok request)
    {error : ScheduleError} : run surroundings arguments = .rejected error ↔
      ∃ options, request.options surroundings = .ok options ∧
        Schedule.compile surroundings.horizon request.expression options = .error error := by
  rw [run, hrequest]
  dsimp only
  rw [Request.outcome]
  cases hoptions : request.options surroundings with
  | error e => simp
  | ok options =>
    cases hcompile : Schedule.compile surroundings.horizon request.expression options with
    | error e => simp [hcompile]
    | ok schedule => simp [hcompile]

/-! ## Zone and offset -/

/-- The zone and the offset of the first layer that sets either: the arguments, the environment or
the options file. -/
def firstPlace (flags : ScheduleOptions) (environment stored : Settings) :
    Except ConfigError Place :=
  if flags.setsPlace then .ok flags.place else Settings.firstPlace environment stored

/-- Do the arguments leave zone and offset to layers of which one sets the zone and the other the
offset? -/
def clash (flags : ScheduleOptions) (environment stored : Settings) : Bool :=
  !flags.setsPlace && Settings.clash environment stored

section Layers

variable {stored : Settings}
  (hrequest : Request.ofArguments arguments = .ok request)
  (hstored : Settings.stored surroundings.files request.config = .ok stored)
  (henvironment : (Settings.ofEnvironment surroundings.environment).setsBoth = false)
  {options : ScheduleOptions} (hoptions : request.options surroundings = .ok options)

include hstored henvironment hoptions

theorem firstPlace_eq_iff :
    firstPlace request.flags (Settings.ofEnvironment surroundings.environment) stored =
        .ok options.place ↔
      clash request.flags (Settings.ofEnvironment surroundings.environment) stored = false := by
  obtain ⟨loaded, hloaded, rfl⟩ := (Request.options_eq_ok_iff hstored).1 hoptions
  have hplace := Settings.place_of_options hloaded
  rw [firstPlace, clash, ScheduleOptions.place_orElse]
  split
  · next hflags => simp [hflags]
  · next hflags =>
    rw [Settings.firstPlace_eq_iff (Settings.neverNull_ofEnvironment _) henvironment hplace]
    simp [hflags]

include hrequest

theorem isSome_both_iff_clash (hfile : stored.setsBoth = false) :
    options.timeZone.isSome = true ∧ options.utcOffset.isSome = true ↔
      clash request.flags (Settings.ofEnvironment surroundings.environment) stored = true := by
  obtain ⟨loaded, hloaded, rfl⟩ := (Request.options_eq_ok_iff hstored).1 hoptions
  have hplace := Settings.place_of_options hloaded
  change (request.flags.orElse loaded).place.1.isSome = true ∧
    (request.flags.orElse loaded).place.2.isSome = true ↔ _
  rw [clash, ScheduleOptions.place_orElse]
  split
  · next hflags =>
    rw [hflags, Bool.not_true, Bool.false_and]
    exact iff_of_false (Request.not_both_of_ofArguments hrequest) Bool.false_ne_true
  · next hflags =>
    rw [Settings.isSome_both_iff_clash (Settings.neverNull_ofEnvironment _) henvironment hfile hplace]
    simp [hflags]

end Layers

/-- Where no layer sets both zone and offset, a schedule is compiled with those of the first layer
that sets either, exactly unless the layers clash; and exactly where they clash is the command
rejected because both are set. There are options to compile with whenever environment and file can
each be read. -/
theorem place_of_first_layer_iff {stored : Settings}
    (hrequest : Request.ofArguments arguments = .ok request)
    (hstored : Settings.stored surroundings.files request.config = .ok stored)
    (henvironment : (Settings.ofEnvironment surroundings.environment).setsBoth = false)
    (hfile : stored.setsBoth = false) :
    let environment := Settings.ofEnvironment surroundings.environment
    (∀ options, request.options surroundings = .ok options →
      (firstPlace request.flags environment stored = .ok options.place ↔
        clash request.flags environment stored = false)) ∧
    (run surroundings arguments = .rejected .conflictingZone ↔
      clash request.flags environment stored = true ∧
        ∃ options, request.options surroundings = .ok options) ∧
    ((∃ options, environment.options = .ok options) → (∃ options, stored.options = .ok options) →
      ∃ options, request.options surroundings = .ok options) := by
  intro environment
  refine ⟨fun options hoptions => firstPlace_eq_iff hstored henvironment hoptions, ?_, ?_⟩
  · rw [run_eq_rejected_iff hrequest]
    constructor
    · rintro ⟨options, hoptions, hcompile⟩
      have hboth := Schedule.compile_eq_conflictingZone_iff.1 hcompile
      exact ⟨(isSome_both_iff_clash hrequest hstored henvironment hoptions hfile).1 hboth,
        options, hoptions⟩
    · rintro ⟨hclash, options, hoptions⟩
      have hboth := (isSome_both_iff_clash hrequest hstored henvironment hoptions hfile).2 hclash
      exact ⟨options, hoptions, Schedule.compile_eq_conflictingZone_iff.2 hboth⟩
  · intro hread hstoredRead
    obtain ⟨loaded, hloaded⟩ := Settings.exists_options_layeredOn
      (Settings.neverNull_ofEnvironment _) hread hstoredRead
    exact ⟨_, (Request.options_eq_ok_iff hstored).2 ⟨loaded, hloaded, rfl⟩⟩

/-! ## A zone in the file and an offset in the environment -/

/-- The environment sets an offset, and the options file a zone. -/
def offsetOverLondon : Surroundings where
  files path :=
    if path = OptionsFile.defaultPath then some "time_zone = \"Europe/London\"\n" else none
  environment := [("CRONKIT_UTC_OFFSET", "60")]
  present := 1705276800
  horizon := ⟨0, none⟩

/-- The request to list the next five mornings. -/
def mornings (timeZone : Option String) : Request where
  expression := "0 0 9 * * ?"
  reference := none
  count := 5
  previous := false
  timeZone := timeZone
  utcOffset := none
  config := none
  json := false
  tree := false

theorem stored_london : Settings.stored offsetOverLondon.files none =
    .ok [("time_zone", .text "Europe/London")] := by
  decide +kernel

theorem setsBoth_environment_of_offset :
    (Settings.ofEnvironment offsetOverLondon.environment).setsBoth = false := by
  decide +kernel

/-- Where the arguments name a zone, that is the one. Where they do not, the command is rejected. -/
theorem place_of_first_layer_over_london :
    run offsetOverLondon ["0 0 9 * * ?"] = .rejected .conflictingZone ∧
    ∃ options, (mornings (some "Asia/Tokyo")).options offsetOverLondon = .ok options ∧
      options.place = (some "Asia/Tokyo", none) := by
  have hread : ∃ options,
      (Settings.ofEnvironment offsetOverLondon.environment).options = .ok options :=
    ⟨⟨none, some 60, none, none⟩, by decide +kernel⟩
  have hstoredRead : ∃ options, Settings.options [("time_zone", .text "Europe/London")] =
      .ok options := ⟨⟨some "Europe/London", none, none, none⟩, by decide +kernel⟩
  constructor
  · have hrequest : Request.ofArguments ["0 0 9 * * ?"] = .ok (mornings none) := by decide +kernel
    obtain ⟨-, hrejected, hexists⟩ := place_of_first_layer_iff hrequest stored_london
      setsBoth_environment_of_offset (by decide)
    exact hrejected.2 ⟨by decide +kernel, hexists hread hstoredRead⟩
  · have hrequest : Request.ofArguments ["--time-zone", "Asia/Tokyo", "0 0 9 * * ?"] =
        .ok (mornings (some "Asia/Tokyo")) := by decide +kernel
    obtain ⟨hplace, -, hexists⟩ := place_of_first_layer_iff hrequest stored_london
      setsBoth_environment_of_offset (by decide)
    obtain ⟨options, hoptions⟩ := hexists hread hstoredRead
    have hfirst := (hplace options hoptions).2 (by decide +kernel)
    exact ⟨options, hoptions, (Except.ok.inj hfirst).symm⟩

/-- Every layer sets one of zone and offset at most, and the first that sets either sets an offset of
one hour; but the schedule is to be compiled with the zone of the file too, and is rejected. -/
theorem rejects_offset_over_london :
    ∃ stored, Request.ofArguments ["0 0 9 * * ?"] = .ok (mornings none) ∧
      Settings.stored offsetOverLondon.files (mornings none).config = .ok stored ∧
      (Settings.ofEnvironment offsetOverLondon.environment).setsBoth = false ∧
      stored.setsBoth = false ∧
      firstPlace (mornings none).flags (Settings.ofEnvironment offsetOverLondon.environment) stored =
        .ok (none, some 60) ∧
      run offsetOverLondon ["0 0 9 * * ?"] = .rejected .conflictingZone := by
  have hrequest : Request.ofArguments ["0 0 9 * * ?"] = .ok (mornings none) := by decide +kernel
  have hoptions : (mornings none).options offsetOverLondon =
      .ok ⟨some "Europe/London", some 60, none, none⟩ := by decide +kernel
  have hcompile : Schedule.compile offsetOverLondon.horizon (mornings none).expression
      ⟨some "Europe/London", some 60, none, none⟩ = .error .conflictingZone :=
    Schedule.compile_eq_conflictingZone_iff.2 ⟨rfl, rfl⟩
  exact ⟨_, hrequest, stored_london, setsBoth_environment_of_offset, by decide, by decide +kernel,
    (run_eq_rejected_iff hrequest).2 ⟨_, hoptions, hcompile⟩⟩

end CommandLine

end CronSchedule

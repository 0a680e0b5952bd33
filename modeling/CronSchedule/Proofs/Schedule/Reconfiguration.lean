import CronSchedule.Proofs.Schedule.Compiled

/-!
# Replacing the settings of a schedule

A call that replaces a setting works on the schedule in place: it checks the new
value first and stores it only if it passes, so a call that fails leaves the
schedule as it was (`SettingCall.run_perform`). After any calls a schedule has the
expression and the patterns that it was compiled with and the settings that were
stored last (`Schedule.afterAll_eq`). Nothing else is left of its history: it
answers as a schedule that is compiled afresh under its settings
(`Schedule.afterAll_like_fresh`).
-/

set_option autoImplicit false

namespace CronSchedule

open Schedule

/-! ## Calls -/

/-- A call that replaces one setting of a schedule. -/
inductive SettingCall where
  | timeZone (name : String)
  | utcOffset (minutes : Int)
  | beginEpoch (epoch : Int)
  | endEpoch (epoch : Option Int)
  deriving DecidableEq

namespace SettingCall

/-- The schedule that the call makes of a schedule. -/
def result (schedule : Schedule) : SettingCall → Except ScheduleError Schedule
  | timeZone name => schedule.setTimeZone name
  | utcOffset minutes => schedule.setUtcOffset minutes
  | beginEpoch epoch => schedule.setBeginEpoch epoch
  | endEpoch epoch => .ok (schedule.setEndEpoch epoch)

/-- The call as a change of the schedule in place: the changed schedule is stored last, after the
check of the new value. -/
def perform (call : SettingCall) : EStateM ScheduleError Schedule Unit := do
  let changed ← ofExcept (call.result (← get))
  set changed

/-- The zone that the call stores. -/
def zone? : SettingCall → Option Zone
  | timeZone name => (namedZone name).toOption
  | utcOffset minutes => (fixedZone minutes).toOption
  | _ => none

/-- The end of a search backward that the call stores. -/
def beginEpoch? : SettingCall → Option Int
  | beginEpoch epoch => (checkedBegin epoch).toOption
  | _ => none

/-- The end of a search forward that the call stores, if it stores one; it may be left open. -/
def endEpoch? : SettingCall → Option (Option Int)
  | endEpoch epoch => some epoch
  | _ => none

/-- A call changes the schedule in place to its result, or not at all. -/
theorem run_perform (schedule : Schedule) (call : SettingCall) : call.perform.run schedule =
    match call.result schedule with
    | .ok changed => .ok () changed
    | .error error => .error error schedule := by
  have hrun : call.perform.run schedule =
      (ofExcept (call.result schedule) >>= set : EStateM ScheduleError Schedule Unit).run schedule :=
    rfl
  rw [hrun]
  cases call.result schedule with
  | ok changed => rfl
  | error error => rfl

end SettingCall

namespace Schedule

variable {schedule : Schedule}

/-- The schedule after a call. Its user goes on with it whether the call fails or not. -/
def after (schedule : Schedule) (call : SettingCall) : Schedule :=
  match call.perform.run schedule with
  | .ok _ changed | .error _ changed => changed

/-- The schedule after calls in turn. -/
def afterAll (schedule : Schedule) (calls : List SettingCall) : Schedule :=
  calls.foldl after schedule

/-- The options that ask for the zone and the horizon of a schedule. -/
def settings (schedule : Schedule) : ScheduleOptions where
  timeZone := match schedule.zone with
    | .named table => some table.name
    | .fixed _ => none
  utcOffset := match schedule.zone with
    | .fixed minutes => some minutes
    | .named _ => none
  beginEpoch := some schedule.horizon.beginEpoch
  endEpoch := schedule.horizon.endEpoch

/-! ## What calls change -/

/-- A call changes no more than the setting that it stores. -/
theorem after_eq (schedule : Schedule) (call : SettingCall) : schedule.after call =
    { schedule with
      zone := call.zone?.getD schedule.zone
      horizon := {
        beginEpoch := call.beginEpoch?.getD schedule.horizon.beginEpoch
        endEpoch := call.endEpoch?.getD schedule.horizon.endEpoch } } := by
  rw [after, SettingCall.run_perform]
  cases call with
  | timeZone name =>
    simp only [SettingCall.result, setTimeZone, SettingCall.zone?]
    cases namedZone name <;> rfl
  | utcOffset minutes =>
    simp only [SettingCall.result, setUtcOffset, SettingCall.zone?]
    cases fixedZone minutes <;> rfl
  | beginEpoch epoch =>
    simp only [SettingCall.result, setBeginEpoch, SettingCall.beginEpoch?]
    cases checkedBegin epoch <;> rfl
  | endEpoch epoch => rfl

theorem getLastD_filterMap_cons {α β : Type} (f : α → Option β) (item : α) (items : List α)
    (fallback : β) : ((item :: items).filterMap f).getLastD fallback =
      (items.filterMap f).getLastD ((f item).getD fallback) := by
  cases h : f item with
  | none => rw [List.filterMap_cons_none h, Option.getD_none]
  | some value => rw [List.filterMap_cons_some h, List.getLastD_cons, Option.getD_some]

theorem getLastD_filterMap_of_forall {α β : Type} {f : α → Option β} {P : β → Prop} {fallback : β}
    {items : List α} (hfallback : P fallback) (h : ∀ item value, f item = some value → P value) :
    P ((items.filterMap f).getLastD fallback) := by
  have hlast : (items.filterMap f).getLastD fallback ∈ fallback :: items.filterMap f :=
    List.getLastD_mem_cons
  rcases List.mem_cons.1 hlast with heq | hmem
  · rwa [heq]
  · obtain ⟨item, -, hitem⟩ := List.mem_filterMap.1 hmem
    exact h item _ hitem

/-- After any calls, each setting is the one stored last, or the first one if no call stored any. -/
theorem afterAll_eq (schedule : Schedule) (calls : List SettingCall) : schedule.afterAll calls =
    { schedule with
      zone := (calls.filterMap SettingCall.zone?).getLastD schedule.zone
      horizon := {
        beginEpoch :=
          (calls.filterMap SettingCall.beginEpoch?).getLastD schedule.horizon.beginEpoch
        endEpoch := (calls.filterMap SettingCall.endEpoch?).getLastD schedule.horizon.endEpoch } } := by
  induction calls generalizing schedule with
  | nil => rfl
  | cons call calls ih =>
    rw [afterAll, List.foldl_cons, ← afterAll, ih, after_eq]
    simp only [getLastD_filterMap_cons]

/-- A schedule stays compiled, whatever calls replace its settings. -/
theorem Compiled.afterAll (h : schedule.Compiled) (calls : List SettingCall) :
    (schedule.afterAll calls).Compiled := by
  rw [afterAll_eq]
  exact h

/-! ## Settings that a schedule can have -/

end Schedule

/-- A zone that a schedule can be set to: one under its own name, or an offset of at most eighteen
hours. -/
def Zone.Admissible : Zone → Prop
  | fixed minutes => -maxUtcOffset ≤ minutes ∧ minutes ≤ maxUtcOffset
  | named table => ZoneTable.find? table.name = some table

namespace Schedule

variable {schedule : Schedule} {zone : Zone}

theorem admissible_of_namedZone {name : String} (h : namedZone name = .ok zone) :
    zone.Admissible := by
  rw [namedZone] at h
  split at h
  · next table hfind =>
    cases h
    -- a zone found by a name has that name
    have hname : table.name = name := by simpa using List.find?_some hfind
    rw [Zone.Admissible, hname]
    exact hfind
  · cases h

theorem admissible_of_fixedZone {minutes : Int} (h : fixedZone minutes = .ok zone) :
    zone.Admissible := by
  obtain ⟨hbounds, rfl⟩ := Outcome.ite_eq_ok_iff.1 h
  exact hbounds

theorem admissible_of_zoneOf {options : ScheduleOptions} (h : zoneOf options = .ok zone) :
    zone.Admissible := by
  rw [zoneOf] at h
  split at h
  · cases h
  · exact admissible_of_namedZone h
  · exact admissible_of_fixedZone h
  · cases h
    exact ⟨by decide, by decide⟩

/-- The options of a schedule ask for its own zone. -/
theorem zoneOf_settings (h : schedule.zone.Admissible) :
    zoneOf schedule.settings = .ok schedule.zone := by
  obtain ⟨expression, patterns, zone, horizon⟩ := schedule
  cases zone with
  | fixed minutes => exact Outcome.ite_eq_ok_iff.2 ⟨h, rfl⟩
  | named table =>
    rw [Zone.Admissible] at h
    simp only [zoneOf, settings, namedZone, h]

theorem admissible_of_zone? {call : SettingCall} (h : call.zone? = some zone) :
    zone.Admissible := by
  cases call with
  | timeZone name => exact admissible_of_namedZone (Outcome.toOption_eq_some_iff.1 h)
  | utcOffset minutes => exact admissible_of_fixedZone (Outcome.toOption_eq_some_iff.1 h)
  | beginEpoch | endEpoch => cases h

theorem nonneg_of_beginEpoch? {call : SettingCall} {epoch : Int}
    (h : call.beginEpoch? = some epoch) : 0 ≤ epoch := by
  cases call with
  | beginEpoch asked =>
    obtain ⟨hnonneg, rfl⟩ := checkedBegin_eq_ok_iff.1 (Outcome.toOption_eq_some_iff.1 h)
    exact hnonneg
  | timeZone | utcOffset | endEpoch => cases h

/-- No call takes a schedule away from the settings that it can have. -/
theorem settings_afterAll (hzone : schedule.zone.Admissible)
    (hbegin : 0 ≤ schedule.horizon.beginEpoch) (calls : List SettingCall) :
    (schedule.afterAll calls).zone.Admissible ∧
      0 ≤ (schedule.afterAll calls).horizon.beginEpoch := by
  rw [afterAll_eq]
  constructor
  · exact getLastD_filterMap_of_forall hzone fun _ _ => admissible_of_zone?
  · exact getLastD_filterMap_of_forall hbegin fun _ _ => nonneg_of_beginEpoch?

/-! ## Schedules compiled afresh -/

/-- A schedule in which the end of the search is set is what its settings and its expression
compile to, whatever the horizon that options leave open. -/
theorem compile_settings (compiled : schedule.Compiled) (hzone : schedule.zone.Admissible)
    (hbegin : 0 ≤ schedule.horizon.beginEpoch) {endEpoch : Int}
    (hend : schedule.horizon.endEpoch = some endEpoch) (fallback : Horizon) :
    compile fallback schedule.expression schedule.settings = .ok schedule := by
  refine compile_eq_ok_iff.2 ⟨rfl, zoneOf_settings hzone, ?_, ?_, compiled⟩
  · exact checkedBegin_eq_ok_iff.2 ⟨hbegin, rfl⟩
  · rw [settings, hend]
    rfl

/-- Take a compiled schedule and any calls that replace its settings, some of which may fail. A
further call that fails leaves the schedule as it is. Expression and patterns are those of the
construction, and each setting is the one stored last. A search backward ends no earlier than the
epoch, and a fixed offset is at most eighteen hours. If the end of a search forward is set, the
schedule answers as one that is compiled from the expression under its settings. -/
theorem afterAll_like_fresh {fallback : Horizon} {expression : String} {options : ScheduleOptions}
    (h : compile fallback expression options = .ok schedule) (calls : List SettingCall) :
    (∀ (call : SettingCall) error changed,
      call.perform.run (schedule.afterAll calls) = .error error changed →
        changed = schedule.afterAll calls) ∧
    (schedule.afterAll calls).expression = expression ∧
    (schedule.afterAll calls).patterns = schedule.patterns ∧
    (schedule.afterAll calls).zone =
      (calls.filterMap SettingCall.zone?).getLastD schedule.zone ∧
    (schedule.afterAll calls).horizon.beginEpoch =
      (calls.filterMap SettingCall.beginEpoch?).getLastD schedule.horizon.beginEpoch ∧
    (schedule.afterAll calls).horizon.endEpoch =
      (calls.filterMap SettingCall.endEpoch?).getLastD schedule.horizon.endEpoch ∧
    0 ≤ (schedule.afterAll calls).horizon.beginEpoch ∧
    (∀ minutes, (schedule.afterAll calls).zone = .fixed minutes →
      -1080 ≤ minutes ∧ minutes ≤ 1080) ∧
    ∀ endEpoch later, (schedule.afterAll calls).horizon.endEpoch = some endEpoch →
      ∃ fresh, compile later expression (schedule.afterAll calls).settings = .ok fresh ∧
        ∀ epoch, fresh.next? epoch = (schedule.afterAll calls).next? epoch ∧
          fresh.previous? epoch = (schedule.afterAll calls).previous? epoch ∧
          fresh.matchesEpoch epoch = (schedule.afterAll calls).matchesEpoch epoch := by
  obtain ⟨hexpression, hzone, hbegin, -, -⟩ := compile_eq_ok_iff.1 h
  obtain ⟨hasked, hstored⟩ := checkedBegin_eq_ok_iff.1 hbegin
  obtain ⟨hadmissible, hnonneg⟩ :=
    settings_afterAll (admissible_of_zoneOf hzone) (hstored ▸ hasked) calls
  have compiled := (compiled_of_compile h).afterAll calls
  have hlast := afterAll_eq schedule calls
  have hkept : (schedule.afterAll calls).expression = expression := by
    rw [hlast]
    exact hexpression
  refine ⟨?_, hkept, by rw [hlast], by rw [hlast], by rw [hlast], by rw [hlast], hnonneg, ?_, ?_⟩
  · intro call error changed hrun
    rw [SettingCall.run_perform] at hrun
    split at hrun
    · cases hrun
    · cases hrun
      rfl
  · intro minutes hfixed
    rw [hfixed] at hadmissible
    exact hadmissible
  · intro endEpoch later hend
    refine ⟨schedule.afterAll calls, ?_, fun epoch => ⟨rfl, rfl, rfl⟩⟩
    rw [← hkept]
    exact compile_settings compiled hadmissible hnonneg hend later

/-- Calls of which three fail; the others end in Tokyo with a horizon of their own. -/
def callsToTokyo : List SettingCall :=
  [.timeZone "Mars/Olympus", .utcOffset 90, .utcOffset 2000, .beginEpoch (-5), .endEpoch none,
    .timeZone "Asia/Tokyo", .beginEpoch 1000, .endEpoch (some 4102444799)]

/-- Calls that go on to a fixed offset; the last one fails. -/
def callsToFixedOffset : List SettingCall := callsToTokyo ++ [.utcOffset 570, .utcOffset 2000]

/-- The zone of Tokyo is stored, and by later calls an offset of nine and a half hours. -/
theorem afterAll_like_fresh_in_tokyo :
    ∃ schedule inTokyo atOffset, compile ⟨0, none⟩ "0 30 9 ? * MON-FRI *"
        ⟨some "Europe/Stockholm", none, none, none⟩ = .ok schedule ∧
      schedule.afterAll callsToTokyo = inTokyo ∧
      inTokyo.zone = .named .tokyo ∧ inTokyo.horizon = ⟨1000, some 4102444799⟩ ∧
      schedule.afterAll callsToFixedOffset = atOffset ∧
      atOffset.zone = .fixed 570 ∧ atOffset.horizon = ⟨1000, some 4102444799⟩ ∧
      ∀ changed ∈ [inTokyo, atOffset],
        ∃ fresh, compile ⟨7, none⟩ "0 30 9 ? * MON-FRI *" changed.settings = .ok fresh ∧
          ∀ epoch, fresh.next? epoch = changed.next? epoch ∧
            fresh.previous? epoch = changed.previous? epoch ∧
            fresh.matchesEpoch epoch = changed.matchesEpoch epoch := by
  obtain ⟨schedule, hcompile, -, -⟩ := exists_compiled ⟨0, none⟩ "0 30 9 ? * MON-FRI *"
    ⟨some "Europe/Stockholm", none, none, none⟩ (fun _ => ()) (show _ = some () by decide +kernel)
  -- what the calls store is read off the calls alone
  have hzones : callsToTokyo.filterMap SettingCall.zone? = [.fixed 90, .named .tokyo] := by
    decide +kernel
  have hbegins : callsToTokyo.filterMap SettingCall.beginEpoch? = [1000] := by decide
  have hends : callsToTokyo.filterMap SettingCall.endEpoch? = [none, some 4102444799] := by decide
  have hthen : callsToFixedOffset.filterMap SettingCall.zone? =
      [.fixed 90, .named .tokyo, .fixed 570] := by
    rw [callsToFixedOffset, List.filterMap_append, hzones]
    decide +kernel
  have hbeginsThen : callsToFixedOffset.filterMap SettingCall.beginEpoch? = [1000] := by decide
  have hendsThen : callsToFixedOffset.filterMap SettingCall.endEpoch? = [none, some 4102444799] := by
    decide
  obtain ⟨-, -, -, hzone, hbegin, hend, -, -, hfresh⟩ := afterAll_like_fresh hcompile callsToTokyo
  obtain ⟨-, -, -, hzoneThen, hbeginThen, hendThen, -, -, hfreshThen⟩ :=
    afterAll_like_fresh hcompile callsToFixedOffset
  rw [hzones] at hzone
  rw [hbegins] at hbegin
  rw [hends] at hend
  rw [hthen] at hzoneThen
  rw [hbeginsThen] at hbeginThen
  rw [hendsThen] at hendThen
  have hhorizon {changed : Schedule} (hfirst : changed.horizon.beginEpoch = 1000)
      (hlast : changed.horizon.endEpoch = some 4102444799) :
      changed.horizon = ⟨1000, some 4102444799⟩ := by
    rw [← hfirst, ← hlast]
  refine ⟨schedule, _, _, hcompile, rfl, hzone, hhorizon hbegin hend, rfl, hzoneThen,
    hhorizon hbeginThen hendThen, ?_⟩
  intro changed hchanged
  rcases List.mem_pair.1 hchanged with rfl | rfl
  · exact hfresh 4102444799 ⟨7, none⟩ hend
  · exact hfreshThen 4102444799 ⟨7, none⟩ hendThen

end Schedule

end CronSchedule

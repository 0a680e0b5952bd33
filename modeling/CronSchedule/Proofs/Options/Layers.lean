import CronSchedule.Options.Layers
import CronSchedule.Proofs.Outcome

/-!
# Layers of settings

The settings of the environment stand over those of the options file key by key:
an option that both set is taken from the environment, and one that only the file
sets is taken from there (`Settings.option?_layeredOn`). The zone and the offset
are two options, although they exclude each other. So they come from one layer,
the first that sets either, except where one layer sets the zone and the other
the offset (`Settings.firstPlace_eq_iff`). There both are set
(`Settings.isSome_both_iff_clash`).
-/

set_option autoImplicit false

namespace CronSchedule

/-- Where wall clocks are read, as a zone or as an offset. -/
abbrev Place : Type := Option String × Option Int

/-- The zone and the offset that are set. -/
def ScheduleOptions.place (options : ScheduleOptions) : Place :=
  (options.timeZone, options.utcOffset)

namespace Settings

variable {α : Type} {convert : Setting → Option α} {key : String} {settings upper lower : Settings}

/-! ## Options of one layer -/

/-- Do the settings set the option of a key, and not to nothing? -/
def sets (settings : Settings) (key : String) : Bool :=
  match settings.lookup key with
  | none | some .null => false
  | some _ => true

theorem option?_of_sets_eq_false (h : settings.sets key = false) :
    settings.option? convert key = .ok none := by
  rw [sets] at h
  rw [option?]
  cases hlookup : settings.lookup key with
  | none => rfl
  | some setting =>
    rw [hlookup] at h
    cases setting with
    | null => rfl
    | text | integer | float | boolean | compound => cases h

/-- Settings that can be converted give an option exactly if they set it. -/
theorem isSome_of_option? {value : Option α} (h : settings.option? convert key = .ok value) :
    value.isSome = settings.sets key := by
  rw [option?] at h
  rw [sets]
  cases hlookup : settings.lookup key with
  | none =>
    rw [hlookup] at h
    cases h
    rfl
  | some setting =>
    rw [hlookup] at h
    cases setting with
    | null =>
      cases h
      rfl
    | text | integer | float | boolean | compound =>
      dsimp only at h ⊢
      split at h <;> cases h
      rfl

theorem options_eq_ok_iff {options : ScheduleOptions} : settings.options = .ok options ↔
    settings.option? Setting.toText? "time_zone" = .ok options.timeZone ∧
    settings.option? (Setting.toInteger? 32) "utc_offset" = .ok options.utcOffset ∧
    settings.option? (Setting.toInteger? 64) "begin_epoch" = .ok options.beginEpoch ∧
    settings.option? (Setting.toInteger? 64) "end_epoch" = .ok options.endEpoch := by
  rw [Settings.options]
  constructor
  · intro h
    obtain ⟨timeZone, htimeZone, h⟩ := Outcome.bind_eq_ok_iff.1 h
    obtain ⟨utcOffset, hutcOffset, h⟩ := Outcome.bind_eq_ok_iff.1 h
    obtain ⟨beginEpoch, hbegin, h⟩ := Outcome.bind_eq_ok_iff.1 h
    obtain ⟨endEpoch, hend, h⟩ := Outcome.bind_eq_ok_iff.1 h
    cases h
    exact ⟨htimeZone, hutcOffset, hbegin, hend⟩
  · rintro ⟨htimeZone, hutcOffset, hbegin, hend⟩
    rw [htimeZone, hutcOffset, hbegin, hend]
    rfl

/-- The zone and the offset that settings give. -/
def place (settings : Settings) : Except ConfigError Place := do
  let timeZone ← settings.option? Setting.toText? "time_zone"
  let utcOffset ← settings.option? (Setting.toInteger? 32) "utc_offset"
  return (timeZone, utcOffset)

theorem place_eq_ok_iff {place : Place} : settings.place = .ok place ↔
    settings.option? Setting.toText? "time_zone" = .ok place.1 ∧
    settings.option? (Setting.toInteger? 32) "utc_offset" = .ok place.2 := by
  rw [Settings.place]
  constructor
  · intro h
    obtain ⟨timeZone, htimeZone, h⟩ := Outcome.bind_eq_ok_iff.1 h
    obtain ⟨utcOffset, hutcOffset, h⟩ := Outcome.bind_eq_ok_iff.1 h
    cases h
    exact ⟨htimeZone, hutcOffset⟩
  · rintro ⟨htimeZone, hutcOffset⟩
    rw [htimeZone, hutcOffset]
    rfl

theorem place_of_options {options : ScheduleOptions} (h : settings.options = .ok options) :
    settings.place = .ok options.place := by
  obtain ⟨htimeZone, hutcOffset, -, -⟩ := options_eq_ok_iff.1 h
  exact place_eq_ok_iff.2 ⟨htimeZone, hutcOffset⟩

/-! ## One layer over another -/

/-- Do the settings never set an option to nothing? -/
def NeverNull (settings : Settings) : Prop := ∀ key, settings.lookup key ≠ some .null

theorem neverNull_ofEnvironment (environment : List (String × String)) :
    (ofEnvironment environment).NeverNull := by
  intro key hlookup
  obtain ⟨before, after, hsplit, -⟩ := List.lookup_eq_some_iff.1 hlookup
  have hmem : (key, Setting.null) ∈ ofEnvironment environment := by
    rw [hsplit]
    exact List.mem_append_right before List.mem_cons_self
  rw [ofEnvironment, List.mem_filterMap] at hmem
  obtain ⟨⟨name, value⟩, -, hentry⟩ := hmem
  obtain ⟨variableKey, -, hentry⟩ := Option.map_eq_some_iff.1 hentry
  rw [entry] at hentry
  split at hentry
  · cases hentry
  · have hvalue : Setting.ofEnvironment value = .null := congrArg Prod.snd hentry
    rw [Setting.ofEnvironment] at hvalue
    split_ifs at hvalue
    split at hvalue <;> cases hvalue

theorem lookup_layeredOn :
    (upper.layeredOn lower).lookup key = (upper.lookup key).or (lower.lookup key) :=
  List.lookup_append

theorem sets_layeredOn (h : upper.NeverNull) :
    (upper.layeredOn lower).sets key = (upper.sets key || lower.sets key) := by
  rw [sets, sets.eq_def upper, lookup_layeredOn]
  cases hlookup : upper.lookup key with
  | none => rfl
  | some setting =>
    cases setting with
    | null => exact absurd hlookup (h key)
    | text | integer | float | boolean | compound => rfl

/-- An option is taken from the upper layer if that sets it, and otherwise from the lower one. -/
theorem option?_layeredOn (h : upper.NeverNull) : (upper.layeredOn lower).option? convert key =
    if upper.sets key then upper.option? convert key else lower.option? convert key := by
  rw [option?, option?.eq_def upper, sets, lookup_layeredOn]
  cases hlookup : upper.lookup key with
  | none => rfl
  | some setting =>
    cases setting with
    | null => exact absurd hlookup (h key)
    | text | integer | float | boolean | compound => rfl

/-- What the layers give together is what the upper one gives alone, exactly if that sets the option
or the lower one does not. -/
theorem option?_upper_eq_iff (h : upper.NeverNull) {value : Option α}
    (hvalue : (upper.layeredOn lower).option? convert key = .ok value) :
    upper.option? convert key = .ok value ↔ (upper.sets key || !lower.sets key) = true := by
  rw [option?_layeredOn h] at hvalue
  cases hset : upper.sets key with
  | true =>
    rw [if_pos hset] at hvalue
    simp [hvalue]
  | false =>
    rw [hset, if_neg Bool.false_ne_true] at hvalue
    rw [option?_of_sets_eq_false hset, ← isSome_of_option? hvalue]
    cases value with
    | none => simp
    | some value => simp

theorem exists_option?_layeredOn (h : upper.NeverNull)
    (hupper : ∃ value, upper.option? convert key = .ok value)
    (hlower : ∃ value, lower.option? convert key = .ok value) :
    ∃ value, (upper.layeredOn lower).option? convert key = .ok value := by
  rw [option?_layeredOn h]
  split
  · exact hupper
  · exact hlower

/-- Two layers can be read together if each of them can be read alone. -/
theorem exists_options_layeredOn (h : upper.NeverNull)
    (hupper : ∃ options, upper.options = .ok options)
    (hlower : ∃ options, lower.options = .ok options) :
    ∃ options, (upper.layeredOn lower).options = .ok options := by
  obtain ⟨a, ha⟩ := hupper
  obtain ⟨b, hb⟩ := hlower
  obtain ⟨htimeZone, hutcOffset, hbegin, hend⟩ := options_eq_ok_iff.1 ha
  obtain ⟨htimeZone', hutcOffset', hbegin', hend'⟩ := options_eq_ok_iff.1 hb
  obtain ⟨timeZone, htimeZone⟩ := exists_option?_layeredOn h ⟨_, htimeZone⟩ ⟨_, htimeZone'⟩
  obtain ⟨utcOffset, hutcOffset⟩ := exists_option?_layeredOn h ⟨_, hutcOffset⟩ ⟨_, hutcOffset'⟩
  obtain ⟨beginEpoch, hbegin⟩ := exists_option?_layeredOn h ⟨_, hbegin⟩ ⟨_, hbegin'⟩
  obtain ⟨endEpoch, hend⟩ := exists_option?_layeredOn h ⟨_, hend⟩ ⟨_, hend'⟩
  exact ⟨⟨timeZone, utcOffset, beginEpoch, endEpoch⟩,
    options_eq_ok_iff.2 ⟨htimeZone, hutcOffset, hbegin, hend⟩⟩

/-! ## Zone and offset in two layers -/

/-- Do the settings say where wall clocks are read? -/
def setsPlace (settings : Settings) : Bool := settings.sets "time_zone" || settings.sets "utc_offset"

/-- Do the settings set both the zone and the offset? -/
def setsBoth (settings : Settings) : Bool := settings.sets "time_zone" && settings.sets "utc_offset"

/-- Does one of the layers set the zone and the other the offset? -/
def clash (upper lower : Settings) : Bool :=
  upper.sets "time_zone" && lower.sets "utc_offset" ||
    upper.sets "utc_offset" && lower.sets "time_zone"

/-- The zone and the offset of the first layer that sets either. -/
def firstPlace (upper lower : Settings) : Except ConfigError Place :=
  if upper.setsPlace then upper.place else lower.place

section TwoLayers

variable {place : Place}

/-- Settings that are put together key by key give the zone and the offset of the first layer that
sets either, exactly unless the layers clash. -/
theorem firstPlace_eq_iff (hnull : upper.NeverNull) (hupper : upper.setsBoth = false)
    (h : (upper.layeredOn lower).place = .ok place) :
    firstPlace upper lower = .ok place ↔ clash upper lower = false := by
  obtain ⟨htimeZone, hutcOffset⟩ := place_eq_ok_iff.1 h
  rw [setsBoth] at hupper
  rw [firstPlace, clash]
  split
  · next hplace =>
    rw [place_eq_ok_iff, option?_upper_eq_iff hnull htimeZone, option?_upper_eq_iff hnull hutcOffset]
    rw [setsPlace] at hplace
    -- the upper layer sets one of the two, and the other is left to the lower layer
    grind
  · next hplace =>
    rw [setsPlace, Bool.or_eq_true, not_or, Bool.not_eq_true, Bool.not_eq_true] at hplace
    obtain ⟨hzone, hoffset⟩ := hplace
    rw [option?_layeredOn hnull, hzone, if_neg Bool.false_ne_true] at htimeZone
    rw [option?_layeredOn hnull, hoffset, if_neg Bool.false_ne_true] at hutcOffset
    simp [place_eq_ok_iff, htimeZone, hutcOffset, hzone, hoffset]

/-- Two layers that set one of zone and offset each set both together exactly if they clash. -/
theorem isSome_both_iff_clash (hnull : upper.NeverNull) (hupper : upper.setsBoth = false)
    (hlower : lower.setsBoth = false) (h : (upper.layeredOn lower).place = .ok place) :
    place.1.isSome = true ∧ place.2.isSome = true ↔ clash upper lower = true := by
  obtain ⟨htimeZone, hutcOffset⟩ := place_eq_ok_iff.1 h
  rw [isSome_of_option? htimeZone, isSome_of_option? hutcOffset, sets_layeredOn hnull,
    sets_layeredOn hnull, clash]
  rw [setsBoth] at hupper hlower
  grind

end TwoLayers

/-! ## The options file -/

/-- The settings of the options file; none if there is no file. -/
def stored (files : String → Option String) (path : Option String) :
    Except ConfigError Settings := do
  match ← OptionsFile.find files path with
  | some file => ofFile file
  | none => return []

end Settings

theorem ScheduleOptions.load_eq_ok_iff {files : String → Option String} {path : Option String}
    {environment : List (String × String)} {options : ScheduleOptions} :
    load files path environment = .ok options ↔
      ∃ stored, Settings.stored files path = .ok stored ∧
        ((Settings.ofEnvironment environment).layeredOn stored).options = .ok options := by
  have hload : load files path environment = Settings.stored files path >>= fun stored =>
      ((Settings.ofEnvironment environment).layeredOn stored).options := by
    rw [load, Settings.stored, bind_assoc]
    congr
    funext file
    cases file <;> rfl
  rw [hload, Outcome.bind_eq_ok_iff]

end CronSchedule

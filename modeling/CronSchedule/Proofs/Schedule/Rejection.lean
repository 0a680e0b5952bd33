import CronSchedule.Proofs.Outcome
import CronSchedule.Schedule.Basic

/-!
# Causes of rejection

A token is rejected with an error that names its field
(`Pattern.field_of_read_eq_error`), and an expression with such an error or with
one about its fields as a whole. So the zone is to blame only where the options
are (`Schedule.compile_eq_conflictingZone_iff`).
-/

set_option autoImplicit false

namespace CronSchedule

/-- The field whose token an error is about. -/
def ScheduleError.field? : ScheduleError → Option Field
  | .outOfRange field _ _ _ | .invalidToken field _ | .invalidStep field _
  | .unsupportedStep field _ => some field
  | _ => none

/-! ## Tokens -/

namespace Pattern

variable {field : Field} {text : List Char} {e : ScheduleError}

theorem field_of_readBounded_eq_error {min max : Nat}
    (h : readBounded field min max text = .error e) : e.field? = some field := by
  rw [readBounded] at h
  split at h
  · obtain ⟨-, rfl⟩ := Outcome.ite_eq_error_iff.1 h
    rfl
  · cases h
    rfl

theorem field_of_readValue_eq_error (h : readValue field text = .error e) :
    e.field? = some field := by
  rw [readValue] at h
  split at h
  · obtain ⟨-, rfl⟩ := Outcome.ite_eq_error_iff.1 h
    rfl
  · cases h
    rfl

theorem field_of_readInterval_eq_error (h : readInterval field text = .error e) :
    e.field? = some field := by
  rw [readInterval] at h
  split at h
  · obtain ⟨-, rfl⟩ := Outcome.ite_eq_error_iff.1 h
    rfl
  · cases h
    rfl

theorem field_of_readMonthDay_eq_error (h : readMonthDay text = .error e) :
    e.field? = some .dayOfMonth := by
  rw [readMonthDay.eq_def] at h
  split at h
  · cases h
  · cases h
  · split at h
    · exact field_of_readBounded_eq_error (Outcome.map_eq_error_iff.1 h)
    · cases h
      rfl
  · split at h
    · exact field_of_readValue_eq_error (Outcome.map_eq_error_iff.1 h)
    · cases h
      rfl

theorem field_of_readWeekDay_eq_error (h : readWeekDay text = .error e) :
    e.field? = some .dayOfWeek := by
  rw [readWeekDay] at h
  split at h
  · cases h
  · split at h
    · exact field_of_readBounded_eq_error (Outcome.map_eq_error_iff.1 h)
    · split at h
      · split at h
        · obtain hday | ⟨weekday, -, h⟩ := Outcome.bind_eq_error_iff.1 h
          · exact field_of_readBounded_eq_error hday
          · obtain hcount | ⟨count, -, h⟩ := Outcome.bind_eq_error_iff.1 h
            · exact field_of_readBounded_eq_error hcount
            · cases h
        · cases h
          rfl
      · cases h
        rfl

theorem field_of_readCalendarForm_eq_error (h : readCalendarForm field text = .error e) :
    e.field? = some field := by
  cases field with
  | dayOfMonth => exact field_of_readMonthDay_eq_error h
  | dayOfWeek => exact field_of_readWeekDay_eq_error h
  | second | minute | hour | month | year =>
    cases h
    rfl

theorem field_of_readRange_eq_error {low high : List Char}
    (h : readRange field low high = .error e) : e.field? = some field := by
  have hend {start : Nat} (h : (readValue field high >>= fun last => pure
      (range start last (field = .dayOfWeek && last < start))) = .error e) :
      e.field? = some field := by
    obtain hhigh | ⟨last, -, h⟩ := Outcome.bind_eq_error_iff.1 h
    · exact field_of_readValue_eq_error hhigh
    · cases h
  rw [readRange] at h
  split at h
  · exact hend h
  · obtain hlow | ⟨first, -, h⟩ := Outcome.bind_eq_error_iff.1 h
    · exact field_of_readValue_eq_error hlow
    · exact hend h

theorem field_of_readAtom_eq_error (h : readAtom field text = .error e) :
    e.field? = some field := by
  rw [readAtom] at h
  split at h
  · cases h
  · split at h
    · obtain ⟨-, rfl⟩ := Outcome.ite_eq_error_iff.1 h
      rfl
    · split at h
      · exact field_of_readValue_eq_error (Outcome.map_eq_error_iff.1 h)
      · split at h
        · exact field_of_readRange_eq_error h
        · exact field_of_readCalendarForm_eq_error h

theorem field_of_readItem_eq_error (h : readItem field text = .error e) :
    e.field? = some field := by
  rw [readItem] at h
  split at h
  · exact field_of_readAtom_eq_error h
  · obtain hinterval | ⟨interval, -, h⟩ := Outcome.bind_eq_error_iff.1 h
    · exact field_of_readInterval_eq_error hinterval
    · obtain hbase | ⟨base, -, h⟩ := Outcome.bind_eq_error_iff.1 h
      · exact field_of_readAtom_eq_error hbase
      · split at h
        · cases h
        · cases h
          rfl

theorem field_of_readPart_eq_error {token : List Char}
    (h : readPart field token text = .error e) : e.field? = some field := by
  rw [readPart] at h
  split at h
  · cases h
    rfl
  · exact field_of_readItem_eq_error h

/-- The error for a token names the field that was to be read. -/
theorem field_of_read_eq_error (h : read field text = .error e) : e.field? = some field := by
  rw [read] at h
  split at h
  · exact field_of_readItem_eq_error h
  · obtain ⟨part, -, hpart⟩ := Outcome.exists_of_mapM_eq_error (Outcome.map_eq_error_iff.1 h)
    exact field_of_readPart_eq_error hpart

end Pattern

/-! ## Expressions -/

/-- A traversal that fails does so at one of the fields. -/
theorem PerField.exists_of_traverse_eq_error {α β ε : Type} {f : Field → α → Except ε β}
    {items : PerField α} {e : ε} (h : items.traverse f = .error e) :
    ∃ field, f field (items.get field) = .error e := by
  rw [traverse] at h
  obtain hsecond | ⟨_, -, h⟩ := Outcome.bind_eq_error_iff.1 h
  · exact ⟨.second, hsecond⟩
  obtain hminute | ⟨_, -, h⟩ := Outcome.bind_eq_error_iff.1 h
  · exact ⟨.minute, hminute⟩
  obtain hhour | ⟨_, -, h⟩ := Outcome.bind_eq_error_iff.1 h
  · exact ⟨.hour, hhour⟩
  obtain hdayOfMonth | ⟨_, -, h⟩ := Outcome.bind_eq_error_iff.1 h
  · exact ⟨.dayOfMonth, hdayOfMonth⟩
  obtain hmonth | ⟨_, -, h⟩ := Outcome.bind_eq_error_iff.1 h
  · exact ⟨.month, hmonth⟩
  obtain hdayOfWeek | ⟨_, -, h⟩ := Outcome.bind_eq_error_iff.1 h
  · exact ⟨.dayOfWeek, hdayOfWeek⟩
  obtain hyear | ⟨_, -, h⟩ := Outcome.bind_eq_error_iff.1 h
  · exact ⟨.year, hyear⟩
  cases h

theorem FieldTexts.eq_of_ofWords_eq_error {words : List (List Char)} {e : ScheduleError}
    (h : ofWords words = .error e) : e = .fieldCount (max 1 words.length) := by
  rw [ofWords.eq_def] at h
  split at h
  · cases h
  · cases h
  · cases h
  · exact (Except.error.inj h).symm

/-- What can be wrong with an expression: the number of its words, its two day fields, or the token
of one field. -/
theorem Schedule.compilePatterns_eq_error {expression : String} {e : ScheduleError}
    (h : compilePatterns expression = .error e) :
    (∃ found, e = .fieldCount found) ∨ e = .bothUnspecified ∨ ∃ field, e.field? = some field := by
  rw [compilePatterns] at h
  obtain htexts | ⟨texts, -, hpatterns⟩ := Outcome.bind_eq_error_iff.1 h
  · rw [FieldTexts.ofExpression] at htexts
    obtain hwords | ⟨texts, -, hdays⟩ := Outcome.bind_eq_error_iff.1 htexts
    · exact .inl ⟨_, FieldTexts.eq_of_ofWords_eq_error hwords⟩
    · right
      left
      dsimp only at hdays
      split at hdays
      · exact (Except.error.inj hdays).symm
      · cases hdays
  · obtain ⟨field, hfield⟩ := PerField.exists_of_traverse_eq_error hpatterns
    rw [compileToken, Outcome.map_eq_error_iff] at hfield
    exact .inr (.inr ⟨field, Pattern.field_of_read_eq_error hfield⟩)

/-! ## Schedules -/

namespace Schedule

variable {fallback : Horizon} {expression : String} {options : ScheduleOptions}

theorem zoneOf_eq_conflictingZone_iff : zoneOf options = .error .conflictingZone ↔
    options.timeZone.isSome = true ∧ options.utcOffset.isSome = true := by
  rw [zoneOf]
  split
  · next htimeZone hutcOffset => simp [htimeZone, hutcOffset]
  · next name htimeZone hutcOffset =>
    rw [namedZone]
    split
    · simp [hutcOffset]
    · simp [hutcOffset]
  · next minutes htimeZone hutcOffset =>
    rw [fixedZone, Outcome.ite_eq_error_iff]
    simp [htimeZone]
  · next htimeZone hutcOffset => simp [htimeZone]

/-- A zone and an offset are found in conflict exactly where the options set both, whatever else is
wrong. -/
theorem compile_eq_conflictingZone_iff :
    compile fallback expression options = .error .conflictingZone ↔
      options.timeZone.isSome = true ∧ options.utcOffset.isSome = true := by
  rw [← zoneOf_eq_conflictingZone_iff, compile]
  constructor
  · intro h
    obtain hzone | ⟨zone, -, h⟩ := Outcome.bind_eq_error_iff.1 h
    · exact hzone
    obtain hbegin | ⟨beginEpoch, -, h⟩ := Outcome.bind_eq_error_iff.1 h
    · rw [checkedBegin] at hbegin
      split at hbegin <;> cases hbegin
    obtain hpatterns | ⟨patterns, -, h⟩ := Outcome.bind_eq_error_iff.1 h
    · obtain ⟨found, hcount⟩ | hdays | ⟨field, hfield⟩ := compilePatterns_eq_error hpatterns
      · cases hcount
      · cases hdays
      · cases hfield
    · cases h
  · intro h
    exact Outcome.bind_eq_error_iff.2 (.inl h)

end Schedule

end CronSchedule

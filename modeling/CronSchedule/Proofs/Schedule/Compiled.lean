import CronSchedule.Proofs.LocalTime
import CronSchedule.Proofs.Pattern.DateFree
import CronSchedule.Schedule.Search

/-!
# Compiled schedules

The patterns of a compiled schedule are those of its expression
(`Schedule.compiled_of_compile`). All of these patterns are well formed
(`Schedule.Compiled.wellFormed`). Outside the two day fields they do not look at
the date, so whether the schedule accepts a time is decided by its date and by the
three fields within the day apart (`Schedule.matchesLocal_of_same_day`).
-/

set_option autoImplicit false

namespace CronSchedule

theorem Field.mem_all (field : Field) : field ∈ Field.all := by
  cases field <;> decide

theorem PerField.ext_get {α : Type} {a b : PerField α} (h : ∀ field, a.get field = b.get field) :
    a = b := by
  cases a
  cases b
  congr
  · exact h .second
  · exact h .minute
  · exact h .hour
  · exact h .dayOfMonth
  · exact h .month
  · exact h .dayOfWeek
  · exact h .year

/-- A traversal succeeds exactly when `f` gives each result on its own field. -/
theorem PerField.traverse_eq_ok_iff {α β ε : Type} {f : Field → α → Except ε β}
    {items : PerField α} {results : PerField β} : items.traverse f = .ok results ↔
      ∀ field, f field (items.get field) = .ok (results.get field) := by
  rw [traverse]
  constructor
  · intro h
    obtain ⟨second, hsecond, h⟩ := Outcome.bind_eq_ok_iff.1 h
    obtain ⟨minute, hminute, h⟩ := Outcome.bind_eq_ok_iff.1 h
    obtain ⟨hour, hhour, h⟩ := Outcome.bind_eq_ok_iff.1 h
    obtain ⟨dayOfMonth, hdayOfMonth, h⟩ := Outcome.bind_eq_ok_iff.1 h
    obtain ⟨month, hmonth, h⟩ := Outcome.bind_eq_ok_iff.1 h
    obtain ⟨dayOfWeek, hdayOfWeek, h⟩ := Outcome.bind_eq_ok_iff.1 h
    obtain ⟨year, hyear, h⟩ := Outcome.bind_eq_ok_iff.1 h
    cases h
    intro field
    cases field with
    | second => exact hsecond
    | minute => exact hminute
    | hour => exact hhour
    | dayOfMonth => exact hdayOfMonth
    | month => exact hmonth
    | dayOfWeek => exact hdayOfWeek
    | year => exact hyear
  · intro h
    have hsecond : f .second items.second = .ok results.second := h .second
    have hminute : f .minute items.minute = .ok results.minute := h .minute
    have hhour : f .hour items.hour = .ok results.hour := h .hour
    have hdayOfMonth : f .dayOfMonth items.dayOfMonth = .ok results.dayOfMonth := h .dayOfMonth
    have hmonth : f .month items.month = .ok results.month := h .month
    have hdayOfWeek : f .dayOfWeek items.dayOfWeek = .ok results.dayOfWeek := h .dayOfWeek
    have hyear : f .year items.year = .ok results.year := h .year
    rw [hsecond, hminute, hhour, hdayOfMonth, hmonth, hdayOfWeek, hyear]
    rfl

namespace Schedule

/-- The patterns of the schedule are those that its expression compiles to. -/
def Compiled (schedule : Schedule) : Prop :=
  compilePatterns schedule.expression = .ok schedule.patterns

variable {schedule : Schedule}

theorem checkedBegin_eq_ok_iff {epoch begin : Int} :
    checkedBegin epoch = .ok begin ↔ 0 ≤ epoch ∧ epoch = begin := by
  rw [checkedBegin]
  split
  · next hneg => simp [Int.not_le.2 hneg]
  · next hpos => simp [Int.not_lt.1 hpos]

section Compile

variable {fallback : Horizon} {expression : String} {options : ScheduleOptions}

/-- What a schedule is compiled from: zone and horizon are those of the options, the patterns those
of the expression. -/
theorem compile_eq_ok_iff : compile fallback expression options = .ok schedule ↔
    schedule.expression = expression ∧ zoneOf options = .ok schedule.zone ∧
      checkedBegin (options.beginEpoch.getD fallback.beginEpoch) = .ok schedule.horizon.beginEpoch ∧
      schedule.horizon.endEpoch = options.endEpoch.or fallback.endEpoch ∧
      compilePatterns expression = .ok schedule.patterns := by
  rw [compile]
  constructor
  · intro h
    obtain ⟨zone, hzone, h⟩ := Outcome.bind_eq_ok_iff.1 h
    obtain ⟨beginEpoch, hbegin, h⟩ := Outcome.bind_eq_ok_iff.1 h
    obtain ⟨patterns, hpatterns, h⟩ := Outcome.bind_eq_ok_iff.1 h
    cases h
    exact ⟨rfl, hzone, hbegin, rfl, hpatterns⟩
  · obtain ⟨text, patterns, zone, beginEpoch, endEpoch⟩ := schedule
    rintro ⟨rfl, hzone, hbegin, rfl, hpatterns⟩
    rw [hzone, hbegin, hpatterns]
    rfl

theorem compiled_of_compile (h : compile fallback expression options = .ok schedule) :
    schedule.Compiled := by
  obtain ⟨rfl, -, -, -, hpatterns⟩ := compile_eq_ok_iff.1 h
  exact hpatterns

end Compile

/-- What a computation shows of the schedule of an expression holds of a compiled schedule. -/
theorem exists_compiled {α : Type} (fallback : Horizon) (expression : String)
    (options : ScheduleOptions) (f : Schedule → α) {a : α}
    (h : (compile fallback expression options).toOption.map f = some a) :
    ∃ schedule, compile fallback expression options = .ok schedule ∧ schedule.Compiled ∧
      f schedule = a := by
  cases hcompile : compile fallback expression options with
  | error e =>
    rw [hcompile] at h
    cases h
  | ok schedule =>
    rw [hcompile] at h
    exact ⟨schedule, rfl, compiled_of_compile hcompile, Option.some.inj h⟩

/-! ## Patterns -/

/-- A token is compiled to the canonical form of the pattern that it denotes. -/
theorem compileToken_eq_ok_iff {field : Field} {text : List Char} {pattern : Pattern} :
    compileToken field text = .ok pattern ↔
      ∃ denoted, Grammar.Token field text denoted ∧ Pattern.canonical field denoted = pattern := by
  rw [compileToken, Outcome.map_eq_ok_iff]
  constructor
  · rintro ⟨denoted, hread, hcanonical⟩
    exact ⟨denoted, Pattern.token_of_read hread, hcanonical⟩
  · rintro ⟨denoted, htoken, hcanonical⟩
    exact ⟨denoted, Pattern.read_of_token htoken, hcanonical⟩

/-- The patterns of a compiled schedule are compiled from the field texts of its expression. -/
theorem Compiled.exists_texts (h : schedule.Compiled) :
    ∃ texts, FieldTexts.ofExpression schedule.expression.toList = .ok texts ∧
      ∀ field, compileToken field (texts.get field) = .ok (schedule.pattern field) := by
  rw [Compiled, compilePatterns] at h
  obtain ⟨texts, htexts, h⟩ := Outcome.bind_eq_ok_iff.1 h
  exact ⟨texts, htexts, PerField.traverse_eq_ok_iff.1 h⟩

/-- Every pattern of a compiled schedule is a well-formed pattern of its field. -/
theorem Compiled.wellFormed (h : schedule.Compiled) (field : Field) :
    Pattern.WellFormed field (schedule.pattern field) := by
  obtain ⟨texts, -, hcompile⟩ := h.exists_texts
  obtain ⟨denoted, htoken, hcanonical⟩ := compileToken_eq_ok_iff.1 (hcompile field)
  rw [← hcanonical]
  exact Pattern.wellFormed_canonical htoken

theorem Compiled.isDateFree (h : schedule.Compiled) {field : Field} (hfield : field.isDay = false) :
    (schedule.pattern field).isDateFree = true :=
  Pattern.isDateFree_of_wellFormed hfield (h.wellFormed field)

/-! ## Acceptance of a time -/

theorem matchesLocal_iff {time : LocalTime} :
    schedule.matchesLocal time = true ↔ Field.year.contains (time.component .year) = true ∧
      ∀ field, (schedule.pattern field).accepts (time.component field) time = true := by
  rw [matchesLocal, Bool.and_eq_true, List.all_eq_true]
  constructor
  · exact fun h => ⟨h.1, fun field => h.2 field (Field.mem_all field)⟩
  · exact fun h => ⟨h.1, fun field _ => h.2 field⟩

/-- A schedule accepts times from the first to the last scheduled one only. -/
theorem scheduled_of_matchesLocal {time : LocalTime} (h : schedule.matchesLocal time = true) :
    time.Scheduled :=
  (LocalTime.contains_year_iff time).1 (matchesLocal_iff.1 h).1

/-- Another time of an accepted date is accepted if its second, minute and hour are. -/
theorem matchesLocal_of_same_day {a b : LocalTime} (ha : schedule.matchesLocal a = true)
    (hdate : b.date = a.date) (hclock : ∀ field, field.isSubDay = true →
      (schedule.pattern field).accepts (b.component field) b = true) :
    schedule.matchesLocal b = true := by
  rw [matchesLocal_iff] at ha ⊢
  -- the other fields are read off the date
  have hdateField : ∀ field : Field, field.isSubDay = false → b.component field = a.component field := by
    intro field hfield
    cases field with
    | second | minute | hour => cases hfield
    | dayOfMonth | month | dayOfWeek | year => simp only [LocalTime.component, hdate]
  refine ⟨by rw [hdateField .year rfl]; exact ha.1, ?_⟩
  intro field
  cases hfield : field.isSubDay with
  | true => exact hclock field hfield
  | false =>
    rw [hdateField field hfield, Pattern.accepts_congr_date _ hdate]
    exact ha.2 field

end Schedule

end CronSchedule

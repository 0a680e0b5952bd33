import CronSchedule.Proofs.Schedule.WellFormed

/-!
# Compiling the canonical text of a schedule

The canonical text of a schedule is an expression, and all of its tokens denote
the patterns that they are written for. But the expression is read with its day
fields made to agree: a wildcard in one of them gives way to the other
(`compilePatterns_canonicalText`). An expression can leave such a wildcard
behind, since a step that selects no day is one, but is no star when the day
fields are compared. So the text denotes the schedule that it is written for
exactly if each wildcard in a day field stands beside an unspecified one
(`compile_canonicalText`), and that is so whenever no step in a day field is
empty (`Compiled.daysAgree`).
-/

set_option autoImplicit false

namespace CronSchedule

open Pattern (WellFormed)

namespace Pattern

variable {field : Field} {pattern : Pattern}

theorem isWildcard_iff : pattern.isWildcard = true ↔ pattern = wildcard := by
  cases pattern <;> simp [isWildcard]

theorem isUnspecified_iff : pattern.isUnspecified = true ↔ pattern = unspecified := by
  cases pattern <;> simp [isUnspecified]

instance : Decidable (pattern = wildcard) := decidable_of_iff _ isWildcard_iff

instance : Decidable (pattern = unspecified) := decidable_of_iff _ isUnspecified_iff

theorem tokenChars_eq_star_iff (h : WellFormed field pattern) :
    pattern.tokenChars = ['*'] ↔ pattern = wildcard :=
  ⟨tokenChars_injective h .wildcard, fun heq => heq ▸ rfl⟩

theorem tokenChars_eq_question_iff (hday : field.isDay = true) (h : WellFormed field pattern) :
    pattern.tokenChars = ['?'] ↔ pattern = unspecified :=
  ⟨tokenChars_injective h (.unspecified hday), fun heq => heq ▸ rfl⟩

end Pattern

namespace Schedule

/-! ## Day fields that agree -/

/-- A wildcard in one of the day fields stands beside an unspecified other. -/
def DaysAgree (patterns : PerField Pattern) : Prop :=
  (patterns.dayOfWeek = .wildcard → patterns.dayOfMonth = .unspecified) ∧
    (patterns.dayOfMonth = .wildcard → patterns.dayOfWeek = .unspecified)

instance (patterns : PerField Pattern) : Decidable (DaysAgree patterns) :=
  inferInstanceAs (Decidable (_ ∧ _))

/-- The patterns in which a wildcard in one of the day fields has given way to the other field:
the day of week first, unless the day of month is left unspecified, then the day of month. -/
def withDaysAgreeing (patterns : PerField Pattern) : PerField Pattern :=
  if patterns.dayOfWeek = .wildcard ∧ patterns.dayOfMonth ≠ .unspecified then
    { patterns with dayOfWeek := .unspecified }
  else if patterns.dayOfMonth = .wildcard ∧ patterns.dayOfWeek ≠ .unspecified then
    { patterns with dayOfMonth := .unspecified }
  else patterns

/-- Every step in the day fields of the expression selects some value. -/
def DayStepsSelect (expression : String) : Prop :=
  ∀ texts, FieldTexts.ofExpression expression.toList = .ok texts →
    ∀ field, field.isDay = true → ∀ pattern, Pattern.read field (texts.get field) = .ok pattern →
      Pattern.StepsSelect field pattern

/-- The tokens of the patterns. -/
def tokenTexts (patterns : PerField Pattern) : FieldTexts where
  second := patterns.second.tokenChars
  minute := patterns.minute.tokenChars
  hour := patterns.hour.tokenChars
  dayOfMonth := patterns.dayOfMonth.tokenChars
  month := patterns.month.tokenChars
  dayOfWeek := patterns.dayOfWeek.tokenChars
  year := patterns.year.tokenChars

variable {patterns : PerField Pattern} {schedule : Schedule}

theorem get_tokenTexts (field : Field) :
    (tokenTexts patterns).get field = (patterns.get field).tokenChars := by
  cases field <;> rfl

theorem canonicalChars_eq_joinWith :
    schedule.canonicalChars = Text.joinWith ' ' (tokenTexts schedule.patterns).toList :=
  rfl

/-- What can happen to the day fields: nothing, or a wildcard in one of them gives way. -/
theorem withDaysAgreeing_cases (patterns : PerField Pattern) :
    (DaysAgree patterns ∧ withDaysAgreeing patterns = patterns) ∨
    (patterns.dayOfWeek = .wildcard ∧ patterns.dayOfMonth ≠ .unspecified ∧
      withDaysAgreeing patterns = { patterns with dayOfWeek := .unspecified }) ∨
    (patterns.dayOfMonth = .wildcard ∧ patterns.dayOfWeek ≠ .unspecified ∧
      withDaysAgreeing patterns = { patterns with dayOfMonth := .unspecified }) := by
  rw [withDaysAgreeing]
  split
  · next h => exact .inr (.inl ⟨h.1, h.2, rfl⟩)
  · next hweek =>
    split
    · next h => exact .inr (.inr ⟨h.1, h.2, rfl⟩)
    · next hmonth =>
      exact .inl ⟨⟨not_and_not_right.1 hweek, not_and_not_right.1 hmonth⟩, rfl⟩

theorem daysAgree_withDaysAgreeing : DaysAgree (withDaysAgreeing patterns) := by
  rcases withDaysAgreeing_cases patterns with ⟨hagree, heq⟩ | ⟨hweek, -, heq⟩ | ⟨hmonth, -, heq⟩
  · rwa [heq]
  · rw [heq]
    exact ⟨nofun, fun _ => rfl⟩
  · rw [heq]
    exact ⟨fun _ => rfl, nofun⟩

/-- The patterns stay as they are exactly if their day fields agree. -/
theorem withDaysAgreeing_eq_self_iff :
    withDaysAgreeing patterns = patterns ↔ DaysAgree patterns := by
  constructor
  · intro h
    rw [← h]
    exact daysAgree_withDaysAgreeing
  · intro hagree
    rcases withDaysAgreeing_cases patterns with ⟨-, heq⟩ | ⟨hweek, hne, -⟩ | ⟨hmonth, hne, -⟩
    · exact heq
    · exact absurd (hagree.1 hweek) hne
    · exact absurd (hagree.2 hmonth) hne

theorem wellFormed_withDaysAgreeing (h : ∀ field, WellFormed field (patterns.get field))
    (field : Field) : WellFormed field ((withDaysAgreeing patterns).get field) := by
  rcases withDaysAgreeing_cases patterns with ⟨-, heq⟩ | ⟨-, -, heq⟩ | ⟨-, -, heq⟩
  · rw [heq]
    exact h field
  · rw [heq]
    cases field with
    | dayOfWeek => exact .unspecified rfl
    | _ => exact h _
  · rw [heq]
    cases field with
    | dayOfMonth => exact .unspecified rfl
    | _ => exact h _

/-- An unspecified field accepts what a wildcard accepts, so giving way changes no match. -/
theorem accepts_withDaysAgreeing (field : Field) (value : Nat) (time : LocalTime) :
    ((withDaysAgreeing patterns).get field).accepts value time =
      (patterns.get field).accepts value time := by
  rcases withDaysAgreeing_cases patterns with ⟨-, heq⟩ | ⟨hweek, -, heq⟩ | ⟨hmonth, -, heq⟩
  · rw [heq]
  · rw [heq]
    cases field with
    | dayOfWeek => rw [PerField.get, PerField.get, hweek]; rfl
    | _ => rfl
  · rw [heq]
    cases field with
    | dayOfMonth => rw [PerField.get, PerField.get, hmonth]; rfl
    | _ => rfl

/-- Tokens are reconciled as their patterns are made to agree. -/
theorem tokenTexts_withDaysAgreeing (h : ∀ field, WellFormed field (patterns.get field)) :
    tokenTexts (withDaysAgreeing patterns) = (tokenTexts patterns).reconciled := by
  have hstarMonth := Pattern.tokenChars_eq_star_iff (h .dayOfMonth)
  have hstarWeek := Pattern.tokenChars_eq_star_iff (h .dayOfWeek)
  have hquestionMonth := Pattern.tokenChars_eq_question_iff rfl (h .dayOfMonth)
  have hquestionWeek := Pattern.tokenChars_eq_question_iff rfl (h .dayOfWeek)
  simp only [PerField.get] at hstarMonth hstarWeek hquestionMonth hquestionWeek
  rw [FieldTexts.reconciled_eq, withDaysAgreeing]
  simp only [tokenTexts, ne_eq, hstarMonth, hstarWeek, hquestionMonth, hquestionWeek]
  split
  · rfl
  · split <;> rfl

theorem day_specified_withDaysAgreeing
    (h : ¬ (patterns.dayOfMonth = .unspecified ∧ patterns.dayOfWeek = .unspecified)) :
    ¬ ((withDaysAgreeing patterns).dayOfMonth = .unspecified ∧
      (withDaysAgreeing patterns).dayOfWeek = .unspecified) := by
  rcases withDaysAgreeing_cases patterns with ⟨-, heq⟩ | ⟨-, hmonth, heq⟩ | ⟨-, hweek, heq⟩
  · rwa [heq]
  · rw [heq]
    exact fun hboth => hmonth hboth.1
  · rw [heq]
    exact fun hboth => hweek hboth.2

theorem compileToken_question {field : Field} (hday : field.isDay = true) :
    compileToken field ['?'] = .ok .unspecified := by
  refine compileToken_eq_ok_iff.2 ⟨.unspecified, .item (.atom (.unspecified hday)), ?_⟩
  exact Pattern.canonical_of_wellFormed (.unspecified hday)

/-- The day fields agree if no step in them is empty: then the wildcards in them are stars, which
have been compared with each other. -/
theorem Compiled.daysAgree (h : schedule.Compiled) (hsteps : DayStepsSelect schedule.expression) :
    DaysAgree schedule.patterns := by
  obtain ⟨texts, htexts, hcompile⟩ := h.exists_texts
  obtain ⟨words, -, rfl, -⟩ := FieldTexts.ofExpression_eq_ok_iff.1 htexts
  have hdays := FieldTexts.days_of_reconciled words.withNumbers
  have hquestion (field : Field) (hday : field.isDay = true)
      (htext : words.withNumbers.reconciled.get field = ['?']) :
      schedule.pattern field = .unspecified := by
    have hpattern := hcompile field
    rw [htext, compileToken_question hday] at hpattern
    exact (Except.ok.inj hpattern).symm
  constructor
  · intro hweek
    have hstar := text_of_compileToken_eq_wildcard (hweek ▸ hcompile .dayOfWeek)
      (hsteps _ htexts .dayOfWeek rfl)
    exact hquestion .dayOfMonth rfl (hdays.1 hstar)
  · intro hmonth
    have hstar := text_of_compileToken_eq_wildcard (hmonth ▸ hcompile .dayOfMonth)
      (hsteps _ htexts .dayOfMonth rfl)
    exact hquestion .dayOfWeek rfl (hdays.2 hstar)

/-! ## Compiling tokens -/

theorem compileToken_tokenChars {field : Field} {pattern : Pattern} (h : WellFormed field pattern) :
    compileToken field pattern.tokenChars = .ok pattern :=
  compileToken_eq_ok_iff.2 ⟨pattern, Pattern.token_tokenChars h, Pattern.canonical_of_wellFormed h⟩

/-- The canonical text of a compiled schedule denotes its patterns, once a wildcard in a day field
has given way to the other. -/
theorem Compiled.compilePatterns_canonicalText (h : schedule.Compiled) :
    compilePatterns schedule.canonicalText = .ok (withDaysAgreeing schedule.patterns) := by
  have htokens := tokenTexts_withDaysAgreeing h.wellFormed
  have htexts : FieldTexts.ofExpression schedule.canonicalText.toList =
      .ok (tokenTexts (withDaysAgreeing schedule.patterns)) := by
    rw [canonicalText, String.toList_ofList, canonicalChars_eq_joinWith, htokens]
    refine FieldTexts.ofExpression_joinWith ?_ ?_ ?_
    · intro field
      rw [get_tokenTexts]
      exact Pattern.tokenChars_ne_nil (h.wellFormed field)
    · intro field
      rw [get_tokenTexts]
      exact Pattern.tokenChars_subset _
    · rw [← htokens]
      have hwell := wellFormed_withDaysAgreeing h.wellFormed
      rintro ⟨hmonth, hweek⟩
      refine day_specified_withDaysAgreeing h.day_specified ⟨?_, ?_⟩
      · exact (Pattern.tokenChars_eq_question_iff rfl (hwell .dayOfMonth)).1 hmonth
      · exact (Pattern.tokenChars_eq_question_iff rfl (hwell .dayOfWeek)).1 hweek
  rw [compilePatterns, htexts]
  refine PerField.traverse_eq_ok_iff.2 fun field => ?_
  rw [get_tokenTexts]
  exact compileToken_tokenChars (wellFormed_withDaysAgreeing h.wellFormed field)

/-- The words of a canonical text are the tokens of the patterns. -/
theorem Compiled.words_canonicalText (h : schedule.Compiled) :
    Text.words schedule.canonicalText.toList = schedule.patterns.toList.map Pattern.tokenChars := by
  rw [canonicalText, String.toList_ofList]
  refine Text.words_joinWith (by decide) fun part hpart => ?_
  rw [PerField.toList, List.map_map, List.mem_map] at hpart
  obtain ⟨field, -, rfl⟩ := hpart
  exact Text.isWord_of_subset (Pattern.tokenChars_ne_nil (h.wellFormed field))
    (Pattern.tokenChars_subset _)

/-- Compiled schedules have the same canonical text exactly if they have the same patterns. -/
theorem Compiled.canonicalText_eq_iff {other : Schedule} (h : schedule.Compiled)
    (hother : other.Compiled) :
    schedule.canonicalText = other.canonicalText ↔ schedule.patterns = other.patterns := by
  constructor
  · intro heq
    have htokens : schedule.patterns.toList.map Pattern.tokenChars =
        other.patterns.toList.map Pattern.tokenChars := by
      rw [← h.words_canonicalText, heq, hother.words_canonicalText]
    rw [PerField.toList, PerField.toList, List.map_map, List.map_map, List.map_inj_left] at htokens
    refine PerField.ext_get fun field => ?_
    exact Pattern.tokenChars_injective (h.wellFormed field) (hother.wellFormed field)
      (htokens field (Field.mem_all field))
  · intro heq
    rw [canonicalText, canonicalText, canonicalChars, canonicalChars, heq]

/-! ## Compiling with the same options -/

/-- Options under which one expression compiles serve for every other. -/
theorem exists_compile_of_patterns {fallback later : Horizon} {expression : String}
    {options : ScheduleOptions} (h : compile fallback expression options = .ok schedule)
    (hlater : 0 ≤ later.beginEpoch) {other : String}
    (hpatterns : compilePatterns other = .ok patterns) :
    ∃ again, compile later other options = .ok again ∧ again.patterns = patterns ∧
      again.zone = schedule.zone := by
  obtain ⟨-, hzone, hbegin, -, -⟩ := compile_eq_ok_iff.1 h
  have hbegin' : checkedBegin (options.beginEpoch.getD later.beginEpoch) =
      .ok (options.beginEpoch.getD later.beginEpoch) := by
    refine checkedBegin_eq_ok_iff.2 ⟨?_, rfl⟩
    cases hoption : options.beginEpoch with
    | none => exact hlater
    | some epoch =>
      rw [hoption] at hbegin
      exact (checkedBegin_eq_ok_iff.1 hbegin).1
  let horizon : Horizon :=
    ⟨options.beginEpoch.getD later.beginEpoch, options.endEpoch.or later.endEpoch⟩
  refine ⟨{ expression := other, patterns, zone := schedule.zone, horizon }, ?_, rfl, rfl⟩
  exact compile_eq_ok_iff.2 ⟨rfl, hzone, hbegin', rfl, hpatterns⟩

theorem matchesEpoch_of_withDaysAgreeing {again : Schedule} (hzone : again.zone = schedule.zone)
    (hpatterns : again.patterns = withDaysAgreeing schedule.patterns) (epoch : Int) :
    again.matchesEpoch epoch = schedule.matchesEpoch epoch := by
  have hmatches : again.matchesLocal = schedule.matchesLocal := by
    funext time
    simp only [matchesLocal, pattern, hpatterns, accepts_withDaysAgreeing]
  rw [matchesEpoch, matchesEpoch, hzone, hmatches]

/-- The canonical text of a schedule compiles under the same options to a schedule that matches the
same instants and whose day fields agree. Patterns and text are the same again exactly if the day
fields of the schedule agree already, as they do unless a step in them is empty. -/
theorem compile_canonicalText {fallback later : Horizon} {expression : String}
    {options : ScheduleOptions} (h : compile fallback expression options = .ok schedule)
    (hlater : 0 ≤ later.beginEpoch) :
    ∃ again, compile later schedule.canonicalText options = .ok again ∧
      again.patterns = withDaysAgreeing schedule.patterns ∧
      (again.patterns = schedule.patterns ↔ DaysAgree schedule.patterns) ∧
      (again.canonicalText = schedule.canonicalText ↔ DaysAgree schedule.patterns) ∧
      (DayStepsSelect expression → DaysAgree schedule.patterns) ∧
      DaysAgree again.patterns ∧
      ∀ epoch, again.matchesEpoch epoch = schedule.matchesEpoch epoch := by
  have compiled := compiled_of_compile h
  obtain ⟨again, hagain, hpatterns, hzone⟩ :=
    exists_compile_of_patterns h hlater compiled.compilePatterns_canonicalText
  have hsame : again.patterns = schedule.patterns ↔ DaysAgree schedule.patterns := by
    rw [hpatterns, withDaysAgreeing_eq_self_iff]
  refine ⟨again, hagain, hpatterns, hsame, ?_, ?_, ?_,
    matchesEpoch_of_withDaysAgreeing hzone hpatterns⟩
  · rw [← hsame]
    exact (compiled_of_compile hagain).canonicalText_eq_iff compiled
  · obtain ⟨rfl, -⟩ := compile_eq_ok_iff.1 h
    exact compiled.daysAgree
  · rw [hpatterns]
    exact daysAgree_withDaysAgreeing

/-- The canonical text for nine o'clock on weekdays in January denotes the same patterns. A step
that selects no day of the month is a wildcard, which gives way to the Mondays beside it. -/
theorem compile_canonicalText_mondays :
    (∃ schedule again, compile ⟨0, none⟩ "0 0 9 ? JAN MON-FRI *" .unset = .ok schedule ∧
      compile ⟨1, none⟩ schedule.canonicalText .unset = .ok again ∧
      again.patterns = schedule.patterns) ∧
    ∃ schedule again, compile ⟨0, none⟩ "0 0 9 */32 * MON *" .unset = .ok schedule ∧
      compile ⟨1, none⟩ schedule.canonicalText .unset = .ok again ∧
      again.canonicalText ≠ schedule.canonicalText ∧
      ∀ epoch, again.matchesEpoch epoch = schedule.matchesEpoch epoch := by
  constructor
  · obtain ⟨schedule, hcompile, -, hagree⟩ := exists_compiled ⟨0, none⟩
      "0 0 9 ? JAN MON-FRI *" .unset
      (fun schedule => decide (DaysAgree schedule.patterns)) (show _ = some true by decide +kernel)
    obtain ⟨again, hagain, -, hsame, -⟩ := compile_canonicalText hcompile
      (show 0 ≤ (Horizon.mk 1 none).beginEpoch by decide)
    exact ⟨schedule, again, hcompile, hagain, hsame.2 (of_decide_eq_true hagree)⟩
  · obtain ⟨schedule, hcompile, -, hdisagree⟩ := exists_compiled ⟨0, none⟩
      "0 0 9 */32 * MON *" .unset
      (fun schedule => decide (DaysAgree schedule.patterns)) (show _ = some false by decide +kernel)
    obtain ⟨again, hagain, -, -, htext, -, -, hmatches⟩ := compile_canonicalText hcompile
      (show 0 ≤ (Horizon.mk 1 none).beginEpoch by decide)
    exact ⟨schedule, again, hcompile, hagain, mt htext.1 (of_decide_eq_false hdisagree), hmatches⟩

/-- No weekday is a multiple of 8, so the constraint on the weekday becomes a wildcard. In the
canonical text its star gives way to the day of month. -/
theorem compile_canonicalText_every_eighth_weekday :
    ∃ schedule again, compile ⟨0, none⟩ "0 0 0 5 * */8 *" .unset = .ok schedule ∧
      schedule.canonicalText = "0 0 0 5 * * *" ∧
      compile ⟨0, none⟩ schedule.canonicalText .unset = .ok again ∧
      again.canonicalText = "0 0 0 5 * ? *" ∧ again.patterns ≠ schedule.patterns := by
  obtain ⟨schedule, hcompile, compiled, htext⟩ := exists_compiled ⟨0, none⟩ "0 0 0 5 * */8 *" .unset
    canonicalText (show _ = some "0 0 0 5 * * *" by decide +kernel)
  obtain ⟨again, hagain, compiled', htext'⟩ := exists_compiled ⟨0, none⟩ "0 0 0 5 * * *" .unset
    canonicalText (show _ = some "0 0 0 5 * ? *" by decide +kernel)
  refine ⟨schedule, again, hcompile, htext, htext ▸ hagain, htext', ?_⟩
  rw [ne_eq, ← compiled'.canonicalText_eq_iff compiled, htext, htext']
  decide

end Schedule

end CronSchedule

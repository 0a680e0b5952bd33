import CronSchedule.Proofs.FieldTexts
import CronSchedule.Proofs.Pattern.Meaning
import CronSchedule.Proofs.Schedule.Compiled
import CronSchedule.Schedule.Description

/-!
# Well-formed schedules

Each token of an expression is compiled to a well-formed pattern of its field,
and a day field is left unspecified by a question mark only. Since no expression
has a question mark in both day fields, one of the two is always specified
(`Compiled.day_specified`).
-/

set_option autoImplicit false

namespace CronSchedule

namespace Pattern

open Grammar

variable {field : Field} {text : List Char} {pattern : Pattern}

theorem mergeNumbers_ne (children : List Pattern) :
    mergeNumbers children ≠ wildcard ∧ mergeNumbers children ≠ unspecified := by
  by_cases hrun : ∃ low high, IsNumberRun children low high
  · obtain ⟨low, high, hrun⟩ := hrun
    rw [mergeNumbers_of_isNumberRun hrun]
    split <;> exact ⟨nofun, nofun⟩
  · rw [mergeNumbers_of_not_isNumberRun fun low high h => hrun ⟨low, high, h⟩]
    exact ⟨nofun, nofun⟩

/-- A simplified pattern that constrains nothing was read as it is, or as a step that selects
nothing. -/
theorem simplify_cases (h : Token field text pattern) :
    simplify field pattern = pattern ∨
    (¬ StepsSelect field pattern ∧ simplify field pattern = wildcard) ∨
    (simplify field pattern ≠ wildcard ∧ simplify field pattern ≠ unspecified) := by
  cases h with
  | list =>
    rw [simplify]
    exact .inr (.inr (mergeNumbers_ne _))
  | item hitem =>
    cases hitem with
    | atom hatom => exact .inl (simplify_of_atom hatom).1
    | stepped hspan hwrapped =>
      rcases simplify_step_cases (admitsSteps_of_span hspan hwrapped) with
        ⟨hnone, heq⟩ | ⟨only, -, heq⟩ | ⟨_, _, -, -, -, heq⟩
      · exact .inr (.inl ⟨fun hsteps => hsteps.1.elim hnone, heq⟩)
      · rw [heq]
        exact .inr (.inr ⟨by simp, by simp⟩)
      · exact .inl heq

theorem text_of_wildcard (h : Token field text wildcard) : text = ['*'] := by
  cases h with
  | item hitem =>
    cases hitem with
    | atom hatom =>
      cases hatom with
      | span hspan =>
        cases hspan
        rfl
      | monthDay _ hform => cases hform
      | weekDay _ hform => cases hform

theorem text_of_unspecified (h : Token field text unspecified) : text = ['?'] := by
  cases h with
  | item hitem =>
    cases hitem with
    | atom hatom =>
      cases hatom with
      | unspecified => rfl
      | span hspan => cases hspan
      | monthDay _ hform => cases hform
      | weekDay _ hform => cases hform

end Pattern

namespace Schedule

open Pattern

variable {field : Field} {text : List Char} {schedule : Schedule}

/-- Only a question mark leaves a field unspecified. -/
theorem text_of_compileToken_eq_unspecified (h : compileToken field text = .ok .unspecified) :
    text = ['?'] := by
  obtain ⟨denoted, htoken, hcanonical⟩ := compileToken_eq_ok_iff.1 h
  rw [canonical_eq_simplify (wellFormed_simplify htoken)] at hcanonical
  rcases simplify_cases htoken with heq | ⟨-, heq⟩ | ⟨-, hne⟩
  · rw [hcanonical] at heq
    exact text_of_unspecified (heq ▸ htoken)
  · rw [hcanonical] at heq
    cases heq
  · exact absurd hcanonical hne

/-- Where every step selects a value, only a star becomes a wildcard. -/
theorem text_of_compileToken_eq_wildcard (h : compileToken field text = .ok .wildcard)
    (hsteps : ∀ denoted, read field text = .ok denoted → StepsSelect field denoted) :
    text = ['*'] := by
  obtain ⟨denoted, htoken, hcanonical⟩ := compileToken_eq_ok_iff.1 h
  rw [canonical_eq_simplify (wellFormed_simplify htoken)] at hcanonical
  rcases simplify_cases htoken with heq | ⟨hempty, -⟩ | ⟨hne, -⟩
  · rw [hcanonical] at heq
    exact text_of_wildcard (heq ▸ htoken)
  · exact absurd (hsteps denoted (read_of_token htoken)) hempty
  · exact absurd hcanonical hne

/-- One of the two day fields of a compiled schedule is specified. -/
theorem Compiled.day_specified (h : schedule.Compiled) :
    ¬ (schedule.pattern .dayOfMonth = .unspecified ∧
      schedule.pattern .dayOfWeek = .unspecified) := by
  rintro ⟨hdayOfMonth, hdayOfWeek⟩
  obtain ⟨texts, htexts, hcompile⟩ := h.exists_texts
  obtain ⟨-, -, -, hdays⟩ := FieldTexts.ofExpression_eq_ok_iff.1 htexts
  refine hdays ⟨?_, ?_⟩
  · exact text_of_compileToken_eq_unspecified (hdayOfMonth ▸ hcompile .dayOfMonth)
  · exact text_of_compileToken_eq_unspecified (hdayOfWeek ▸ hcompile .dayOfWeek)

/-- Every pattern of a schedule is a well-formed pattern of its field, and one of the two day
fields is specified. -/
theorem wellFormed_of_compile {fallback : Horizon} {expression : String} {options : ScheduleOptions}
    (h : compile fallback expression options = .ok schedule) :
    (∀ field, WellFormed field (schedule.pattern field)) ∧
      ¬ (schedule.pattern .dayOfMonth = .unspecified ∧
        schedule.pattern .dayOfWeek = .unspecified) := by
  have compiled := compiled_of_compile h
  exact ⟨compiled.wellFormed, compiled.day_specified⟩

/-- Of this expression, a list becomes a range, a step becomes a number, and names give way to
numbers. -/
theorem wellFormed_of_compile_second_monday :
    ∃ schedule, compile ⟨0, none⟩ "0 10,12,11 20/4 * JAN-MAR,7 MON#2,0 2020/50" .unset =
        .ok schedule ∧
      schedule.canonicalText = "0 10-12 20 ? 1-3,7 1#2,7 2020/50" ∧
      (∀ field, WellFormed field (schedule.pattern field)) ∧
      ¬ (schedule.pattern .dayOfMonth = .unspecified ∧
        schedule.pattern .dayOfWeek = .unspecified) := by
  obtain ⟨schedule, hcompile, -, htext⟩ := exists_compiled ⟨0, none⟩
    "0 10,12,11 20/4 * JAN-MAR,7 MON#2,0 2020/50" .unset canonicalText
    (show _ = some "0 10-12 20 ? 1-3,7 1#2,7 2020/50" by decide +kernel)
  exact ⟨schedule, hcompile, htext, wellFormed_of_compile hcompile⟩

end Schedule

end CronSchedule

import CronSchedule.Proofs.Pattern.WellFormed

/-!
# Canonical forms keep their meaning

The canonical form of a token accepts the same values of its field as the
pattern that was read, on every date, apart from steps that select nothing: these
become wildcards (`accepts_canonical`).
-/

set_option autoImplicit false

namespace CronSchedule.Pattern

open Grammar

variable {field : Field} {text : List Char} {pattern : Pattern}

/-! ## Steps that select nothing -/

mutual

/-- The pattern with a wildcard in place of every step that selects no value. -/
def fillEmptySteps (field : Field) : Pattern → Pattern
  | step base interval =>
    if ∀ value, ¬ Selects field base interval value then wildcard
    else step (fillEmptySteps field base) interval
  | list children => list (fillEmptyStepsAll field children)
  | pattern => pattern

/-- The patterns of a list with wildcards in place of the steps that select no value. -/
def fillEmptyStepsAll (field : Field) : List Pattern → List Pattern
  | [] => []
  | child :: others => fillEmptySteps field child :: fillEmptyStepsAll field others

end

mutual

/-- Every step in the pattern selects some value. -/
def StepsSelect (field : Field) : Pattern → Prop
  | step base interval => (∃ value, Selects field base interval value) ∧ StepsSelect field base
  | list children => AllStepsSelect field children
  | _ => True

/-- Every step in each of the patterns selects some value. -/
def AllStepsSelect (field : Field) : List Pattern → Prop
  | [] => True
  | child :: others => StepsSelect field child ∧ AllStepsSelect field others

end

mutual

/-- Where every step selects a value, there is nothing to fill. -/
theorem fillEmptySteps_of_stepsSelect :
    ∀ pattern : Pattern, StepsSelect field pattern → fillEmptySteps field pattern = pattern
  | step base interval, ⟨⟨value, hvalue⟩, hbase⟩ => by
    rw [fillEmptySteps, if_neg fun hnone => hnone value hvalue,
      fillEmptySteps_of_stepsSelect base hbase]
  | list children, h => by
    rw [fillEmptySteps, fillEmptyStepsAll_of_allStepsSelect children h]
  | wildcard, _ | unspecified, _ | single _, _ | range .., _ => rfl
  | last .., _ | lastWeekday, _ | nearestWeekday _, _ | nth .., _ => rfl

theorem fillEmptyStepsAll_of_allStepsSelect :
    ∀ patterns : List Pattern, AllStepsSelect field patterns →
      fillEmptyStepsAll field patterns = patterns
  | [], _ => rfl
  | child :: others, h => by
    rw [fillEmptyStepsAll, fillEmptySteps_of_stepsSelect child h.1,
      fillEmptyStepsAll_of_allStepsSelect others h.2]

end

theorem fillEmptySteps_of_admitsSteps (h : pattern.admitsSteps = true) :
    fillEmptySteps field pattern = pattern := by
  rcases admitsSteps_iff.1 h with rfl | ⟨value, rfl⟩ | ⟨low, high, rfl⟩ <;> rfl

theorem fillEmptySteps_of_atom (h : Atom field text pattern) :
    fillEmptySteps field pattern = pattern := by
  cases h with
  | span hspan => cases hspan <;> rfl
  | unspecified => rfl
  | monthDay _ hform => cases hform <;> rfl
  | weekDay _ hform => cases hform <;> rfl

/-! ## Simplifying -/

section Acceptance

variable {value : Nat} {time : LocalTime}

theorem acceptsAny_map_single {numbers : List Nat} :
    acceptsAny value time (numbers.map single) = decide (value ∈ numbers) := by
  induction numbers with
  | nil => rfl
  | cons n rest ih =>
    rw [List.map_cons, acceptsAny, ih, accepts, Bool.eq_iff_iff, Bool.or_eq_true, beq_iff_eq,
      decide_eq_true_eq, decide_eq_true_eq, List.mem_cons]

/-- Merged or not, a list of patterns accepts what one of them accepts. -/
theorem accepts_mergeNumbers {children : List Pattern} :
    (mergeNumbers children).accepts value time = acceptsAny value time children := by
  by_cases hrun : ∃ low high, IsNumberRun children low high
  · obtain ⟨low, high, hrun⟩ := hrun
    rw [mergeNumbers_of_isNumberRun hrun]
    obtain ⟨numbers, rfl, -, hle, hmem⟩ := hrun
    rw [acceptsAny_map_single, Bool.eq_iff_iff, decide_eq_true_eq, hmem]
    split
    · next heq =>
      rw [accepts, beq_iff_eq]
      omega
    · rw [accepts, if_neg Bool.false_ne_true, Bool.and_eq_true, decide_eq_true_eq,
        decide_eq_true_eq]
  · rw [mergeNumbers_of_not_isNumberRun fun low high h => hrun ⟨low, high, h⟩, accepts]

theorem accepts_simplify_item (h : Item field text pattern) (hvalue : field.contains value = true) :
    (simplify field pattern).accepts value time =
      (fillEmptySteps field pattern).accepts value time := by
  cases h with
  | atom hatom => rw [(simplify_of_atom hatom).1, fillEmptySteps_of_atom hatom]
  | stepped hspan hwrapped =>
    have hsteps := admitsSteps_of_span hspan hwrapped
    rw [fillEmptySteps, fillEmptySteps_of_admitsSteps hsteps]
    rcases simplify_step_cases hsteps with
      ⟨hnone, heq⟩ | ⟨only, honly, heq⟩ | ⟨first, -, -, hfirst, -, heq⟩
    · rw [heq, if_pos hnone]
    · -- the one value that the step selects is the one value of the field that it accepts
      rw [heq, if_neg fun hnone => hnone only ((honly only).2 rfl), Bool.eq_iff_iff,
        ← selects_iff_accepts hvalue, honly, accepts, beq_iff_eq]
    · rw [heq, if_neg fun hnone => hnone first hfirst]

theorem acceptsAny_simplifyAll {texts : List (List Char)} {patterns : List Pattern}
    (h : List.Forall₂ (Item field) texts patterns) (hvalue : field.contains value = true) :
    acceptsAny value time (simplifyAll field patterns) =
      acceptsAny value time (fillEmptyStepsAll field patterns) := by
  induction h with
  | nil => rfl
  | cons hitem _ ih =>
    rw [simplifyAll, fillEmptyStepsAll, acceptsAny, acceptsAny,
      accepts_simplify_item hitem hvalue, ih]

theorem accepts_simplify (h : Token field text pattern) (hvalue : field.contains value = true) :
    (simplify field pattern).accepts value time =
      (fillEmptySteps field pattern).accepts value time := by
  cases h with
  | item hitem => exact accepts_simplify_item hitem hvalue
  | list _ hitems =>
    rw [simplify, fillEmptySteps, accepts_mergeNumbers, accepts]
    exact acceptsAny_simplifyAll hitems hvalue

end Acceptance

/-! ## Canonical forms -/

/-- The canonical form of a token accepts a value of its field, at any time, exactly if the pattern
that was read does when wildcards stand in place of its steps that select nothing; so it accepts the
same values as the pattern itself if there are no such steps. -/
theorem accepts_canonical {token : List Char} (h : read field token = .ok pattern) {value : Nat}
    (hvalue : field.contains value = true) (time : LocalTime) :
    (canonical field pattern).accepts value time =
        (fillEmptySteps field pattern).accepts value time ∧
      (StepsSelect field pattern →
        (canonical field pattern).accepts value time = pattern.accepts value time) := by
  have htoken := token_of_read h
  have hfilled : (canonical field pattern).accepts value time =
      (fillEmptySteps field pattern).accepts value time := by
    rw [canonical_eq_simplify (wellFormed_simplify htoken), accepts_simplify htoken hvalue]
  refine ⟨hfilled, fun hsteps => ?_⟩
  rw [hfilled, fillEmptySteps_of_stepsSelect pattern hsteps]

/-- The step over 4 to 8 selects 4 alone, which completes a run with the numbers beside it; the step
of 8 selects no day of the week, so its canonical form accepts days that the step does not. -/
theorem accepts_canonical_of_run_and_of_empty_step :
    (∃ pattern, read .minute "5,6,4-8/9".toList = .ok pattern ∧ StepsSelect .minute pattern ∧
      canonical .minute pattern = range 4 6 false ∧
      ∀ time, (canonical .minute pattern).accepts 4 time = pattern.accepts 4 time) ∧
    ∃ pattern, read .dayOfWeek "*/8,3".toList = .ok pattern ∧
      ∀ time, pattern.accepts 5 time = false ∧
        (canonical .dayOfWeek pattern).accepts 5 time =
          (fillEmptySteps .dayOfWeek pattern).accepts 5 time := by
  constructor
  · have hread : read .minute "5,6,4-8/9".toList =
        .ok (list [single 5, single 6, step (range 4 8 false) 9]) := by rfl
    have hsteps : StepsSelect .minute (list [single 5, single 6, step (range 4 8 false) 9]) :=
      ⟨trivial, trivial, ⟨⟨4, by decide, by decide, fun _ => rfl⟩, trivial⟩, trivial⟩
    exact ⟨_, hread, hsteps, rfl, fun time =>
      (accepts_canonical hread (by decide) time).2 hsteps⟩
  · have hread : read .dayOfWeek "*/8,3".toList = .ok (list [step wildcard 8, single 3]) := by rfl
    exact ⟨_, hread, fun time => ⟨rfl, (accepts_canonical hread (by decide) time).1⟩⟩

end CronSchedule.Pattern

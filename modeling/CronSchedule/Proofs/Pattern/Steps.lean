import CronSchedule.Pattern.Canonical
import CronSchedule.Pattern.Reading
import Mathlib.Data.List.Range

/-!
# The values that a step selects

A step selects its values within the bounds of its base, which are those of the
field unless the base is a range, and it selects the same ones at all times. A
step that selects nothing or one value alone is simplified to another form, any
other step stays (`simplify_step_cases`).
-/

set_option autoImplicit false

namespace CronSchedule.Pattern

variable {field : Field} {base : Pattern} {interval : Nat}

theorem admitsSteps_iff : base.admitsSteps = true ↔
    base = wildcard ∨ (∃ value, base = single value) ∨ ∃ low high, base = range low high false := by
  constructor
  · intro h
    cases base with
    | wildcard => exact .inl rfl
    | single value => exact .inr (.inl ⟨value, rfl⟩)
    | range low high wrapped =>
      cases wrapped with
      | false => exact .inr (.inr ⟨low, high, rfl⟩)
      | true => cases h
    | _ => cases h
  · rintro (rfl | ⟨value, rfl⟩ | ⟨low, high, rfl⟩) <;> rfl

/-- The step over the base accepts the value, at all times, and the value lies within the bounds of
the base: those of a range, and those of the field for every other base. -/
def Selects (field : Field) (base : Pattern) (interval value : Nat) : Prop :=
  (stepBounds field base).1 ≤ value ∧ value ≤ (stepBounds field base).2 ∧
    ∀ time, (step base interval).accepts value time = true

/-- A step does not look at the time. -/
theorem accepts_step_congr (value : Nat) (a b : LocalTime) :
    (step base interval).accepts value a = (step base interval).accepts value b :=
  rfl

theorem mem_stepValues_iff {value : Nat} :
    value ∈ stepValues field base interval ↔ Selects field base interval value := by
  rw [stepValues, List.mem_filter, List.mem_range'_1, Selects]
  constructor
  · rintro ⟨hbounds, haccepts⟩
    refine ⟨hbounds.1, by omega, fun time => ?_⟩
    exact accepts_step_congr value time LocalTime.epoch ▸ haccepts
  · rintro ⟨hlow, hhigh, haccepts⟩
    exact ⟨⟨hlow, by omega⟩, haccepts LocalTime.epoch⟩

theorem pairwise_stepValues : (stepValues field base interval).Pairwise (· < ·) :=
  List.Pairwise.filter _ List.pairwise_lt_range'

/-- A value of the field is selected exactly if the step accepts it. -/
theorem selects_iff_accepts {value : Nat} (hvalue : field.contains value = true)
    (time : LocalTime) :
    Selects field base interval value ↔ (step base interval).accepts value time = true := by
  constructor
  · exact fun h => h.2.2 time
  · intro haccepts
    have hbounds : (stepBounds field base).1 ≤ value ∧ value ≤ (stepBounds field base).2 := by
      cases base with
      | range low high wrapped =>
        -- a range leaves out the other values by itself
        simp only [accepts, Bool.and_eq_true, decide_eq_true_eq] at haccepts
        exact haccepts.2.1
      | _ => exact Field.contains_iff.1 hvalue
    exact ⟨hbounds.1, hbounds.2, fun other => accepts_step_congr value other time ▸ haccepts⟩

theorem simplify_of_admitsSteps (h : base.admitsSteps = true) : simplify field base = base := by
  cases base with
  | wildcard => rfl
  | single => rfl
  | range => rfl
  | _ => cases h

/-- A step becomes a wildcard if it selects nothing, the value if it selects just one, and else it
stays a step. -/
theorem simplify_step_cases (h : base.admitsSteps = true) :
    ((∀ value, ¬ Selects field base interval value) ∧
      simplify field (step base interval) = wildcard) ∨
    (∃ only, (∀ value, Selects field base interval value ↔ value = only) ∧
      simplify field (step base interval) = single only) ∨
    (∃ first second, first < second ∧ Selects field base interval first ∧
      Selects field base interval second ∧
      simplify field (step base interval) = step base interval) := by
  simp only [← mem_stepValues_iff]
  rw [simplify, simplify_of_admitsSteps h]
  have hascending : (stepValues field base interval).Pairwise (· < ·) := pairwise_stepValues
  cases hvalues : stepValues field base interval with
  | nil => exact .inl ⟨fun value => List.not_mem_nil, rfl⟩
  | cons first rest =>
    cases rest with
    | nil => exact .inr (.inl ⟨first, fun value => List.mem_singleton, rfl⟩)
    | cons second rest =>
      rw [hvalues] at hascending
      have hlt := (List.pairwise_cons.1 hascending).1 second List.mem_cons_self
      exact .inr (.inr ⟨first, second, hlt, List.mem_cons_self,
        List.mem_cons_of_mem _ List.mem_cons_self, rfl⟩)

instance : Decidable (∀ value, ¬ Selects field base interval value) :=
  decidable_of_iff (stepValues field base interval = []) <| by
    rw [List.eq_nil_iff_forall_not_mem]
    exact forall_congr' fun value => not_congr mem_stepValues_iff

end CronSchedule.Pattern

import CronSchedule.Proofs.Pattern.WellFormed

/-!
# Patterns that do not look at the date

A pattern accepts a value by the value and by the date alone, never by the time
of day (`Pattern.accepts_congr_date`). The patterns without one of the forms that
count days in a month accept the same values on all dates, and outside the two
day fields only these are well formed (`Pattern.isDateFree_of_wellFormed`).
-/

set_option autoImplicit false

namespace CronSchedule

namespace Pattern

mutual

/-- A pattern accepts the same values at all times of a date. -/
theorem accepts_congr_date (value : Nat) {a b : LocalTime} (h : a.date = b.date) :
    ∀ pattern : Pattern, accepts value a pattern = accepts value b pattern
  | wildcard | unspecified | single _ => rfl
  | range .. | step .. => rfl
  | list children => acceptsAny_congr_date value h children
  | last _ none => by simp only [accepts, h]
  | last _ (some _) => by simp only [accepts, h]
  | lastWeekday => by simp only [accepts, h]
  | nearestWeekday _ => by simp only [accepts, h]
  | nth .. => by simp only [accepts, h]

theorem acceptsAny_congr_date (value : Nat) {a b : LocalTime} (h : a.date = b.date) :
    ∀ patterns : List Pattern, acceptsAny value a patterns = acceptsAny value b patterns
  | [] => rfl
  | child :: others => by
    rw [acceptsAny, acceptsAny, accepts_congr_date value h child,
      acceptsAny_congr_date value h others]

end

/-! ## The forms without a date -/

mutual

/-- Is the pattern free of the forms that count days in a month? -/
def isDateFree : Pattern → Bool
  | last .. | lastWeekday | nearestWeekday _ | nth .. => false
  | list children => areDateFree children
  | _ => true

/-- Are all patterns free of the forms that count days in a month? -/
def areDateFree : List Pattern → Bool
  | [] => true
  | child :: others => isDateFree child && areDateFree others

end

theorem areDateFree_iff {patterns : List Pattern} :
    areDateFree patterns = true ↔ ∀ pattern ∈ patterns, isDateFree pattern = true := by
  induction patterns with
  | nil => simp [areDateFree]
  | cons child others ih => simp [areDateFree, ih]

mutual

/-- A pattern without a date accepts the same values at all times. -/
theorem accepts_of_isDateFree (value : Nat) (a b : LocalTime) :
    ∀ pattern : Pattern, isDateFree pattern = true →
      accepts value a pattern = accepts value b pattern
  | wildcard, _ | unspecified, _ | single _, _ => rfl
  | range .., _ | step .., _ => rfl
  | list children, h => acceptsAny_of_areDateFree value a b children h
  | last .., h | lastWeekday, h | nearestWeekday _, h | nth .., h => nomatch h

theorem acceptsAny_of_areDateFree (value : Nat) (a b : LocalTime) :
    ∀ patterns : List Pattern, areDateFree patterns = true →
      acceptsAny value a patterns = acceptsAny value b patterns
  | [], _ => rfl
  | child :: others, h => by
    rw [areDateFree, Bool.and_eq_true] at h
    rw [acceptsAny, acceptsAny, accepts_of_isDateFree value a b child h.1,
      acceptsAny_of_areDateFree value a b others h.2]

end

/-- Outside the two day fields a well-formed pattern does not look at the date. -/
theorem isDateFree_of_wellFormed {field : Field} (hfield : field.isDay = false) {pattern : Pattern}
    (h : WellFormed field pattern) : isDateFree pattern = true := by
  induction h with
  | wildcard | unspecified | single | range | step => rfl
  | list _ _ _ _ ih => exact areDateFree_iff.2 ih
  -- the forms that count days in a month stand on the two day fields only
  | lastDay hday | lastWeekday hday | nearestWeekday hday | lastOfWeekday hday | nth hday =>
    rw [hday] at hfield
    cases hfield

end Pattern

end CronSchedule

import CronSchedule.Proofs.LocalTime
import CronSchedule.Schedule.Search

/-!
# Both directions of a search

A search backward is a search forward with all directions reversed. This file
puts the two under one name, `Direction`, together with the order in which a
search meets the seconds of the clock (`Direction.Before`), so that what holds of
both is stated and proved once.
-/

set_option autoImplicit false

namespace CronSchedule

/-- A direction of a search. -/
inductive Direction where
  | forward
  | backward
  deriving DecidableEq

namespace Direction

/-- The step from a number to the one that comes after it. -/
def sign : Direction → Int
  | forward => 1
  | backward => -1

/-- Does a search in the direction meet the first number before the second? -/
def Before : Direction → Int → Int → Prop
  | forward, a, b => a < b
  | backward, a, b => b < a

instance (d : Direction) (a b : Int) : Decidable (d.Before a b) :=
  match d with
  | forward => inferInstanceAs (Decidable (a < b))
  | backward => inferInstanceAs (Decidable (b < a))

variable {d : Direction} {a b c : Int}

@[simp] theorem before_forward : forward.Before a b ↔ a < b := Iff.rfl

@[simp] theorem before_backward : backward.Before a b ↔ b < a := Iff.rfl

theorem before_irrefl : ¬ d.Before a a := by
  cases d with
  | forward => exact Int.lt_irrefl a
  | backward => exact Int.lt_irrefl a

theorem Before.trans (hab : d.Before a b) (hbc : d.Before b c) : d.Before a c := by
  cases d with
  | forward => exact Int.lt_trans hab hbc
  | backward => exact Int.lt_trans hbc hab

theorem Before.asymm (h : d.Before a b) : ¬ d.Before b a :=
  fun h' => before_irrefl (h.trans h')

theorem before_or_eq_of_not_before (h : ¬ d.Before a b) : d.Before b a ∨ b = a := by
  cases d with
  | forward =>
    rw [before_forward] at h ⊢
    omega
  | backward =>
    rw [before_backward] at h ⊢
    omega

theorem eq_of_not_before (hab : ¬ d.Before a b) (hba : ¬ d.Before b a) : a = b :=
  (before_or_eq_of_not_before hba).resolve_left hab

theorem Before.trans_not_before (hab : d.Before a b) (hcb : ¬ d.Before c b) : d.Before a c := by
  rcases before_or_eq_of_not_before hcb with hbc | rfl
  · exact hab.trans hbc
  · exact hab

theorem Before.of_not_before (hba : ¬ d.Before b a) (hbc : d.Before b c) : d.Before a c := by
  rcases before_or_eq_of_not_before hba with hab | rfl
  · exact hab.trans hbc
  · exact hbc

theorem not_before_trans (hab : ¬ d.Before a b) (hbc : ¬ d.Before b c) : ¬ d.Before a c := by
  intro hac
  rcases before_or_eq_of_not_before hbc with hcb | rfl
  · exact hab (hac.trans hcb)
  · exact hab hac

theorem before_iff_sign_mul_lt : d.Before a b ↔ d.sign * a < d.sign * b := by
  cases d with
  | forward =>
    simp only [before_forward, sign]
    omega
  | backward =>
    simp only [before_backward, sign]
    omega

theorem before_sub_iff : d.Before (a - c) (b - c) ↔ d.Before a b := by
  cases d with
  | forward =>
    rw [before_forward, before_forward]
    omega
  | backward =>
    rw [before_backward, before_backward]
    omega

theorem before_add_sign_iff : d.Before b (a + d.sign) ↔ ¬ d.Before a b := by
  cases d with
  | forward =>
    simp only [before_forward, sign]
    omega
  | backward =>
    simp only [before_backward, sign]
    omega

theorem not_before_advance (hbc : b ≤ c) : ¬ d.Before (a + d.sign * c) (a + d.sign * b) := by
  cases d with
  | forward =>
    simp only [before_forward, sign]
    omega
  | backward =>
    simp only [before_backward, sign]
    omega

/-- The reversed direction. -/
def opposite : Direction → Direction
  | forward => backward
  | backward => forward

theorem before_opposite : d.opposite.Before a b ↔ d.Before b a := by
  cases d with
  | forward => exact Iff.rfl
  | backward => exact Iff.rfl

/-- The values from one to another, in the order of a direction. -/
def values : Direction → Nat → Nat → List Nat
  | forward, first, last => List.range' first (last + 1 - first)
  | backward, first, last => (List.range' last (first + 1 - last)).reverse

theorem mem_values_iff {value first last : Nat} :
    value ∈ d.values first last ↔ ¬ d.Before value first ∧ ¬ d.Before last value := by
  cases d with
  | forward =>
    rw [values, List.mem_range'_1, before_forward, before_forward]
    omega
  | backward =>
    rw [values, List.mem_reverse, List.mem_range'_1, before_backward, before_backward]
    omega

theorem pairwise_values {first last : Nat} :
    (d.values first last).Pairwise fun a b : Nat => d.Before a b := by
  cases d with
  | forward => exact (List.pairwise_lt_range' _).imp fun h => Int.ofNat_lt.2 h
  | backward =>
    exact List.pairwise_reverse.2 ((List.pairwise_lt_range' _).imp fun h => Int.ofNat_lt.2 h)

/-- What a list in the order of a direction gives first does not come after any other member. -/
theorem first_of_find? {α : Type} {position : α → Int} {items : List α} {p : α → Bool} {item : α}
    (h : items.Pairwise fun a b => d.Before (position a) (position b))
    (hfind : items.find? p = some item) {other : α} (hmem : other ∈ items) (hp : p other = true) :
    ¬ d.Before (position other) (position item) := by
  obtain ⟨-, before, after, rfl, hbefore⟩ := List.find?_eq_some_iff_append.1 hfind
  -- what stands before the item found was refused, what stands after it comes later
  rcases List.mem_append.1 hmem with hmem | hmem
  · have hfalse := hbefore other hmem
    rw [hp] at hfalse
    cases hfalse
  · rcases List.mem_cons.1 hmem with rfl | hmem
    · exact before_irrefl
    · exact ((List.pairwise_cons.1 (List.pairwise_append.1 h).2.1).1 other hmem).asymm

/-- The nearer of two instants in the direction of a search. -/
def nearer : Direction → Int → Int → Int
  | forward, a, b => min a b
  | backward, a, b => max a b

theorem nearer_eq_or : d.nearer a b = a ∨ d.nearer a b = b := by
  cases d with
  | forward =>
    rw [nearer]
    omega
  | backward =>
    rw [nearer]
    omega

theorem not_before_nearer : ¬ d.Before a (d.nearer a b) ∧ ¬ d.Before b (d.nearer a b) := by
  cases d with
  | forward =>
    simp only [nearer, before_forward]
    omega
  | backward =>
    simp only [nearer, before_backward]
    omega

end Direction

namespace Schedule

variable (schedule : Schedule) (accept : LocalTime → Option Int)

/-! ## The functions of a search -/

/-- The search through the values of a field. -/
def fieldSearch : Direction → Field → LocalTime → SearchState
  | .forward => schedule.fieldForward accept
  | .backward => schedule.fieldBackward accept

/-- The search day by day. -/
def daySearch : Direction → LocalTime → Option Int
  | .forward => schedule.daysForward accept
  | .backward => schedule.daysBackward accept

/-- The first instant that is found from a wall-clock time in a direction. -/
def scan : Direction → LocalTime → Option Int
  | .forward => schedule.scanForward accept
  | .backward => schedule.scanBackward accept

/-- The first instant beyond the reference that a time denotes, if the schedule accepts it. -/
def acceptBeyond : Direction → Int → LocalTime → Option Int
  | .forward => schedule.acceptAfter
  | .backward => schedule.acceptBefore

/-- The nearest instant in a direction that the schedule accepts. -/
def search? : Direction → Int → Option Int
  | .forward => schedule.next?
  | .backward => schedule.previous?

end Schedule

namespace LocalTime

/-- The time one unit of the field further in a direction. -/
def step? (time : LocalTime) (field : Field) : Direction → Option LocalTime
  | .forward => time.next? field
  | .backward => time.previous? field

theorem step?_eq_some_iff {d : Direction} {time result : LocalTime} {field : Field} :
    time.step? field d = some result ↔ result.seconds = time.seconds + d.sign * unitSeconds field := by
  cases d with
  | forward =>
    rw [step?, next?, add?, Direction.sign, Int.one_mul]
    exact ofSeconds?_eq_some_iff
  | backward =>
    rw [step?, previous?, add?, Direction.sign, Int.neg_one_mul]
    exact ofSeconds?_eq_some_iff

/-- The calendar does not end between two of its times. -/
theorem exists_add?_of_beyond {d : Direction} (time other : LocalTime) {pace : Int}
    (hpace : 0 ≤ pace) (h : ¬ d.Before other.seconds (time.seconds + d.sign * pace)) :
    ∃ next, time.add? (d.sign * pace) = some next := by
  cases d with
  | forward =>
    simp only [Direction.before_forward, Direction.sign] at h ⊢
    obtain ⟨next, hnext⟩ := exists_of_between (show time.seconds ≤ time.seconds + 1 * pace by omega)
      (show time.seconds + 1 * pace ≤ other.seconds by omega)
    exact ⟨next, add?_eq_some_iff.2 hnext⟩
  | backward =>
    simp only [Direction.before_backward, Direction.sign] at h ⊢
    obtain ⟨next, hnext⟩ := exists_of_between (show other.seconds ≤ time.seconds + -1 * pace by omega)
      (show time.seconds + -1 * pace ≤ time.seconds by omega)
    exact ⟨next, add?_eq_some_iff.2 hnext⟩

end LocalTime

/-- A scan goes through the fields within the day and then day by day. -/
theorem Schedule.scan_eq (schedule : Schedule) (accept : LocalTime → Option Int) (d : Direction)
    (start : LocalTime) : schedule.scan accept d start =
      match throughFields (schedule.fieldSearch accept d) (.ofTime? (start.step? .second d)) with
      | .found epoch => some epoch
      | .reached time => schedule.daySearch accept d time
      | .exhausted => none := by
  cases d with
  | forward => rfl
  | backward => rfl

end CronSchedule

import CronSchedule.Proofs.Schedule.Compiled
import CronSchedule.Proofs.Search.FirstAccepted

/-!
# The search through one field within the day

A search takes the values of a field from the current one on and leaves the
finer fields as they are, then it sets the field to its first value and carries.
`Schedule.swept` says what such a sweep amounts to: no accepted time of the
coarser unit is missed among those with the same finer fields, and the search
goes on at the first value of the following unit.
-/

set_option autoImplicit false

namespace CronSchedule

/-! ## The first value of a field -/

namespace Pattern

variable {d : Direction} {pattern : Pattern} {field : Field} {time : LocalTime} {value : Nat}

/-- The first value of a field, in a direction, that the pattern accepts. -/
def first? (pattern : Pattern) : Direction → Field → LocalTime → Option Nat
  | .forward => pattern.lowest?
  | .backward => pattern.highest?

/-- The first of the bounds of a field in a direction. -/
def firstBound (field : Field) (time : LocalTime) : Direction → Nat
  | .forward => field.min
  | .backward => upperBound field time

theorem first?_eq : pattern.first? d field time =
    (d.values (firstBound field time d) (firstBound field time d.opposite)).find? fun value =>
      pattern.accepts value time := by
  cases d with
  | forward => rfl
  | backward => rfl

theorem mem_values_firstBound_iff :
    value ∈ d.values (firstBound field time d) (firstBound field time d.opposite) ↔
      field.min ≤ value ∧ value ≤ upperBound field time := by
  rw [Direction.mem_values_iff]
  cases d with
  | forward =>
    simp only [firstBound, Direction.opposite, Direction.before_forward]
    omega
  | backward =>
    simp only [firstBound, Direction.opposite, Direction.before_backward]
    omega

theorem accepts_of_first? (h : pattern.first? d field time = some value) :
    pattern.accepts value time = true := by
  rw [first?_eq] at h
  exact (List.find?_eq_some_iff_append.1 h).1

theorem bounds_of_first? (h : pattern.first? d field time = some value) :
    field.min ≤ value ∧ value ≤ upperBound field time := by
  rw [first?_eq] at h
  exact mem_values_firstBound_iff.1 (List.mem_of_find?_eq_some h)

/-- No accepted value comes before the first one. -/
theorem not_before_first? (h : pattern.first? d field time = some value) {other : Nat}
    (hbounds : field.min ≤ other ∧ other ≤ upperBound field time)
    (haccepts : pattern.accepts other time = true) : ¬ d.Before other value := by
  rw [first?_eq] at h
  exact Direction.first_of_find? Direction.pairwise_values h (mem_values_firstBound_iff.2 hbounds)
    haccepts

theorem exists_first? (d : Direction) (hbounds : field.min ≤ value ∧ value ≤ upperBound field time)
    (haccepts : pattern.accepts value time = true) :
    ∃ first, pattern.first? d field time = some first := by
  rw [first?_eq, ← Option.isSome_iff_exists, List.find?_isSome]
  exact ⟨value, mem_values_firstBound_iff.2 hbounds, haccepts⟩

/-- Where the pattern does not look at the date, neither does its first value. -/
theorem first?_congr (hdateFree : pattern.isDateFree = true) (hfield : field.isDay = false)
    (a b : LocalTime) : pattern.first? d field a = pattern.first? d field b := by
  have hbound : ∀ d, firstBound field a d = firstBound field b d := by
    intro d
    cases d with
    | forward => rfl
    | backward =>
      cases field with
      | dayOfMonth | dayOfWeek => cases hfield
      | second | minute | hour | month | year => rfl
  have haccepts : (fun value => pattern.accepts value a) = fun value => pattern.accepts value b :=
    funext fun value => accepts_of_isDateFree value a b pattern hdateFree
  rw [first?_eq, first?_eq, hbound, hbound, haccepts]

end Pattern

namespace Schedule

variable {schedule : Schedule} {d : Direction} {accept : LocalTime → Option Int} {field : Field}

/-- The first value of a field within the day, in a direction, that the schedule accepts. -/
def firstValue (schedule : Schedule) (d : Direction) (field : Field) : Nat :=
  ((schedule.pattern field).first? d field LocalTime.epoch).getD 0

/-- Is the function a refinement of the acceptance of times by the schedule? -/
def Refines (schedule : Schedule) (accept : LocalTime → Option Int) : Prop :=
  ∀ time epoch, accept time = some epoch → schedule.matchesLocal time = true

theorem component_lt_span (time : LocalTime) (hfield : field.isSubDay = true) :
    (time.component field : Int) < field.span := by
  rw [LocalTime.component_subDay time hfield]
  cases field with
  | second | minute | hour =>
    simp only [Field.span]
    omega
  | dayOfMonth | month | dayOfWeek | year => cases hfield

theorem bounds_iff_lt_span (hfield : field.isSubDay = true) {value : Nat} (time : LocalTime) :
    (field.min ≤ value ∧ value ≤ Pattern.upperBound field time) ↔ (value : Int) < field.span := by
  cases field with
  | second | minute | hour =>
    simp only [Field.min, Pattern.upperBound, Field.max, Field.span]
    omega
  | dayOfMonth | month | dayOfWeek | year => cases hfield

theorem isDay_of_isSubDay (hfield : field.isSubDay = true) : field.isDay = false := by
  cases field with
  | second | minute | hour => rfl
  | dayOfMonth | month | dayOfWeek | year => cases hfield

theorem firstValue_lt_span (schedule : Schedule) (d : Direction) (hfield : field.isSubDay = true) :
    (schedule.firstValue d field : Int) < field.span := by
  rw [firstValue]
  -- a pattern without values gives zero, which every span exceeds
  cases h : (schedule.pattern field).first? d field LocalTime.epoch with
  | some value => exact (bounds_iff_lt_span hfield _).1 (Pattern.bounds_of_first? h)
  | none =>
    cases field with
    | second | minute | hour => decide
    | dayOfMonth | month | dayOfWeek | year => cases hfield

section Compiled

variable (compiled : schedule.Compiled)

include compiled

theorem firstValue_eq (hfield : field.isSubDay = true) {time : LocalTime} {value : Nat}
    (h : (schedule.pattern field).first? d field time = some value) :
    schedule.firstValue d field = value := by
  have hday := isDay_of_isSubDay hfield
  rw [firstValue, Pattern.first?_congr (compiled.isDateFree hday) hday _ time, h, Option.getD_some]

/-- Where a schedule accepts a time, it accepts the first value of a field within the day, and the
value of the time does not come before it. -/
theorem firstValue_spec (d : Direction) (field : Field) (hfield : field.isSubDay = true) {time : LocalTime}
    (h : schedule.matchesLocal time = true) (other : LocalTime) :
    (schedule.pattern field).accepts (schedule.firstValue d field) other = true ∧
      ¬ d.Before (time.component field) (schedule.firstValue d field) := by
  have haccepts := (matchesLocal_iff.1 h).2 field
  have hbounds := (bounds_iff_lt_span hfield time).2 (component_lt_span time hfield)
  obtain ⟨first, hfirst⟩ := Pattern.exists_first? d hbounds haccepts
  have hdateFree := compiled.isDateFree (isDay_of_isSubDay hfield)
  rw [firstValue_eq compiled hfield hfirst]
  refine ⟨?_, Pattern.not_before_first? hfirst hbounds haccepts⟩
  rw [Pattern.accepts_of_isDateFree first other time _ hdateFree]
  exact Pattern.accepts_of_first? hfirst

end Compiled

/-! ## The sweep -/

/-- The times that a sweep through a field looks at: those in the same coarser unit with the same
finer fields, from the given time on. -/
def InSweep (d : Direction) (field : Field) (time other : LocalTime) : Prop :=
  other.seconds % LocalTime.unitSeconds field = time.seconds % LocalTime.unitSeconds field ∧
    other.seconds / LocalTime.unitSeconds (coarser field) =
      time.seconds / LocalTime.unitSeconds (coarser field) ∧
    ¬ d.Before other.seconds time.seconds

/-- What a sweep through a field from a time on comes to. -/
inductive Swept (schedule : Schedule) (d : Direction) (accept : LocalTime → Option Int)
    (field : Field) (time : LocalTime) : SearchState → Prop
  | found {epoch : Int} (h : FirstAccepted d accept (InSweep d field time) (some epoch)) :
      Swept schedule d accept field time (.found epoch)
  | reached {next : LocalTime} (rejected : ∀ other, InSweep d field time other → accept other = none)
      (unit : next.seconds / LocalTime.unitSeconds (coarser field) =
        time.seconds / LocalTime.unitSeconds (coarser field) + d.sign)
      (offset : next.seconds % LocalTime.unitSeconds (coarser field) =
        LocalTime.unitSeconds field * schedule.firstValue d field +
          time.seconds % LocalTime.unitSeconds field) :
      Swept schedule d accept field time (.reached next)
  | exhausted (rejected : ∀ other, InSweep d field time other → accept other = none)
      (beyond : ∀ other : LocalTime, d.Before (time.seconds / LocalTime.unitSeconds (coarser field))
        (other.seconds / LocalTime.unitSeconds (coarser field)) → accept other = none) :
      Swept schedule d accept field time .exhausted

theorem fieldSearch_eq (time : LocalTime) : schedule.fieldSearch accept d field time =
    match (schedule.pattern field).first? d field time,
      (schedule.pattern field).first? d.opposite field time with
    | some first, some last =>
      match tryValues accept field time (d.values (time.component field) last) with
      | some epoch => .found epoch
      | none => .ofTime? ((time.withComponent? field first).bind fun other =>
          other.step? (coarser field) d)
    | _, _ => .exhausted := by
  cases d with
  | forward => rfl
  | backward =>
    simp only [fieldSearch, fieldBackward, Pattern.first?, Direction.opposite]
    cases (schedule.pattern field).lowest? field time with
    | none =>
      cases (schedule.pattern field).highest? field time with
      | none => rfl
      | some high => rfl
    | some low =>
      cases (schedule.pattern field).highest? field time with
      | none => rfl
      | some high => rfl

theorem inSweep_of_withComponent? (hfield : field.isSubDay = true) {time other : LocalTime}
    {value : Nat} (hafter : ¬ d.Before value (time.component field))
    (h : time.withComponent? field value = some other) : InSweep d field time other := by
  obtain ⟨hspan, hother⟩ := (LocalTime.withComponent?_eq_some_iff hfield).1 h
  rw [LocalTime.component_subDay time hfield] at hafter hother
  rw [InSweep, hother]
  cases field with
  | second | minute | hour =>
    cases d with
    | forward =>
      simp only [coarser, LocalTime.unitSeconds, Field.span, secondsPerDay,
        Direction.before_forward] at *
      omega
    | backward =>
      simp only [coarser, LocalTime.unitSeconds, Field.span, secondsPerDay,
        Direction.before_backward] at *
      omega
  | dayOfMonth | month | dayOfWeek | year => cases hfield

theorem withComponent?_of_inSweep (hfield : field.isSubDay = true) {time other : LocalTime}
    (h : InSweep d field time other) :
    ¬ d.Before (other.component field) (time.component field) ∧
      time.withComponent? field (other.component field) = some other := by
  have hspan := component_lt_span other hfield
  obtain ⟨hfiner, hcoarser, hafter⟩ := h
  rw [LocalTime.withComponent?_eq_some_iff hfield, LocalTime.component_subDay time hfield]
  rw [LocalTime.component_subDay other hfield] at hspan ⊢
  cases field with
  | second | minute | hour =>
    cases d with
    | forward =>
      simp only [coarser, LocalTime.unitSeconds, Field.span, secondsPerDay,
        Direction.before_forward] at *
      omega
    | backward =>
      simp only [coarser, LocalTime.unitSeconds, Field.span, secondsPerDay,
        Direction.before_backward] at *
      omega
  | dayOfMonth | month | dayOfWeek | year => cases hfield

/-- A time with the first value of its field is one unit of the coarser field away from the first
time of the following unit. -/
theorem carry_spec (hfield : field.isSubDay = true) {time first next : LocalTime} {value : Nat}
    (hfirst : time.withComponent? field value = some first)
    (hnext : first.step? (coarser field) d = some next) :
    next.seconds / LocalTime.unitSeconds (coarser field) =
        time.seconds / LocalTime.unitSeconds (coarser field) + d.sign ∧
      next.seconds % LocalTime.unitSeconds (coarser field) =
        LocalTime.unitSeconds field * value + time.seconds % LocalTime.unitSeconds field := by
  obtain ⟨hspan, hfirst⟩ := (LocalTime.withComponent?_eq_some_iff hfield).1 hfirst
  rw [LocalTime.component_subDay time hfield] at hfirst
  rw [LocalTime.step?_eq_some_iff.1 hnext, hfirst]
  cases field with
  | second | minute | hour =>
    cases d with
    | forward =>
      simp only [coarser, LocalTime.unitSeconds, Field.span, secondsPerDay, Direction.sign] at *
      omega
    | backward =>
      simp only [coarser, LocalTime.unitSeconds, Field.span, secondsPerDay, Direction.sign] at *
      omega
  | dayOfMonth | month | dayOfWeek | year => cases hfield

/-- Where the following unit of the coarser field has a time, so it has the first one. -/
theorem exists_carry (hfield : field.isSubDay = true) {time first other : LocalTime} {value : Nat}
    (hfirst : time.withComponent? field value = some first)
    (hother : d.Before (time.seconds / LocalTime.unitSeconds (coarser field))
      (other.seconds / LocalTime.unitSeconds (coarser field))) :
    ∃ next, first.step? (coarser field) d = some next := by
  obtain ⟨hspan, hfirst⟩ := (LocalTime.withComponent?_eq_some_iff hfield).1 hfirst
  rw [LocalTime.component_subDay time hfield] at hfirst
  -- the carry stays on a day between those of the two times
  have hday : ∃ next : LocalTime,
      next.seconds = first.seconds + d.sign * LocalTime.unitSeconds (coarser field) := by
    cases field with
    | second | minute | hour =>
      cases d with
      | forward =>
        simp only [coarser, LocalTime.unitSeconds, Field.span, secondsPerDay, Direction.sign,
          Direction.before_forward] at *
        refine LocalTime.exists_of_day_between time other ?_ ?_
        · simp only [secondsPerDay]
          omega
        · simp only [secondsPerDay]
          omega
      | backward =>
        simp only [coarser, LocalTime.unitSeconds, Field.span, secondsPerDay, Direction.sign,
          Direction.before_backward] at *
        refine LocalTime.exists_of_day_between other time ?_ ?_
        · simp only [secondsPerDay]
          omega
        · simp only [secondsPerDay]
          omega
    | dayOfMonth | month | dayOfWeek | year => cases hfield
  obtain ⟨next, hnext⟩ := hday
  exact ⟨next, LocalTime.step?_eq_some_iff.2 hnext⟩

section Compiled

variable (compiled : schedule.Compiled) (refines : schedule.Refines accept)

include compiled refines

theorem accepts_component (hfield : field.isDay = false) {other : LocalTime} {epoch : Int}
    (haccepted : accept other = some epoch) (time : LocalTime) :
    (schedule.pattern field).accepts (other.component field) time = true := by
  rw [Pattern.accepts_of_isDateFree _ time other _ (compiled.isDateFree hfield)]
  exact (matchesLocal_iff.1 (refines other epoch haccepted)).2 field

/-- Where a pattern accepts no value of its field, no time is accepted. -/
theorem rejected_of_first?_eq_none (hfield : field.isDay = false) {time : LocalTime}
    (h : (schedule.pattern field).first? d field time = none) {other : LocalTime}
    (hbounds : schedule.matchesLocal other = true →
      field.min ≤ other.component field ∧ other.component field ≤ Pattern.upperBound field time) :
    accept other = none := by
  cases hresult : accept other with
  | none => rfl
  | some epoch =>
    obtain ⟨first, hfirst⟩ := Pattern.exists_first? d (hbounds (refines other epoch hresult))
      (accepts_component compiled refines hfield hresult time)
    rw [h] at hfirst
    cases hfirst

/-- A sweep through a field within the day finds the first accepted time of the coarser unit or
carries into the following unit. -/
theorem swept (hfield : field.isSubDay = true) (time : LocalTime) :
    Swept schedule d accept field time (schedule.fieldSearch accept d field time) := by
  have hday := isDay_of_isSubDay hfield
  have hbounds (other : LocalTime) :=
    (bounds_iff_lt_span hfield time).2 (component_lt_span other hfield)
  -- a pattern without values accepts nothing in either direction
  have hnone (d' : Direction) (h : (schedule.pattern field).first? d' field time = none)
      (other : LocalTime) : accept other = none :=
    rejected_of_first?_eq_none compiled refines hday h fun _ => hbounds other
  rw [fieldSearch_eq]
  cases hfirst : (schedule.pattern field).first? d field time with
  | none => exact .exhausted (fun other _ => hnone d hfirst other) fun other _ => hnone d hfirst other
  | some first =>
    cases hlast : (schedule.pattern field).first? d.opposite field time with
    | none => exact .exhausted (fun other _ => hnone _ hlast other) fun other _ => hnone _ hlast other
    | some last =>
      -- the values from the current one to the last accepted one are all that matter
      have hsweep : FirstAccepted d accept (InSweep d field time)
          (tryValues accept field time (d.values (time.component field) last)) := by
        refine (firstAccepted_tryValues hfield time Direction.pairwise_values).widen ?_ ?_
        · rintro other ⟨value, hvalue, hother⟩
          exact inSweep_of_withComponent? hfield (Direction.mem_values_iff.1 hvalue).1 hother
        · intro other epoch hother haccepted
          obtain ⟨hafter, hvalue⟩ := withComponent?_of_inSweep hfield hother
          refine ⟨other.component field, Direction.mem_values_iff.2 ⟨hafter, ?_⟩, hvalue⟩
          rw [← Direction.before_opposite]
          exact Pattern.not_before_first? hlast (hbounds other)
            (accepts_component compiled refines hday haccepted time)
      simp only
      revert hsweep
      cases tryValues accept field time (d.values (time.component field) last) with
      | some epoch => exact .found
      | none =>
        intro hsweep
        have hrejected : ∀ other, InSweep d field time other → accept other = none := by
          cases hsweep with
          | nothing rejected => exact rejected
        -- nothing left in this unit: reset the field and carry
        obtain ⟨reset, hreset⟩ := LocalTime.exists_withComponent? time hfield
          ((bounds_iff_lt_span hfield time).1 (Pattern.bounds_of_first? hfirst))
        simp only [hreset, Option.bind_some]
        cases hnext : reset.step? (coarser field) d with
        | some next =>
          obtain ⟨hunit, hoffset⟩ := carry_spec hfield hreset hnext
          exact .reached hrejected hunit (firstValue_eq compiled hfield hfirst ▸ hoffset)
        | none =>
          refine .exhausted hrejected ?_
          intro other hother
          obtain ⟨next, hsome⟩ := exists_carry hfield hreset hother
          rw [hnext] at hsome
          cases hsome

end Compiled

end Schedule

end CronSchedule

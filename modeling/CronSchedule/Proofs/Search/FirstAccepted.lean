import CronSchedule.Proofs.Search.Direction

/-!
# The first accepted among some times

A search is specified by the times that it looks at. `FirstAccepted` is the
relation between such a set of times and the result of a search: the result
comes from the first of them that is accepted, or there is none because all of
them are rejected. The two elementary searches have this form, the one through
values of a field (`Schedule.firstAccepted_tryValues`) and the one through times
at a fixed pace (`Schedule.firstAccepted_tryTimes`).
-/

set_option autoImplicit false

namespace CronSchedule

/-- The result of a search in a direction among some times: an instant for which the first
accepted one of them is accepted, or nothing if all of them are rejected. -/
inductive FirstAccepted (d : Direction) (accept : LocalTime → Option Int)
    (among : LocalTime → Prop) : Option Int → Prop
  | found {time : LocalTime} {epoch : Int} (mem : among time) (accepted : accept time = some epoch)
      (first : ∀ other, among other → d.Before other.seconds time.seconds → accept other = none) :
      FirstAccepted d accept among (some epoch)
  | nothing (rejected : ∀ time, among time → accept time = none) :
      FirstAccepted d accept among none

namespace FirstAccepted

variable {d : Direction} {accept : LocalTime → Option Int} {among : LocalTime → Prop}

theorem exists_of_some {epoch : Int} (h : FirstAccepted d accept among (some epoch)) :
    ∃ time, among time ∧ accept time = some epoch := by
  cases h with
  | found mem accepted first => exact ⟨_, mem, accepted⟩

/-- Where a time is accepted, the search finds one that does not lie beyond it. -/
theorem exists_of_accepted {result : Option Int} (h : FirstAccepted d accept among result)
    {time : LocalTime} {epoch : Int} (hmem : among time) (haccepted : accept time = some epoch) :
    ∃ first found, result = some found ∧ among first ∧ accept first = some found ∧
      ¬ d.Before time.seconds first.seconds := by
  cases h with
  | found mem accepted first =>
    refine ⟨_, _, rfl, mem, accepted, ?_⟩
    intro hbefore
    rw [first time hmem hbefore] at haccepted
    cases haccepted
  | nothing rejected =>
    rw [rejected time hmem] at haccepted
    cases haccepted

/-- A search may look at more times as long as it does not accept them. -/
theorem widen {wider : LocalTime → Prop} {result : Option Int}
    (h : FirstAccepted d accept among result) (hsub : ∀ time, among time → wider time)
    (haccepted : ∀ time epoch, wider time → accept time = some epoch → among time) :
    FirstAccepted d accept wider result := by
  have hrejected : ∀ time, wider time → (among time → accept time = none) → accept time = none := by
    intro time hmem hnone
    cases hresult : accept time with
    | none => rfl
    | some epoch => exact hresult ▸ hnone (haccepted time epoch hmem hresult)
  cases h with
  | found mem accepted first =>
    refine .found (hsub _ mem) accepted ?_
    intro other hother hbefore
    exact hrejected other hother fun hamong => first other hamong hbefore
  | nothing rejected =>
    exact .nothing fun time hmem => hrejected time hmem (rejected time)

end FirstAccepted

namespace Schedule

variable {d : Direction} {accept : LocalTime → Option Int}

/-! ## Through the values of a field -/

theorem before_of_withComponent? {field : Field} (hfield : field.isSubDay = true)
    {time first second : LocalTime} {a b : Nat} (hfirst : time.withComponent? field a = some first)
    (hsecond : time.withComponent? field b = some second) (h : d.Before a b) :
    d.Before first.seconds second.seconds := by
  obtain ⟨-, hfirst⟩ := (LocalTime.withComponent?_eq_some_iff hfield).1 hfirst
  obtain ⟨-, hsecond⟩ := (LocalTime.withComponent?_eq_some_iff hfield).1 hsecond
  rw [hfirst, hsecond]
  cases field with
  | second | minute | hour =>
    cases d with
    | forward =>
      simp only [LocalTime.unitSeconds, Direction.before_forward] at *
      omega
    | backward =>
      simp only [LocalTime.unitSeconds, Direction.before_backward] at *
      omega
  | dayOfMonth | month | dayOfWeek | year => cases hfield

/-- Trying values of a field one after another, in the direction of the search, finds the first
time that is accepted. -/
theorem firstAccepted_tryValues {field : Field} (hfield : field.isSubDay = true)
    (time : LocalTime) {values : List Nat} (h : values.Pairwise fun a b : Nat => d.Before a b) :
    FirstAccepted d accept
      (fun other => ∃ value ∈ values, time.withComponent? field value = some other)
      (tryValues accept field time values) := by
  induction values with
  | nil => exact .nothing fun _ ⟨_, hvalue, _⟩ => nomatch hvalue
  | cons value values ih =>
    obtain ⟨hfirst, hrest⟩ := List.pairwise_cons.1 h
    rw [tryValues, List.findSome?_cons]
    cases hresult : (time.withComponent? field value).bind accept with
    | some epoch =>
      obtain ⟨candidate, hcandidate, haccepted⟩ := Option.bind_eq_some_iff.1 hresult
      refine .found ⟨value, List.mem_cons_self, hcandidate⟩ haccepted ?_
      rintro other ⟨value', hvalue', hother⟩ hbefore
      -- the other value is the one just tried or comes after it
      rcases List.mem_cons.1 hvalue' with rfl | hvalue'
      · cases hother.symm.trans hcandidate
        exact absurd hbefore Direction.before_irrefl
      · have hafter := before_of_withComponent? hfield hcandidate hother (hfirst value' hvalue')
        exact absurd hbefore hafter.asymm
    | none =>
      refine (ih hrest).widen ?_ ?_
      · rintro other ⟨value', hvalue', hother⟩
        exact ⟨value', List.mem_cons_of_mem _ hvalue', hother⟩
      · rintro other epoch ⟨value', hvalue', hother⟩ haccepted
        rcases List.mem_cons.1 hvalue' with rfl | hvalue'
        · rw [hother, Option.bind_some, haccepted] at hresult
          cases hresult
        · exact ⟨value', hvalue', hother⟩

/-! ## At a fixed pace -/

/-- The days from a time on are its own and those from the next day on. -/
theorem exists_days_succ_iff {count : Nat} {time other : LocalTime} :
    (∃ days : Nat, days < count + 1 ∧
      other.seconds = time.seconds + d.sign * (days * secondsPerDay)) ↔
    other = time ∨ ∃ days : Nat, days < count ∧
      other.seconds = time.seconds + d.sign * secondsPerDay + d.sign * (days * secondsPerDay) := by
  have hshift (days : Nat) : time.seconds + d.sign * (((days + 1 : Nat) : Int) * secondsPerDay) =
      time.seconds + d.sign * secondsPerDay + d.sign * (days * secondsPerDay) := by
    rw [Int.natCast_add, Int.add_mul, Int.mul_add, Int.natCast_one, Int.one_mul]
    omega
  constructor
  · rintro ⟨days, hdays, hother⟩
    cases days with
    | zero => exact .inl (LocalTime.ext_seconds (by omega))
    | succ days => exact .inr ⟨days, by omega, by rw [hother, hshift]⟩
  · rintro (rfl | ⟨days, hdays, hother⟩)
    · exact ⟨0, Nat.succ_pos _, by omega⟩
    · exact ⟨days + 1, by omega, by rw [hother, hshift]⟩

/-- Trying times at the pace of a day, in the direction of the search, finds the first one that is
accepted. -/
theorem firstAccepted_tryTimes (count : Nat) (time : LocalTime) :
    FirstAccepted d accept
      (fun other => ∃ days : Nat, days < count ∧
        other.seconds = time.seconds + d.sign * (days * secondsPerDay))
      (tryTimes accept (d.sign * secondsPerDay) count time) := by
  -- induction on the number of days left
  induction count generalizing time with
  | zero => exact .nothing fun _ ⟨_, hdays, _⟩ => absurd hdays (Nat.not_lt_zero _)
  | succ count ih =>
    rw [tryTimes]
    cases hresult : accept time with
    | some epoch =>
      refine .found (exists_days_succ_iff.2 (.inl rfl)) hresult ?_
      rintro other ⟨days, -, hother⟩ hbefore
      have hnot := Direction.not_before_advance (d := d) (a := time.seconds)
        (show 0 ≤ (days : Int) * secondsPerDay by rw [secondsPerDay]; omega)
      rw [Int.mul_zero, Int.add_zero, ← hother] at hnot
      exact absurd hbefore hnot
    | none =>
      cases hnext : time.add? (d.sign * secondsPerDay) with
      | some next =>
        have hseconds := LocalTime.add?_eq_some_iff.1 hnext
        refine (ih next).widen ?_ ?_
        · intro other hother
          rw [hseconds] at hother
          exact exists_days_succ_iff.2 (.inr hother)
        · intro other epoch hother haccepted
          rw [hseconds]
          apply (exists_days_succ_iff.1 hother).resolve_left
          rintro rfl
          rw [hresult] at haccepted
          cases haccepted
      | none =>
        refine .nothing ?_
        intro other hdays
        rcases exists_days_succ_iff.1 hdays with rfl | ⟨days, -, hother⟩
        · exact hresult
        -- the calendar ends before the next day, and so before every later one
        · obtain ⟨next, hsome⟩ := LocalTime.exists_add?_of_beyond (d := d) time other
            (show 0 ≤ secondsPerDay by decide) (by
              rw [hother, Int.add_assoc, ← Int.mul_add]
              exact Direction.not_before_advance (by rw [secondsPerDay]; omega))
          rw [hnext] at hsome
          cases hsome

end Schedule

end CronSchedule

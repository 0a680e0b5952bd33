import CronSchedule.Proofs.Options.Layers
import CronSchedule.Proofs.Schedule.Rejection

/-!
# Merging options

Options can be filled from others any number of times. How they are grouped makes
no difference, and options that set nothing have no effect
(`ScheduleOptions.orElse_assoc`, `ScheduleOptions.unset_orElse`,
`ScheduleOptions.orElse_unset`). Zone and offset exclude each other, so they make
up one place, which is taken whole from the first options that set either
(`ScheduleOptions.place_orElse`, `ScheduleOptions.place_merged`). Thus options
that each set one of the two at most never come to set both.
-/

set_option autoImplicit false

namespace CronSchedule.ScheduleOptions

variable {options fallback a b c : ScheduleOptions}

/-! ## The place -/

/-- Do the options say where wall clocks are read? -/
def setsPlace (options : ScheduleOptions) : Bool :=
  options.timeZone.isSome || options.utcOffset.isSome

/-- Do the options set both the zone and the offset? -/
def setsBoth (options : ScheduleOptions) : Bool :=
  options.timeZone.isSome && options.utcOffset.isSome

/-- Zone and offset are taken together. -/
theorem place_orElse : (options.orElse fallback).place =
    if options.setsPlace then options.place else fallback.place := by
  rw [place, orElse, setsPlace]
  split <;> rfl

theorem setsPlace_congr (h : a.place = b.place) : a.setsPlace = b.setsPlace := by
  obtain ⟨htimeZone, hutcOffset⟩ := Prod.mk.inj h
  rw [setsPlace, setsPlace, htimeZone, hutcOffset]

theorem setsBoth_congr (h : a.place = b.place) : a.setsBoth = b.setsBoth := by
  obtain ⟨htimeZone, hutcOffset⟩ := Prod.mk.inj h
  rw [setsBoth, setsBoth, htimeZone, hutcOffset]

theorem place_of_setsPlace_eq_false (h : options.setsPlace = false) :
    options.place = unset.place := by
  rw [setsPlace, Bool.or_eq_false_iff, Option.isSome_eq_false_iff, Option.isSome_eq_false_iff,
    Option.isNone_iff_eq_none, Option.isNone_iff_eq_none] at h
  rw [place, h.1, h.2]
  rfl

theorem place_orElse_cases (a b : ScheduleOptions) :
    (a.orElse b).place = a.place ∨ (a.orElse b).place = b.place := by
  rw [place_orElse]
  split
  · exact .inl rfl
  · exact .inr rfl

theorem setsPlace_orElse : (a.orElse b).setsPlace = (a.setsPlace || b.setsPlace) := by
  have hplace : (a.orElse b).place = if a.setsPlace then a.place else b.place := place_orElse
  cases ha : a.setsPlace with
  | true =>
    rw [ha, if_pos rfl] at hplace
    rw [setsPlace_congr hplace, ha, Bool.true_or]
  | false =>
    rw [ha, if_neg Bool.false_ne_true] at hplace
    rw [setsPlace_congr hplace, Bool.false_or]

/-- Options that do not set both zone and offset do not do so together. -/
theorem setsBoth_orElse (ha : a.setsBoth = false) (hb : b.setsBoth = false) :
    (a.orElse b).setsBoth = false := by
  rcases place_orElse_cases a b with hplace | hplace
  · rw [setsBoth_congr hplace, ha]
  · rw [setsBoth_congr hplace, hb]

/-- No schedule is rejected for a conflict of zone and offset that are not both set. -/
theorem compile_ne_conflictingZone (h : options.setsBoth = false) (fallback : Horizon)
    (expression : String) :
    Schedule.compile fallback expression options ≠ .error .conflictingZone := by
  rw [Ne, Schedule.compile_eq_conflictingZone_iff, ← Bool.and_eq_true, ← setsBoth, h]
  exact Bool.false_ne_true

/-! ## Laws of merging -/

/-- Options are their place and their two ends of a search. -/
theorem ext_place (hplace : a.place = b.place) (hbegin : a.beginEpoch = b.beginEpoch)
    (hend : a.endEpoch = b.endEpoch) : a = b := by
  cases a
  cases b
  cases hplace
  cases hbegin
  cases hend
  rfl

theorem orElse_assoc (a b c : ScheduleOptions) :
    (a.orElse b).orElse c = a.orElse (b.orElse c) := by
  apply ext_place
  · simp only [place_orElse, setsPlace_orElse]
    -- the first of the three that sets the place is found in either grouping
    cases a.setsPlace with
    | true => rfl
    | false => rfl
  · exact Option.or_assoc
  · exact Option.or_assoc

theorem unset_orElse (a : ScheduleOptions) : unset.orElse a = a := rfl

theorem orElse_unset (a : ScheduleOptions) : a.orElse unset = a := by
  apply ext_place
  · rw [place_orElse]
    split
    · rfl
    · next hplace => exact (place_of_setsPlace_eq_false (Bool.not_eq_true _ ▸ hplace)).symm
  · exact Option.or_none
  · exact Option.or_none

theorem orElse_self (a : ScheduleOptions) : a.orElse a = a := by
  apply ext_place
  · rw [place_orElse, ite_self]
  · exact Option.or_self
  · exact Option.or_self

/-! ## Any number of layers -/

/-- The options of several layers, each of them filled from the later ones. -/
def merged (layers : List ScheduleOptions) : ScheduleOptions := layers.foldr orElse unset

theorem merged_cons (first : ScheduleOptions) (others : List ScheduleOptions) :
    merged (first :: others) = first.orElse (merged others) :=
  rfl

theorem merged_append (upper lower : List ScheduleOptions) :
    merged (upper ++ lower) = (merged upper).orElse (merged lower) := by
  induction upper with
  | nil => exact (unset_orElse _).symm
  | cons first others ih => rw [List.cons_append, merged_cons, ih, merged_cons, orElse_assoc]

/-- The place of several layers is that of the first one that sets it. -/
theorem place_merged (layers : List ScheduleOptions) :
    (merged layers).place = ((layers.find? setsPlace).getD unset).place := by
  induction layers with
  | nil => rfl
  | cons first others ih =>
    rw [merged_cons, place_orElse]
    split
    · next hfirst => rw [List.find?_cons_of_pos hfirst, Option.getD_some]
    · next hfirst => rw [List.find?_cons_of_neg hfirst, ih]

theorem setsBoth_merged {layers : List ScheduleOptions}
    (h : ∀ layer ∈ layers, layer.setsBoth = false) : (merged layers).setsBoth = false := by
  induction layers with
  | nil => rfl
  | cons first others ih =>
    exact setsBoth_orElse (h first List.mem_cons_self)
      (ih fun layer hlayer => h layer (List.mem_cons_of_mem _ hlayer))

/-- Merging options is associative and idempotent, and options that set nothing are neutral on both
sides. The zone and the offset are always those of one of the two, taken together. So where neither
sets both, merging creates no conflict, over any number of layers. -/
theorem merging_laws :
    (∀ a b c : ScheduleOptions, (a.orElse b).orElse c = a.orElse (b.orElse c)) ∧
    (∀ a : ScheduleOptions, unset.orElse a = a ∧ a.orElse unset = a ∧ a.orElse a = a) ∧
    (∀ a b : ScheduleOptions,
      (a.orElse b).place = a.place ∨ (a.orElse b).place = b.place) ∧
    (∀ a b : ScheduleOptions, a.setsBoth = false → b.setsBoth = false →
      (a.orElse b).setsBoth = false ∧ ∀ fallback expression,
        Schedule.compile fallback expression (a.orElse b) ≠ .error .conflictingZone) ∧
    (∀ upper lower : List ScheduleOptions,
      merged (upper ++ lower) = (merged upper).orElse (merged lower)) ∧
    ∀ layers : List ScheduleOptions, (∀ layer ∈ layers, layer.setsBoth = false) →
      (merged layers).place = ((layers.find? setsPlace).getD unset).place ∧
      ∀ fallback expression,
        Schedule.compile fallback expression (merged layers) ≠ .error .conflictingZone := by
  refine ⟨orElse_assoc, ?_, place_orElse_cases, ?_, merged_append, ?_⟩
  · exact fun a => ⟨unset_orElse a, orElse_unset a, orElse_self a⟩
  · intro a b ha hb
    have hboth := setsBoth_orElse ha hb
    exact ⟨hboth, compile_ne_conflictingZone hboth⟩
  · intro layers hlayers
    exact ⟨place_merged layers, compile_ne_conflictingZone (setsBoth_merged hlayers)⟩

/-- The upper options set an offset and the lower ones a zone: merged they set the offset alone, and
the lower ones give the end of the search. -/
theorem merging_laws_of_offset_over_zone :
    let upper : ScheduleOptions := ⟨none, some 60, some 0, none⟩
    let lower : ScheduleOptions := ⟨some "Europe/London", none, some 5, some 9⟩
    upper.orElse lower = ⟨none, some 60, some 0, some 9⟩ ∧
      (upper.orElse lower).setsBoth = false ∧
      (merged [unset, upper, lower]).place = (none, some 60) ∧
      Schedule.compile ⟨0, none⟩ "0 0 9 * * ?" (merged [unset, upper, lower]) ≠
        .error .conflictingZone := by
  intro upper lower
  obtain ⟨-, -, -, htwo, -, hlayers⟩ := merging_laws
  have hmerged := hlayers [unset, upper, lower] (by decide)
  exact ⟨by decide, (htwo upper lower (by decide) (by decide)).1, hmerged.1, hmerged.2 _ _⟩

end CronSchedule.ScheduleOptions

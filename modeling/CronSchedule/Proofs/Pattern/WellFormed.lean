import CronSchedule.Proofs.Pattern.NumberList
import CronSchedule.Proofs.Pattern.Reading
import CronSchedule.Proofs.Pattern.Steps

/-!
# Well-formed patterns

`WellFormed` says what the rest of the library may rely on in a compiled pattern:
every number lies within its bounds, the forms stand only on their fields, and no
list or step is left that has a simpler form. The canonical form of a token is
well formed (`wellFormed_canonical`), and a well-formed pattern is its own
canonical form (`canonical_of_wellFormed`).
-/

set_option autoImplicit false

namespace CronSchedule.Pattern

open Grammar

variable {field : Field} {text : List Char} {pattern : Pattern}

/-- The pattern is a possible result of compiling a token of the field. -/
inductive WellFormed (field : Field) : Pattern → Prop
  | wildcard : WellFormed field wildcard
  /-- Only the two day fields may be left unspecified. -/
  | unspecified : field.isDay = true → WellFormed field unspecified
  | single {value : Nat} : field.contains value = true → WellFormed field (single value)
  /-- A range is wrapped exactly when it is one of weekdays that ends before it starts. -/
  | range {low high : Nat} {wrapped : Bool} :
      field.contains low = true → field.contains high = true →
      (wrapped = true ↔ field = .dayOfWeek ∧ high < low) → WellFormed field (range low high wrapped)
  /-- A step is one over a wildcard, a value or a range that is not wrapped, and it selects at
  least two values of the field. -/
  | step {base : Pattern} {interval : Nat} :
      0 < interval → interval < 2 ^ 32 →
      (base = .wildcard ∨ (∃ value, base = .single value) ∨
        ∃ low high, base = .range low high false) →
      WellFormed field base →
      (∃ first second, first < second ∧
        field.contains first = true ∧ field.contains second = true ∧
        ∀ time, (Pattern.step base interval).accepts first time = true ∧
          (Pattern.step base interval).accepts second time = true) →
      WellFormed field (step base interval)
  /-- A list holds at least two patterns, none of them a list, and is no list of numbers that make
  up a run. -/
  | list {children : List Pattern} :
      2 ≤ children.length → (∀ child ∈ children, ∀ inner, child ≠ .list inner) →
      (∀ child ∈ children, WellFormed field child) →
      (∀ low high, ¬ IsNumberRun children low high) → WellFormed field (list children)
  | lastDay {offset : Nat} :
      field = .dayOfMonth → offset ≤ 30 → WellFormed field (last offset none)
  | lastWeekday : field = .dayOfMonth → WellFormed field lastWeekday
  | nearestWeekday {day : Nat} :
      field = .dayOfMonth → 1 ≤ day → day ≤ 31 → WellFormed field (nearestWeekday day)
  | lastOfWeekday {weekday : Nat} :
      field = .dayOfWeek → 1 ≤ weekday → weekday ≤ 7 → WellFormed field (last 0 (some weekday))
  | nth {weekday count : Nat} :
      field = .dayOfWeek → 1 ≤ weekday → weekday ≤ 7 → 1 ≤ count → count ≤ 5 →
      WellFormed field (nth weekday count)

/-! ## What is read -/

theorem RangeStart.contains {n : Nat} (h : RangeStart field text n) : field.contains n = true := by
  cases h with
  | star => cases field <;> rfl
  | value hvalue => exact hvalue.contains

theorem wellFormed_of_span (h : Span field text pattern) : WellFormed field pattern := by
  cases h with
  | star => exact .wildcard
  | value hvalue => exact .single hvalue.contains
  | range hstart hhigh hwrapped =>
    exact .range (RangeStart.contains hstart) hhigh.contains hwrapped

theorem wellFormed_of_atom (h : Atom field text pattern) : WellFormed field pattern := by
  cases h with
  | span hspan => exact wellFormed_of_span hspan
  | unspecified hday => exact .unspecified hday
  | monthDay hfield hform =>
    cases hform with
    | last => exact .lastDay hfield (Nat.zero_le _)
    | lastWeekday => exact .lastWeekday hfield
    | beforeLast _ hle => exact .lastDay hfield hle
    | nearestWeekday _ hpos hle => exact .nearestWeekday hfield hpos hle
  | weekDay hfield hform =>
    cases hform with
    | lastSunday => exact .lastOfWeekday hfield (by decide) (by decide)
    | last _ hpos hle => exact .lastOfWeekday hfield hpos hle
    | nth _ hdayPos hdayLe _ hpos hle => exact .nth hfield hdayPos hdayLe hpos hle

/-- An atom has no parts, so it has no simpler form. -/
theorem simplify_of_atom (h : Atom field text pattern) :
    simplify field pattern = pattern ∧ ∀ inner, pattern ≠ list inner := by
  cases h with
  | span hspan => cases hspan <;> exact ⟨rfl, nofun⟩
  | unspecified => exact ⟨rfl, nofun⟩
  | monthDay _ hform => cases hform <;> exact ⟨rfl, nofun⟩
  | weekDay _ hform => cases hform <;> exact ⟨rfl, nofun⟩

/-! ## What is simplified -/

theorem simplifyAll_eq_map (children : List Pattern) :
    simplifyAll field children = children.map (simplify field) := by
  induction children with
  | nil => rfl
  | cons child others ih => rw [simplifyAll, ih, List.map_cons]

theorem contains_of_selects {base : Pattern} {interval value : Nat} (hbase : WellFormed field base)
    (h : Selects field base interval value) : field.contains value = true := by
  obtain ⟨hlow, hhigh, -⟩ := h
  cases hbase with
  | range hcontainsLow hcontainsHigh =>
    have hmin := (Field.contains_iff.1 hcontainsLow).1
    have hmax := (Field.contains_iff.1 hcontainsHigh).2
    exact Field.contains_iff.2 ⟨Nat.le_trans hmin hlow, Nat.le_trans hhigh hmax⟩
  | _ => exact Field.contains_iff.2 ⟨hlow, hhigh⟩

theorem wellFormed_simplify_item (h : Item field text pattern) :
    WellFormed field (simplify field pattern) ∧ ∀ inner, simplify field pattern ≠ list inner := by
  cases h with
  | atom hatom =>
    obtain ⟨hsimplify, hlist⟩ := simplify_of_atom hatom
    rw [hsimplify]
    exact ⟨wellFormed_of_atom hatom, hlist⟩
  | stepped hspan hwrapped _ hpos hlt =>
    have hbase := wellFormed_of_span hspan
    have hsteps := admitsSteps_of_span hspan hwrapped
    rcases simplify_step_cases hsteps with
      ⟨-, heq⟩ | ⟨only, honly, heq⟩ | ⟨first, second, hlt', hfirst, hsecond, heq⟩
    · rw [heq]
      exact ⟨.wildcard, nofun⟩
    · rw [heq]
      exact ⟨.single (contains_of_selects hbase ((honly only).2 rfl)), nofun⟩
    · rw [heq]
      refine ⟨.step hpos hlt (admitsSteps_iff.1 hsteps) hbase ?_, nofun⟩
      exact ⟨first, second, hlt', contains_of_selects hbase hfirst,
        contains_of_selects hbase hsecond, fun time => ⟨hfirst.2.2 time, hsecond.2.2 time⟩⟩

/-- Merging well-formed patterns of which none is a list gives a well-formed pattern. -/
theorem wellFormed_mergeNumbers {children : List Pattern} (hlength : 2 ≤ children.length)
    (hlist : ∀ child ∈ children, ∀ inner, child ≠ list inner)
    (hchildren : ∀ child ∈ children, WellFormed field child) :
    WellFormed field (mergeNumbers children) := by
  by_cases hrun : ∃ low high, IsNumberRun children low high
  · obtain ⟨low, high, hrun⟩ := hrun
    rw [mergeNumbers_of_isNumberRun hrun]
    obtain ⟨numbers, rfl, -, hle, hmem⟩ := hrun
    -- the ends of a run are values of the list
    have hcontains {n : Nat} (hn : n ∈ numbers) : field.contains n = true := by
      cases hchildren _ (List.mem_map_of_mem hn) with
      | single hcontains => exact hcontains
    have hlow := hcontains ((hmem low).2 ⟨Nat.le_refl _, hle⟩)
    have hhigh := hcontains ((hmem high).2 ⟨hle, Nat.le_refl _⟩)
    split
    · exact .single hlow
    · refine .range hlow hhigh ⟨nofun, fun h => ?_⟩
      exact absurd hle (Nat.not_le.2 h.2)
  · have hnone : ∀ low high, ¬ IsNumberRun children low high := by
      intro low high h
      exact hrun ⟨low, high, h⟩
    rw [mergeNumbers_of_not_isNumberRun hnone]
    exact .list hlength hlist hchildren hnone

theorem wellFormed_simplify (h : Token field text pattern) :
    WellFormed field (simplify field pattern) := by
  cases h with
  | item hitem => exact (wellFormed_simplify_item hitem).1
  | @list texts patterns hlength hitems =>
    rw [simplify, simplifyAll_eq_map]
    refine wellFormed_mergeNumbers ?_ ?_ ?_
    · rwa [List.length_map, ← hitems.length_eq]
    · intro child hchild
      obtain ⟨pattern, hpattern, rfl⟩ := List.mem_map.1 hchild
      obtain ⟨text, hitem⟩ := exists_item_of_mem hitems hpattern
      exact (wellFormed_simplify_item hitem).2
    · intro child hchild
      obtain ⟨pattern, hpattern, rfl⟩ := List.mem_map.1 hchild
      obtain ⟨text, hitem⟩ := exists_item_of_mem hitems hpattern
      exact (wellFormed_simplify_item hitem).1

/-! ## Canonical forms -/

theorem map_eq_self {f : Pattern → Pattern} {patterns : List Pattern}
    (h : ∀ pattern ∈ patterns, f pattern = pattern) : patterns.map f = patterns := by
  rw [List.map_congr_left h, List.map_id']

theorem sundayAsSevenAll_eq_map (children : List Pattern) :
    sundayAsSevenAll children = children.map sundayAsSeven := by
  induction children with
  | nil => rfl
  | cons child others ih => rw [sundayAsSevenAll, ih, List.map_cons]

/-- A well-formed pattern of weekdays does not name Sunday as day 0. -/
theorem sundayAsSeven_of_wellFormed (h : WellFormed .dayOfWeek pattern) :
    sundayAsSeven pattern = pattern := by
  induction h with
  | @single value hcontains =>
    rw [sundayAsSeven, if_neg]
    rintro rfl
    cases hcontains
  | step _ _ _ _ _ ih => rw [sundayAsSeven, ih]
  | list _ _ _ _ ih =>
    rw [sundayAsSeven, sundayAsSevenAll_eq_map, map_eq_self ih]
  | _ => rfl

theorem canonical_eq_simplify (h : WellFormed field (simplify field pattern)) :
    canonical field pattern = simplify field pattern := by
  rw [canonical]
  split
  · next hfield =>
    subst hfield
    exact sundayAsSeven_of_wellFormed h
  · rfl

/-- The canonical form of a token is well formed. -/
theorem wellFormed_canonical (h : Token field text pattern) :
    WellFormed field (canonical field pattern) := by
  have hsimplify := wellFormed_simplify h
  rwa [canonical_eq_simplify hsimplify]

theorem simplify_of_wellFormed (h : WellFormed field pattern) :
    simplify field pattern = pattern := by
  induction h with
  | @step base interval _ _ hsteppable _ htwo _ =>
    obtain ⟨first, second, hlt, hfirst, hsecond, haccepts⟩ := htwo
    have hselects {value : Nat} (hvalue : field.contains value = true)
        (h : ∀ time, (Pattern.step base interval).accepts value time = true) :
        Selects field base interval value :=
      (selects_iff_accepts hvalue LocalTime.epoch).2 (h LocalTime.epoch)
    have hfirst := hselects hfirst fun time => (haccepts time).1
    have hsecond := hselects hsecond fun time => (haccepts time).2
    rcases simplify_step_cases (admitsSteps_iff.2 hsteppable) with
      ⟨hnone, -⟩ | ⟨only, honly, -⟩ | ⟨-, -, -, -, -, heq⟩
    · exact absurd hfirst (hnone first)
    · have := (honly first).1 hfirst
      have := (honly second).1 hsecond
      omega
    · exact heq
  | @list children _ _ _ hrun ih =>
    rw [simplify, simplifyAll_eq_map, map_eq_self ih, mergeNumbers_of_not_isNumberRun hrun]
  | _ => rfl

/-- A well-formed pattern is its own canonical form. -/
theorem canonical_of_wellFormed (h : WellFormed field pattern) :
    canonical field pattern = pattern := by
  have hsimplify := simplify_of_wellFormed h
  rw [canonical_eq_simplify (hsimplify.symm ▸ h), hsimplify]

end CronSchedule.Pattern

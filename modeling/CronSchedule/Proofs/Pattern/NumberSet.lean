import CronSchedule.Proofs.Pattern.WellFormed
import Mathlib.Data.Finset.Max

/-!
# Lists of numbers and their sets of values

A token that lists numbers is read as the list of its values in the order in
which they are written (`read_of_values`). Its canonical form depends on their set
alone where that is one value or has all values between its ends: there order and
repetition make no difference. Any other list is kept as it was written
(`canonical_of_number_list`).
-/

set_option autoImplicit false

namespace CronSchedule.Pattern

open Grammar

variable {field : Field} {text : List Char} {texts : List (List Char)} {pattern : Pattern}
  {values : List Nat} {low high : Nat}

/-! ## Values that are read -/

theorem item_of_value {value : Nat} (h : Value field text value) :
    Item field text (single value) :=
  .atom (.span (.value h))

/-- An item that consists of digits is the value that they write. -/
theorem exists_value_of_item (hnumber : Text.isNumber text = true) (h : Item field text pattern) :
    ∃ value, Value field text value ∧ pattern = single value := by
  -- every other form holds a character that is no digit
  have hdigits {c : Char} (hmem : c ∈ text) : Text.isDecimalDigit c = true := by
    apply Classical.byContradiction
    intro hc
    rw [isNumber_eq_false_of_mem (Bool.not_eq_true _ ▸ hc) hmem] at hnumber
    cases hnumber
  cases h with
  | atom hatom =>
    cases hatom with
    | span hspan =>
      cases hspan with
      | star => exact absurd (hdigits List.mem_cons_self) (by decide)
      | value hvalue => exact ⟨_, hvalue, rfl⟩
      | range =>
        exact absurd (hdigits (List.mem_append_right _ List.mem_cons_self)) (by decide)
    | unspecified => exact absurd (hdigits List.mem_cons_self) (by decide)
    | monthDay _ hform =>
      obtain ⟨c, hc, hmem⟩ := MonthDay.exists_letter hform
      rcases hc with rfl | rfl | rfl <;> exact absurd (hdigits hmem) (by decide)
    | weekDay _ hform =>
      obtain ⟨c, hc, hmem⟩ := WeekDay.exists_letter hform
      rcases hc with rfl | rfl | rfl <;> exact absurd (hdigits hmem) (by decide)
  | stepped =>
    exact absurd (hdigits (List.mem_append_right _ List.mem_cons_self)) (by decide)

theorem exists_values_of_items (hnumbers : ∀ text ∈ texts, Text.isNumber text = true)
    {patterns : List Pattern} (h : List.Forall₂ (Item field) texts patterns) :
    ∃ values, List.Forall₂ (Value field) texts values ∧ patterns = values.map single := by
  induction h with
  | nil => exact ⟨[], .nil, rfl⟩
  | cons hitem _ ih =>
    obtain ⟨value, hvalue, rfl⟩ := exists_value_of_item (hnumbers _ List.mem_cons_self) hitem
    obtain ⟨values, hvalues, rfl⟩ := ih fun text htext =>
      hnumbers text (List.mem_cons_of_mem _ htext)
    exact ⟨value :: values, .cons hvalue hvalues, rfl⟩

theorem token_of_values (hlength : 2 ≤ texts.length) (h : List.Forall₂ (Value field) texts values) :
    Token field (Text.joinWith ',' texts) (list (values.map single)) := by
  refine .list hlength ?_
  rw [List.forall₂_map_right_iff]
  exact h.imp fun _ _ => item_of_value

/-- The numbers of a list are read in the order in which they are written. -/
theorem read_of_values (hlength : 2 ≤ texts.length) (h : List.Forall₂ (Value field) texts values) :
    read field (Text.joinWith ',' texts) = .ok (list (values.map single)) :=
  read_of_token (token_of_values hlength h)

/-- A list of numbers is accepted only if each of them is a value of the field. -/
theorem exists_values_of_read (hlength : 2 ≤ texts.length)
    (hnumbers : ∀ text ∈ texts, Text.isNumber text = true)
    (h : read field (Text.joinWith ',' texts) = .ok pattern) :
    ∃ values, List.Forall₂ (Value field) texts values ∧ pattern = list (values.map single) := by
  have hcommas : ∀ text ∈ texts, ',' ∉ text := by
    intro text htext hmem
    have hnumber := hnumbers text htext
    rw [isNumber_eq_false_of_mem (by decide) hmem] at hnumber
    cases hnumber
  have hne : texts ≠ [] := by
    rintro rfl
    cases hlength
  rw [read, Text.splitAt_joinWith hne hcommas] at h
  split at h
  · simp at hlength
  · obtain ⟨patterns, hpatterns, rfl⟩ := Outcome.map_eq_ok_iff.1 h
    have hitems := (Outcome.mapM_eq_ok_iff.1 hpatterns).imp fun _ _ => readPart_eq_ok_iff.1
    obtain ⟨values, hvalues, rfl⟩ := exists_values_of_items hnumbers hitems
    exact ⟨values, hvalues, rfl⟩

/-! ## The set of values -/

theorem exists_ends (h : values ≠ []) :
    ∃ low high, IsLeast {n | n ∈ values} low ∧ IsGreatest {n | n ∈ values} high := by
  obtain ⟨n, hn⟩ := List.exists_mem_of_ne_nil values h
  have hnonempty : values.toFinset.Nonempty := ⟨n, List.mem_toFinset.2 hn⟩
  have hleast := values.toFinset.isLeast_min' hnonempty
  have hgreatest := values.toFinset.isGreatest_max' hnonempty
  rw [List.coe_toFinset] at hleast hgreatest
  exact ⟨_, _, hleast, hgreatest⟩

/-- The ends of a run are the least and the greatest of its values. -/
theorem IsRun.ends (h : IsRun values low high) :
    IsLeast {n | n ∈ values} low ∧ IsGreatest {n | n ∈ values} high := by
  obtain ⟨hle, hmem⟩ := h
  refine ⟨⟨(hmem low).2 ⟨Nat.le_refl _, hle⟩, ?_⟩, (hmem high).2 ⟨hle, Nat.le_refl _⟩, ?_⟩
  · exact fun n hn => ((hmem n).1 hn).1
  · exact fun n hn => ((hmem n).1 hn).2

section Ends

variable (hlow : IsLeast {n | n ∈ values} low) (hhigh : IsGreatest {n | n ∈ values} high)

include hlow hhigh

/-- Values make up a run exactly if none between their ends is missing. -/
theorem isRun_iff_Icc_subset :
    IsRun values low high ↔ Set.Icc low high ⊆ {n | n ∈ values} := by
  constructor
  · rintro ⟨-, hmem⟩ n hn
    exact (hmem n).2 hn
  · intro hsubset
    refine ⟨hlow.2 hhigh.1, fun n => ⟨fun hn => ⟨hlow.2 hn, hhigh.2 hn⟩, fun hn => hsubset hn⟩⟩

theorem not_isRun_of_not_subset (h : ¬ Set.Icc low high ⊆ {n | n ∈ values}) (first last : Nat) :
    ¬ IsRun values first last := by
  intro hrun
  obtain ⟨hfirst, hlast⟩ := hrun.ends
  rw [hfirst.unique hlow, hlast.unique hhigh, isRun_iff_Icc_subset hlow hhigh] at hrun
  exact h hrun

theorem mergeNumbers_of_not_subset (h : ¬ Set.Icc low high ⊆ {n | n ∈ values}) :
    mergeNumbers (values.map single) = list (values.map single) := by
  apply mergeNumbers_of_not_isNumberRun
  intro first last hrun
  exact not_isRun_of_not_subset hlow hhigh h first last (isNumberRun_map_single_iff.1 hrun).2

theorem mergeNumbers_of_Icc_subset (hlength : 2 ≤ values.length)
    (h : Set.Icc low high ⊆ {n | n ∈ values}) :
    mergeNumbers (values.map single) = if low = high then single low else range low high false :=
  mergeNumbers_of_isNumberRun
    (isNumberRun_map_single_iff.2 ⟨hlength, (isRun_iff_Icc_subset hlow hhigh).2 h⟩)

end Ends

/-! ## Canonical forms -/

theorem canonical_of_values (hlength : 2 ≤ texts.length)
    (h : List.Forall₂ (Value field) texts values) :
    canonical field (list (values.map single)) = mergeNumbers (values.map single) := by
  have hsingles : simplify field ∘ single = single := rfl
  rw [canonical_eq_simplify (wellFormed_simplify (token_of_values hlength h)), simplify,
    simplifyAll_eq_map, List.map_map, hsingles]

/-- A list of numbers is compiled by the set of its values. One value becomes a number, and all the
values between two ends become a range; any other list keeps its numbers, with their order and their
repetitions. So wherever no value between the ends is missing, each list of the same set of values
compiles to the same pattern. -/
theorem canonical_of_number_list (hlength : 2 ≤ texts.length)
    (hnumbers : ∀ text ∈ texts, Text.isNumber text = true)
    (h : read field (Text.joinWith ',' texts) = .ok pattern) :
    ∃ values low high, List.Forall₂ (Value field) texts values ∧
      pattern = list (values.map single) ∧
      IsLeast {n | n ∈ values} low ∧ IsGreatest {n | n ∈ values} high ∧
      (low = high → canonical field pattern = single low) ∧
      (low < high → Set.Icc low high ⊆ {n | n ∈ values} →
        canonical field pattern = range low high false) ∧
      (¬ Set.Icc low high ⊆ {n | n ∈ values} →
        canonical field pattern = list (values.map single)) ∧
      (Set.Icc low high ⊆ {n | n ∈ values} →
        ∀ others otherValues, 2 ≤ others.length → List.Forall₂ (Value field) others otherValues →
          {n | n ∈ otherValues} = {n | n ∈ values} →
          ∃ other, read field (Text.joinWith ',' others) = .ok other ∧
            canonical field other = canonical field pattern) := by
  obtain ⟨values, hvalues, rfl⟩ := exists_values_of_read hlength hnumbers h
  have hcount : 2 ≤ values.length := hvalues.length_eq ▸ hlength
  obtain ⟨low, high, hlow, hhigh⟩ :=
    exists_ends (List.ne_nil_of_length_pos (Nat.lt_of_lt_of_le Nat.zero_lt_two hcount))
  rw [canonical_of_values hlength hvalues]
  refine ⟨values, low, high, hvalues, rfl, hlow, hhigh, ?_, ?_, ?_, ?_⟩
  · rintro rfl
    -- the one value is all that lies between equal ends
    have hsubset : Set.Icc low low ⊆ {n | n ∈ values} := by
      rw [Set.Icc_self, Set.singleton_subset_iff]
      exact hlow.1
    rw [mergeNumbers_of_Icc_subset hlow hhigh hcount hsubset, if_pos rfl]
  · intro hlt hsubset
    rw [mergeNumbers_of_Icc_subset hlow hhigh hcount hsubset, if_neg (Nat.ne_of_lt hlt)]
  · exact mergeNumbers_of_not_subset hlow hhigh
  · intro hsubset others otherValues hothers hother hsame
    refine ⟨_, read_of_values hothers hother, ?_⟩
    rw [canonical_of_values hothers hother, mergeNumbers_of_Icc_subset hlow hhigh hcount hsubset]
    rw [← hsame] at hlow hhigh hsubset
    exact mergeNumbers_of_Icc_subset hlow hhigh (hother.length_eq ▸ hothers) hsubset

/-- Minutes in any order and with one of them repeated become a range. Sundays written as 0 and as 7
are one value. The hours 1 and 3 have a gap between them, so their list is kept. -/
theorem canonical_of_number_list_of_minutes_sundays_hours :
    (∃ pattern, read .minute "5,04,6,5".toList = .ok pattern ∧
      canonical .minute pattern = range 4 6 false) ∧
    (∃ pattern, read .dayOfWeek "0,7,00".toList = .ok pattern ∧
      canonical .dayOfWeek pattern = single 7) ∧
    ∃ pattern, read .hour "3,1,3".toList = .ok pattern ∧
      canonical .hour pattern = list [single 3, single 1, single 3] := by
  have hsingle : Function.Injective single := fun _ _ h => Pattern.single.inj h
  refine ⟨?_, ?_, ?_⟩
  · have hread : read .minute (Text.joinWith ',' ["5".toList, "04".toList, "6".toList, "5".toList]) =
        .ok (list [single 5, single 4, single 6, single 5]) := by rfl
    obtain ⟨values, low, high, -, hlist, hlow, hhigh, -, hrange, -, -⟩ :=
      canonical_of_number_list (by decide) (by decide) hread
    obtain rfl : [5, 4, 6, 5] = values := hsingle.list_map (Pattern.list.inj hlist)
    obtain rfl : low = 4 := hlow.unique ⟨by simp, fun n hn => by simp at hn; omega⟩
    obtain rfl : high = 6 := hhigh.unique ⟨by simp, fun n hn => by simp at hn; omega⟩
    refine ⟨_, hread, hrange (by decide) fun n hn => ?_⟩
    have hbounds := Set.mem_Icc.1 hn
    simp
    omega
  · have hread : read .dayOfWeek (Text.joinWith ',' ["0".toList, "7".toList, "00".toList]) =
        .ok (list [single 7, single 7, single 7]) := by rfl
    obtain ⟨values, low, high, -, hlist, hlow, hhigh, hone, -⟩ :=
      canonical_of_number_list (by decide) (by decide) hread
    obtain rfl : [7, 7, 7] = values := hsingle.list_map (Pattern.list.inj hlist)
    obtain rfl : low = 7 := by simpa using hlow.1
    obtain rfl : high = 7 := by simpa using hhigh.1
    exact ⟨_, hread, hone rfl⟩
  · have hread : read .hour (Text.joinWith ',' ["3".toList, "1".toList, "3".toList]) =
        .ok (list [single 3, single 1, single 3]) := by rfl
    obtain ⟨values, low, high, -, hlist, hlow, hhigh, -, -, hkept, -⟩ :=
      canonical_of_number_list (by decide) (by decide) hread
    obtain rfl : [3, 1, 3] = values := hsingle.list_map (Pattern.list.inj hlist)
    refine ⟨_, hread, hkept fun hsubset => ?_⟩
    have hfirst : low ≤ 1 := hlow.2 (by simp)
    have hlast : 3 ≤ high := hhigh.2 (by simp)
    -- the hour 2 lies between the ends
    have hgap := hsubset (Set.mem_Icc.2 (show low ≤ 2 ∧ 2 ≤ high by omega))
    simp at hgap

end CronSchedule.Pattern

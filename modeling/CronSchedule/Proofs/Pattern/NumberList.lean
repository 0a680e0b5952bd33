import CronSchedule.Pattern.Canonical
import Mathlib.Order.Interval.Finset.Nat

/-!
# Lists of numbers

A list of numbers becomes a single number or a range exactly when its values are
all those from a smallest to a largest one, in whatever order and however often
they are given; every other list stays as it is (`mergeNumbers_of_isNumberRun`,
`mergeNumbers_of_not_isNumberRun`). The distinct values of a list are counted:
there are as many of them as the distance between their ends asks for only if
none between the ends is missing (`isRun_iff_length`).
-/

set_option autoImplicit false

namespace CronSchedule.Pattern

/-! ## Distinct numbers in ascending order -/

theorem mem_insertDistinct {n m : Nat} {numbers : List Nat} :
    m ∈ insertDistinct n numbers ↔ m = n ∨ m ∈ numbers := by
  induction numbers with
  | nil => simp [insertDistinct]
  | cons k rest ih =>
    rw [insertDistinct]
    split
    · rw [List.mem_cons]
    · split
      · next hk => simp [hk]
      · rw [List.mem_cons, ih, List.mem_cons]
        exact or_left_comm

theorem pairwise_insertDistinct {n : Nat} {numbers : List Nat}
    (h : numbers.Pairwise (· < ·)) : (insertDistinct n numbers).Pairwise (· < ·) := by
  induction numbers with
  | nil => exact List.pairwise_singleton _ _
  | cons k rest ih =>
    obtain ⟨hk, hrest⟩ := List.pairwise_cons.1 h
    rw [insertDistinct]
    split
    · next hlt =>
      refine List.pairwise_cons.2 ⟨?_, h⟩
      intro m hm
      rcases List.mem_cons.1 hm with rfl | hm
      · exact hlt
      · exact Nat.lt_trans hlt (hk m hm)
    · split
      · exact h
      · next hge hne =>
        refine List.pairwise_cons.2 ⟨?_, ih hrest⟩
        intro m hm
        rcases mem_insertDistinct.1 hm with rfl | hm
        · omega
        · exact hk m hm

theorem mem_distinct {n : Nat} {numbers : List Nat} : n ∈ distinct numbers ↔ n ∈ numbers := by
  induction numbers with
  | nil => rfl
  | cons m rest ih =>
    rw [distinct, List.foldr_cons, mem_insertDistinct, ← distinct, ih, List.mem_cons]

theorem pairwise_distinct (numbers : List Nat) : (distinct numbers).Pairwise (· < ·) := by
  induction numbers with
  | nil => exact List.Pairwise.nil
  | cons m rest ih => exact pairwise_insertDistinct ih

/-! ## Runs -/

/-- The values of the list are all those from `low` to `high`. -/
def IsRun (numbers : List Nat) (low high : Nat) : Prop :=
  low ≤ high ∧ ∀ n, n ∈ numbers ↔ low ≤ n ∧ n ≤ high

section Ascending

variable {low : Nat} {rest : List Nat}

theorem bounds_of_ascending (h : (low :: rest).Pairwise (· < ·)) :
    rest.getLastD low ∈ low :: rest ∧ ∀ n ∈ low :: rest, low ≤ n ∧ n ≤ rest.getLastD low := by
  induction rest generalizing low with
  | nil =>
    refine ⟨List.mem_cons_self, fun n hn => ?_⟩
    rw [List.mem_singleton.1 hn]
    exact ⟨Nat.le_refl _, Nat.le_refl _⟩
  | cons second rest ih =>
    obtain ⟨hlow, hrest⟩ := List.pairwise_cons.1 h
    obtain ⟨hmem, hbounds⟩ := ih hrest
    have hlt := hlow second List.mem_cons_self
    rw [List.getLastD_cons]
    refine ⟨List.mem_cons_of_mem _ hmem, fun n hn => ?_⟩
    rcases List.mem_cons.1 hn with rfl | hn
    · have hsecond := hbounds second List.mem_cons_self
      omega
    · have hn := hbounds n hn
      omega

/-- Ascending numbers lack none between their ends exactly if they are as many as the ends are
apart: they are a part of the interval, and the whole of it if they are as many as its numbers. -/
theorem isRun_iff_length (h : (low :: rest).Pairwise (· < ·)) :
    IsRun (low :: rest) low (rest.getLastD low) ↔ rest.getLastD low - low = rest.length := by
  obtain ⟨hmem, hbounds⟩ := bounds_of_ascending h
  have hle := (hbounds _ hmem).1
  have hsubset : (low :: rest).toFinset ⊆ Finset.Icc low (rest.getLastD low) := by
    intro n hn
    exact Finset.mem_Icc.2 (hbounds n (List.mem_toFinset.1 hn))
  have hcount : (low :: rest).toFinset.card = rest.length + 1 := by
    rw [List.toFinset_card_of_nodup (h.imp fun hlt => Nat.ne_of_lt hlt), List.length_cons]
  have hinterval := Nat.card_Icc low (rest.getLastD low)
  constructor
  · rintro ⟨-, hrun⟩
    have heq : (low :: rest).toFinset = Finset.Icc low (rest.getLastD low) := by
      ext n
      rw [List.mem_toFinset, Finset.mem_Icc, hrun]
    rw [heq] at hcount
    omega
  · intro hlength
    have heq := Finset.eq_of_subset_of_card_le hsubset (by omega)
    refine ⟨hle, fun n => ?_⟩
    rw [← List.mem_toFinset, heq, Finset.mem_Icc]

end Ascending

/-! ## Merging -/

theorem single?_eq_some_iff {pattern : Pattern} {n : Nat} :
    pattern.single? = some n ↔ pattern = single n := by
  cases pattern <;> simp [single?]

theorem mapM_single?_eq_some_iff {children : List Pattern} {numbers : List Nat} :
    children.mapM single? = some numbers ↔ children = numbers.map single := by
  induction children generalizing numbers with
  | nil => cases numbers <;> simp
  | cons child others ih =>
    rw [List.mapM_cons]
    simp only [bind, pure, Option.bind_eq_some_iff, Option.some.injEq, single?_eq_some_iff, ih]
    constructor
    · rintro ⟨n, rfl, rest, rfl, rfl⟩
      rfl
    · intro h
      cases numbers with
      | nil => cases h
      | cons n rest =>
        obtain ⟨hchild, hothers⟩ := List.cons.inj h
        exact ⟨n, hchild, rest, hothers, rfl⟩

theorem isRun_distinct_iff {numbers : List Nat} {low high : Nat} :
    IsRun (distinct numbers) low high ↔ IsRun numbers low high := by
  simp only [IsRun, mem_distinct]

/-- The list consists of at least two numbers whose values are all those from `low` to `high`. -/
def IsNumberRun (children : List Pattern) (low high : Nat) : Prop :=
  ∃ numbers, children = numbers.map single ∧ 2 ≤ numbers.length ∧ IsRun numbers low high

theorem isNumberRun_map_single_iff {numbers : List Nat} {low high : Nat} :
    IsNumberRun (numbers.map single) low high ↔ 2 ≤ numbers.length ∧ IsRun numbers low high := by
  have hinjective : Function.Injective single := fun _ _ h => Pattern.single.inj h
  constructor
  · rintro ⟨numbers', hnumbers, hrun⟩
    rw [hinjective.list_map hnumbers]
    exact hrun
  · exact fun h => ⟨numbers, rfl, h⟩

/-- What a list of at least two numbers is merged into is told by the ends of its distinct values
and by whether it lacks a value between them. -/
theorem mergeNumbers_map_single {numbers : List Nat} (h : 2 ≤ numbers.length) :
    ∃ low rest, distinct numbers = low :: rest ∧
      mergeNumbers (numbers.map single) =
        if rest.getLastD low = low then single low
        else if rest.getLastD low - low = rest.length then range low (rest.getLastD low) false
        else list (numbers.map single) := by
  obtain ⟨n, hn⟩ := List.exists_mem_of_length_pos (Nat.lt_of_lt_of_le Nat.zero_lt_two h)
  obtain ⟨low, rest, hdistinct⟩ :=
    List.exists_cons_of_ne_nil (List.ne_nil_of_mem (mem_distinct.2 hn))
  refine ⟨low, rest, hdistinct, ?_⟩
  rw [mergeNumbers, mapM_single?_eq_some_iff.2 rfl]
  simp only [Nat.not_lt.2 h, if_false, hdistinct]

theorem mergeNumbers_of_isNumberRun {children : List Pattern} {low high : Nat}
    (h : IsNumberRun children low high) :
    mergeNumbers children = if low = high then single low else range low high false := by
  obtain ⟨numbers, rfl, hlength, hrun⟩ := h
  obtain ⟨first, rest, hdistinct, hmerge⟩ := mergeNumbers_map_single hlength
  have hascending := hdistinct ▸ pairwise_distinct numbers
  rw [← isRun_distinct_iff, hdistinct] at hrun
  -- the ends of the run are the ends of the ascending values
  obtain ⟨hmem, hbounds⟩ := bounds_of_ascending hascending
  have hlow : low = first := by
    have := (hrun.2 first).1 List.mem_cons_self
    have := hbounds low ((hrun.2 low).2 ⟨Nat.le_refl _, hrun.1⟩)
    omega
  have hhigh : high = rest.getLastD first := by
    have := (hrun.2 _).1 hmem
    have := hbounds high ((hrun.2 high).2 ⟨hrun.1, Nat.le_refl _⟩)
    omega
  subst hlow hhigh
  rw [hmerge, if_pos ((isRun_iff_length hascending).1 hrun)]
  by_cases heq : rest.getLastD low = low
  · rw [if_pos heq, if_pos heq.symm]
  · rw [if_neg heq, if_neg (Ne.symm heq)]

theorem mergeNumbers_of_not_isNumberRun {children : List Pattern}
    (h : ∀ low high, ¬ IsNumberRun children low high) : mergeNumbers children = list children := by
  cases hmapM : children.mapM single? with
  | none => rw [mergeNumbers, hmapM]
  | some numbers =>
    obtain rfl := mapM_single?_eq_some_iff.1 hmapM
    by_cases hlength : 2 ≤ numbers.length
    · obtain ⟨low, rest, hdistinct, hmerge⟩ := mergeNumbers_map_single hlength
      have hascending := hdistinct ▸ pairwise_distinct numbers
      have hnot (high : Nat) : ¬ IsRun (low :: rest) low high := by
        rw [← hdistinct, isRun_distinct_iff]
        exact fun hrun => h low high (isNumberRun_map_single_iff.2 ⟨hlength, hrun⟩)
      rw [hmerge, if_neg, if_neg]
      · exact fun heq => hnot _ ((isRun_iff_length hascending).2 heq)
      · -- equal ends leave room for one value only
        intro heq
        obtain ⟨-, hbounds⟩ := bounds_of_ascending hascending
        rw [heq] at hbounds
        refine hnot low ⟨Nat.le_refl _, fun n => ⟨hbounds n, fun hn => ?_⟩⟩
        rw [Nat.le_antisymm hn.2 hn.1]
        exact List.mem_cons_self
    · rw [mergeNumbers, hmapM]
      simp only [Nat.lt_of_not_le hlength, if_true]

end CronSchedule.Pattern

import CronSchedule.Text.Separated

/-!
# Cutting texts and joining their parts

Cutting a text at its separators and joining the parts with the separator are
inverse to each other as long as no part holds the separator
(`joinWith_splitAt`, `splitAt_joinWith`). The first separator divides a text into
a part without it and the rest (`splitFirst?_eq_some_iff`).
-/

set_option autoImplicit false

namespace CronSchedule.Text

variable {separator : Char}

/-! ## Cutting at every separator -/

theorem splitAt_ne_nil (text : List Char) : splitAt separator text ≠ [] := by
  cases text with
  | nil => simp [splitAt]
  | cons c rest =>
    rw [splitAt]
    split
    · simp
    · split <;> simp

theorem splitAt_cons_separator (rest : List Char) :
    splitAt separator (separator :: rest) = [] :: splitAt separator rest := by
  rw [splitAt, if_pos rfl]

theorem splitAt_cons_of_ne {c : Char} (hc : c ≠ separator) {rest part : List Char}
    {others : List (List Char)} (h : splitAt separator rest = part :: others) :
    splitAt separator (c :: rest) = (c :: part) :: others := by
  rw [splitAt, if_neg hc, h]

theorem splitAt_of_not_mem {text : List Char} (h : separator ∉ text) :
    splitAt separator text = [text] := by
  induction text with
  | nil => rfl
  | cons c rest ih =>
    rw [List.mem_cons, not_or] at h
    exact splitAt_cons_of_ne (Ne.symm h.1) (ih h.2)

theorem splitAt_append_separator {part : List Char} (h : separator ∉ part) (rest : List Char) :
    splitAt separator (part ++ separator :: rest) = part :: splitAt separator rest := by
  induction part with
  | nil => exact splitAt_cons_separator rest
  | cons c part ih =>
    rw [List.mem_cons, not_or] at h
    exact splitAt_cons_of_ne (Ne.symm h.1) (ih h.2)

theorem splitAt_append (before after : List Char) :
    splitAt separator (before ++ separator :: after) =
      splitAt separator before ++ splitAt separator after := by
  induction before with
  | nil => exact splitAt_cons_separator after
  | cons c before ih =>
    by_cases hc : c = separator
    · rw [hc, List.cons_append, splitAt_cons_separator, splitAt_cons_separator, ih, List.cons_append]
    · obtain ⟨part, others, hbefore⟩ := List.exists_cons_of_ne_nil (splitAt_ne_nil before)
      rw [hbefore, List.cons_append] at ih
      rw [List.cons_append, splitAt_cons_of_ne hc ih, splitAt_cons_of_ne hc hbefore, List.cons_append]

/-! ## Joining -/

theorem joinWith_cons {part : List Char} {others : List (List Char)} (h : others ≠ []) :
    joinWith separator (part :: others) = part ++ separator :: joinWith separator others := by
  cases others with
  | nil => exact absurd rfl h
  | cons => rfl

/-- A text is its parts with the separator between each two. -/
theorem joinWith_splitAt (text : List Char) :
    joinWith separator (splitAt separator text) = text := by
  induction text with
  | nil => rfl
  | cons c rest ih =>
    by_cases hc : c = separator
    · rw [hc, splitAt_cons_separator, joinWith_cons (splitAt_ne_nil rest), ih, List.nil_append]
    · obtain ⟨part, others, hrest⟩ := List.exists_cons_of_ne_nil (splitAt_ne_nil rest)
      rw [splitAt_cons_of_ne hc hrest]
      rw [hrest] at ih
      cases others with
      | nil => exact congrArg (c :: ·) ih
      | cons => exact congrArg (c :: ·) ih

/-- Parts without the separator come back when the text that they form is cut. -/
theorem splitAt_joinWith {parts : List (List Char)} (hparts : parts ≠ [])
    (h : ∀ part ∈ parts, separator ∉ part) :
    splitAt separator (joinWith separator parts) = parts := by
  induction parts with
  | nil => exact absurd rfl hparts
  | cons part others ih =>
    cases others with
    | nil => exact splitAt_of_not_mem (h part List.mem_cons_self)
    | cons second rest =>
      rw [joinWith_cons (List.cons_ne_nil _ _),
        splitAt_append_separator (h part List.mem_cons_self),
        ih (List.cons_ne_nil _ _) fun other hother => h other (List.mem_cons_of_mem _ hother)]

/-- The characters of a text are the separator and those of its parts. -/
theorem joinWith_subset {characters : List Char} (hseparator : separator ∈ characters)
    {parts : List (List Char)} (h : ∀ part ∈ parts, part ⊆ characters) :
    joinWith separator parts ⊆ characters := by
  induction parts with
  | nil => exact List.nil_subset _
  | cons part others ih =>
    have hpart := h part List.mem_cons_self
    by_cases hothers : others = []
    · rw [hothers]
      exact hpart
    · have hrest := ih fun other hother => h other (List.mem_cons_of_mem _ hother)
      rw [joinWith_cons hothers, List.append_subset, List.cons_subset]
      exact ⟨hpart, hseparator, hrest⟩

/-! ## Cutting at the first separator -/

theorem splitFirst?_append {before : List Char} (h : separator ∉ before) (after : List Char) :
    splitFirst? separator (before ++ separator :: after) = some (before, after) := by
  induction before with
  | nil => rw [List.nil_append, splitFirst?, if_pos rfl]
  | cons c before ih =>
    rw [List.mem_cons, not_or] at h
    rw [List.cons_append, splitFirst?, if_neg (Ne.symm h.1), ih h.2]
    rfl

theorem splitFirst?_eq_none_iff {text : List Char} :
    splitFirst? separator text = none ↔ separator ∉ text := by
  induction text with
  | nil => simp [splitFirst?]
  | cons c rest ih =>
    rw [splitFirst?, List.mem_cons]
    by_cases hc : c = separator
    · simp [hc]
    · rw [if_neg hc, Option.map_eq_none_iff, ih, not_or]
      exact (and_iff_right (Ne.symm hc)).symm

/-- A text is divided at its first separator: the part before it does not hold the separator. -/
theorem splitFirst?_eq_some_iff {text before after : List Char} :
    splitFirst? separator text = some (before, after) ↔
      text = before ++ separator :: after ∧ separator ∉ before := by
  constructor
  · intro h
    induction text generalizing before with
    | nil => cases h
    | cons c rest ih =>
      rw [splitFirst?] at h
      split at h
      · next hc =>
        cases h
        exact ⟨by rw [hc, List.nil_append], List.not_mem_nil⟩
      · next hc =>
        obtain ⟨⟨first, second⟩, hrest, hpair⟩ := Option.map_eq_some_iff.1 h
        cases hpair
        obtain ⟨rfl, hfirst⟩ := ih hrest
        refine ⟨rfl, ?_⟩
        rw [List.mem_cons, not_or]
        exact ⟨Ne.symm hc, hfirst⟩
  · rintro ⟨rfl, hbefore⟩
    exact splitFirst?_append hbefore after

end CronSchedule.Text

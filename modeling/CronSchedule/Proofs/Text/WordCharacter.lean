import CronSchedule.Text.WordCharacter
import Mathlib.Data.List.Basic

/-!
# Rewriting the runs of a text

A text in which runs of word characters are rewritten has the rewritten runs between
the same other characters. So what holds of all runs and characters holds of the
rewritten text (`forall_mem_mapRunsFrom`), and rewriting is idempotent on texts if it
is on runs (`mapRuns_mapRunsFrom`).
-/

set_option autoImplicit false

namespace CronSchedule.Text

variable {f : List Char → List Char} {run part text : List Char}

theorem mapRunsFrom_append (h : ∀ c ∈ part, isWordCharacter c = true) (rest : List Char) :
    mapRunsFrom f run (part ++ rest) = mapRunsFrom f (run ++ part) rest := by
  induction part generalizing run with
  | nil => rw [List.nil_append, List.append_nil]
  | cons c part ih =>
    obtain ⟨hc, hpart⟩ := List.forall_mem_cons.1 h
    rw [List.cons_append, mapRunsFrom, if_pos hc, ih hpart, List.append_assoc]
    rfl

/-- Rewriting runs is idempotent if rewriting one run is, and gives a run again. -/
theorem mapRuns_mapRunsFrom (hf : ∀ run, f (f run) = f run)
    (hword : ∀ run : List Char, (∀ c ∈ run, isWordCharacter c = true) →
      ∀ c ∈ f run, isWordCharacter c = true)
    (hrun : ∀ c ∈ run, isWordCharacter c = true) (text : List Char) :
    mapRuns f (mapRunsFrom f run text) = mapRunsFrom f run text := by
  induction text generalizing run with
  | nil =>
    have hread : mapRunsFrom f [] (f run ++ []) = mapRunsFrom f ([] ++ f run) [] :=
      mapRunsFrom_append (hword run hrun) []
    rw [List.append_nil, List.nil_append] at hread
    rw [mapRunsFrom, mapRuns, hread, mapRunsFrom, hf]
  | cons c rest ih =>
    rw [mapRunsFrom]
    split
    · next hc =>
      apply ih
      exact List.forall_mem_append.2 ⟨hrun, List.forall_mem_singleton.2 hc⟩
    · next hc =>
      -- the character between two runs ends the first of them again
      rw [mapRuns, mapRunsFrom_append (hword run hrun), List.nil_append, mapRunsFrom, if_neg hc, hf,
        ← mapRuns, ih (List.forall_mem_nil _)]

/-- Rewriting the runs of a text changes nothing if the runs of its characters are kept. -/
theorem mapRunsFrom_eq_append {characters : List Char}
    (hf : ∀ run ⊆ characters, f run = run) (hrun : run ⊆ characters)
    (h : text ⊆ characters) : mapRunsFrom f run text = run ++ text := by
  induction text generalizing run with
  | nil => rw [mapRunsFrom, hf run hrun, List.append_nil]
  | cons c rest ih =>
    obtain ⟨hc, hrest⟩ := List.cons_subset.1 h
    rw [mapRunsFrom]
    split
    · have hrun' : run ++ [c] ⊆ characters :=
        List.append_subset.2 ⟨hrun, List.cons_subset.2 ⟨hc, List.nil_subset _⟩⟩
      rw [ih hrun' hrest, List.append_assoc]
      rfl
    · rw [hf run hrun, ih (List.nil_subset _) hrest, List.nil_append]

theorem forall_mem_mapRunsFrom {P : Char → Prop}
    (hf : ∀ run : List Char, (∀ c ∈ run, P c) → ∀ c ∈ f run, P c) (hrun : ∀ c ∈ run, P c)
    (h : ∀ c ∈ text, P c) : ∀ c ∈ mapRunsFrom f run text, P c := by
  induction text generalizing run with
  | nil => exact hf run hrun
  | cons c rest ih =>
    obtain ⟨hc, hrest⟩ := List.forall_mem_cons.1 h
    rw [mapRunsFrom]
    split
    · exact ih (List.forall_mem_append.2 ⟨hrun, List.forall_mem_singleton.2 hc⟩) hrest
    · have hothers := ih (List.forall_mem_nil _) hrest
      exact List.forall_mem_append.2 ⟨hf run hrun, List.forall_mem_cons.2 ⟨hc, hothers⟩⟩

theorem mapRunsFrom_ne_nil (hf : ∀ run, run ≠ [] → f run ≠ []) (h : run ++ text ≠ []) :
    mapRunsFrom f run text ≠ [] := by
  induction text generalizing run with
  | nil =>
    rw [List.append_nil] at h
    exact hf run h
  | cons c rest ih =>
    rw [mapRunsFrom]
    split
    · apply ih
      simp
    · simp

end CronSchedule.Text

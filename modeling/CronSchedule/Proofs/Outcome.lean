import Mathlib.Data.List.Forall2

/-!
# Computations that may fail

A sequence of steps succeeds exactly when each of its steps does, and fails with
the error of the first step that does not. These lemmas take a computation apart
into the results of its steps.
-/

set_option autoImplicit false

namespace CronSchedule.Outcome

variable {α β ε : Type}

theorem bind_eq_ok_iff {x : Except ε α} {f : α → Except ε β} {b : β} :
    x >>= f = .ok b ↔ ∃ a, x = .ok a ∧ f a = .ok b := by
  cases x with
  | error e => simp [bind, Except.bind]
  | ok a => simp [bind, Except.bind]

theorem map_eq_ok_iff {x : Except ε α} {f : α → β} {b : β} :
    x.map f = .ok b ↔ ∃ a, x = .ok a ∧ f a = b := by
  cases x with
  | error e => simp [Except.map]
  | ok a => simp [Except.map]

theorem ite_eq_ok_iff {p : Prop} [Decidable p] {a b : α} {e : ε} :
    (if p then .ok a else .error e) = (.ok b : Except ε α) ↔ p ∧ a = b := by
  by_cases hp : p
  · simp [hp]
  · simp [hp]

theorem toOption_eq_some_iff {x : Except ε α} {a : α} : x.toOption = some a ↔ x = .ok a := by
  cases x with
  | error e => simp [Except.toOption]
  | ok b => simp [Except.toOption]

/-- A traversal succeeds exactly when each of its items gives its result. -/
theorem mapM_eq_ok_iff {f : α → Except ε β} {items : List α} {results : List β} :
    items.mapM f = .ok results ↔
      List.Forall₂ (fun item result => f item = .ok result) items results := by
  induction items generalizing results with
  | nil =>
    rw [List.forall₂_nil_left_iff, List.mapM_nil]
    exact ⟨fun h => (Except.ok.inj h).symm, fun h => h ▸ rfl⟩
  | cons item others ih =>
    rw [List.mapM_cons, bind_eq_ok_iff, List.forall₂_cons_left_iff]
    constructor
    · rintro ⟨first, hfirst, h⟩
      obtain ⟨rest, hrest, h⟩ := bind_eq_ok_iff.1 h
      cases h
      exact ⟨first, rest, hfirst, ih.1 hrest, rfl⟩
    · rintro ⟨first, rest, hfirst, hrest, rfl⟩
      exact ⟨first, hfirst, bind_eq_ok_iff.2 ⟨rest, ih.2 hrest, rfl⟩⟩

/-! ## Failures -/

theorem bind_eq_error_iff {x : Except ε α} {f : α → Except ε β} {e : ε} :
    x >>= f = .error e ↔ x = .error e ∨ ∃ a, x = .ok a ∧ f a = .error e := by
  cases x with
  | error e' => simp [bind, Except.bind]
  | ok a => simp [bind, Except.bind]

theorem map_eq_error_iff {x : Except ε α} {f : α → β} {e : ε} :
    x.map f = .error e ↔ x = .error e := by
  cases x with
  | error e' => simp [Except.map]
  | ok a => simp [Except.map]

theorem ite_eq_error_iff {p : Prop} [Decidable p] {a : α} {e e' : ε} :
    (if p then .ok a else .error e) = (.error e' : Except ε α) ↔ ¬ p ∧ e = e' := by
  by_cases hp : p
  · simp [hp]
  · simp [hp]

/-- A traversal that fails does so at one of its items. -/
theorem exists_of_mapM_eq_error {f : α → Except ε β} {items : List α} {e : ε}
    (h : items.mapM f = .error e) : ∃ item ∈ items, f item = .error e := by
  induction items with
  | nil => cases h
  | cons item others ih =>
    rw [List.mapM_cons, bind_eq_error_iff] at h
    obtain hfirst | ⟨first, -, h⟩ := h
    · exact ⟨item, List.mem_cons_self, hfirst⟩
    · obtain hrest | ⟨rest, -, h⟩ := bind_eq_error_iff.1 h
      · obtain ⟨failing, hmem, hfailing⟩ := ih hrest
        exact ⟨failing, List.mem_cons_of_mem _ hmem, hfailing⟩
      · cases h

end CronSchedule.Outcome

import CronSchedule.Numeral
import CronSchedule.Text.DecimalDigit
import Mathlib.Data.List.Induction

/-!
# Numbers written in decimal notation

`Numeral.Writes` says which number a run of ASCII digits writes; leading zeros
are allowed. Reading finds exactly that number (`natural?_eq_some_iff`), and the
digits of a number write it (`writes_digits`).
-/

set_option autoImplicit false

namespace CronSchedule.Numeral

/-- The ASCII digits write the number: the last of them counts ones, those before it tens. -/
inductive Writes : List Char → Nat → Prop
  | digit {d : Nat} : d < 10 → Writes [Nat.digitChar d] d
  | append {text : List Char} {n d : Nat} :
      Writes text n → d < 10 → Writes (text ++ [Nat.digitChar d]) (10 * n + d)

theorem exists_digitChar_of_isDigit {c : Char} (h : c.isDigit = true) :
    ∃ d, d < 10 ∧ c = Nat.digitChar d := by
  simp only [Char.isDigit, Bool.and_eq_true, decide_eq_true_eq, UInt32.le_iff_toNat_le] at h
  have hlow : 48 ≤ c.toNat := h.1
  have hhigh : c.toNat ≤ 57 := h.2
  refine ⟨c.toNat - 48, by omega, Char.toNat_inj.1 ?_⟩
  rw [Nat.toNat_digitChar_of_lt_ten (by omega)]
  omega

namespace Writes

variable {text : List Char} {n : Nat}

theorem isDigit (h : Writes text n) {c : Char} (hc : c ∈ text) : c.isDigit = true := by
  induction h with
  | digit hd =>
    rw [List.mem_singleton.1 hc]
    rw [Nat.isDigit_digitChar]
    exact decide_eq_true hd
  | append _ hd ih =>
    rcases List.mem_append.1 hc with hc | hc
    · exact ih hc
    · rw [List.mem_singleton.1 hc]
      rw [Nat.isDigit_digitChar]
      exact decide_eq_true hd

theorem ne_nil (h : Writes text n) : text ≠ [] := by
  cases h with
  | digit => exact List.cons_ne_nil _ _
  | append => simp

theorem ofDigitChars (h : Writes text n) : Nat.ofDigitChars 10 text 0 = n := by
  induction h with
  | digit hd =>
    rw [Nat.ofDigitChars_cons_digitChar_of_lt_ten hd, Nat.ofDigitChars_nil]
    omega
  | append _ hd ih =>
    rw [Nat.ofDigitChars_append, ih, Nat.ofDigitChars_cons_digitChar_of_lt_ten hd,
      Nat.ofDigitChars_nil]

theorem isNumber (h : Writes text n) : Text.isNumber text = true := by
  rw [Text.isNumber, Bool.and_eq_true, Bool.not_eq_true', List.isEmpty_eq_false_iff,
    List.all_eq_true]
  refine ⟨h.ne_nil, fun c hc => ?_⟩
  rw [Text.isDecimalDigit, h.isDigit hc, Bool.true_or]

/-- A character that is no digit does not occur in a number. -/
theorem not_mem (h : Writes text n) {c : Char} (hc : c.isDigit = false) : c ∉ text := by
  intro hmem
  rw [h.isDigit hmem] at hc
  cases hc

end Writes

theorem writes_ofDigitChars {text : List Char} (hne : text ≠ [])
    (h : ∀ c ∈ text, c.isDigit = true) : Writes text (Nat.ofDigitChars 10 text 0) := by
  induction text using List.reverseRecOn with
  | nil => exact absurd rfl hne
  | append_singleton text c ih =>
    obtain ⟨d, hd, rfl⟩ := exists_digitChar_of_isDigit (h c (by simp))
    rw [Nat.ofDigitChars_append, Nat.ofDigitChars_cons_digitChar_of_lt_ten hd, Nat.ofDigitChars_nil]
    by_cases htext : text = []
    · rw [htext, List.nil_append, Nat.ofDigitChars_nil, Nat.mul_zero, Nat.zero_add]
      exact .digit hd
    · exact .append (ih htext fun c hc => h c (List.mem_append_left _ hc)) hd

/-- A text is read as a number exactly when it writes that number. -/
theorem natural?_eq_some_iff {text : List Char} {n : Nat} :
    natural? text = some n ↔ Writes text n := by
  have hdigits : (!text.isEmpty && text.all Char.isDigit) = true ↔
      text ≠ [] ∧ ∀ c ∈ text, c.isDigit = true := by
    rw [Bool.and_eq_true, Bool.not_eq_true', List.isEmpty_eq_false_iff, List.all_eq_true]
  rw [natural?]
  constructor
  · intro h
    split at h
    · next hall =>
      obtain ⟨hne, hall⟩ := hdigits.1 hall
      cases h
      exact writes_ofDigitChars hne hall
    · cases h
  · intro h
    rw [if_pos (hdigits.2 ⟨h.ne_nil, fun _ => h.isDigit⟩), h.ofDigitChars]

/-- The decimal digits of a number write it. -/
theorem writes_digits (n : Nat) : Writes (digits n) n := by
  have h := writes_ofDigitChars (Nat.toDigits_ne_nil (n := n) (b := 10))
    fun c => Nat.isDigit_of_mem_toDigits (by decide) (by decide)
  rwa [Nat.ofDigitChars_ten_toDigits] at h

end CronSchedule.Numeral

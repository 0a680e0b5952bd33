import CronSchedule.Proofs.Text.Separated
import CronSchedule.Text.Blank

/-!
# Words of a text

A blank ends the word before it. So words that hold no blank come back when the
text that they form is read (`words_joinWith`).
-/

set_option autoImplicit false

namespace CronSchedule.Text

/-- The text can stand as a word between blanks. -/
def IsWord (text : List Char) : Prop := text ≠ [] ∧ ∀ c ∈ text, isBlank c = false

variable {word part : List Char} {blank : Char}

theorem wordsFrom_append (h : ∀ c ∈ part, isBlank c = false) (rest : List Char) :
    wordsFrom word (part ++ rest) = wordsFrom (word ++ part) rest := by
  induction part generalizing word with
  | nil => rw [List.nil_append, List.append_nil]
  | cons c part ih =>
    have hc := h c List.mem_cons_self
    rw [List.cons_append, wordsFrom, if_neg (Bool.not_eq_true _ ▸ hc),
      ih fun other hother => h other (List.mem_cons_of_mem _ hother), List.append_assoc]
    rfl

theorem words_of_isWord (h : IsWord part) : words part = [part] := by
  have hwords : wordsFrom [] (part ++ []) = wordsFrom ([] ++ part) [] := wordsFrom_append h.2 []
  rw [List.append_nil, List.nil_append] at hwords
  rw [words, hwords, wordsFrom, if_neg (mt List.isEmpty_iff.1 h.1)]

theorem isWord_of_mem_wordsFrom {text : List Char} (hword : ∀ c ∈ word, isBlank c = false)
    (h : part ∈ wordsFrom word text) : IsWord part := by
  fun_induction wordsFrom word text with
  | case1 => cases h
  | case2 word hne =>
    rw [List.mem_singleton.1 h]
    exact ⟨mt List.isEmpty_iff.2 hne, hword⟩
  | case3 word c rest hblank hnil ih => exact ih (List.forall_mem_nil _) h
  | case4 word c rest hblank hne ih =>
    rcases List.mem_cons.1 h with rfl | h
    · exact ⟨mt List.isEmpty_iff.2 hne, hword⟩
    · exact ih (List.forall_mem_nil _) h
  | case5 word c rest hblank ih =>
    refine ih (List.forall_mem_append.2 ⟨hword, ?_⟩) h
    exact List.forall_mem_singleton.2 (Bool.eq_false_iff.2 hblank)

theorem isWord_of_mem_words {text : List Char} (h : part ∈ words text) : IsWord part :=
  isWord_of_mem_wordsFrom (List.forall_mem_nil _) h

theorem words_append_blank (h : IsWord part) (hblank : isBlank blank = true) (rest : List Char) :
    words (part ++ blank :: rest) = part :: words rest := by
  rw [words, wordsFrom_append h.2, List.nil_append, wordsFrom, if_pos hblank,
    if_neg (mt List.isEmpty_iff.1 h.1), words]

/-- Words with a blank between each two are the words of the text that they form. -/
theorem words_joinWith (hblank : isBlank blank = true) {parts : List (List Char)}
    (h : ∀ part ∈ parts, IsWord part) : words (joinWith blank parts) = parts := by
  induction parts with
  | nil => rfl
  | cons part others ih =>
    have hpart := h part List.mem_cons_self
    by_cases hothers : others = []
    · rw [hothers]
      exact words_of_isWord hpart
    · rw [joinWith_cons hothers, words_append_blank hpart hblank,
        ih fun other hother => h other (List.mem_cons_of_mem _ hother)]

end CronSchedule.Text

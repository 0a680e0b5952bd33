import CronSchedule.FieldTexts
import CronSchedule.Proofs.Outcome
import CronSchedule.Proofs.Pattern.RoundTrip
import CronSchedule.Proofs.Text.Uppercase
import CronSchedule.Proofs.Text.WordCharacter

/-!
# The field texts of tokens

Tokens of patterns are already in the form into which the words of an expression
are brought: they are in capitals, they name no preset, and they name no month
or weekday. So seven such tokens are changed only where a star in one day field
gives way to the other (`ofExpression_joinWith`).
-/

set_option autoImplicit false

namespace CronSchedule

open Pattern (tokenCharacters)

/-! ## Texts of token characters -/

variable {text : List Char}

theorem Text.isWord_of_subset (hne : text ≠ []) (h : text ⊆ tokenCharacters) :
    Text.IsWord text := by
  have hblank : tokenCharacters.all (fun c => !Text.isBlank c) = true := by decide
  simp only [List.all_eq_true, Bool.not_eq_true'] at hblank
  exact ⟨hne, fun c hc => hblank c (h hc)⟩

theorem Text.isCapitalWord_of_subset (hne : text ≠ []) (h : text ⊆ tokenCharacters) :
    Text.IsCapitalWord text := by
  have hcapital : tokenCharacters.all (fun c => Text.capital c = [c]) = true := by decide
  simp only [List.all_eq_true, decide_eq_true_eq] at hcapital
  exact ⟨Text.isWord_of_subset hne h, fun c hc => hcapital c (h hc)⟩

/-- A text of token characters is no entry of a table whose words hold other characters too. -/
theorem wordPosition?_of_subset {words : List (String × String)}
    (hwords : ∀ entry ∈ words,
      ¬ entry.1.toList ⊆ tokenCharacters ∧ ¬ entry.2.toList ⊆ tokenCharacters)
    (h : text ⊆ tokenCharacters) : wordPosition? words (String.ofList text) = none := by
  rw [wordPosition?, Option.map_eq_none_iff, List.findIdx?_eq_none_iff]
  intro entry hentry
  have hne : ∀ {word : String}, ¬ word.toList ⊆ tokenCharacters →
      (word == String.ofList text) = false := by
    intro word hword
    rw [beq_eq_false_iff_ne]
    rintro rfl
    rw [String.toList_ofList] at hword
    exact hword h
  rw [hne (hwords entry hentry).1, hne (hwords entry hentry).2]
  rfl

namespace FieldTexts

theorem monthRun_of_subset (h : text ⊆ tokenCharacters) : monthRun text = text := by
  have hmonth : monthNumber? (String.ofList text) = none := wordPosition?_of_subset (by decide) h
  rw [monthRun, hmonth]

theorem weekdayRun_of_subset (h : text ⊆ tokenCharacters) : weekdayRun text = text := by
  have hweekday {text : List Char} (h : text ⊆ tokenCharacters) :
      weekdayNumber? (String.ofList text) = none := wordPosition?_of_subset (by decide) h
  rw [weekdayRun, hweekday h, hweekday fun c hc => h (List.dropLast_subset text hc)]
  exact ite_self _

/-! ## Words in capitals -/

/-- Only a single word can be a preset. -/
theorem expandedWords_of_length_ne_one {expression : List Char}
    (h : (Text.words expression).length ≠ 1) :
    expandedWords expression = (Text.words expression).map Text.capitals := by
  rw [expandedWords]
  split
  · next word hword =>
    rw [← List.length_map (f := Text.capitals), hword] at h
    exact absurd rfl h
  · rfl

theorem expandedWords_joinWith {parts : List (List Char)} (hlength : parts.length ≠ 1)
    (h : ∀ part ∈ parts, Text.IsCapitalWord part) :
    expandedWords (Text.joinWith ' ' parts) = parts := by
  have hwords : Text.words (Text.joinWith ' ' parts) = parts :=
    Text.words_joinWith (by decide) fun part hpart => (h part hpart).1
  rw [expandedWords_of_length_ne_one (by rwa [hwords]), hwords,
    List.map_congr_left fun part hpart => (h part hpart).capitals_eq, List.map_id']

theorem withNumbers_of_subset {texts : FieldTexts} (hmonth : texts.month ⊆ tokenCharacters)
    (hdayOfWeek : texts.dayOfWeek ⊆ tokenCharacters) : texts.withNumbers = texts := by
  rw [withNumbers, Text.mapRuns, Text.mapRuns,
    Text.mapRunsFrom_eq_append (fun _ => monthRun_of_subset) (List.nil_subset _) hmonth,
    Text.mapRunsFrom_eq_append (fun _ => weekdayRun_of_subset) (List.nil_subset _) hdayOfWeek]
  rfl

/-! ## Days -/

/-- At most one of the day fields gives way to the other. -/
theorem reconciled_eq (texts : FieldTexts) :
    texts.reconciled =
      if texts.dayOfWeek = ['*'] ∧ texts.dayOfMonth ≠ ['?'] then { texts with dayOfWeek := ['?'] }
      else if texts.dayOfMonth = ['*'] ∧ texts.dayOfWeek ≠ ['?'] then
        { texts with dayOfMonth := ['?'] }
      else texts := by
  rw [reconciled]
  by_cases hweek : texts.dayOfWeek = ['*'] ∧ texts.dayOfMonth ≠ ['?']
  · simp [hweek]
  · rw [if_neg hweek, if_neg (mt And.symm hweek)]
    by_cases hmonth : texts.dayOfMonth = ['*'] ∧ texts.dayOfWeek ≠ ['?']
    · rw [if_pos hmonth, if_pos hmonth]
    · rw [if_neg hmonth, if_neg hmonth]

/-- A star in one of the reconciled day fields stands beside a question mark. -/
theorem days_of_reconciled (texts : FieldTexts) :
    (texts.reconciled.dayOfWeek = ['*'] → texts.reconciled.dayOfMonth = ['?']) ∧
      (texts.reconciled.dayOfMonth = ['*'] → texts.reconciled.dayOfWeek = ['?']) := by
  rw [reconciled_eq]
  split
  · exact ⟨nofun, fun _ => rfl⟩
  · next hweek =>
    split
    · exact ⟨fun _ => rfl, nofun⟩
    · next hmonth => exact ⟨not_and_not_right.1 hweek, not_and_not_right.1 hmonth⟩

/-- An expression has field texts when its words are fields and one of its two day fields is
specified. -/
theorem ofExpression_eq_ok_iff {expression : List Char} {texts : FieldTexts} :
    ofExpression expression = .ok texts ↔
      ∃ words, ofWords (expandedWords expression) = .ok words ∧
        words.withNumbers.reconciled = texts ∧
        ¬ (texts.dayOfMonth = ['?'] ∧ texts.dayOfWeek = ['?']) := by
  rw [ofExpression, Outcome.bind_eq_ok_iff]
  refine exists_congr fun words => and_congr_right fun _ => ?_
  dsimp only
  constructor
  · intro h
    split at h
    · cases h
    · next hdays =>
      cases h
      exact ⟨rfl, hdays⟩
  · rintro ⟨rfl, hdays⟩
    rw [if_neg hdays]
    rfl

/-- Seven tokens with spaces between them have themselves as field texts, once a star in one day
field has given way to the other. -/
theorem ofExpression_joinWith {texts : FieldTexts} (hne : ∀ field, texts.get field ≠ [])
    (hsubset : ∀ field, texts.get field ⊆ tokenCharacters)
    (hdays : ¬ (texts.reconciled.dayOfMonth = ['?'] ∧ texts.reconciled.dayOfWeek = ['?'])) :
    ofExpression (Text.joinWith ' ' texts.toList) = .ok texts.reconciled := by
  have hwords : expandedWords (Text.joinWith ' ' texts.toList) = texts.toList := by
    refine expandedWords_joinWith (by simp [PerField.toList, Field.all]) ?_
    refine List.forall_mem_map.2 fun field _ => ?_
    exact Text.isCapitalWord_of_subset (hne field) (hsubset field)
  have hnumbers : texts.withNumbers = texts :=
    withNumbers_of_subset (hsubset .month) (hsubset .dayOfWeek)
  refine ofExpression_eq_ok_iff.2 ⟨texts, ?_, ?_, hdays⟩
  · rw [hwords]
    rfl
  · rw [hnumbers]

end FieldTexts

end CronSchedule

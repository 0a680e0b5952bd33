import CronSchedule.Proofs.FieldTexts

/-!
# The normal form of an expression

The field texts of an expression are words in capitals, and its day fields agree on
which of them selects the day (`IsNormal`). Reading the texts again gives the same
texts, and the forms of five and six fields mean their padded forms
(`normal_form_of_expression`).

That no step of the reading sets off another one again rests on two facts. Names
give way to numbers (`Renumbers`), which are words in capitals but no names; and a
run of word characters gives way to such a run, so the runs of a rewritten text are
the rewritten runs of the text before (`Text.mapRuns_mapRunsFrom`).
-/

set_option autoImplicit false

namespace CronSchedule

open Pattern (tokenCharacters)

/-! ## Numbers for names -/

/-- Each run either stays or gives way to a number, with at most the mark `L` after it. -/
structure Renumbers (f : List Char → List Char) : Prop where
  keeps : ∀ run ⊆ tokenCharacters, f run = run
  keeps_or_number : ∀ run, f run = run ∨ ∃ n, ∃ mark ⊆ ['L'], f run = Numeral.digits n ++ mark

theorem renumbers_monthRun : Renumbers FieldTexts.monthRun := by
  refine ⟨fun _ => FieldTexts.monthRun_of_subset, fun run => ?_⟩
  rw [FieldTexts.monthRun]
  split
  · next n _ => exact .inr ⟨n, [], List.nil_subset _, (List.append_nil _).symm⟩
  · exact .inl rfl

theorem renumbers_weekdayRun : Renumbers FieldTexts.weekdayRun := by
  refine ⟨fun _ => FieldTexts.weekdayRun_of_subset, fun run => ?_⟩
  rw [FieldTexts.weekdayRun]
  split
  · next n _ => exact .inr ⟨n, [], List.nil_subset _, (List.append_nil _).symm⟩
  · split
    · split
      · next n _ => exact .inr ⟨n, ['L'], List.Subset.refl _, rfl⟩
      · exact .inl rfl
    · exact .inl rfl

namespace Renumbers

variable {f : List Char → List Char} {text : List Char}

theorem forall_mem (hf : Renumbers f) {P : Char → Prop} (hdigit : ∀ d < 10, P (Nat.digitChar d))
    (hmark : P 'L') (run : List Char) (hrun : ∀ c ∈ run, P c) : ∀ c ∈ f run, P c := by
  rcases hf.keeps_or_number run with hkept | ⟨n, mark, hsubset, hnumber⟩
  · rw [hkept]
    exact hrun
  · rw [hnumber]
    refine List.forall_mem_append.2 ⟨fun c hc => ?_, fun c hc => ?_⟩
    · have hc := (Numeral.writes_digits n).isDigit hc
      obtain ⟨d, hd, rfl⟩ := Numeral.exists_digitChar_of_isDigit hc
      exact hdigit d hd
    · rw [List.mem_singleton.1 (hsubset hc)]
      exact hmark

theorem ne_nil (hf : Renumbers f) (run : List Char) (h : run ≠ []) : f run ≠ [] := by
  rcases hf.keeps_or_number run with hkept | ⟨n, mark, _, hnumber⟩
  · rw [hkept]
    exact h
  · rw [hnumber]
    exact List.append_ne_nil_of_left_ne_nil (Numeral.writes_digits n).ne_nil _

/-- A number is no name, so it stays. -/
theorem idempotent (hf : Renumbers f) (run : List Char) : f (f run) = f run := by
  rcases hf.keeps_or_number run with hkept | ⟨n, mark, hsubset, hnumber⟩
  · rw [hkept, hkept]
  · apply hf.keeps
    have hmark : ['L'] ⊆ tokenCharacters := by decide
    rw [hnumber]
    exact List.append_subset.2 ⟨Pattern.digits_subset n, List.Subset.trans hsubset hmark⟩

theorem mapRuns_mapRuns (hf : Renumbers f) (text : List Char) :
    Text.mapRuns f (Text.mapRuns f text) = Text.mapRuns f text := by
  apply Text.mapRuns_mapRunsFrom hf.idempotent
  · exact hf.forall_mem (by decide) (by decide)
  · exact List.forall_mem_nil _

theorem isCapitalWord_mapRuns (hf : Renumbers f) (h : Text.IsCapitalWord text) :
    Text.IsCapitalWord (Text.mapRuns f text) := by
  obtain ⟨⟨hne, hblank⟩, hcapital⟩ := h
  refine ⟨⟨?_, ?_⟩, ?_⟩
  · exact Text.mapRunsFrom_ne_nil hf.ne_nil hne
  · refine Text.forall_mem_mapRunsFrom ?_ (List.forall_mem_nil _) hblank
    exact hf.forall_mem (by decide) (by decide)
  · refine Text.forall_mem_mapRunsFrom ?_ (List.forall_mem_nil _) hcapital
    exact hf.forall_mem (by decide) (by decide)

end Renumbers

namespace FieldTexts

variable {expression : List Char} {words : List (List Char)} {texts : FieldTexts}

/-! ## Words as fields -/

theorem forall_mem_toList_iff {P : List Char → Prop} :
    (∀ part ∈ texts.toList, P part) ↔ ∀ field, P (texts.get field) := by
  rw [PerField.toList, List.forall_mem_map]
  refine forall_congr' fun field => imp_iff_right ?_
  cases field <;> decide

theorem isCapitalWord_zero : Text.IsCapitalWord ['0'] :=
  Text.isCapitalWord_of_subset (by decide) (by decide)

theorem isCapitalWord_star : Text.IsCapitalWord ['*'] :=
  Text.isCapitalWord_of_subset (by decide) (by decide)

/-- A short form is padded with a second of zero and a star for the year. -/
theorem toList_subset_of_ofWords (h : ofWords words = .ok texts) :
    texts.toList ⊆ ['0'] :: words ++ [['*']] := by
  rw [ofWords.eq_def] at h
  split at h
  · cases h
    exact List.Subset.refl _
  · cases h
    exact List.subset_cons_self _ _
  · cases h
    exact List.subset_cons_of_subset _ (List.subset_append_left _ _)
  · cases h

theorem ofWords_of_five (h : words.length = 5) :
    ofWords (['0'] :: words ++ [['*']]) = ofWords words := by
  match words, h with
  | [_, _, _, _, _], _ => rfl

theorem ofWords_of_six (h : words.length = 6) : ofWords (words ++ [['*']]) = ofWords words := by
  match words, h with
  | [_, _, _, _, _, _], _ => rfl

theorem isCapitalWord_of_preset {name : String} {fields : List String}
    (h : presetFields? name = some fields) : ∀ field ∈ fields, Text.IsCapitalWord field.toList := by
  have hfields : ∀ field ∈ fields, field.toList ≠ [] ∧ field.toList ⊆ tokenCharacters := by
    rw [presetFields?.eq_def] at h
    split at h <;> cases h <;> decide
  intro field hfield
  exact Text.isCapitalWord_of_subset (hfields field hfield).1 (hfields field hfield).2

theorem isCapitalWord_of_mem_expandedWords :
    ∀ word ∈ expandedWords expression, Text.IsCapitalWord word := by
  have hcapitals : ∀ word ∈ (Text.words expression).map Text.capitals, Text.IsCapitalWord word :=
    List.forall_mem_map.2 fun word hword => (Text.isWord_of_mem_words hword).isCapitalWord_capitals
  rw [expandedWords]
  split
  · next word hword =>
    split
    · next fields hfields => exact List.forall_mem_map.2 (isCapitalWord_of_preset hfields)
    · rwa [hword] at hcapitals
  · exact hcapitals

theorem isCapitalWord_of_ofWords (h : ofWords (expandedWords expression) = .ok texts)
    (field : Field) : Text.IsCapitalWord (texts.get field) := by
  have hwords : ∀ word ∈ ['0'] :: expandedWords expression ++ [['*']], Text.IsCapitalWord word := by
    rw [List.forall_mem_append, List.forall_mem_cons, List.forall_mem_singleton]
    exact ⟨⟨isCapitalWord_zero, isCapitalWord_of_mem_expandedWords⟩, isCapitalWord_star⟩
  refine forall_mem_toList_iff.1 (fun part hpart => ?_) field
  exact hwords part (toList_subset_of_ofWords h hpart)

/-! ## Names and days -/

theorem isCapitalWord_withNumbers (h : ∀ field, Text.IsCapitalWord (texts.get field))
    (field : Field) : Text.IsCapitalWord (texts.withNumbers.get field) := by
  cases field with
  | second => exact h .second
  | minute => exact h .minute
  | hour => exact h .hour
  | dayOfMonth => exact h .dayOfMonth
  | month => exact renumbers_monthRun.isCapitalWord_mapRuns (h .month)
  | dayOfWeek => exact renumbers_weekdayRun.isCapitalWord_mapRuns (h .dayOfWeek)
  | year => exact h .year

theorem get_reconciled (texts : FieldTexts) (field : Field) :
    texts.reconciled.get field = texts.get field ∨ texts.reconciled.get field = ['?'] := by
  rw [reconciled_eq]
  split
  · cases field <;> simp [PerField.get]
  · split
    · cases field <;> simp [PerField.get]
    · exact .inl rfl

theorem withNumbers_eq_self_iff : texts.withNumbers = texts ↔
    Text.mapRuns monthRun texts.month = texts.month ∧
      Text.mapRuns weekdayRun texts.dayOfWeek = texts.dayOfWeek := by
  obtain ⟨second, minute, hour, dayOfMonth, month, dayOfWeek, year⟩ := texts
  simp [withNumbers]

/-- No names are left for a second reading. -/
theorem withNumbers_reconciled (texts : FieldTexts) :
    texts.withNumbers.reconciled.withNumbers = texts.withNumbers.reconciled := by
  rw [withNumbers_eq_self_iff]
  constructor
  · exact renumbers_monthRun.mapRuns_mapRuns texts.month
  · rcases get_reconciled texts.withNumbers .dayOfWeek with hkept | hunspecified
    · rw [PerField.get, PerField.get] at hkept
      rw [hkept]
      exact renumbers_weekdayRun.mapRuns_mapRuns texts.dayOfWeek
    · rw [PerField.get] at hunspecified
      have hsubset : ['?'] ⊆ tokenCharacters := by decide
      rw [hunspecified]
      exact Text.mapRunsFrom_eq_append renumbers_weekdayRun.keeps (List.nil_subset _) hsubset

/-- The day fields agree already for a second reading. -/
theorem reconciled_reconciled (texts : FieldTexts) :
    texts.reconciled.reconciled = texts.reconciled := by
  obtain ⟨hdayOfWeek, hdayOfMonth⟩ := days_of_reconciled texts
  rw [reconciled_eq texts.reconciled, if_neg, if_neg]
  · rintro ⟨hstar, hspecified⟩
    exact hspecified (hdayOfMonth hstar)
  · rintro ⟨hstar, hspecified⟩
    exact hspecified (hdayOfWeek hstar)

/-! ## The normal form -/

/-- The fields are words in capitals, at least one day field is specified, and a star in one day
field stands beside a question mark in the other. -/
structure IsNormal (texts : FieldTexts) : Prop where
  isCapitalWord : ∀ field, Text.IsCapitalWord (texts.get field)
  specified : ¬ (texts.dayOfMonth = ['?'] ∧ texts.dayOfWeek = ['?'])
  dayOfMonth_eq : texts.dayOfWeek = ['*'] → texts.dayOfMonth = ['?']
  dayOfWeek_eq : texts.dayOfMonth = ['*'] → texts.dayOfWeek = ['?']

theorem isNormal_of_ofExpression (h : ofExpression expression = .ok texts) : texts.IsNormal := by
  obtain ⟨words, hwords, rfl, hspecified⟩ := ofExpression_eq_ok_iff.1 h
  have hunspecified : Text.IsCapitalWord ['?'] :=
    Text.isCapitalWord_of_subset (by decide) (by decide)
  have hnumbers := isCapitalWord_withNumbers (isCapitalWord_of_ofWords hwords)
  obtain ⟨hdayOfWeek, hdayOfMonth⟩ := days_of_reconciled words.withNumbers
  refine ⟨fun field => ?_, hspecified, hdayOfWeek, hdayOfMonth⟩
  rcases get_reconciled words.withNumbers field with hkept | hmark
  · rw [hkept]
    exact hnumbers field
  · rw [hmark]
    exact hunspecified

theorem ofExpression_of_ofExpression (h : ofExpression expression = .ok texts) :
    ofExpression (Text.joinWith ' ' texts.toList) = .ok texts := by
  obtain ⟨hwords, hspecified, _, _⟩ := isNormal_of_ofExpression h
  obtain ⟨words, _, rfl, _⟩ := ofExpression_eq_ok_iff.1 h
  refine ofExpression_eq_ok_iff.2 ⟨words.withNumbers.reconciled, ?_, ?_, hspecified⟩
  · have hlength : words.withNumbers.reconciled.toList.length ≠ 1 := by
      simp [PerField.toList, Field.all]
    rw [expandedWords_joinWith hlength (forall_mem_toList_iff.2 hwords)]
    rfl
  · rw [withNumbers_reconciled, reconciled_reconciled]

/-! ## Short forms -/

theorem ofExpression_congr {first second : List Char}
    (h : ofWords (expandedWords first) = ofWords (expandedWords second)) :
    ofExpression first = ofExpression second := by
  rw [ofExpression, h, ofExpression]

theorem ofExpression_eq_of_capitals {first second : List Char}
    (h : (Text.words first).map Text.capitals = (Text.words second).map Text.capitals) :
    ofExpression first = ofExpression second := by
  apply ofExpression_congr
  rw [expandedWords, h, expandedWords]

/-- Other words than those of the expression are read like it if they give the same fields. -/
theorem ofExpression_eq_of_words {parts : List (List Char)}
    (hparts : ∀ part ∈ parts, Text.IsWord part) (hlength : parts.length ≠ 1)
    (hwords : (Text.words expression).length ≠ 1)
    (h : ofWords (parts.map Text.capitals) = ofWords ((Text.words expression).map Text.capitals)) :
    ofExpression expression = ofExpression (Text.joinWith ' ' parts) := by
  have hjoined : Text.words (Text.joinWith ' ' parts) = parts :=
    Text.words_joinWith (by decide) hparts
  apply ofExpression_congr
  rw [expandedWords_of_length_ne_one hwords, expandedWords_of_length_ne_one (by rwa [hjoined]),
    hjoined, h]

theorem ofExpression_of_five (h : (Text.words expression).length = 5) : ofExpression expression =
    ofExpression (Text.joinWith ' ' (['0'] :: Text.words expression ++ [['*']])) := by
  apply ofExpression_eq_of_words
  · rw [List.forall_mem_append, List.forall_mem_cons, List.forall_mem_singleton]
    exact ⟨⟨isCapitalWord_zero.1, fun _ => Text.isWord_of_mem_words⟩, isCapitalWord_star.1⟩
  · simp
  · omega
  · rw [List.map_append, List.map_cons]
    exact ofWords_of_five ((List.length_map _).trans h)

theorem ofExpression_of_six (h : (Text.words expression).length = 6) : ofExpression expression =
    ofExpression (Text.joinWith ' ' (Text.words expression ++ [['*']])) := by
  apply ofExpression_eq_of_words
  · rw [List.forall_mem_append, List.forall_mem_singleton]
    exact ⟨fun _ => Text.isWord_of_mem_words, isCapitalWord_star.1⟩
  · simp [h]
  · omega
  · rw [List.map_append]
    exact ofWords_of_six ((List.length_map _).trans h)

/-- The field texts of an expression are in normal form and are read as themselves. Five words
mean the same with a second of zero and any year, six words with any year; and how the words
are separated and whether their letters are capitals makes no difference. -/
theorem normal_form_of_expression :
    (∀ expression texts, ofExpression expression = .ok texts →
      texts.IsNormal ∧ ofExpression (Text.joinWith ' ' texts.toList) = .ok texts) ∧
    (∀ expression, (Text.words expression).length = 5 → ofExpression expression =
      ofExpression (Text.joinWith ' ' (['0'] :: Text.words expression ++ [['*']]))) ∧
    (∀ expression, (Text.words expression).length = 6 → ofExpression expression =
      ofExpression (Text.joinWith ' ' (Text.words expression ++ [['*']]))) ∧
    ∀ first second,
      (Text.words first).map Text.capitals = (Text.words second).map Text.capitals →
        ofExpression first = ofExpression second := by
  refine ⟨?_, ?_, ?_, ?_⟩
  · intro expression texts h
    exact ⟨isNormal_of_ofExpression h, ofExpression_of_ofExpression h⟩
  · intro expression h
    exact ofExpression_of_five h
  · intro expression h
    exact ofExpression_of_six h
  · intro first second h
    exact ofExpression_eq_of_capitals h

/-- The last Sunday in June or August, written with a long s, a tab and mixed letters. -/
theorem normal_form_of_last_sunday :
    ∃ texts : FieldTexts,
      ofExpression "5 4\t? june,August \u017Funl ".toList = .ok texts ∧ texts.IsNormal ∧
      Text.joinWith ' ' texts.toList = "0 5 4 ? 6,8 7L *".toList ∧
      ofExpression "0 5 4 ? 6,8 7L *".toList = .ok texts ∧
      ofExpression "5 4\t? june,August \u017Funl ".toList =
        ofExpression "0 5 4 ? june,August \u017Funl *".toList ∧
      ofExpression "0 5 4 ? 6,8 SUNL".toList = ofExpression "0 5 4 ? 6,8 SUNL *".toList ∧
      ofExpression "0 5 4 ? 6,8 sunl".toList = ofExpression "0 5 4 ? 6,8 SUNL".toList := by
  obtain ⟨hnormal, hfive, hsix, hcapitals⟩ := normal_form_of_expression
  have hread : ofExpression "5 4\t? june,August \u017Funl ".toList =
      .ok ⟨['0'], ['5'], ['4'], ['?'], ['6', ',', '8'], ['7', 'L'], ['*']⟩ := by decide +kernel
  obtain ⟨htexts, hagain⟩ := hnormal _ _ hread
  refine ⟨_, hread, htexts, by decide +kernel, hagain, ?_, ?_, ?_⟩
  · have hpadded : Text.joinWith ' ' (['0'] :: Text.words
        "5 4\t? june,August \u017Funl ".toList ++ [['*']]) =
          "0 5 4 ? june,August \u017Funl *".toList := by decide +kernel
    rw [← hpadded]
    exact hfive _ (by decide +kernel)
  · have hpadded : Text.joinWith ' ' (Text.words "0 5 4 ? 6,8 SUNL".toList ++ [['*']]) =
        "0 5 4 ? 6,8 SUNL *".toList := by decide +kernel
    rw [← hpadded]
    exact hsix _ (by decide +kernel)
  · exact hcapitals _ _ (by decide +kernel)

end FieldTexts

end CronSchedule

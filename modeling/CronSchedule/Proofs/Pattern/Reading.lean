import CronSchedule.Pattern.Reading
import CronSchedule.Proofs.Outcome
import CronSchedule.Proofs.Pattern.Grammar

/-!
# Reading is exact

Reading a token succeeds exactly on the texts of the grammar and gives the
pattern that they denote (`read_exact`). Each layer of the reader is matched with
the rule of the grammar that it decides, from the numbers up to the lists.
-/

set_option autoImplicit false

namespace CronSchedule.Pattern

open Grammar
open Numeral (Writes natural?_eq_some_iff)

variable {field : Field} {text : List Char} {pattern : Pattern}

/-! ## Numbers -/

theorem readBounded_eq_ok_iff {min max n : Nat} :
    readBounded field min max text = .ok n ↔ Writes text n ∧ min ≤ n ∧ n ≤ max := by
  rw [readBounded, ← natural?_eq_some_iff]
  cases Numeral.natural? text with
  | none => simp
  | some m =>
    rw [Outcome.ite_eq_ok_iff, Option.some.injEq]
    constructor
    · rintro ⟨hbounds, rfl⟩
      exact ⟨rfl, hbounds⟩
    · rintro ⟨rfl, hbounds⟩
      exact ⟨hbounds, rfl⟩

theorem readInterval_eq_ok_iff {n : Nat} :
    readInterval field text = .ok n ↔ Writes text n ∧ 0 < n ∧ n < 2 ^ 32 := by
  rw [readInterval, ← natural?_eq_some_iff]
  cases Numeral.natural? text with
  | none => simp
  | some m =>
    rw [Outcome.ite_eq_ok_iff, Option.some.injEq, maxInterval]
    constructor
    · rintro ⟨hbounds, rfl⟩
      exact ⟨rfl, hbounds.1, by omega⟩
    · rintro ⟨rfl, hpos, hlt⟩
      exact ⟨⟨hpos, by omega⟩, rfl⟩

/-- A number is read for its value in the field, which must lie in the domain. -/
theorem readValue_eq_ok_iff_writes {n : Nat} :
    readValue field text = .ok n ↔
      ∃ m, Writes text m ∧ field.contains n = true ∧ sundayAtEnd field m = n := by
  simp only [readValue, ← natural?_eq_some_iff]
  cases Numeral.natural? text with
  | none => simp
  | some m =>
    simp only [Option.map_some, Option.some.injEq, exists_eq_left', Outcome.ite_eq_ok_iff]
    constructor
    · rintro ⟨hcontains, rfl⟩
      exact ⟨hcontains, rfl⟩
    · rintro ⟨hcontains, rfl⟩
      exact ⟨hcontains, rfl⟩

theorem readValue_eq_ok_iff {n : Nat} :
    readValue field text = .ok n ↔ Value field text n := by
  rw [readValue_eq_ok_iff_writes]
  constructor
  · rintro ⟨m, hwrites, hcontains, rfl⟩
    rw [sundayAtEnd] at hcontains ⊢
    split
    · next hsunday => exact .sunday hsunday.1 (hsunday.2 ▸ hwrites)
    · next hsunday =>
      rw [if_neg hsunday] at hcontains
      exact .inDomain hwrites hcontains
  · intro hvalue
    cases hvalue with
    | inDomain hwrites hcontains =>
      -- the value that stands for Sunday is itself no day of the week
      refine ⟨n, hwrites, hcontains, if_neg ?_⟩
      rintro ⟨rfl, rfl⟩
      cases hcontains
    | sunday hfield hwrites => exact ⟨0, hwrites, hfield ▸ rfl, if_pos ⟨hfield, rfl⟩⟩

/-! ## Ranges -/

theorem rangeEnds?_eq_some_iff {low high : List Char} :
    rangeEnds? text = some (low, high) ↔ text = low ++ '-' :: high ∧
      (low = ['*'] ∨ Text.isNumber low = true) ∧ Text.isNumber high = true := by
  rw [rangeEnds?, Option.filter_eq_some_iff, Text.splitFirst?_eq_some_iff]
  simp only [Bool.and_eq_true, Bool.or_eq_true, decide_eq_true_eq]
  constructor
  · rintro ⟨⟨htext, -⟩, hends⟩
    exact ⟨htext, hends⟩
  · rintro ⟨htext, hends⟩
    refine ⟨⟨htext, ?_⟩, hends⟩
    -- neither a star nor a number holds a hyphen
    rcases hends.1 with rfl | hlow
    · decide
    · intro hmem
      rw [Text.isNumber, Bool.and_eq_true, List.all_eq_true] at hlow
      exact absurd (hlow.2 _ hmem) (by decide)

theorem rangeStart_star_iff {low : Nat} : RangeStart field ['*'] low ↔ field.min = low := by
  constructor
  · intro h
    cases h with
    | star => rfl
    | value hvalue =>
      obtain ⟨m, hwrites⟩ := hvalue.writes
      exact absurd List.mem_cons_self (hwrites.not_mem (c := '*') (by decide))
  · rintro rfl
    exact .star

theorem rangeStart_iff_of_ne_star (h : text ≠ ['*']) {low : Nat} :
    RangeStart field text low ↔ Value field text low := by
  constructor
  · intro hstart
    cases hstart with
    | star => exact absurd rfl h
    | value hvalue => exact hvalue
  · exact .value

theorem readRange_eq_ok_iff {start digits : List Char} :
    readRange field start digits = .ok pattern ↔ ∃ low high,
      RangeStart field start low ∧ Value field digits high ∧
      range low high (field = .dayOfWeek && high < low) = pattern := by
  rw [readRange]
  split
  · next hstar =>
    subst hstar
    simp only [Outcome.bind_eq_ok_iff, readValue_eq_ok_iff, rangeStart_star_iff, pure, Except.pure,
      Except.ok.injEq, exists_and_left]
  · next hstar =>
    simp only [Outcome.bind_eq_ok_iff, readValue_eq_ok_iff, rangeStart_iff_of_ne_star hstar, pure,
      Except.pure, Except.ok.injEq, exists_and_left]

/-! ## Forms of the two day fields -/

/-- A text that ends in a letter after a number is cut into both. -/
theorem eq_append_of_getLast? {c : Char} (h : text.getLast? = some c) :
    text = text.dropLast ++ [c] :=
  (List.dropLast_append_getLast? c h).symm

theorem value_dayOfMonth_iff {n : Nat} :
    Value .dayOfMonth text n ↔ Writes text n ∧ 1 ≤ n ∧ n ≤ 31 := by
  constructor
  · intro h
    cases h with
    | inDomain hwrites hn => exact ⟨hwrites, Field.contains_iff.1 hn⟩
    | sunday hfield => cases hfield
  · rintro ⟨hwrites, hn⟩
    exact .inDomain hwrites (Field.contains_iff.2 hn)

theorem readMonthDay_append_W {digits : List Char} {n : Nat} (h : Writes digits n) :
    readMonthDay (digits ++ ['W']) = (readValue .dayOfMonth digits).map nearestWeekday := by
  obtain ⟨c, rest, hdigits⟩ := List.exists_cons_of_ne_nil h.ne_nil
  have hc : 'L' ≠ c := by
    rintro rfl
    exact absurd List.mem_cons_self (hdigits ▸ h.not_mem (c := 'L') (by decide))
  rw [readMonthDay.eq_def]
  split
  -- a number does not start with an L
  · next heq => simp [hdigits, hc.symm] at heq
  · next heq => simp [hdigits, hc.symm] at heq
  · next heq => simp [hdigits, hc.symm] at heq
  · rw [if_pos ⟨by simp, by rw [List.dropLast_concat]; exact h.isNumber⟩, List.dropLast_concat]

theorem readMonthDay_eq_ok_iff : readMonthDay text = .ok pattern ↔ MonthDay text pattern := by
  constructor
  · intro h
    rw [readMonthDay.eq_def] at h
    split at h
    · cases h
      exact .last
    · cases h
      exact .lastWeekday
    · split at h
      · obtain ⟨offset, hoffset, rfl⟩ := Outcome.map_eq_ok_iff.1 h
        obtain ⟨hwrites, -, hle⟩ := readBounded_eq_ok_iff.1 hoffset
        exact .beforeLast hwrites hle
      · cases h
    · split at h
      · next hform =>
        obtain ⟨day, hday, rfl⟩ := Outcome.map_eq_ok_iff.1 h
        obtain ⟨hwrites, hpos, hle⟩ := value_dayOfMonth_iff.1 (readValue_eq_ok_iff.1 hday)
        rw [eq_append_of_getLast? hform.1]
        exact .nearestWeekday hwrites hpos hle
      · cases h
  · intro h
    cases h with
    | last => rfl
    | lastWeekday => rfl
    | beforeLast hwrites hle =>
      rw [readMonthDay.eq_def]
      simp only [hwrites.isNumber, if_true]
      exact Outcome.map_eq_ok_iff.2 ⟨_, readBounded_eq_ok_iff.2 ⟨hwrites, Nat.zero_le _, hle⟩, rfl⟩
    | nearestWeekday hwrites hpos hle =>
      rw [readMonthDay_append_W hwrites]
      exact Outcome.map_eq_ok_iff.2
        ⟨_, readValue_eq_ok_iff.2 (value_dayOfMonth_iff.2 ⟨hwrites, hpos, hle⟩), rfl⟩

theorem readWeekDay_eq_ok_iff : readWeekDay text = .ok pattern ↔ WeekDay text pattern := by
  constructor
  · intro h
    rw [readWeekDay] at h
    split at h
    · next htext =>
      cases h
      exact htext ▸ .lastSunday
    · split at h
      · next hform =>
        obtain ⟨weekday, hweekday, rfl⟩ := Outcome.map_eq_ok_iff.1 h
        obtain ⟨hwrites, hpos, hle⟩ := readBounded_eq_ok_iff.1 hweekday
        rw [eq_append_of_getLast? hform.1]
        exact .last hwrites hpos hle
      · split at h
        · next day times hsplit =>
          obtain ⟨rfl, -⟩ := Text.splitFirst?_eq_some_iff.1 hsplit
          split at h
          · obtain ⟨weekday, hweekday, h⟩ := Outcome.bind_eq_ok_iff.1 h
            obtain ⟨count, hcount, h⟩ := Outcome.bind_eq_ok_iff.1 h
            cases h
            obtain ⟨hday, hdayPos, hdayLe⟩ := readBounded_eq_ok_iff.1 hweekday
            obtain ⟨htimes, htimesPos, htimesLe⟩ := readBounded_eq_ok_iff.1 hcount
            exact .nth hday hdayPos hdayLe htimes htimesPos htimesLe
          · cases h
        · cases h
  · intro h
    cases h with
    | lastSunday => rfl
    | last hwrites hpos hle =>
      rw [readWeekDay, if_neg (by simp [hwrites.ne_nil]),
        if_pos ⟨by simp, by rw [List.dropLast_concat]; exact hwrites.isNumber⟩,
        List.dropLast_concat]
      exact Outcome.map_eq_ok_iff.2 ⟨_, readBounded_eq_ok_iff.2 ⟨hwrites, hpos, hle⟩, rfl⟩
    | nth hday hdayPos hdayLe htimes htimesPos htimesLe =>
      have hL {day times : List Char} {weekday count : Nat} (hday : Writes day weekday)
          (htimes : Writes times count) : 'L' ∉ day ++ '#' :: times := by
        simp [hday.not_mem (c := 'L') (by decide), htimes.not_mem (c := 'L') (by decide)]
      rw [readWeekDay, if_neg, if_neg, Text.splitFirst?_append (hday.not_mem (by decide))]
      · simp only [hday.isNumber, htimes.isNumber, and_self, if_true]
        exact Outcome.bind_eq_ok_iff.2 ⟨_, readBounded_eq_ok_iff.2 ⟨hday, hdayPos, hdayLe⟩,
          Outcome.bind_eq_ok_iff.2
            ⟨_, readBounded_eq_ok_iff.2 ⟨htimes, htimesPos, htimesLe⟩, rfl⟩⟩
      · exact fun h => hL hday htimes (List.mem_of_getLast? h.1)
      · intro h
        exact hL hday htimes (h ▸ List.mem_cons_self)

/-! ## Atoms -/

theorem isNumber_eq_false_of_mem {c : Char} (hc : Text.isDecimalDigit c = false) (hmem : c ∈ text) :
    Text.isNumber text = false := by
  rw [← Bool.not_eq_true, Text.isNumber, Bool.and_eq_true, List.all_eq_true]
  intro h
  rw [h.2 c hmem] at hc
  cases hc

theorem rangeEnds?_eq_none_of_mem {c : Char} (hc : Text.isDecimalDigit c = false)
    (hstar : c ≠ '*') (hhyphen : c ≠ '-') (hmem : c ∈ text) : rangeEnds? text = none := by
  rw [Option.eq_none_iff_forall_not_mem]
  rintro ⟨low, high⟩ hends
  obtain ⟨rfl, hlow, hhigh⟩ := rangeEnds?_eq_some_iff.1 hends
  rw [List.mem_append, List.mem_cons] at hmem
  rcases hmem with hmem | hmem | hmem
  · rcases hlow with rfl | hlow
    · exact hstar (List.mem_singleton.1 hmem)
    · rw [isNumber_eq_false_of_mem hc hmem] at hlow
      cases hlow
  · exact hhyphen hmem
  · rw [isNumber_eq_false_of_mem hc hmem] at hhigh
    cases hhigh

/-- A text with one of the letters, or with the sign of a count, is no number and no range. -/
theorem readAtom_of_mem {c : Char} (hc : c = 'L' ∨ c = 'W' ∨ c = '#') (hmem : c ∈ text) :
    readAtom field text = readCalendarForm field text := by
  have hother : Text.isDecimalDigit c = false ∧ c ≠ '*' ∧ c ≠ '?' ∧ c ≠ '-' := by
    rcases hc with rfl | rfl | rfl <;> decide
  obtain ⟨hdigit, hstar, hquestion, hhyphen⟩ := hother
  have hne {d : Char} (hd : c ≠ d) : text ≠ [d] := by
    rintro rfl
    exact hd (List.mem_singleton.1 hmem)
  rw [readAtom, if_neg (hne hstar), if_neg (hne hquestion), isNumber_eq_false_of_mem hdigit hmem,
    if_neg Bool.false_ne_true, rangeEnds?_eq_none_of_mem hdigit hstar hhyphen hmem]

theorem MonthDay.exists_letter (h : MonthDay text pattern) :
    ∃ c, (c = 'L' ∨ c = 'W' ∨ c = '#') ∧ c ∈ text := by
  cases h with
  | last | lastWeekday | beforeLast => exact ⟨'L', .inl rfl, List.mem_cons_self⟩
  | nearestWeekday => exact ⟨'W', .inr (.inl rfl), by simp⟩

theorem WeekDay.exists_letter (h : WeekDay text pattern) :
    ∃ c, (c = 'L' ∨ c = 'W' ∨ c = '#') ∧ c ∈ text := by
  cases h with
  | lastSunday => exact ⟨'L', .inl rfl, List.mem_cons_self⟩
  | last => exact ⟨'L', .inl rfl, by simp⟩
  | nth => exact ⟨'#', .inr (.inr rfl), by simp⟩

theorem readAtom_of_value {n : Nat} (h : Value field text n) :
    readAtom field text = .ok (single n) := by
  obtain ⟨m, hwrites⟩ := h.writes
  have hne {c : Char} (hc : c.isDigit = false) : text ≠ [c] := by
    rintro rfl
    exact hwrites.not_mem hc List.mem_cons_self
  rw [readAtom, if_neg (hne (by decide)), if_neg (hne (by decide)), if_pos hwrites.isNumber]
  exact Outcome.map_eq_ok_iff.2 ⟨n, readValue_eq_ok_iff.2 h, rfl⟩

theorem readAtom_of_range {start digits : List Char} {low high : Nat}
    (hstart : RangeStart field start low) (hhigh : Value field digits high) :
    readAtom field (start ++ '-' :: digits) =
      .ok (range low high (field = .dayOfWeek && high < low)) := by
  have hmem : '-' ∈ start ++ '-' :: digits := List.mem_append_right _ List.mem_cons_self
  have hne {c : Char} (hc : '-' ≠ c) : start ++ '-' :: digits ≠ [c] := by
    intro h
    exact hc (List.mem_singleton.1 (h ▸ hmem))
  have hends : rangeEnds? (start ++ '-' :: digits) = some (start, digits) := by
    obtain ⟨m, hwrites⟩ := hhigh.writes
    refine rangeEnds?_eq_some_iff.2 ⟨rfl, ?_, hwrites.isNumber⟩
    cases hstart with
    | star => exact .inl rfl
    | value hlow =>
      obtain ⟨k, hwrites⟩ := hlow.writes
      exact .inr hwrites.isNumber
  rw [readAtom, if_neg (hne (by decide)), if_neg (hne (by decide)),
    isNumber_eq_false_of_mem (by decide) hmem, if_neg Bool.false_ne_true, hends]
  exact readRange_eq_ok_iff.2 ⟨low, high, hstart, hhigh, rfl⟩

theorem readAtom_of_span (h : Span field text pattern) : readAtom field text = .ok pattern := by
  cases h with
  | star => rfl
  | value hvalue => exact readAtom_of_value hvalue
  | @range _ _ low high wrapped hstart hhigh hwrapped =>
    have heq : wrapped = (decide (field = .dayOfWeek) && decide (high < low)) := by
      rw [Bool.eq_iff_iff, hwrapped, Bool.and_eq_true, decide_eq_true_eq, decide_eq_true_eq]
    rw [readAtom_of_range hstart hhigh, heq]

theorem readAtom_eq_ok_iff : readAtom field text = .ok pattern ↔ Atom field text pattern := by
  constructor
  · intro h
    rw [readAtom] at h
    split at h
    · next htext =>
      cases h
      exact htext ▸ .span .star
    · split at h
      · next htext =>
        split at h
        · next hday =>
          cases h
          exact htext ▸ .unspecified hday
        · cases h
      · split at h
        · obtain ⟨n, hn, rfl⟩ := Outcome.map_eq_ok_iff.1 h
          exact .span (.value (readValue_eq_ok_iff.1 hn))
        · split at h
          · next start digits hends =>
            obtain ⟨rfl, -⟩ := rangeEnds?_eq_some_iff.1 hends
            obtain ⟨low, high, hlow, hhigh, rfl⟩ := readRange_eq_ok_iff.1 h
            exact .span (.range hlow hhigh (by simp))
          · cases field with
            | dayOfMonth => exact .monthDay rfl (readMonthDay_eq_ok_iff.1 h)
            | dayOfWeek => exact .weekDay rfl (readWeekDay_eq_ok_iff.1 h)
            | second | minute | hour | month | year => cases h
  · intro h
    cases h with
    | span hspan => exact readAtom_of_span hspan
    | unspecified hday => rw [readAtom, if_neg (by decide), if_pos rfl, if_pos hday]
    | monthDay hfield hform =>
      obtain ⟨c, hc, hmem⟩ := MonthDay.exists_letter hform
      rw [readAtom_of_mem hc hmem, hfield]
      exact readMonthDay_eq_ok_iff.2 hform
    | weekDay hfield hform =>
      obtain ⟨c, hc, hmem⟩ := WeekDay.exists_letter hform
      rw [readAtom_of_mem hc hmem, hfield]
      exact readWeekDay_eq_ok_iff.2 hform

/-! ## Items -/

theorem admitsSteps_of_span (h : Span field text pattern)
    (hwrapped : ∀ low high, pattern ≠ range low high true) : pattern.admitsSteps = true := by
  cases h with
  | star => rfl
  | value => rfl
  | @range _ _ low high wrapped =>
    cases wrapped with
    | false => rfl
    | true => exact absurd rfl (hwrapped low high)

/-- The atoms whose values can be stepped through are the spans that are not wrapped. -/
theorem span_of_admitsSteps (h : Atom field text pattern) (hsteps : pattern.admitsSteps = true) :
    Span field text pattern ∧ ∀ low high, pattern ≠ range low high true := by
  refine ⟨?_, fun low high heq => by rw [heq] at hsteps; cases hsteps⟩
  cases h with
  | span hspan => exact hspan
  | unspecified => cases hsteps
  | monthDay _ hform => cases hform <;> cases hsteps
  | weekDay _ hform => cases hform <;> cases hsteps

theorem readItem_eq_ok_iff : readItem field text = .ok pattern ↔ Item field text pattern := by
  constructor
  · intro h
    rw [readItem] at h
    split at h
    · exact .atom (readAtom_eq_ok_iff.1 h)
    · next start digits hsplit =>
      obtain ⟨rfl, -⟩ := Text.splitFirst?_eq_some_iff.1 hsplit
      obtain ⟨interval, hinterval, h⟩ := Outcome.bind_eq_ok_iff.1 h
      obtain ⟨base, hbase, h⟩ := Outcome.bind_eq_ok_iff.1 h
      split at h
      · next hsteps =>
        cases h
        obtain ⟨hspan, hwrapped⟩ := span_of_admitsSteps (readAtom_eq_ok_iff.1 hbase) hsteps
        obtain ⟨hwrites, hpos, hlt⟩ := readInterval_eq_ok_iff.1 hinterval
        exact .stepped hspan hwrapped hwrites hpos hlt
      · cases h
  · intro h
    rw [readItem]
    cases h with
    | atom hatom =>
      rw [Text.splitFirst?_eq_none_iff.2 (hatom.not_mem (.inl rfl))]
      exact readAtom_eq_ok_iff.2 hatom
    | stepped hspan hwrapped hwrites hpos hlt =>
      rw [Text.splitFirst?_append (hspan.not_mem (by decide) (by decide) (by decide))]
      refine Outcome.bind_eq_ok_iff.2 ⟨_, readInterval_eq_ok_iff.2 ⟨hwrites, hpos, hlt⟩,
        Outcome.bind_eq_ok_iff.2 ⟨_, readAtom_of_span hspan, ?_⟩⟩
      rw [if_pos (admitsSteps_of_span hspan hwrapped)]
      rfl

theorem readPart_eq_ok_iff {token : List Char} :
    readPart field token text = .ok pattern ↔ Item field text pattern := by
  rw [readPart]
  split
  · next hempty =>
    constructor
    · nofun
    · exact fun h => absurd (List.isEmpty_iff.1 hempty) h.ne_nil
  · exact readItem_eq_ok_iff

/-! ## Tokens -/

theorem two_le_length_splitAt {token : List Char}
    (h : ∀ part, Text.splitAt ',' token ≠ [part]) : 2 ≤ (Text.splitAt ',' token).length := by
  obtain ⟨part, others, hparts⟩ :=
    List.exists_cons_of_ne_nil (show Text.splitAt ',' token ≠ [] from Text.splitAt_ne_nil token)
  cases others with
  | nil => exact absurd hparts (h part)
  | cons => simp [hparts]

/-- What is read is a token of the grammar, with the pattern that it denotes. -/
theorem token_of_read {token : List Char} (h : read field token = .ok pattern) :
    Token field token pattern := by
  rw [read] at h
  split at h
  · exact .item (readItem_eq_ok_iff.1 h)
  · next hparts =>
    obtain ⟨patterns, hpatterns, rfl⟩ := Outcome.map_eq_ok_iff.1 h
    have hitems := (Outcome.mapM_eq_ok_iff.1 hpatterns).imp fun _ _ => readPart_eq_ok_iff.1
    have htoken := Token.list (two_le_length_splitAt hparts) hitems
    rwa [Text.joinWith_splitAt] at htoken

/-- Every token of the grammar is read as the pattern that it denotes. -/
theorem read_of_token {token : List Char} (h : Token field token pattern) :
    read field token = .ok pattern := by
  rw [read]
  cases h with
  | item hitem =>
    rw [Text.splitAt_of_not_mem hitem.comma_not_mem]
    exact readItem_eq_ok_iff.2 hitem
  | @list texts patterns hlength hitems =>
    have hne : texts ≠ [] := by
      rintro rfl
      cases hlength
    rw [Text.splitAt_joinWith hne (commas_not_mem hitems)]
    split
    · simp at hlength
    · exact Outcome.map_eq_ok_iff.2
        ⟨patterns, Outcome.mapM_eq_ok_iff.2 (hitems.imp fun _ _ => readPart_eq_ok_iff.2), rfl⟩

/-- Reading accepts exactly the tokens of the grammar and gives each the pattern that it denotes; it
reports an error exactly for the other texts. -/
theorem read_exact (field : Field) (token : List Char) :
    (∀ pattern, read field token = .ok pattern ↔ Token field token pattern) ∧
    ((∃ error, read field token = .error error) ↔ ¬ ∃ pattern, Token field token pattern) := by
  refine ⟨fun pattern => ⟨token_of_read, read_of_token⟩, ?_⟩
  constructor
  · rintro ⟨error, herror⟩ ⟨pattern, htoken⟩
    rw [read_of_token htoken] at herror
    cases herror
  · intro hnone
    cases hread : read field token with
    | ok pattern => exact absurd ⟨pattern, token_of_read hread⟩ hnone
    | error error => exact ⟨error, rfl⟩

end CronSchedule.Pattern

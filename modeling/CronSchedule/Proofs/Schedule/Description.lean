import CronSchedule.Proofs.Schedule.RoundTrip

/-!
# Constraints that a description tells

The description of a schedule tells a constraint if the phrase for it occurs in
the sentence. The month has no part of its own in the sentence: it is told with
each of the two day fields. A wildcard day of the month after a wildcard hour has
no part either, so beside an unspecified weekday it takes the month with it. No
other constraint on the date is left out (`describe_tells_iff`).

That the month is missing there and not told by some other phrase is seen from the
letters: months are written with a capital or as `month`, and without a day field
no other phrase has a capital letter or an `m` before an `o`.
-/

set_option autoImplicit false

namespace CronSchedule

open Pattern (WellFormed)

/-! ## Phrases in a text -/

/-- The phrase occurs in the text. -/
def Tells (text phrase : String) : Prop := phrase.toList <:+: text.toList

instance (text phrase : String) : Decidable (Tells text phrase) :=
  inferInstanceAs (Decidable (_ <:+: _))

section Tells

variable {text other phrase : String}

theorem Tells.refl (text : String) : Tells text text := List.infix_rfl

theorem Tells.trans (h : Tells text other) (hphrase : Tells other phrase) : Tells text phrase :=
  List.IsInfix.trans hphrase h

theorem Tells.append_right (h : Tells text phrase) (other : String) :
    Tells (text ++ other) phrase := by
  rw [Tells, String.toList_append]
  exact List.IsInfix.trans h (List.prefix_append _ _).isInfix

theorem Tells.append_left (other : String) (h : Tells text phrase) :
    Tells (other ++ text) phrase := by
  rw [Tells, String.toList_append]
  exact List.IsInfix.trans h (List.suffix_append _ _).isInfix

theorem tells_intercalate {separator : String} {texts : List String} (h : text ∈ texts) :
    Tells (String.intercalate separator texts) text := by
  induction texts with
  | nil => cases h
  | cons first rest ih =>
    by_cases hrest : rest = []
    · subst hrest
      rw [List.mem_singleton.1 h, String.intercalate_singleton]
      exact .refl _
    · rw [String.intercalate_cons_of_ne_nil hrest]
      rcases List.mem_cons.1 h with rfl | h
      · exact ((Tells.refl _).append_right _).append_right _
      · exact (ih h).append_left _

end Tells

/-! ## Names of months -/

/-- The text holds a capital letter, as the name of each month does, or begins to spell `month`. -/
def NamesMonth (text : String) : Prop :=
  text.toList.any Char.isUpper = true ∨ ['m', 'o'] <:+: text.toList

instance (text : String) : Decidable (NamesMonth text) := inferInstanceAs (Decidable (_ ∨ _))

theorem NamesMonth.of_tells {text phrase : String} (h : NamesMonth phrase)
    (htells : Tells text phrase) : NamesMonth text := by
  rcases h with hcapital | hspells
  · obtain ⟨c, hc, hupper⟩ := List.any_eq_true.1 hcapital
    exact .inl (List.any_eq_true.2 ⟨c, htells.subset hc, hupper⟩)
  · exact .inr (hspells.trans htells)

/-- The text names no month, not even behind another such text: it does not start with an `o`. -/
structure NamesNoMonth (text : String) : Prop where
  noCapital : text.toList.any Char.isUpper = false
  noStart : text.toList.IsChain fun a b => ¬ (a = 'm' ∧ b = 'o')
  start : text.toList.head? ≠ some 'o'

instance (text : String) : Decidable (NamesNoMonth text) :=
  decidable_of_iff
    (text.toList.any Char.isUpper = false ∧
      (text.toList.IsChain fun a b => ¬ (a = 'm' ∧ b = 'o')) ∧ text.toList.head? ≠ some 'o')
    ⟨fun h => ⟨h.1, h.2.1, h.2.2⟩, fun h => ⟨h.noCapital, h.noStart, h.start⟩⟩

section NamesNoMonth

variable {text other : String}

theorem NamesNoMonth.not_namesMonth (h : NamesNoMonth text) : ¬ NamesMonth text := by
  rintro (hcapital | hspells)
  · rw [h.noCapital] at hcapital
    cases hcapital
  · have hpair := h.noStart.infix hspells
    simp at hpair

theorem NamesNoMonth.append (h : NamesNoMonth text) (hother : NamesNoMonth other) :
    NamesNoMonth (text ++ other) where
  noCapital := by
    rw [String.toList_append, List.any_append, h.noCapital, hother.noCapital, Bool.or_false]
  noStart := by
    rw [String.toList_append]
    apply h.noStart.append hother.noStart
    rintro a - b hb ⟨-, rfl⟩
    exact hother.start hb
  start := by
    rw [String.toList_append, List.head?_append]
    cases hhead : text.toList.head? with
    | none => exact hother.start
    | some c =>
      have hstart := h.start
      rwa [hhead] at hstart

theorem namesNoMonth_intercalate {separator : String} {texts : List String}
    (hseparator : NamesNoMonth separator) (h : ∀ text ∈ texts, NamesNoMonth text) :
    NamesNoMonth (String.intercalate separator texts) := by
  induction texts with
  | nil =>
    rw [String.intercalate_nil]
    decide
  | cons first rest ih =>
    have hfirst := h first List.mem_cons_self
    by_cases hrest : rest = []
    · subst hrest
      rwa [String.intercalate_singleton]
    · rw [String.intercalate_cons_of_ne_nil hrest]
      have hothers := ih fun text htext => h text (List.mem_cons_of_mem _ htext)
      exact (hfirst.append hseparator).append hothers

theorem namesNoMonth_number (n : Nat) : NamesNoMonth (toString n) := by
  have hdigits : ∀ c ∈ (toString n).toList, c.isUpper = false ∧ c ≠ 'm' ∧ c ≠ 'o' := by
    intro c hc
    rw [Nat.toString_eq_repr, Nat.toList_repr] at hc
    obtain ⟨d, hd, rfl⟩ :=
      Numeral.exists_digitChar_of_isDigit ((Numeral.writes_digits n).isDigit hc)
    have hall : ∀ d < 10, (Nat.digitChar d).isUpper = false ∧ Nat.digitChar d ≠ 'm' ∧
        Nat.digitChar d ≠ 'o' := by decide
    exact hall d hd
  refine ⟨?_, ?_, ?_⟩
  · rw [List.any_eq_false]
    intro c hc
    rw [(hdigits c hc).1]
    exact Bool.false_ne_true
  · apply List.Pairwise.isChain
    apply List.pairwise_of_forall_mem_list
    rintro a ha b - ⟨rfl, -⟩
    exact (hdigits 'm' ha).2.1 rfl
  · intro hhead
    exact (hdigits 'o' (List.mem_of_head? hhead)).2.2 rfl

end NamesNoMonth

/-! ## Phrases for patterns -/

namespace Pattern

variable {field : Field} {pattern : Pattern}

theorem englishAll_eq_map (children : List Pattern) :
    englishAll field children = children.map (english field) := by
  induction children with
  | nil => rfl
  | cons child others ih => rw [englishAll, ih, List.map_cons]

theorem english_list (children : List Pattern) :
    english field (list children) = String.intercalate ", " (children.map (english field)) := by
  rw [← englishAll_eq_map]
  rfl

theorem english_single (value : Nat) : english field (single value) =
    if field.isSubDay then field.unit ++ " " ++ valuePhrase field value
    else valuePhrase field value :=
  rfl

/-- The two ends of a range in words. -/
def endsPhrase (field : Field) (low high : Nat) : String :=
  " from " ++ valuePhrase field low ++ " to " ++ valuePhrase field high

theorem english_range (low high : Nat) (wrapped : Bool) : english field (range low high wrapped) =
    "every " ++ field.unit ++ endsPhrase field low high := by
  rw [endsPhrase, ← String.append_assoc, ← String.append_assoc, ← String.append_assoc]
  rfl

/-- The phrase for the base of a step. -/
def basePhrase (field : Field) : Pattern → String
  | wildcard => ""
  | range low high _ => endsPhrase field low high
  | base => " starting " ++ english field base

theorem english_step (base : Pattern) (interval : Nat) :
    english field (step base interval) =
      "every " ++ toString interval ++ " " ++ field.unit ++ (if interval = 1 then "" else "s") ++
        basePhrase field base := by
  cases base <;> rfl

/-- The names of the months begin with a capital letter. -/
theorem namesMonth_valuePhrase {month : Nat} (h : Field.month.contains month = true) :
    NamesMonth (valuePhrase .month month) := by
  have hall : ∀ month ∈ List.range' 1 12, NamesMonth (valuePhrase .month month) := by decide
  obtain ⟨hlow, hhigh⟩ := Field.contains_iff.1 h
  exact hall month (List.mem_range'_1.2 ⟨hlow, Nat.lt_succ_of_le hhigh⟩)

/-- Every phrase for a constraint on the month names a month or is about months. -/
theorem namesMonth_english (h : WellFormed .month pattern) :
    NamesMonth (pattern.english .month) := by
  have hunit : NamesMonth Field.month.unit := by decide
  induction h with
  | wildcard => exact hunit.of_tells ((Tells.refl _).append_left _)
  | unspecified hday => cases hday
  | single hvalue => exact namesMonth_valuePhrase hvalue
  | range =>
    rw [english_range]
    exact hunit.of_tells (((Tells.refl _).append_left _).append_right _)
  | step =>
    rw [english_step]
    exact hunit.of_tells ((((Tells.refl _).append_left _).append_right _).append_right _)
  | @list children hlength _ _ _ ih =>
    obtain ⟨child, hchild⟩ := List.exists_mem_of_length_pos (show 0 < children.length by omega)
    rw [english_list]
    exact (ih child hchild).of_tells (tells_intercalate (List.mem_map_of_mem hchild))
  | lastDay hfield | lastWeekday hfield | nearestWeekday hfield => cases hfield
  | lastOfWeekday hfield | nth hfield => cases hfield

/-- Is the field one whose values are told as numbers? -/
def isNumeric : Field → Bool
  | .second | .minute | .hour | .year => true
  | .dayOfMonth | .month | .dayOfWeek => false

/-- The phrases of the numeric fields have no capital letters and are not about months. -/
theorem namesNoMonth_english (hfield : isNumeric field = true) (h : WellFormed field pattern) :
    NamesNoMonth (pattern.english field) := by
  have hunit : NamesNoMonth field.unit := by
    cases field with
    | second | minute | hour | year => decide
    | dayOfMonth | month | dayOfWeek => cases hfield
  have hvalue (value : Nat) : NamesNoMonth (valuePhrase field value) := by
    cases field with
    | second | minute | hour | year => exact namesNoMonth_number value
    | dayOfMonth | month | dayOfWeek => cases hfield
  have hends (low high : Nat) : NamesNoMonth (endsPhrase field low high) := by
    have hfrom : NamesNoMonth " from " := by decide
    have hto : NamesNoMonth " to " := by decide
    exact ((hfrom.append (hvalue low)).append hto).append (hvalue high)
  have hevery : NamesNoMonth "every " := by decide
  have hspace : NamesNoMonth " " := by decide
  induction h with
  | wildcard => exact hevery.append hunit
  | unspecified hday =>
    cases field with
    | dayOfMonth | dayOfWeek => cases hfield
    | _ => cases hday
  | @single value _ =>
    rw [english_single]
    split
    · exact (hunit.append hspace).append (hvalue value)
    · exact hvalue value
  | @range low high _ _ _ _ =>
    rw [english_range]
    exact (hevery.append hunit).append (hends low high)
  | @step base interval _ _ hbase _ _ ih =>
    have hplural : NamesNoMonth (if interval = 1 then "" else "s") := by
      split <;> decide
    have hstart : NamesNoMonth (basePhrase field base) := by
      rcases hbase with rfl | ⟨value, rfl⟩ | ⟨low, high, rfl⟩
      · exact show NamesNoMonth "" by decide
      · have hstarting : NamesNoMonth " starting " := by decide
        exact hstarting.append ih
      · exact hends low high
    rw [english_step]
    exact ((((hevery.append (namesNoMonth_number interval)).append hspace).append hunit).append
      hplural).append hstart
  | @list children _ _ _ _ ih =>
    have hcomma : NamesNoMonth ", " := by decide
    rw [english_list]
    apply namesNoMonth_intercalate hcomma
    intro text htext
    obtain ⟨child, hchild, rfl⟩ := List.mem_map.1 htext
    exact ih child hchild
  | lastDay hday | lastWeekday hday | nearestWeekday hday | lastOfWeekday hday | nth hday =>
    rw [hday] at hfield
    cases hfield

end Pattern

namespace Schedule

open Pattern

variable {schedule : Schedule} {field before : Field}

/-! ## Parts of a description -/

theorem isTold_iff (hbefore : fieldBefore? field = some before) :
    schedule.isTold field = true ↔
      ¬ (schedule.pattern field = .wildcard ∧ schedule.pattern before = .wildcard) := by
  rw [isTold, hbefore, Option.any_some, Bool.not_eq_true', ← isWildcard_iff, ← isWildcard_iff,
    ← Bool.and_eq_true, Bool.not_eq_true]

theorem tellsDay_iff (hbefore : fieldBefore? field = some before) :
    schedule.tellsDay field = true ↔
      ¬ (schedule.pattern field = .wildcard ∧ schedule.pattern before = .wildcard) ∧
        schedule.pattern field ≠ .unspecified := by
  rw [tellsDay, Bool.and_eq_true, isTold_iff hbefore, Bool.not_eq_true', ne_eq, ← isUnspecified_iff,
    Bool.not_eq_true]

theorem dayPhrase_tells_day (lead : String) (field : Field) :
    Tells (schedule.dayPhrase lead field) ((schedule.pattern field).english field) :=
  (((Tells.refl _).append_left _).append_right _).append_right _

theorem dayPhrase_tells_month (lead : String) (field : Field) :
    Tells (schedule.dayPhrase lead field) ((schedule.pattern .month).english .month) :=
  (Tells.refl _).append_left _

theorem datePhrase_tells_dayPhrase (hday : field.isDay = true)
    (h : schedule.tellsDay field = true) :
    ∃ lead, Tells schedule.datePhrase (schedule.dayPhrase lead field) := by
  cases field with
  | dayOfMonth =>
    refine ⟨"on ", ?_⟩
    rw [datePhrase, if_pos h]
    exact ((Tells.refl _).append_right _).append_right _
  | dayOfWeek =>
    refine ⟨"every ", ?_⟩
    rw [datePhrase, if_pos h]
    exact (((Tells.refl _).append_left _).append_left _).append_right _
  | _ => cases hday

theorem datePhrase_tells_year (h : schedule.pattern .year ≠ .wildcard) :
    Tells schedule.datePhrase ((schedule.pattern .year).english .year) := by
  rw [ne_eq, ← isWildcard_iff] at h
  rw [datePhrase, if_neg h]
  exact ((Tells.refl _).append_left _).append_left _

theorem describe_tells_datePhrase : Tells schedule.describe schedule.datePhrase := by
  rw [describe]
  split
  · next hempty =>
    rw [String.isEmpty_iff.1 hempty]
    exact List.nil_infix
  · exact (Tells.refl _).append_left _

/-! ## Descriptions without a month -/

/-- Beside a wildcard hour the time of day is not told as a clock time, which has capital letters. -/
theorem namesNoMonth_timePhrase (h : schedule.Compiled)
    (hhour : schedule.pattern .hour = .wildcard) : NamesNoMonth schedule.timePhrase := by
  have hof : NamesNoMonth " of " := by decide
  rw [timePhrase]
  split
  · exact namesNoMonth_english rfl (h.wellFormed .second)
  · split
    · next second minute hour hsingle =>
      -- three numbers are told only if all three fields are, and the hour is none
      have hlength := congrArg List.length hsingle
      rw [List.length_map] at hlength
      have hall := List.filter_sublist.eq_of_length hlength
      rw [hall, List.map_cons, List.map_cons, List.map_cons, hhour] at hsingle
      injections
    · apply namesNoMonth_intercalate hof
      intro text htext
      obtain ⟨field, hfield, rfl⟩ := List.mem_map.1 htext
      have hmem := List.mem_of_mem_filter (List.mem_of_mem_filter hfield)
      have hnumeric : ∀ field ∈ [Field.second, .minute, .hour], isNumeric field = true := by decide
      exact namesNoMonth_english (hnumeric field hmem) (h.wellFormed field)

theorem namesNoMonth_describe (h : schedule.Compiled) (hhour : schedule.pattern .hour = .wildcard)
    (hdayOfMonth : schedule.pattern .dayOfMonth = .wildcard)
    (hdayOfWeek : schedule.pattern .dayOfWeek = .unspecified) : NamesNoMonth schedule.describe := by
  have htime := namesNoMonth_timePhrase h hhour
  have hspace : NamesNoMonth " " := by decide
  have hmonthDay : ¬ schedule.tellsDay .dayOfMonth = true :=
    fun htells => ((tellsDay_iff rfl).1 htells).1 ⟨hdayOfMonth, hhour⟩
  have hweekDay : ¬ schedule.tellsDay .dayOfWeek = true :=
    fun htells => ((tellsDay_iff rfl).1 htells).2 hdayOfWeek
  -- what is left of the date is the year
  have hdate : NamesNoMonth schedule.datePhrase := by
    rw [datePhrase, if_neg hmonthDay, if_neg hweekDay]
    split
    · decide
    · exact hspace.append (namesNoMonth_english rfl (h.wellFormed .year))
  rw [describe]
  split
  · exact htime
  · exact (htime.append hspace).append hdate

/-! ## The constraints on the date -/

/-- With each day field that a description tells it tells the month. -/
theorem describe_tells_day_and_month (hday : field.isDay = true)
    (h : schedule.tellsDay field = true) :
    Tells schedule.describe ((schedule.pattern field).english field) ∧
      Tells schedule.describe ((schedule.pattern .month).english .month) := by
  obtain ⟨lead, hphrase⟩ := datePhrase_tells_dayPhrase hday h
  have htells := describe_tells_datePhrase.trans hphrase
  exact ⟨htells.trans (dayPhrase_tells_day lead field),
    htells.trans (dayPhrase_tells_month lead field)⟩

theorem describe_tells_month_iff (h : schedule.Compiled)
    (hmonth : schedule.pattern .month ≠ .wildcard) :
    Tells schedule.describe ((schedule.pattern .month).english .month) ↔
      ¬ (schedule.pattern .hour = .wildcard ∧ schedule.pattern .dayOfMonth = .wildcard ∧
        schedule.pattern .dayOfWeek = .unspecified) := by
  constructor
  · rintro htells ⟨hhour, hdayOfMonth, hdayOfWeek⟩
    have hnames := (namesMonth_english (h.wellFormed .month)).of_tells htells
    exact (namesNoMonth_describe h hhour hdayOfMonth hdayOfWeek).not_namesMonth hnames
  · intro hkept
    by_cases hdayOfWeek : schedule.pattern .dayOfWeek = .unspecified
    · have htold : schedule.tellsDay .dayOfMonth = true :=
        (tellsDay_iff rfl).2 ⟨fun hboth => hkept ⟨hboth.2, hboth.1, hdayOfWeek⟩,
          fun hdayOfMonth => h.day_specified ⟨hdayOfMonth, hdayOfWeek⟩⟩
      exact (describe_tells_day_and_month rfl htold).2
    · have htold : schedule.tellsDay .dayOfWeek = true :=
        (tellsDay_iff rfl).2 ⟨fun hboth => hmonth hboth.2, hdayOfWeek⟩
      exact (describe_tells_day_and_month rfl htold).2

/-- Of the constraints on the date, a description leaves out the month alone, and that exactly if
hour and day of month are wildcards and the day of week is unspecified. -/
theorem describe_tells_iff (h : schedule.Compiled) (hfield : field.isSubDay = false)
    (hwildcard : schedule.pattern field ≠ .wildcard)
    (hunspecified : schedule.pattern field ≠ .unspecified) :
    Tells schedule.describe ((schedule.pattern field).english field) ↔
      ¬ (field = .month ∧ schedule.pattern .hour = .wildcard ∧
        schedule.pattern .dayOfMonth = .wildcard ∧ schedule.pattern .dayOfWeek = .unspecified) := by
  cases field with
  | second | minute | hour => cases hfield
  | month => simpa using describe_tells_month_iff h hwildcard
  | dayOfMonth | dayOfWeek =>
    have htold := (tellsDay_iff rfl).2 ⟨fun hboth => hwildcard hboth.1, hunspecified⟩
    exact iff_of_true (describe_tells_day_and_month rfl htold).1 nofun
  | year =>
    have htells := describe_tells_datePhrase.trans (datePhrase_tells_year hwildcard)
    exact iff_of_true htells nofun

/-- May is told with the Mondays and left out without a day, the year is told in any case. -/
theorem describe_tells_may_with_mondays :
    (∃ schedule, compile ⟨0, none⟩ "0 0 * ? 5 1 *" .unset = .ok schedule ∧
      Tells schedule.describe ((schedule.pattern .month).english .month)) ∧
    ∃ schedule, compile ⟨0, none⟩ "0 0 * * 5 ? 2030" .unset = .ok schedule ∧
      ¬ Tells schedule.describe ((schedule.pattern .month).english .month) ∧
      Tells schedule.describe ((schedule.pattern .year).english .year) := by
  constructor
  · obtain ⟨schedule, hcompile, compiled, hpatterns⟩ := exists_compiled ⟨0, none⟩
      "0 0 * ? 5 1 *" .unset
      (fun schedule => decide (schedule.pattern .month ≠ .wildcard ∧
        schedule.pattern .month ≠ .unspecified ∧ schedule.pattern .dayOfMonth ≠ .wildcard))
      (show _ = some true by decide +kernel)
    obtain ⟨hwildcard, hunspecified, hdayOfMonth⟩ := of_decide_eq_true hpatterns
    have hkept := (describe_tells_iff compiled rfl hwildcard hunspecified).2
    exact ⟨schedule, hcompile, hkept fun hleft => hdayOfMonth hleft.2.2.1⟩
  · obtain ⟨schedule, hcompile, compiled, hpatterns⟩ := exists_compiled ⟨0, none⟩
      "0 0 * * 5 ? 2030" .unset
      (fun schedule => decide ((schedule.pattern .month ≠ .wildcard ∧
          schedule.pattern .month ≠ .unspecified) ∧
        (schedule.pattern .year ≠ .wildcard ∧ schedule.pattern .year ≠ .unspecified) ∧
        schedule.pattern .hour = .wildcard ∧ schedule.pattern .dayOfMonth = .wildcard ∧
        schedule.pattern .dayOfWeek = .unspecified))
      (show _ = some true by decide +kernel)
    obtain ⟨hmonth, hyear, hleft⟩ := of_decide_eq_true hpatterns
    refine ⟨schedule, hcompile, ?_, ?_⟩
    · intro htells
      exact (describe_tells_iff compiled rfl hmonth.1 hmonth.2).1 htells ⟨rfl, hleft⟩
    · exact (describe_tells_iff compiled rfl hyear.1 hyear.2).2 nofun

/-- On the hour on every day of May is told as every hour. -/
theorem describe_leaves_out_may :
    ∃ schedule, compile ⟨0, none⟩ "0 0 * * 5 ? *" .unset = .ok schedule ∧
      schedule.pattern .month ≠ .wildcard ∧ schedule.pattern .month ≠ .unspecified ∧
      (schedule.pattern .month).english .month = "May" ∧ schedule.describe = "every hour" ∧
      ¬ Tells schedule.describe ((schedule.pattern .month).english .month) := by
  obtain ⟨schedule, hcompile, -, h⟩ := exists_compiled ⟨0, none⟩ "0 0 * * 5 ? *" .unset
    (fun schedule => (decide (schedule.pattern .month = .wildcard),
      decide (schedule.pattern .month = .unspecified),
      (schedule.pattern .month).english .month, schedule.describe))
    (show _ = some (false, false, "May", "every hour") by decide +kernel)
  simp only [Prod.mk.injEq, decide_eq_false_iff_not] at h
  obtain ⟨hwildcard, hunspecified, hphrase, hdescribe⟩ := h
  refine ⟨schedule, hcompile, hwildcard, hunspecified, hphrase, hdescribe, ?_⟩
  rw [hphrase, hdescribe]
  decide

end Schedule

end CronSchedule

import CronSchedule.Pattern.Printing
import CronSchedule.Proofs.Pattern.Meaning
import CronSchedule.Proofs.Pattern.MonthWeeks
import CronSchedule.Proofs.Pattern.RoundTrip
import CronSchedule.Proofs.Text.Separated

/-!
# Weekdays counted from Sunday

The alternate token of a weekday pattern counts the days of the week from Sunday
as 1 to Saturday as 7. `SundayFirst` gives such a token a meaning of its own: it is
read as items between commas, each of which holds on some dates, and a range of
days may run past the end of the week. The token of a compiled pattern holds no
step, and it holds on exactly the dates on which the pattern accepts the weekday
(`Pattern.alternateToken_keeps_days`).
-/

set_option autoImplicit false

namespace CronSchedule

/-! ## Dates -/

namespace Date

/-- The day of the week of a date, 1 for Sunday to 7 for Saturday; 1970-01-01 is a Thursday. -/
def sundayNumber (date : Date) : Nat := ((date.number + 4) % 7 + 1).toNat

theorem weekday_bounds (date : Date) : 1 ≤ date.weekday ∧ date.weekday ≤ 7 := by
  rw [weekday]
  omega

theorem sundayNumber_eq (date : Date) : date.sundayNumber = Pattern.fromSunday date.weekday := by
  rw [sundayNumber, Pattern.fromSunday, weekday]
  split <;> omega

end Date

/-! ## Tokens that count from Sunday -/

namespace SundayFirst

/-- One item of a token that counts the days of the week from Sunday. -/
inductive Item where
  /-- Every day, written as a star. -/
  | star
  /-- No constraint, written as a question mark. -/
  | questionMark
  | day (number : Nat)
  /-- The days from the first to the last one; past Saturday the week starts again. -/
  | days (start stop : Nat)
  /-- The last day of that number in a month. -/
  | last (number : Nat)
  /-- The `count`-th day of that number in a month. -/
  | nth (number count : Nat)
  deriving DecidableEq

/-- Does the item hold on the date? -/
def Item.HoldsOn (date : Date) : Item → Prop
  | star | questionMark => True
  | day number => date.sundayNumber = number
  | days start stop =>
    if start ≤ stop then start ≤ date.sundayNumber ∧ date.sundayNumber ≤ stop
    else start ≤ date.sundayNumber ∨ date.sundayNumber ≤ stop
  | last number => date.sundayNumber = number ∧ date.monthLength < date.day + 7
  | nth number count =>
    date.sundayNumber = number ∧ 7 * (count - 1) < date.day ∧ date.day ≤ 7 * count

/-- The day of the week that a digit writes. -/
def readDay? (c : Char) : Option Nat := (['1', '2', '3', '4', '5', '6', '7'].idxOf? c).map (· + 1)

/-- The count that a digit writes; no month has a sixth day of a kind. -/
def readCount? (c : Char) : Option Nat := (['1', '2', '3', '4', '5'].idxOf? c).map (· + 1)

/-- The item that a text writes. -/
def readItem? : List Char → Option Item
  | ['*'] => some .star
  | ['?'] => some .questionMark
  | [number] => (readDay? number).map .day
  | [start, '-', stop] => do return .days (← readDay? start) (← readDay? stop)
  | [number, 'L'] => (readDay? number).map .last
  | [number, '#', count] => do return .nth (← readDay? number) (← readCount? count)
  | _ => none

/-- The items of a token, with commas between them. -/
def read? (token : List Char) : Option (List Item) := (Text.splitAt ',' token).mapM readItem?

/-- The token holds no step, and one of its items holds on the date of a time exactly if the time
is one of the given ones. -/
def Denotes (token : List Char) (times : LocalTime → Prop) : Prop :=
  '/' ∉ token ∧ ∃ items, read? token = some items ∧
    ∀ time, (∃ item ∈ items, item.HoldsOn time.date) ↔ times time

section Denotes

variable {token text : List Char} {times others : LocalTime → Prop} {item : Item}

theorem Denotes.congr (h : Denotes token times) (htimes : ∀ time, times time ↔ others time) :
    Denotes token others := by
  obtain ⟨hslash, items, hread, hholds⟩ := h
  exact ⟨hslash, items, hread, fun time => (hholds time).trans (htimes time)⟩

/-- The text writes one item, without a comma or a slash. -/
def Writes (text : List Char) (item : Item) : Prop :=
  readItem? text = some item ∧ ',' ∉ text ∧ '/' ∉ text

instance (text : List Char) (item : Item) : Decidable (Writes text item) :=
  inferInstanceAs (Decidable (_ ∧ _))

theorem Writes.denotes (h : Writes text item) :
    Denotes text fun time => item.HoldsOn time.date := by
  obtain ⟨hread, hcomma, hslash⟩ := h
  refine ⟨hslash, [item], ?_, ?_⟩
  · rw [read?, Text.splitAt_of_not_mem hcomma, List.mapM_cons, hread]
    rfl
  · intro time
    simp

theorem Denotes.append (h : Denotes token times) (hother : Denotes text others) :
    Denotes (token ++ ',' :: text) fun time => times time ∨ others time := by
  obtain ⟨hslash, items, hread, hholds⟩ := h
  obtain ⟨hotherSlash, otherItems, hotherRead, hotherHolds⟩ := hother
  refine ⟨?_, items ++ otherItems, ?_, ?_⟩
  · simp [hslash, hotherSlash]
  · rw [read?] at hread hotherRead ⊢
    rw [Text.splitAt_append, List.mapM_append, hread, hotherRead]
    rfl
  · intro time
    simp only [← hholds, ← hotherHolds, List.mem_append, or_and_right, exists_or]

/-- A list of tokens between commas holds where one of them does. -/
theorem denotes_joinWith {α : Type} {entries : List α} {tokenOf : α → List Char}
    {timesOf : α → LocalTime → Prop} (hne : entries ≠ [])
    (h : ∀ entry ∈ entries, Denotes (tokenOf entry) (timesOf entry)) :
    Denotes (Text.joinWith ',' (entries.map tokenOf)) fun time =>
      ∃ entry ∈ entries, timesOf entry time := by
  induction entries with
  | nil => exact absurd rfl hne
  | cons entry entries ih =>
    have hentry := h entry List.mem_cons_self
    by_cases hrest : entries = []
    · subst hrest
      apply hentry.congr
      simp
    · have hothers := ih hrest fun other hother => h other (List.mem_cons_of_mem _ hother)
      rw [List.map_cons, Text.joinWith_cons (by simpa using hrest)]
      apply (hentry.append hothers).congr
      simp

end Denotes

/-! ## Items as they are written -/

theorem writes_day : ∀ day ∈ List.range' 1 7,
    Writes (Numeral.digits (Pattern.fromSunday day)) (.day (Pattern.fromSunday day)) := by
  decide

theorem writes_days : ∀ low ∈ List.range' 1 7, ∀ high ∈ List.range' 1 7,
    Writes
      (Numeral.digits (Pattern.fromSunday low) ++ '-' :: Numeral.digits (Pattern.fromSunday high))
      (.days (Pattern.fromSunday low) (Pattern.fromSunday high)) := by
  decide

theorem writes_last : ∀ day ∈ List.range' 1 7,
    Writes (Numeral.digits (Pattern.fromSunday day) ++ ['L']) (.last (Pattern.fromSunday day)) := by
  decide

theorem writes_nth : ∀ day ∈ List.range' 1 7, ∀ count ∈ List.range' 1 5,
    Writes (Numeral.digits (Pattern.fromSunday day) ++ '#' :: Numeral.digits count)
      (.nth (Pattern.fromSunday day) count) := by
  decide

end SundayFirst

namespace Pattern

open SundayFirst

variable {pattern : Pattern}

/-! ## Days counted from Monday -/

theorem sundayNumber_eq_fromSunday_iff {date : Date} {day : Nat} (hday : 1 ≤ day ∧ day ≤ 7) :
    date.sundayNumber = fromSunday day ↔ date.weekday = day := by
  have hweekday := date.weekday_bounds
  rw [Date.sundayNumber_eq]
  simp only [fromSunday]
  split <;> split <;> omega

/-- Turning the week turns every range of days, wherever the ends of the week come to lie. -/
theorem between_fromSunday_iff {low high day : Nat} (hlow : 1 ≤ low ∧ low ≤ 7)
    (hhigh : 1 ≤ high ∧ high ≤ 7) (hday : 1 ≤ day ∧ day ≤ 7) :
    (if fromSunday low ≤ fromSunday high then
        fromSunday low ≤ fromSunday day ∧ fromSunday day ≤ fromSunday high
      else fromSunday low ≤ fromSunday day ∨ fromSunday day ≤ fromSunday high) ↔
      if high < low then low ≤ day ∨ day ≤ high else low ≤ day ∧ day ≤ high := by
  simp only [fromSunday]
  split_ifs <;> omega

theorem mem_week_iff {day : Nat} : day ∈ List.range' 1 7 ↔ 1 ≤ day ∧ day ≤ 7 := by
  rw [List.mem_range'_1]
  omega

theorem acceptsAny_iff {value : Nat} {time : LocalTime} {patterns : List Pattern} :
    acceptsAny value time patterns = true ↔
      ∃ pattern ∈ patterns, pattern.accepts value time = true := by
  induction patterns with
  | nil => simp [acceptsAny]
  | cons child others ih => simp [acceptsAny, ih]

theorem stepsAsDaysAll_eq_map (children : List Pattern) :
    stepsAsDaysAll children = children.map stepsAsDays := by
  induction children with
  | nil => rfl
  | cons child others ih => rw [stepsAsDaysAll, ih, List.map_cons]

/-! ## Every form in the numbering from Sunday -/

/-- The pattern, in the numbering from Sunday and without steps, is a token for the dates whose
weekday the pattern accepts. -/
def KeepsDays (pattern : Pattern) : Prop :=
  Denotes (pattern.stepsAsDays.spell fromSunday) fun time =>
    pattern.accepts time.date.weekday time = true

theorem keepsDays_single {day : Nat} (hday : 1 ≤ day ∧ day ≤ 7) : KeepsDays (single day) := by
  apply (writes_day day (mem_week_iff.2 hday)).denotes.congr
  intro time
  rw [Item.HoldsOn, sundayNumber_eq_fromSunday_iff hday, accepts, beq_iff_eq]

theorem keepsDays_range {low high : Nat} {wrapped : Bool} (hlow : 1 ≤ low ∧ low ≤ 7)
    (hhigh : 1 ≤ high ∧ high ≤ 7) (hwrapped : wrapped = true ↔ high < low) :
    KeepsDays (range low high wrapped) := by
  apply (writes_days low (mem_week_iff.2 hlow) high (mem_week_iff.2 hhigh)).denotes.congr
  intro time
  have hturned := between_fromSunday_iff hlow hhigh time.date.weekday_bounds
  rw [← Date.sundayNumber_eq] at hturned
  rw [Item.HoldsOn, hturned]
  simp only [accepts, ← hwrapped]
  split <;> simp

/-- A step that selects some day is written as the days that it selects. -/
theorem spell_stepsAsDays_step {number : Nat → Nat} {base : Pattern} {interval : Nat}
    (h : acceptedDays (step base interval) ≠ []) :
    (step base interval).stepsAsDays.spell number =
      Text.joinWith ',' ((acceptedDays (step base interval)).map (spell number)) := by
  rw [stepsAsDays]
  cases hdays : acceptedDays (step base interval) with
  | nil => exact absurd hdays h
  | cons day others =>
    cases others with
    | nil => rfl
    | cons _ _ => rw [spell, spellAll_eq_map]

theorem mem_acceptedDays_iff {entry : Pattern} :
    entry ∈ acceptedDays pattern ↔
      ∃ day, (1 ≤ day ∧ day ≤ 7) ∧ pattern.accepts day LocalTime.epoch = true ∧
        entry = single day := by
  simp only [acceptedDays, List.mem_map, List.mem_filter, mem_week_iff, and_assoc, eq_comm]

theorem keepsDays_step {base : Pattern} {interval day : Nat} (hday : 1 ≤ day ∧ day ≤ 7)
    (haccepts : ∀ time, (step base interval).accepts day time = true) :
    KeepsDays (step base interval) := by
  have hmem : single day ∈ acceptedDays (step base interval) :=
    mem_acceptedDays_iff.2 ⟨day, hday, haccepts LocalTime.epoch, rfl⟩
  have hne := List.ne_nil_of_mem hmem
  rw [KeepsDays, spell_stepsAsDays_step hne]
  have hentries : ∀ entry ∈ acceptedDays (step base interval),
      Denotes (spell fromSunday entry) fun time =>
        entry.accepts time.date.weekday time = true := by
    intro entry hentry
    obtain ⟨selected, hselected, -, rfl⟩ := mem_acceptedDays_iff.1 hentry
    exact keepsDays_single hselected
  apply (denotes_joinWith hne hentries).congr
  intro time
  rw [← acceptsAny_iff, acceptedDays, acceptsAny_map_single, decide_eq_true_eq, List.mem_filter,
    mem_week_iff, and_iff_right time.date.weekday_bounds,
    accepts_step_congr _ LocalTime.epoch time]

theorem keepsDays_of_wellFormed (h : WellFormed .dayOfWeek pattern) : KeepsDays pattern := by
  induction h with
  | wildcard =>
    have hwrites : Writes ['*'] .star := by decide
    apply hwrites.denotes.congr
    intro time
    exact iff_of_true trivial rfl
  | unspecified =>
    have hwrites : Writes ['?'] .questionMark := by decide
    apply hwrites.denotes.congr
    intro time
    exact iff_of_true trivial rfl
  | single hday => exact keepsDays_single (Field.contains_iff.1 hday)
  | range hlow hhigh hwrapped =>
    apply keepsDays_range (Field.contains_iff.1 hlow) (Field.contains_iff.1 hhigh)
    simpa using hwrapped
  | step _ _ _ _ htwo =>
    -- the first of the two days that it selects keeps the list of its days from being empty
    obtain ⟨first, second, -, hfirst, -, haccepts⟩ := htwo
    exact keepsDays_step (Field.contains_iff.1 hfirst) fun time => (haccepts time).1
  | @list children hlength _ _ _ ih =>
    have hne : children ≠ [] := List.ne_nil_of_length_pos (by omega)
    rw [KeepsDays, stepsAsDays, stepsAsDaysAll_eq_map, spell, spellAll_eq_map, List.map_map]
    apply (denotes_joinWith hne ih).congr
    intro time
    rw [accepts, acceptsAny_iff]
  | lastOfWeekday _ hpos hle =>
    apply (writes_last _ (mem_week_iff.2 ⟨hpos, hle⟩)).denotes.congr
    intro time
    rw [Item.HoldsOn, sundayNumber_eq_fromSunday_iff ⟨hpos, hle⟩, accepts,
      isLastOf_iff ⟨hpos, hle⟩]
  | @nth weekday count _ hdayPos hdayLe hpos hle =>
    have hcount : count ∈ List.range' 1 5 := List.mem_range'_1.2 ⟨hpos, by omega⟩
    have hwrites := writes_nth weekday (mem_week_iff.2 ⟨hdayPos, hdayLe⟩) count hcount
    apply hwrites.denotes.congr
    intro time
    have hday := (Date.day_spec time.date).1
    rw [Item.HoldsOn, sundayNumber_eq_fromSunday_iff ⟨hdayPos, hdayLe⟩, accepts, Bool.and_eq_true,
      beq_iff_eq, beq_iff_eq]
    -- the days before the date fill as many whole weeks as there are earlier such days
    apply and_congr_right'
    omega
  | lastDay hfield | lastWeekday hfield | nearestWeekday hfield => cases hfield

/-! ## The alternate token -/

/-- The alternate token of a compiled weekday pattern holds no step; read as items of days counted
from Sunday, it holds on exactly the dates whose weekday the pattern accepts. -/
theorem alternateToken_keeps_days {token : List Char} (h : read .dayOfWeek token = .ok pattern) :
    Denotes ((canonical .dayOfWeek pattern).alternateToken .dayOfWeek).toList fun time =>
      (canonical .dayOfWeek pattern).accepts (time.component .dayOfWeek) time = true := by
  have hkeeps := keepsDays_of_wellFormed (wellFormed_canonical (token_of_read h))
  rw [alternateToken, String.toList_ofList, alternateChars, if_pos rfl]
  exact hkeeps

/-- A range that runs past Sunday becomes a plain one, and a step becomes the days it selects; the
count of a third Tuesday stays. -/
theorem alternateToken_keeps_days_of_mixed_list :
    ∃ pattern, read .dayOfWeek "6-2,*/3,5L,2#3".toList = .ok pattern ∧
      (canonical .dayOfWeek pattern).alternateToken .dayOfWeek = "7-3,4,7,6L,3#3" ∧
      Denotes "7-3,4,7,6L,3#3".toList fun time =>
        (canonical .dayOfWeek pattern).accepts (time.component .dayOfWeek) time = true := by
  have hread : read .dayOfWeek "6-2,*/3,5L,2#3".toList =
      .ok (list [range 6 2 true, step wildcard 3, last 0 (some 5), nth 2 3]) := by rfl
  have htoken : (canonical .dayOfWeek (list [range 6 2 true, step wildcard 3, last 0 (some 5),
      nth 2 3])).alternateToken .dayOfWeek = "7-3,4,7,6L,3#3" := by rfl
  exact ⟨_, hread, htoken, htoken ▸ alternateToken_keeps_days hread⟩

end Pattern

end CronSchedule

import CronSchedule.Field
import CronSchedule.Pattern.Basic
import CronSchedule.Proofs.Numeral
import CronSchedule.Proofs.Text.Separated
import Mathlib.Algebra.Group.Nat.Defs
import Mathlib.Data.List.Forall2

/-!
# The grammar of tokens

`Grammar.Token` relates a text to the pattern that it denotes as the token of a
field. The rules name no order in which the forms are tried: every text is a
token by its form alone. What can stand in a text of each form is recorded
beside the rules, since the forms are told apart by their characters.
-/

set_option autoImplicit false

namespace CronSchedule.Grammar

open Numeral (Writes)

variable {field : Field} {text : List Char} {pattern : Pattern}

/-! ## Rules -/

/-- The digits write a value of the field; day 0 of the week is the Sunday at its end. -/
inductive Value (field : Field) : List Char → Nat → Prop
  | inDomain {digits : List Char} {n : Nat} :
      Writes digits n → field.contains n = true → Value field digits n
  | sunday {digits : List Char} : field = .dayOfWeek → Writes digits 0 → Value field digits 7

/-- What a range starts with: a value, or a star for the smallest value of the field. -/
inductive RangeStart (field : Field) : List Char → Nat → Prop
  | star : RangeStart field ['*'] field.min
  | value {digits : List Char} {n : Nat} : Value field digits n → RangeStart field digits n

/-- The forms of all fields: a star, a value, and a range, which is wrapped when it is a range of
weekdays that ends before it starts. -/
inductive Span (field : Field) : List Char → Pattern → Prop
  | star : Span field ['*'] .wildcard
  | value {digits : List Char} {n : Nat} : Value field digits n → Span field digits (.single n)
  | range {start digits : List Char} {low high : Nat} {wrapped : Bool} :
      RangeStart field start low → Value field digits high →
      (wrapped = true ↔ field = .dayOfWeek ∧ high < low) →
      Span field (start ++ '-' :: digits) (.range low high wrapped)

/-- The forms of the day of month alone: the last day, the last day from Monday to Friday, a day
before the last, and the day from Monday to Friday nearest to a day. -/
inductive MonthDay : List Char → Pattern → Prop
  | last : MonthDay ['L'] (.last 0 none)
  | lastWeekday : MonthDay ['L', 'W'] .lastWeekday
  | beforeLast {digits : List Char} {offset : Nat} :
      Writes digits offset → offset ≤ 30 → MonthDay ('L' :: '-' :: digits) (.last offset none)
  | nearestWeekday {digits : List Char} {day : Nat} :
      Writes digits day → 1 ≤ day → day ≤ 31 → MonthDay (digits ++ ['W']) (.nearestWeekday day)

/-- The forms of the day of week alone: the last Sunday, the last day of the month that falls on a
weekday, and the day of the month that falls on a weekday for a given time. -/
inductive WeekDay : List Char → Pattern → Prop
  | lastSunday : WeekDay ['L'] (.last 0 (some 7))
  | last {digits : List Char} {weekday : Nat} :
      Writes digits weekday → 1 ≤ weekday → weekday ≤ 7 →
      WeekDay (digits ++ ['L']) (.last 0 (some weekday))
  | nth {day times : List Char} {weekday count : Nat} :
      Writes day weekday → 1 ≤ weekday → weekday ≤ 7 →
      Writes times count → 1 ≤ count → count ≤ 5 →
      WeekDay (day ++ '#' :: times) (.nth weekday count)

/-- An item without a step. -/
inductive Atom (field : Field) : List Char → Pattern → Prop
  | span {text : List Char} {pattern : Pattern} : Span field text pattern → Atom field text pattern
  | unspecified : field.isDay = true → Atom field ['?'] .unspecified
  | monthDay {text : List Char} {pattern : Pattern} :
      field = .dayOfMonth → MonthDay text pattern → Atom field text pattern
  | weekDay {text : List Char} {pattern : Pattern} :
      field = .dayOfWeek → WeekDay text pattern → Atom field text pattern

/-- One item of a token: an atom, or a span that is not wrapped and, after a slash, a positive
interval of at most 32 bits. -/
inductive Item (field : Field) : List Char → Pattern → Prop
  | atom {text : List Char} {pattern : Pattern} : Atom field text pattern → Item field text pattern
  | stepped {text digits : List Char} {base : Pattern} {interval : Nat} :
      Span field text base → (∀ low high, base ≠ .range low high true) →
      Writes digits interval → 0 < interval → interval < 2 ^ 32 →
      Item field (text ++ '/' :: digits) (.step base interval)

/-- A token: one item, or two or more items with commas between them. -/
inductive Token (field : Field) : List Char → Pattern → Prop
  | item {text : List Char} {pattern : Pattern} :
      Item field text pattern → Token field text pattern
  | list {texts : List (List Char)} {patterns : List Pattern} :
      2 ≤ texts.length → List.Forall₂ (Item field) texts patterns →
      Token field (Text.joinWith ',' texts) (.list patterns)

/-! ## Characters -/

theorem Value.writes {digits : List Char} {n : Nat} (h : Value field digits n) :
    ∃ m, Writes digits m := by
  cases h with
  | inDomain hwrites => exact ⟨_, hwrites⟩
  | sunday _ hwrites => exact ⟨_, hwrites⟩

theorem Value.contains {digits : List Char} {n : Nat} (h : Value field digits n) :
    field.contains n = true := by
  cases h with
  | inDomain _ hn => exact hn
  | sunday hfield => exact hfield ▸ rfl

theorem RangeStart.not_mem {start : List Char} {n : Nat} (h : RangeStart field start n) {c : Char}
    (hdigit : c.isDigit = false) (hstar : c ≠ '*') : c ∉ start := by
  cases h with
  | star => exact mt List.mem_singleton.1 hstar
  | value hvalue =>
    obtain ⟨m, hwrites⟩ := hvalue.writes
    exact hwrites.not_mem hdigit

theorem Span.not_mem (h : Span field text pattern) {c : Char} (hdigit : c.isDigit = false)
    (hstar : c ≠ '*') (hhyphen : c ≠ '-') : c ∉ text := by
  cases h with
  | star => exact mt List.mem_singleton.1 hstar
  | value hvalue =>
    obtain ⟨m, hwrites⟩ := hvalue.writes
    exact hwrites.not_mem hdigit
  | range hstart hvalue =>
    obtain ⟨m, hwrites⟩ := hvalue.writes
    rw [List.mem_append, List.mem_cons, not_or, not_or]
    exact ⟨hstart.not_mem hdigit hstar, hhyphen, hwrites.not_mem hdigit⟩

theorem Span.ne_nil (h : Span field text pattern) : text ≠ [] := by
  cases h with
  | star => exact List.cons_ne_nil _ _
  | value hvalue =>
    obtain ⟨m, hwrites⟩ := hvalue.writes
    exact hwrites.ne_nil
  | range => simp

theorem MonthDay.not_mem (h : MonthDay text pattern) {c : Char} (hdigit : c.isDigit = false)
    (hletters : c ≠ 'L' ∧ c ≠ 'W') (hhyphen : c ≠ '-') : c ∉ text := by
  cases h with
  | last => simp [hletters]
  | lastWeekday => simp [hletters]
  | beforeLast hwrites => simp [hletters, hhyphen, hwrites.not_mem hdigit]
  | nearestWeekday hwrites => simp [hletters, hwrites.not_mem hdigit]

theorem WeekDay.not_mem (h : WeekDay text pattern) {c : Char} (hdigit : c.isDigit = false)
    (hletter : c ≠ 'L') (hsign : c ≠ '#') : c ∉ text := by
  cases h with
  | lastSunday => simp [hletter]
  | last hwrites => simp [hletter, hwrites.not_mem hdigit]
  | nth hday _ _ htimes => simp [hsign, hday.not_mem hdigit, htimes.not_mem hdigit]

/-- An atom holds neither a slash nor a comma. -/
theorem Atom.not_mem (h : Atom field text pattern) {c : Char} (hc : c = '/' ∨ c = ',') :
    c ∉ text := by
  have hdigit : c.isDigit = false := by rcases hc with rfl | rfl <;> decide
  have hother : c ≠ '*' ∧ c ≠ '-' ∧ c ≠ 'L' ∧ c ≠ 'W' ∧ c ≠ '#' ∧ c ≠ '?' := by
    rcases hc with rfl | rfl <;> decide
  obtain ⟨hstar, hhyphen, hL, hW, hsign, hquestion⟩ := hother
  cases h with
  | span hspan => exact hspan.not_mem hdigit hstar hhyphen
  | unspecified => exact mt List.mem_singleton.1 hquestion
  | monthDay _ hform => exact hform.not_mem hdigit ⟨hL, hW⟩ hhyphen
  | weekDay _ hform => exact hform.not_mem hdigit hL hsign

theorem Atom.ne_nil (h : Atom field text pattern) : text ≠ [] := by
  cases h with
  | span hspan => exact hspan.ne_nil
  | unspecified => exact List.cons_ne_nil _ _
  | monthDay _ hform => cases hform <;> simp
  | weekDay _ hform => cases hform <;> simp

theorem Item.comma_not_mem (h : Item field text pattern) : ',' ∉ text := by
  cases h with
  | atom hatom => exact hatom.not_mem (.inr rfl)
  | stepped hspan _ hwrites =>
    rw [List.mem_append, List.mem_cons, not_or, not_or]
    exact ⟨hspan.not_mem (by decide) (by decide) (by decide), by decide,
      hwrites.not_mem (by decide)⟩

theorem Item.ne_nil (h : Item field text pattern) : text ≠ [] := by
  cases h with
  | atom hatom => exact hatom.ne_nil
  | stepped => simp

theorem Token.ne_nil (h : Token field text pattern) : text ≠ [] := by
  cases h with
  | item hitem => exact hitem.ne_nil
  | @list texts _ hlength =>
    match texts, hlength with
    | first :: second :: rest, _ =>
      rw [Text.joinWith_cons (List.cons_ne_nil _ _)]
      simp

/-! ## Items of a list -/

theorem exists_item_of_mem {texts : List (List Char)} {patterns : List Pattern}
    (h : List.Forall₂ (Item field) texts patterns) (hpattern : pattern ∈ patterns) :
    ∃ text, Item field text pattern := by
  induction h with
  | nil => cases hpattern
  | cons hitem _ ih =>
    rcases List.mem_cons.1 hpattern with rfl | hpattern
    · exact ⟨_, hitem⟩
    · exact ih hpattern

theorem commas_not_mem {texts : List (List Char)} {patterns : List Pattern}
    (h : List.Forall₂ (Item field) texts patterns) : ∀ text ∈ texts, ',' ∉ text :=
  ((List.forall₂_and_left _ _).1 (h.imp fun _ _ hitem => ⟨hitem.comma_not_mem, hitem⟩)).1

end CronSchedule.Grammar

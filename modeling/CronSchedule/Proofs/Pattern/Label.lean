import CronSchedule.Pattern.English
import CronSchedule.Proofs.Pattern.WellFormed

/-!
# Labels of patterns

The label of a pattern starts with the name of its form, and then gives the
numbers of the pattern in brackets. Both can be read off the label again
(`takeWhile_label`, `number_inj`), so the label of a well-formed pattern tells
everything but the patterns inside it (`sameNode_of_label`).
-/

set_option autoImplicit false

namespace CronSchedule

/-! ## Texts that start with a run -/

namespace Text

variable {p : Char → Bool} {run other rest after : List Char}

/-- The text does not go on with a character of the kind. -/
def StopsAt (p : Char → Bool) (text : List Char) : Prop := text.head?.any p = false

theorem takeWhile_append (hrun : ∀ c ∈ run, p c = true) (hrest : StopsAt p rest) :
    (run ++ rest).takeWhile p = run := by
  rw [List.takeWhile_append_of_pos hrun]
  cases rest with
  | nil => rw [List.takeWhile_nil, List.append_nil]
  | cons c rest =>
    have hc : p c = false := hrest
    rw [List.takeWhile_cons_of_neg (Bool.not_eq_true _ ▸ hc), List.append_nil]

theorem dropWhile_append (hrun : ∀ c ∈ run, p c = true) (hrest : StopsAt p rest) :
    (run ++ rest).dropWhile p = rest := by
  have htext := List.takeWhile_append_dropWhile (p := p) (l := run ++ rest)
  rw [takeWhile_append hrun hrest] at htext
  exact List.append_cancel_left htext

/-- A text has only one run at its start that does not go on. -/
theorem run_append_inj (hrun : ∀ c ∈ run, p c = true) (hrest : StopsAt p rest)
    (hother : ∀ c ∈ other, p c = true) (hafter : StopsAt p after)
    (h : run ++ rest = other ++ after) : run = other ∧ rest = after := by
  have htake := takeWhile_append hrun hrest
  rw [h, takeWhile_append hother hafter] at htake
  subst htake
  exact ⟨rfl, List.append_cancel_left h⟩

end Text

/-- The digits of a number end where the text goes on with another character. -/
theorem Numeral.digits_append_inj {n m : Nat} {rest after : List Char}
    (hrest : Text.StopsAt Char.isDigit rest) (hafter : Text.StopsAt Char.isDigit after)
    (h : digits n ++ rest = digits m ++ after) : n = m ∧ rest = after := by
  obtain ⟨hdigits, hsame⟩ := Text.run_append_inj (fun _ => (writes_digits n).isDigit) hrest
    (fun _ => (writes_digits m).isDigit) hafter h
  refine ⟨?_, hsame⟩
  rw [← (writes_digits n).ofDigitChars, hdigits, (writes_digits m).ofDigitChars]

namespace Pattern

open Numeral (digits digits_append_inj)
open Text (StopsAt)

variable {field : Field} {pattern other : Pattern}

/-! ## Numbers in a label -/

section Numbers

variable {before between after rest : String} {n m k l : Nat}

theorem toList_number (before : String) (n : Nat) (after : String) :
    (before ++ toString n ++ after).toList = before.toList ++ (digits n ++ after.toList) := by
  rw [String.toList_append, String.toList_append, Nat.toString_eq_repr, Nat.toList_repr,
    List.append_assoc, digits]

theorem toList_numbers (before : String) (n : Nat) (between : String) (k : Nat) (after : String) :
    (before ++ toString n ++ between ++ toString k ++ after).toList =
      before.toList ++ (digits n ++ (between.toList ++ (digits k ++ after.toList))) := by
  rw [toList_number, toList_number, List.append_assoc, List.append_assoc]

/-- A number is read off a text in which no digit follows it. -/
theorem number_inj (hafter : StopsAt Char.isDigit after.toList)
    (h : before ++ toString n ++ after = before ++ toString m ++ after) : n = m := by
  have htext := congrArg String.toList h
  rw [toList_number, toList_number] at htext
  exact (digits_append_inj hafter hafter (List.append_cancel_left htext)).1

/-- Two numbers, and how the text ends, are read off a text in which no digit follows them. -/
theorem numbers_inj (hbetween : ∀ text, StopsAt Char.isDigit (between.toList ++ text))
    (hafter : StopsAt Char.isDigit after.toList) (hrest : StopsAt Char.isDigit rest.toList)
    (h : before ++ toString n ++ between ++ toString k ++ after =
      before ++ toString m ++ between ++ toString l ++ rest) :
    n = m ∧ k = l ∧ after = rest := by
  have htext := congrArg String.toList h
  rw [toList_numbers, toList_numbers] at htext
  obtain ⟨hfirst, htext⟩ :=
    digits_append_inj (hbetween _) (hbetween _) (List.append_cancel_left htext)
  obtain ⟨hsecond, hend⟩ := digits_append_inj hafter hrest (List.append_cancel_left htext)
  exact ⟨hfirst, hsecond, String.toList_injective hend⟩

end Numbers

/-! ## Form and numbers of a pattern -/

/-- The forms of patterns. -/
inductive Form where
  | wildcard
  | unspecified
  | single
  | range
  | step
  | list
  | last
  | lastWeekday
  | nearestWeekday
  | nth

/-- Name of a form. -/
def Form.name : Form → String
  | wildcard => "Wildcard"
  | unspecified => "Unspecified"
  | single => "Single"
  | range => "Range"
  | step => "Step"
  | list => "List"
  | last => "Last"
  | lastWeekday => "LastWeekday"
  | nearestWeekday => "NearestWeekday"
  | nth => "Nth"

/-- The form of a pattern. -/
def form : Pattern → Form
  | wildcard => .wildcard
  | unspecified => .unspecified
  | single _ => .single
  | range .. => .range
  | step .. => .step
  | list _ => .list
  | last .. => .last
  | lastWeekday => .lastWeekday
  | nearestWeekday _ => .nearestWeekday
  | nth .. => .nth

/-- Forms have different names. -/
theorem Form.name_injective : Function.Injective name := by
  intro first second h
  cases first <;> cases second <;> first | rfl | exact absurd h (by decide)

theorem takeWhile_number {before : String} (name : String)
    (h : ∀ text, (before.toList ++ text).takeWhile Char.isAlpha = name.toList) (n : Nat)
    (after : String) :
    (before ++ toString n ++ after).toList.takeWhile Char.isAlpha = name.toList := by
  rw [toList_number, h]

theorem takeWhile_numbers {before : String} (name : String)
    (h : ∀ text, (before.toList ++ text).takeWhile Char.isAlpha = name.toList) (n : Nat)
    (between : String) (k : Nat) (after : String) :
    (before ++ toString n ++ between ++ toString k ++ after).toList.takeWhile Char.isAlpha =
      name.toList := by
  rw [toList_numbers, h]

/-- How the label of a range ends. -/
def rangeEnd (wrapped : Bool) : String := if wrapped then ", wrapped)" else ")"

theorem label_range (low high : Nat) (wrapped : Bool) : (range low high wrapped).label =
    "Range(" ++ toString low ++ "-" ++ toString high ++ rangeEnd wrapped := by
  cases wrapped <;> rfl

theorem rangeEnd_injective {wrapped other : Bool} (h : rangeEnd wrapped = rangeEnd other) :
    wrapped = other := by
  cases wrapped <;> cases other <;> first | rfl | exact absurd h (by decide)

/-- The label starts with the name of the form, and no letter follows it. -/
theorem takeWhile_label (pattern : Pattern) :
    pattern.label.toList.takeWhile Char.isAlpha = pattern.form.name.toList := by
  cases pattern with
  | wildcard | unspecified | lastWeekday => rfl
  | single value => exact takeWhile_number "Single" (fun _ => rfl) value ")"
  | step base interval => exact takeWhile_number "Step" (fun _ => rfl) interval ")"
  | list children => exact takeWhile_number "List" (fun _ => rfl) children.length ")"
  | nearestWeekday day => exact takeWhile_number "NearestWeekday" (fun _ => rfl) day ")"
  | nth weekday count => exact takeWhile_numbers "Nth" (fun _ => rfl) weekday ", #" count ")"
  | range low high wrapped =>
    rw [label_range]
    exact takeWhile_numbers "Range" (fun _ => rfl) low "-" high (rangeEnd wrapped)
  | last offset weekday =>
    cases weekday with
    | none => exact takeWhile_number "Last" (fun _ => rfl) offset ")"
    | some weekday => exact takeWhile_number "Last" (fun _ => rfl) weekday ")"

theorem form_of_label (h : pattern.label = other.label) : pattern.form = other.form := by
  apply Form.name_injective
  apply String.toList_injective
  rw [← takeWhile_label, ← takeWhile_label, h]

/-- The patterns differ at most in the patterns inside them, and have equally many of those. -/
inductive SameNode : Pattern → Pattern → Prop
  | refl (pattern : Pattern) : SameNode pattern pattern
  | step (base otherBase : Pattern) (interval : Nat) :
      SameNode (step base interval) (step otherBase interval)
  | list {children others : List Pattern} :
      children.length = others.length → SameNode (list children) (list others)

/-- The label of a well-formed pattern tells all of it except for the patterns inside it. -/
theorem sameNode_of_label (hpattern : WellFormed field pattern) (hother : WellFormed field other)
    (h : pattern.label = other.label) : SameNode pattern other := by
  have hform := form_of_label h
  have hend : StopsAt Char.isDigit ")".toList := rfl
  cases hpattern with
  | wildcard =>
    cases hother with
    | wildcard => exact .refl _
    | _ => cases hform
  | unspecified =>
    cases hother with
    | unspecified => exact .refl _
    | _ => cases hform
  | single =>
    cases hother with
    | single =>
      obtain rfl := number_inj hend h
      exact .refl _
    | _ => cases hform
  | @range low high wrapped =>
    cases hother with
    | @range otherLow otherHigh otherWrapped =>
      have hends (wrapped : Bool) : StopsAt Char.isDigit (rangeEnd wrapped).toList := by
        cases wrapped <;> rfl
      have hminus (text : List Char) : StopsAt Char.isDigit ("-".toList ++ text) := rfl
      rw [label_range, label_range] at h
      obtain ⟨rfl, rfl, hlast⟩ := numbers_inj hminus (hends wrapped) (hends otherWrapped) h
      obtain rfl := rangeEnd_injective hlast
      exact .refl _
    | _ => cases hform
  | step =>
    cases hother with
    | step =>
      obtain rfl := number_inj hend h
      exact .step _ _ _
    | _ => cases hform
  | list =>
    cases hother with
    | list => exact .list (number_inj hend h)
    | _ => cases hform
  | lastDay hfield =>
    cases hother with
    | lastDay =>
      obtain rfl := number_inj hend h
      exact .refl _
    | lastOfWeekday hweek => exact absurd (hfield.symm.trans hweek) nofun
    | _ => cases hform
  | lastWeekday =>
    cases hother with
    | lastWeekday => exact .refl _
    | _ => cases hform
  | nearestWeekday =>
    cases hother with
    | nearestWeekday =>
      obtain rfl := number_inj hend h
      exact .refl _
    | _ => cases hform
  | lastOfWeekday hweek =>
    cases hother with
    | lastDay hfield => exact absurd (hfield.symm.trans hweek) nofun
    | lastOfWeekday =>
      obtain rfl := number_inj hend h
      exact .refl _
    | _ => cases hform
  | nth =>
    cases hother with
    | nth =>
      have hcomma (text : List Char) : StopsAt Char.isDigit (", #".toList ++ text) := rfl
      obtain ⟨rfl, rfl, -⟩ := numbers_inj hcomma hend hend h
      exact .refl _
    | _ => cases hform

end Pattern

end CronSchedule

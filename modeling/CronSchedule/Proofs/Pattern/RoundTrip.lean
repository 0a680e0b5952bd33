import CronSchedule.Pattern.Printing
import CronSchedule.Proofs.Pattern.WellFormed

/-!
# Canonical tokens

The token of a well-formed pattern is read as that pattern, which is its own
canonical form: so it compiles to the pattern (`read_tokenChars`,
`canonical_of_wellFormed`), and no two well-formed patterns of a field have the
same token (`tokenChars_injective`).
-/

set_option autoImplicit false

namespace CronSchedule.Pattern

open Grammar
open Numeral (writes_digits)

variable {field : Field} {pattern : Pattern}

theorem spellAll_eq_map (number : Nat → Nat) (children : List Pattern) :
    spellAll number children = children.map (spell number) := by
  induction children with
  | nil => rfl
  | cons child others ih => rw [spellAll, ih, List.map_cons]

theorem value_digits {n : Nat} (h : field.contains n = true) : Value field (Numeral.digits n) n :=
  .inDomain (writes_digits n) h

theorem span_tokenChars (h : WellFormed field pattern) (hsteps : pattern.admitsSteps = true) :
    Span field pattern.tokenChars pattern := by
  cases h with
  | wildcard => exact .star
  | single hcontains => exact .value (value_digits hcontains)
  | range hlow hhigh hwrapped =>
    exact .range (.value (value_digits hlow)) (value_digits hhigh) hwrapped
  | _ => cases hsteps

theorem item_tokenChars (h : WellFormed field pattern) (hlist : ∀ inner, pattern ≠ list inner) :
    Item field pattern.tokenChars pattern := by
  cases h with
  | wildcard => exact .atom (.span .star)
  | unspecified hday => exact .atom (.unspecified hday)
  | single hcontains => exact .atom (.span (.value (value_digits hcontains)))
  | range hlow hhigh hwrapped =>
    exact .atom (.span (.range (.value (value_digits hlow)) (value_digits hhigh) hwrapped))
  | @step base interval hpos hlt hsteppable hbase =>
    have hsteps := admitsSteps_iff.2 hsteppable
    refine .stepped (span_tokenChars hbase hsteps) ?_ (writes_digits interval) hpos hlt
    rintro low high rfl
    cases hsteps
  | list => exact absurd rfl (hlist _)
  | @lastDay offset hfield hle =>
    rw [tokenChars, spell]
    split
    · next hzero => exact .atom (.monthDay hfield (hzero ▸ .last))
    · exact .atom (.monthDay hfield (.beforeLast (writes_digits offset) hle))
  | lastWeekday hfield => exact .atom (.monthDay hfield .lastWeekday)
  | nearestWeekday hfield hpos hle =>
    exact .atom (.monthDay hfield (.nearestWeekday (writes_digits _) hpos hle))
  | lastOfWeekday hfield hpos hle =>
    exact .atom (.weekDay hfield (.last (writes_digits _) hpos hle))
  | nth hfield hdayPos hdayLe hpos hle =>
    exact .atom (.weekDay hfield (.nth (writes_digits _) hdayPos hdayLe (writes_digits _) hpos hle))

theorem token_tokenChars (h : WellFormed field pattern) :
    Token field pattern.tokenChars pattern := by
  by_cases hlist : ∃ children, pattern = list children
  · obtain ⟨children, rfl⟩ := hlist
    cases h with
    | list hlength hlists hchildren hrun =>
      rw [tokenChars, spell, spellAll_eq_map]
      refine .list (by rwa [List.length_map]) ?_
      rw [List.forall₂_map_left_iff, List.forall₂_same]
      intro child hchild
      exact item_tokenChars (hchildren child hchild) (hlists child hchild)
  · exact .item (item_tokenChars h fun children heq => hlist ⟨children, heq⟩)

/-- The token of a well-formed pattern is read as the pattern. -/
theorem read_tokenChars (h : WellFormed field pattern) :
    read field pattern.tokenChars = .ok pattern :=
  read_of_token (token_tokenChars h)

/-- No two well-formed patterns of a field have the same token. -/
theorem tokenChars_injective {other : Pattern} (h : WellFormed field pattern)
    (hother : WellFormed field other) (heq : pattern.tokenChars = other.tokenChars) :
    pattern = other := by
  have hread := read_tokenChars h
  rw [heq, read_tokenChars hother] at hread
  exact (Except.ok.inj hread).symm

theorem tokenChars_ne_nil (h : WellFormed field pattern) : pattern.tokenChars ≠ [] :=
  (token_tokenChars h).ne_nil

/-- The token of a compiled pattern is read as the pattern, and the pattern is its own canonical
form. So the compiled patterns of a field differ in their tokens. -/
theorem read_token_of_compiled {text : List Char} (h : read field text = .ok pattern) :
    read field (canonical field pattern).token.toList = .ok (canonical field pattern) ∧
      canonical field (canonical field pattern) = canonical field pattern ∧
      ∀ other denoted, read field other = .ok denoted →
        (canonical field denoted).token = (canonical field pattern).token →
        canonical field denoted = canonical field pattern := by
  have hcompiled := wellFormed_canonical (token_of_read h)
  refine ⟨?_, canonical_of_wellFormed hcompiled, ?_⟩
  · rw [token, String.toList_ofList]
    exact read_tokenChars hcompiled
  · intro other denoted hread htoken
    have hother := wellFormed_canonical (token_of_read hread)
    exact tokenChars_injective hother hcompiled (String.ofList_injective htoken)

/-- A step that selects 4 alone completes a run of minutes, whose token is the one that the range
itself is written as. Of the weekdays, Sunday is written as 7, and the range over it is wrapped. -/
theorem read_token_of_run_and_of_sunday :
    (∃ pattern, read .minute "5,6,4-8/9".toList = .ok pattern ∧
      (canonical .minute pattern).token = "4-6" ∧
      ∀ other denoted, read .minute other = .ok denoted →
        (canonical .minute denoted).token = (canonical .minute pattern).token →
        canonical .minute denoted = canonical .minute pattern) ∧
    ∃ pattern, read .dayOfWeek "0,6-02,1-5/2,L,2#5,*/4".toList = .ok pattern ∧
      (canonical .dayOfWeek pattern).token = "7,6-2,1-5/2,7L,2#5,4" ∧
      read .dayOfWeek (canonical .dayOfWeek pattern).token.toList =
        .ok (canonical .dayOfWeek pattern) := by
  constructor
  · have hread : read .minute "5,6,4-8/9".toList =
        .ok (list [single 5, single 6, step (range 4 8 false) 9]) := by rfl
    exact ⟨_, hread, by rfl, (read_token_of_compiled hread).2.2⟩
  · have hread : read .dayOfWeek "0,6-02,1-5/2,L,2#5,*/4".toList =
        .ok (list [single 7, range 6 2 true, step (range 1 5 false) 2, last 0 (some 7), nth 2 5,
          step wildcard 4]) := by rfl
    exact ⟨_, hread, by rfl, (read_token_of_compiled hread).1⟩

/-! ## Characters of a token -/

/-- The characters in which the tokens of patterns are written. -/
def tokenCharacters : List Char :=
  ['0', '1', '2', '3', '4', '5', '6', '7', '8', '9', '*', '?', '-', '/', ',', 'L', 'W', '#']

theorem digits_subset (n : Nat) : Numeral.digits n ⊆ tokenCharacters := by
  intro c hc
  obtain ⟨d, hd, rfl⟩ := Numeral.exists_digitChar_of_isDigit ((writes_digits n).isDigit hc)
  have hdigits : ∀ d < 10, Nat.digitChar d ∈ tokenCharacters := by decide
  exact hdigits d hd

/-- Two texts of token characters around another such character make up a third. -/
theorem append_cons_subset {before after : List Char} {c : Char}
    (hbefore : before ⊆ tokenCharacters) (hc : c ∈ tokenCharacters) (hafter : after ⊆ tokenCharacters) :
    before ++ c :: after ⊆ tokenCharacters :=
  List.append_subset.2 ⟨hbefore, List.cons_subset.2 ⟨hc, hafter⟩⟩

mutual

/-- A pattern is written in token characters, whatever the numbering of its weekdays. -/
theorem spell_subset (number : Nat → Nat) :
    ∀ pattern : Pattern, spell number pattern ⊆ tokenCharacters
  | wildcard | unspecified | lastWeekday => by
    rw [spell]
    decide
  | single _ => digits_subset _
  | range _ _ _ => append_cons_subset (digits_subset _) (by decide) (digits_subset _)
  | step base _ => append_cons_subset (spell_subset number base) (by decide) (digits_subset _)
  | list children => Text.joinWith_subset (by decide) (spellAll_subset number children)
  | last offset none => by
    rw [spell]
    split
    · decide
    · exact List.cons_subset.2 ⟨by decide, List.cons_subset.2 ⟨by decide, digits_subset _⟩⟩
  | last _ (some _) => append_cons_subset (digits_subset _) (by decide) (List.nil_subset _)
  | nearestWeekday _ => append_cons_subset (digits_subset _) (by decide) (List.nil_subset _)
  | nth _ _ => append_cons_subset (digits_subset _) (by decide) (digits_subset _)

theorem spellAll_subset (number : Nat → Nat) :
    ∀ patterns : List Pattern, ∀ text ∈ spellAll number patterns, text ⊆ tokenCharacters
  | [] => nofun
  | child :: others => by
    intro text htext
    rw [spellAll, List.mem_cons] at htext
    rcases htext with rfl | htext
    · exact spell_subset number child
    · exact spellAll_subset number others text htext

end

theorem tokenChars_subset (pattern : Pattern) : pattern.tokenChars ⊆ tokenCharacters :=
  spell_subset id pattern

end CronSchedule.Pattern

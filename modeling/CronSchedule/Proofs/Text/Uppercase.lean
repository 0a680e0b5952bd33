import CronSchedule.Proofs.Text.Blank
import CronSchedule.Text.Uppercase
import Mathlib.Data.List.Basic

/-!
# Capitals of capitals

No capital that the tables give is itself a letter of the tables, so a text in
capitals keeps its form (`capitals_capitals`); and none is a blank, so words stay
words (`IsWord.isCapitalWord_capitals`). Both are read off the tables run by run: a
run of capitals lies outside the letters and the blanks, or its capitals take turns
with letters.
-/

set_option autoImplicit false

namespace CronSchedule.Text

/-! ## The capitals of a run -/

namespace CapitalRun

/-- The capital of the last letter of the run. -/
def lastCapital (run : CapitalRun) : Nat := run.last - run.first + run.capital

/-- Do all capitals of the run lie outside the range? -/
def clears (run : CapitalRun) (first last : Nat) : Bool :=
  last.blt run.capital || run.lastCapital.blt first

/-- Is no capital of the run a letter of the other run? Capitals within the range of that run
take turns with its letters. -/
def avoids (run other : CapitalRun) : Bool :=
  run.clears other.first other.last ||
    (other.step == 2 && (run.step == 2 || run.first == run.last) &&
      (run.capital + other.first) % 2 == 1)

variable {run other : CapitalRun} {point first last : Nat}

theorem has_iff : run.has point = true ↔
    run.first ≤ point ∧ point ≤ run.last ∧ (point - run.first) % run.step = 0 := by
  simp only [has, Bool.and_eq_true, decide_eq_true_eq, beq_iff_eq, and_assoc]

theorem outside_of_clears (hclears : run.clears first last = true) (h : run.has point = true) :
    last < point - run.first + run.capital ∨ point - run.first + run.capital < first := by
  obtain ⟨_, hlast, _⟩ := has_iff.1 h
  rw [clears, lastCapital, Bool.or_eq_true, Nat.blt_eq, Nat.blt_eq] at hclears
  rcases hclears with hafter | hbefore
  · left
    omega
  · right
    omega

theorem not_has_of_avoids (havoids : run.avoids other = true) (h : run.has point = true) :
    other.has (point - run.first + run.capital) = false := by
  rw [Bool.eq_false_iff]
  intro hother
  obtain ⟨hfirst', hlast', hstep'⟩ := has_iff.1 hother
  rw [avoids, Bool.or_eq_true] at havoids
  rcases havoids with hclears | hturns
  · have houtside := outside_of_clears hclears h
    omega
  · -- the letters of the other run have the parity of its first one
    simp only [Bool.and_eq_true, Bool.or_eq_true, beq_iff_eq] at hturns
    obtain ⟨⟨hother_step, hstep⟩, hparity⟩ := hturns
    obtain ⟨hfirst, hlast, hdistance⟩ := has_iff.1 h
    rw [hother_step] at hstep'
    rcases hstep with hstep | hsingle
    · rw [hstep] at hdistance
      omega
    · omega

end CapitalRun

/-! ## Letters and capitals -/

/-- Is the code point a letter with another form as its capital? -/
def isSmall (point : Nat) : Bool :=
  (0x61 ≤ point && point ≤ 0x7A) || capitalRuns.any (·.has point) ||
    capitalSequences.any (·.1 == point)

theorem isSmall_eq_false_iff {point : Nat} : isSmall point = false ↔
    ¬ (0x61 ≤ point ∧ point ≤ 0x7A) ∧ (∀ run ∈ capitalRuns, run.has point = false) ∧
      ∀ entry ∈ capitalSequences, entry.1 ≠ point := by
  simp only [isSmall, Bool.or_eq_false_iff, ← Bool.decide_and, decide_eq_false_iff_not,
    List.any_eq_false, beq_iff_eq, Bool.not_eq_true, and_assoc, ne_eq]

theorem capital_of_not_isSmall {c : Char} (h : isSmall c.toNat = false) : capital c = [c] := by
  obtain ⟨hascii, hruns, hsequences⟩ := isSmall_eq_false_iff.1 h
  have hupper : c.toUpper = c := by
    refine dif_neg ?_
    rw [UInt32.le_iff_toNat_le, UInt32.le_iff_toNat_le]
    exact hascii
  have hrun : capitalRuns.find? (·.has c.toNat) = none := by
    rw [List.find?_eq_none]
    intro run hrun
    rw [hruns run hrun]
    exact Bool.false_ne_true
  have hsequence : capitalSequences.lookup c.toNat = none := by
    rw [List.lookup_eq_none_iff]
    intro entry hentry
    exact bne_iff_ne.2 (hsequences entry hentry).symm
  rw [capital, hupper, hrun, hsequence]
  exact ite_self _

/-! ## What the tables give -/

/-- Is the code point that of a character which can stand in a word in capitals? -/
def isSettled (point : Nat) : Bool :=
  decide point.isValidChar && !isSmall point &&
    !blankPoints.any fun range => range.1 ≤ point && point ≤ range.2

theorem isSettled_iff {point : Nat} : isSettled point = true ↔
    point.isValidChar ∧ isSmall point = false ∧
      ∀ range ∈ blankPoints, ¬ (range.1 ≤ point ∧ point ≤ range.2) := by
  simp only [isSettled, Bool.and_eq_true, Bool.not_eq_true', decide_eq_true_eq, List.any_eq_false,
    and_assoc]

theorem toNat_ofNat_of_isValidChar {point : Nat} (h : point.isValidChar) :
    (Char.ofNat point).toNat = point := by
  rw [Char.ofNat, dif_pos h]
  rfl

theorem capital_ofNat_of_isSettled {point : Nat} (h : isSettled point = true) :
    capital (Char.ofNat point) = [Char.ofNat point] := by
  obtain ⟨hvalid, hsmall, _⟩ := isSettled_iff.1 h
  apply capital_of_not_isSmall
  rw [toNat_ofNat_of_isValidChar hvalid]
  exact hsmall

theorem isBlank_ofNat_of_isSettled {point : Nat} (h : isSettled point = true) :
    isBlank (Char.ofNat point) = false := by
  obtain ⟨hvalid, _, hblank⟩ := isSettled_iff.1 h
  rw [isBlank, CodePoints.has, List.any_eq_false]
  intro range hrange
  rw [toNat_ofNat_of_isValidChar hvalid, Bool.and_eq_true, decide_eq_true_eq, decide_eq_true_eq]
  exact hblank range hrange

/-! ### The tables -/

theorem capitalSequences_settled :
    capitalSequences.all (fun entry => entry.2.all isSettled) = true := by
  decide +kernel

/-- The capitals of a run are characters: they lie outside the surrogates and below the last code
point. The other ranges hold the letters with another capital, and the blanks. -/
theorem capitalRuns_settled : capitalRuns.all (fun run =>
    run.clears 0xD800 0xDFFF && run.lastCapital.blt 0x110000 && run.clears 0x61 0x7A &&
      capitalRuns.all run.avoids &&
      capitalSequences.all (fun entry => run.clears entry.1 entry.1) &&
      blankPoints.all (fun range => run.clears range.1 range.2)) = true := by
  decide +kernel

theorem CapitalRun.isSettled_capital {run : CapitalRun} (hrun : run ∈ capitalRuns) {point : Nat}
    (h : run.has point = true) : isSettled (point - run.first + run.capital) = true := by
  have hclear := List.all_eq_true.1 capitalRuns_settled run hrun
  simp only [Bool.and_eq_true, List.all_eq_true, Nat.blt_eq] at hclear
  obtain ⟨⟨⟨⟨⟨hsurrogates, hbound⟩, hascii⟩, hruns⟩, hsequences⟩, hblanks⟩ := hclear
  rw [isSettled_iff, isSmall_eq_false_iff]
  refine ⟨?_, ⟨?_, ?_, ?_⟩, ?_⟩
  · obtain ⟨hfirst, hlast, _⟩ := has_iff.1 h
    have houtside := outside_of_clears hsurrogates h
    rw [lastCapital] at hbound
    rw [Nat.isValidChar]
    omega
  · have houtside := outside_of_clears hascii h
    omega
  · intro other hother
    exact not_has_of_avoids (hruns other hother) h
  · intro entry hentry
    have houtside := outside_of_clears (hsequences entry hentry) h
    omega
  · intro range hrange
    have houtside := outside_of_clears (hblanks range hrange) h
    omega

theorem mem_of_lookup_eq_some {point : Nat} {points : List Nat}
    (h : capitalSequences.lookup point = some points) : (point, points) ∈ capitalSequences := by
  obtain ⟨before, after, hentry, _⟩ := List.lookup_eq_some_iff.1 h
  rw [hentry]
  exact List.mem_append_right _ List.mem_cons_self

/-- The capitals of a character beyond ASCII are settled, unless it is its own capital. -/
theorem mem_capital_cases {c d : Char} (h : d ∈ capital c) :
    (c.toNat < 0x80 ∧ d = c.toUpper) ∨ (capital c = [c] ∧ d = c) ∨
      ∃ point, isSettled point = true ∧ d = Char.ofNat point := by
  by_cases hascii : c.toNat < 0x80
  · left
    rw [capital, if_pos hascii, List.mem_singleton] at h
    exact ⟨hascii, h⟩
  · right
    rw [capital, if_neg hascii] at h ⊢
    split at h
    · next run hrun =>
      right
      have hhas := List.find?_some hrun
      exact ⟨_, run.isSettled_capital (List.mem_of_find?_eq_some hrun) hhas, List.mem_singleton.1 h⟩
    · split at h
      · next points hpoints =>
        right
        obtain ⟨point, hpoint, rfl⟩ := List.mem_map.1 h
        have hentry := List.all_eq_true.1 capitalSequences_settled _ (mem_of_lookup_eq_some hpoints)
        exact ⟨point, List.all_eq_true.1 hentry point hpoint, rfl⟩
      · left
        exact ⟨rfl, List.mem_singleton.1 h⟩

/-! ## Texts in capitals -/

theorem forall_ascii {P : Char → Prop} (h : ∀ n < 0x80, P (Char.ofNat n)) {c : Char}
    (hc : c.toNat < 0x80) : P c := by
  have hpoint := h c.toNat hc
  rwa [Char.ofNat_toNat] at hpoint

theorem capital_of_mem_capital {c d : Char} (h : d ∈ capital c) : capital d = [d] := by
  rcases mem_capital_cases h with ⟨hascii, rfl⟩ | ⟨hself, rfl⟩ | ⟨point, hsettled, rfl⟩
  · exact forall_ascii (P := fun c => capital c.toUpper = [c.toUpper]) (by decide) hascii
  · exact hself
  · exact capital_ofNat_of_isSettled hsettled

theorem isBlank_of_mem_capital {c d : Char} (hc : isBlank c = false) (h : d ∈ capital c) :
    isBlank d = false := by
  rcases mem_capital_cases h with ⟨hascii, rfl⟩ | ⟨_, rfl⟩ | ⟨point, hsettled, rfl⟩
  · refine forall_ascii (P := fun c => isBlank c = false → isBlank c.toUpper = false) ?_ hascii hc
    decide
  · exact hc
  · exact isBlank_ofNat_of_isSettled hsettled

theorem capital_ne_nil (c : Char) : capital c ≠ [] := by
  rw [capital]
  split
  · exact List.cons_ne_nil _ _
  · split
    · exact List.cons_ne_nil _ _
    · split
      · next points hpoints =>
        have hne : ∀ entry ∈ capitalSequences, entry.2 ≠ [] := by decide
        have hpoints_ne := hne _ (mem_of_lookup_eq_some hpoints)
        exact mt List.map_eq_nil_iff.1 hpoints_ne
      · exact List.cons_ne_nil _ _

theorem capitals_of_forall {text : List Char} (h : ∀ c ∈ text, capital c = [c]) :
    capitals text = text := by
  rw [capitals, List.flatMap_congr h, List.flatMap_singleton']

/-- A text in capitals keeps its form. -/
theorem capitals_capitals (text : List Char) : capitals (capitals text) = capitals text := by
  apply capitals_of_forall
  intro d hd
  obtain ⟨c, _, hd⟩ := List.mem_flatMap.1 hd
  exact capital_of_mem_capital hd

/-! ## Words in capitals -/

/-- The text can stand as a word in capitals, so it is read as it stands. -/
def IsCapitalWord (text : List Char) : Prop := IsWord text ∧ ∀ c ∈ text, capital c = [c]

theorem IsWord.isCapitalWord_capitals {word : List Char} (h : IsWord word) :
    IsCapitalWord (capitals word) := by
  obtain ⟨hne, hblank⟩ := h
  refine ⟨⟨?_, ?_⟩, ?_⟩
  · intro hnil
    obtain ⟨c, hc⟩ := List.exists_mem_of_ne_nil word hne
    exact capital_ne_nil c (List.flatMap_eq_nil_iff.1 hnil c hc)
  · intro d hd
    obtain ⟨c, hc, hd⟩ := List.mem_flatMap.1 hd
    exact isBlank_of_mem_capital (hblank c hc) hd
  · intro d hd
    obtain ⟨c, _, hd⟩ := List.mem_flatMap.1 hd
    exact capital_of_mem_capital hd

theorem IsCapitalWord.capitals_eq {word : List Char} (h : IsCapitalWord word) :
    capitals word = word := capitals_of_forall h.2

end CronSchedule.Text

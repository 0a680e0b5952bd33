import CronSchedule.Proofs.Pattern.Label
import CronSchedule.Proofs.Schedule.WellFormed
import CronSchedule.Proofs.Text.Separated

/-!
# What the tree of a schedule shows

Each line of the tree is a branch and the caption of one pattern. The length of
the branch tells how deep the pattern lies, and the patterns come in the order in
which each stands right before those inside it (`map_readLine_treeLines`).

The label of a pattern tells how many patterns are inside it, so the labels in
this order determine the patterns (`nodes_label_inj`). Hence equal trees are
those of schedules with equal patterns (`tree_shows_every_pattern`).
-/

set_option autoImplicit false

namespace CronSchedule

/-! ## The patterns inside a pattern -/

namespace Pattern

variable {field : Field} {pattern : Pattern}

theorem sizeOf_lt_of_mem_children {child : Pattern} (h : child ∈ pattern.children) :
    sizeOf child < sizeOf pattern := by
  cases pattern with
  | step base interval =>
    rw [List.mem_singleton.1 h, step.sizeOf_spec]
    omega
  | list children =>
    have hlt := List.sizeOf_lt_of_mem h
    rw [list.sizeOf_spec]
    exact Nat.lt_add_left 1 hlt
  | _ => cases h

/-- What holds of a pattern whenever it holds of the patterns directly inside it holds of every
pattern. -/
theorem induction_children {motive : Pattern → Prop}
    (h : ∀ pattern, (∀ child ∈ pattern.children, motive child) → motive pattern)
    (pattern : Pattern) : motive pattern :=
  h pattern fun child hchild =>
    have := sizeOf_lt_of_mem_children hchild
    induction_children h child
termination_by sizeOf pattern

theorem WellFormed.child (h : WellFormed field pattern) {child : Pattern}
    (hchild : child ∈ pattern.children) : WellFormed field child := by
  cases h with
  | step _ _ _ hbase => rwa [List.mem_singleton.1 hchild]
  | list _ _ hchildren => exact hchildren child hchild
  | _ => cases hchild

mutual

/-- The pattern and all patterns inside it, each with its depth and before those inside it. -/
def nodes (depth : Nat) : Pattern → List (Nat × Pattern)
  | .step base interval => (depth, .step base interval) :: nodes (depth + 1) base
  | .list children => (depth, .list children) :: nodesOfAll (depth + 1) children
  | pattern => [(depth, pattern)]

/-- The patterns of a list and all patterns inside them. -/
def nodesOfAll (depth : Nat) : List Pattern → List (Nat × Pattern)
  | [] => []
  | child :: others => nodes depth child ++ nodesOfAll depth others

end

theorem nodesOfAll_eq_flatMap (depth : Nat) (children : List Pattern) :
    nodesOfAll depth children = children.flatMap (nodes depth) := by
  induction children with
  | nil => rfl
  | cons child others ih => rw [nodesOfAll, ih, List.flatMap_cons]

theorem nodes_eq (depth : Nat) (pattern : Pattern) : pattern.nodes depth =
    (depth, pattern) :: pattern.children.flatMap (nodes (depth + 1)) := by
  cases pattern with
  | step base interval => rw [nodes, children, List.flatMap_singleton]
  | list children => rw [nodes, nodesOfAll_eq_flatMap, Pattern.children]
  | _ => rfl

theorem depth_le_of_mem_nodes (pattern : Pattern) :
    ∀ depth, ∀ node ∈ pattern.nodes depth, depth ≤ node.1 := by
  induction pattern using induction_children with
  | h pattern ih =>
    intro depth node hnode
    rw [nodes_eq] at hnode
    rcases List.mem_cons.1 hnode with rfl | hinside
    · exact Nat.le_refl _
    · obtain ⟨child, hchild, hnode⟩ := List.mem_flatMap.1 hinside
      exact Nat.le_of_succ_le (ih child hchild (depth + 1) node hnode)

/-! ## The labels determine the pattern -/

/-- The labels of patterns. -/
def labels (nodes : List (Nat × Pattern)) : List String := nodes.map fun node => node.2.label

theorem labels_append (nodes others : List (Nat × Pattern)) :
    labels (nodes ++ others) = labels nodes ++ labels others :=
  List.map_append

theorem labels_nodes (depth : Nat) (pattern : Pattern) : labels (pattern.nodes depth) =
    pattern.label :: labels (pattern.children.flatMap (nodes (depth + 1))) := by
  rw [nodes_eq]
  rfl

/-- Whatever follows the labels of the pattern and the patterns inside it, they are the labels of
no other pattern of the field. -/
def ReadBack (field : Field) (pattern : Pattern) : Prop :=
  ∀ ⦃depth other rest after⦄, WellFormed field other →
    labels (pattern.nodes depth) ++ rest = labels (other.nodes depth) ++ after →
    pattern = other ∧ rest = after

theorem readBack_list {children : List Pattern} (h : ∀ child ∈ children, ReadBack field child)
    {depth : Nat} {others : List Pattern} {rest after : List String}
    (hothers : ∀ other ∈ others, WellFormed field other) (hlength : children.length = others.length)
    (hlabels : labels (children.flatMap (nodes depth)) ++ rest =
      labels (others.flatMap (nodes depth)) ++ after) :
    children = others ∧ rest = after := by
  induction children generalizing others with
  | nil =>
    cases others with
    | nil => exact ⟨rfl, hlabels⟩
    | cons => cases hlength
  | cons child children ih =>
    cases others with
    | nil => cases hlength
    | cons other others =>
      rw [List.flatMap_cons, List.flatMap_cons, labels_append, labels_append, List.append_assoc,
        List.append_assoc] at hlabels
      obtain ⟨rfl, hothersLabels⟩ :=
        h child List.mem_cons_self (hothers other List.mem_cons_self) hlabels
      obtain ⟨rfl, hrest⟩ := ih (fun child hchild => h child (List.mem_cons_of_mem _ hchild))
        (fun other hother => hothers other (List.mem_cons_of_mem _ hother))
        (Nat.succ.inj hlength) hothersLabels
      exact ⟨rfl, hrest⟩

theorem readBack (pattern : Pattern) : WellFormed field pattern → ReadBack field pattern := by
  induction pattern using induction_children with
  | h pattern ih =>
    intro hpattern depth other rest after hother h
    rw [labels_nodes, labels_nodes, List.cons_append, List.cons_append, List.cons.injEq] at h
    obtain ⟨hlabel, hinside⟩ := h
    have hchildren : ∀ child ∈ pattern.children, ReadBack field child :=
      fun child hchild => ih child hchild (hpattern.child hchild)
    -- the two differ at most in their children, and these are told apart by what follows
    cases sameNode_of_label hpattern hother hlabel with
    | refl => exact ⟨rfl, List.append_cancel_left hinside⟩
    | step base otherBase interval =>
      obtain ⟨hbase, hrest⟩ :=
        readBack_list hchildren (fun _ => hother.child) rfl hinside
      cases hbase
      exact ⟨rfl, hrest⟩
    | list hlength =>
      obtain ⟨rfl, hrest⟩ := readBack_list hchildren (fun _ => hother.child) hlength hinside
      exact ⟨rfl, hrest⟩

end Pattern

/-! ## Reading a line -/

namespace Schedule

open Pattern (WellFormed nodes nodes_eq labels)
open Text (StopsAt)

/-- The characters that branches and indents are drawn with. -/
def rails : List Char := ['┌', '├', '└', '│', '─', ' ']

/-- Is the character one that branches and indents are drawn with? -/
def isRail (c : Char) : Bool := rails.contains c

/-- The length of the branch that a line starts with, and the caption after it. -/
def readLine (line : String) : Nat × List Char :=
  ((line.toList.takeWhile isRail).length, line.toList.dropWhile isRail)

/-- The text is drawn with so many characters of branches and indents. -/
def IsBranch (length : Nat) (text : String) : Prop :=
  text.toList.length = length ∧ text.toList.all isRail = true

instance (length : Nat) (text : String) : Decidable (IsBranch length text) :=
  inferInstanceAs (Decidable (_ ∧ _))

theorem IsBranch.append {n m : Nat} {text other : String} (h : IsBranch n text)
    (hother : IsBranch m other) : IsBranch (n + m) (text ++ other) := by
  constructor
  · rw [String.toList_append, List.length_append, h.1, hother.1]
  · rw [String.toList_append, List.all_append, h.2, hother.2, Bool.and_self]

theorem readLine_append {n : Nat} {branch caption : String} (h : IsBranch n branch)
    (hcaption : StopsAt isRail caption.toList) :
    readLine (branch ++ caption) = (n, caption.toList) := by
  have htake := Text.takeWhile_append (List.all_eq_true.1 h.2) hcaption
  have hdrop := Text.dropWhile_append (List.all_eq_true.1 h.2) hcaption
  rw [readLine, String.toList_append, htake, hdrop, h.1]

/-! ## Captions -/

theorem isRail_of_isAlpha {c : Char} (h : c.isAlpha = true) : isRail c = false := by
  have hletters : rails.all (fun c => !c.isAlpha) = true := by decide
  rw [← Bool.not_eq_true, isRail, List.contains_iff_mem]
  intro hmem
  have hc := List.all_eq_true.1 hletters c hmem
  rw [h] at hc
  cases hc

/-- A label starts with a letter. -/
theorem stopsAt_label (pattern : Pattern) : StopsAt isRail pattern.label.toList := by
  have hname := Pattern.takeWhile_label pattern
  cases hlabel : pattern.label.toList with
  | nil => rfl
  | cons c rest =>
    rw [hlabel, List.takeWhile_cons] at hname
    split at hname
    · next hletter => exact isRail_of_isAlpha hletter
    · have hempty : ∀ form, [] ≠ (Pattern.Form.name form).toList := by
        intro form
        cases form <;> decide
      exact absurd hname (hempty _)

theorem newline_not_mem_number {before after : String} (hbefore : '\n' ∉ before.toList)
    (hafter : '\n' ∉ after.toList) (n : Nat) :
    '\n' ∉ (before ++ toString n ++ after).toList := by
  rw [Pattern.toList_number, List.mem_append, List.mem_append, not_or, not_or]
  refine ⟨hbefore, fun hdigit => ?_, hafter⟩
  have hisDigit := (Numeral.writes_digits n).isDigit hdigit
  cases hisDigit

theorem newline_not_mem_label (pattern : Pattern) : '\n' ∉ pattern.label.toList := by
  have hend : '\n' ∉ ")".toList := by decide
  cases pattern with
  | wildcard | unspecified | lastWeekday => decide
  | single value => exact newline_not_mem_number (by decide) hend value
  | step base interval => exact newline_not_mem_number (by decide) hend interval
  | list children => exact newline_not_mem_number (by decide) hend children.length
  | nearestWeekday day => exact newline_not_mem_number (by decide) hend day
  | nth weekday count =>
    exact newline_not_mem_number (newline_not_mem_number (by decide) (by decide) weekday) hend count
  | range low high wrapped =>
    rw [Pattern.label_range]
    apply newline_not_mem_number (newline_not_mem_number (by decide) (by decide) low)
    cases wrapped <;> decide
  | last offset weekday =>
    cases weekday with
    | none => exact newline_not_mem_number (by decide) hend offset
    | some weekday => exact newline_not_mem_number (by decide) hend weekday

/-! ## The lines of the tree -/

/-- What is read off the line for a pattern. -/
def nodeLine (node : Nat × Pattern) : Nat × List Char := (3 * (node.1 + 1), node.2.label.toList)

theorem linesInside_eq (indent : String) (pattern : Pattern) :
    linesInside indent pattern = linesOfAll indent pattern.children := by
  cases pattern with
  | step base interval =>
    rw [linesInside, Pattern.children, linesOfAll, linesOfAll, List.append_nil]
    rfl
  | list children => rw [linesInside, Pattern.children]
  | _ => rfl

theorem map_readLine_linesOfAll {children : List Pattern} {depth : Nat} {indent : String}
    (ih : ∀ child ∈ children, ∀ depth indent, IsBranch (3 * depth) indent →
      (linesInside indent child).map readLine =
        (child.children.flatMap (nodes depth)).map nodeLine)
    (hindent : IsBranch (3 * depth) indent) :
    (linesOfAll indent children).map readLine = (children.flatMap (nodes depth)).map nodeLine := by
  induction children with
  | nil => rfl
  | cons child others hothers =>
    have hbranch : IsBranch 3 (if others.isEmpty then "└─ " else "├─ ") := by
      split <;> decide
    have hrail : IsBranch 3 (if others.isEmpty then "   " else "│  ") := by
      split <;> decide
    have hdeeper : IsBranch (3 * (depth + 1)) (indent ++ if others.isEmpty then "   " else "│  ") :=
      hindent.append hrail
    have hline := readLine_append (hindent.append hbranch) (stopsAt_label child)
    have hinside := ih child List.mem_cons_self _ _ hdeeper
    rw [linesOfAll, List.map_append, List.map_cons, hline, hinside,
      hothers fun other hother => ih other (List.mem_cons_of_mem _ hother),
      List.flatMap_cons, nodes_eq, List.map_append, List.map_cons]
    rfl

theorem map_readLine_linesInside (pattern : Pattern) :
    ∀ depth indent, IsBranch (3 * depth) indent → (linesInside indent pattern).map readLine =
      (pattern.children.flatMap (nodes depth)).map nodeLine := by
  induction pattern using Pattern.induction_children with
  | h pattern ih =>
    intro depth indent hindent
    rw [linesInside_eq]
    exact map_readLine_linesOfAll ih hindent

/-- The depth of a pattern of the field and its caption, which for the pattern of the field itself
starts with the name of the field. -/
def captioned (field : Field) (node : Nat × Pattern) : Nat × String :=
  (node.1, if node.1 = 0 then field.name ++ ": " ++ node.2.label else node.2.label)

/-- The patterns of all fields and the patterns inside them, with their depths and captions. -/
def treeNodes (schedule : Schedule) : List (Nat × String) :=
  Field.all.flatMap fun field => ((schedule.pattern field).nodes 0).map (captioned field)

theorem map_captioned_nodes (field : Field) (pattern : Pattern) :
    (pattern.nodes 0).map (captioned field) = (0, field.name ++ ": " ++ pattern.label) ::
      (pattern.children.flatMap (nodes 1)).map fun node => (node.1, node.2.label) := by
  rw [nodes_eq, List.map_cons]
  refine congrArg₂ List.cons (by rw [captioned, if_pos rfl]) (List.map_congr_left ?_)
  intro node hnode
  obtain ⟨child, -, hnode⟩ := List.mem_flatMap.1 hnode
  have hdepth : node.1 ≠ 0 := Nat.ne_of_gt (Pattern.depth_le_of_mem_nodes child 1 node hnode)
  rw [captioned, if_neg hdepth]

/-- What is read off the line for a caption. -/
def captionLine (node : Nat × String) : Nat × List Char := (3 * (node.1 + 1), node.2.toList)

theorem captionLine_injective : Function.Injective captionLine := by
  rintro ⟨depth, caption⟩ ⟨otherDepth, otherCaption⟩ h
  obtain ⟨hlength, htext⟩ := Prod.mk.inj h
  rw [Prod.mk.injEq]
  exact ⟨by omega, String.toList_injective htext⟩

theorem map_readLine_fieldLines (schedule : Schedule) (field : Field) :
    (schedule.fieldLines field).map readLine =
      (((schedule.pattern field).nodes 0).map (captioned field)).map captionLine := by
  have hbranch : IsBranch 3 (fieldBranch field) := by cases field <;> decide
  have hindent : IsBranch (3 * 1) (fieldIndent field) := by cases field <;> decide
  have hname : StopsAt isRail (field.name ++ ": " ++ (schedule.pattern field).label).toList := by
    rw [String.toList_append, String.toList_append, List.append_assoc]
    cases field <;> rfl
  have hline := readLine_append hbranch hname
  rw [← String.append_assoc, ← String.append_assoc] at hline
  rw [fieldLines, List.map_cons, hline, map_readLine_linesInside _ 1 _ hindent,
    map_captioned_nodes, List.map_cons, List.map_map]
  rfl

theorem map_readLine_treeLines (schedule : Schedule) :
    schedule.treeLines.map readLine = schedule.treeNodes.map captionLine := by
  rw [treeLines, treeNodes, List.map_flatMap, List.map_flatMap]
  exact List.flatMap_congr fun field _ => map_readLine_fieldLines schedule field

/-! ## The text of the tree -/

theorem toList_intercalate_newline (lines : List String) :
    (String.intercalate "\n" lines).toList = Text.joinWith '\n' (lines.map String.toList) := by
  induction lines with
  | nil => rfl
  | cons first others ih =>
    by_cases hothers : others = []
    · subst hothers
      rw [String.intercalate_singleton]
      rfl
    · have hne : others.map String.toList ≠ [] := mt List.map_eq_nil_iff.1 hothers
      rw [String.intercalate_cons_of_ne_nil hothers, String.toList_append, String.toList_append, ih,
        List.map_cons, Text.joinWith_cons hne, List.append_assoc]
      rfl

theorem newline_not_mem_caption {schedule : Schedule} {node : Nat × String}
    (h : node ∈ schedule.treeNodes) : '\n' ∉ node.2.toList := by
  obtain ⟨field, -, hnode⟩ := List.mem_flatMap.1 h
  obtain ⟨inner, -, rfl⟩ := List.mem_map.1 hnode
  have hlabel := newline_not_mem_label inner.2
  have hname : '\n' ∉ (field.name ++ ": ").toList := by cases field <;> decide
  rw [captioned]
  split
  · rw [String.toList_append, List.mem_append, not_or]
    exact ⟨hname, hlabel⟩
  · exact hlabel

theorem newline_not_mem_treeLines {schedule : Schedule} {line : String}
    (h : line ∈ schedule.treeLines) : '\n' ∉ line.toList := by
  have hread := List.mem_map_of_mem (f := readLine) h
  rw [map_readLine_treeLines] at hread
  obtain ⟨node, hnode, hline⟩ := List.mem_map.1 hread
  have hcaption : node.2.toList = line.toList.dropWhile isRail := congrArg Prod.snd hline
  rw [← List.takeWhile_append_dropWhile (p := isRail) (l := line.toList), List.mem_append, not_or]
  refine ⟨fun hbranch => ?_, ?_⟩
  · have hrail := List.all_eq_true.1 List.all_takeWhile _ hbranch
    cases hrail
  · rw [← hcaption]
    exact newline_not_mem_caption hnode

/-- Cutting the text of the tree at its line ends gives its lines. -/
theorem splitAt_tree (schedule : Schedule) :
    Text.splitAt '\n' schedule.tree.toList = schedule.treeLines.map String.toList := by
  rw [tree, toList_intercalate_newline]
  apply Text.splitAt_joinWith
  · exact List.cons_ne_nil _ _
  · intro line hline
    obtain ⟨text, htext, rfl⟩ := List.mem_map.1 hline
    exact newline_not_mem_treeLines htext

/-- What is read off the lines of a text. -/
def readTree (text : String) : List (Nat × List Char) :=
  (Text.splitAt '\n' text.toList).map fun line => readLine (String.ofList line)

theorem readTree_tree (schedule : Schedule) :
    readTree schedule.tree = schedule.treeNodes.map captionLine := by
  have hcomp : (fun line => readLine (String.ofList line)) ∘ String.toList = readLine := by
    funext line
    exact congrArg readLine String.ofList_toList
  rw [readTree, splitAt_tree, List.map_map, hcomp, map_readLine_treeLines]

/-! ## Patterns read back -/

section ReadBack

variable {schedule other : Schedule}

theorem map_snd_captioned_nodes (field : Field) (pattern : Pattern) :
    ((pattern.nodes 0).map (captioned field)).map Prod.snd =
      (field.name ++ ": " ++ pattern.label) :: labels (pattern.children.flatMap (nodes 1)) := by
  rw [map_captioned_nodes, List.map_cons, List.map_map]
  rfl

/-- The captions of some fields determine the patterns of these fields. -/
theorem patterns_of_captions (h : schedule.Compiled) (hother : other.Compiled) {fields : List Field}
    (hcaptions : fields.flatMap (fun field =>
        (((schedule.pattern field).nodes 0).map (captioned field)).map Prod.snd) =
      fields.flatMap fun field =>
        (((other.pattern field).nodes 0).map (captioned field)).map Prod.snd) :
    ∀ field ∈ fields, schedule.pattern field = other.pattern field := by
  induction fields with
  | nil => nofun
  | cons first fields ih =>
    rw [List.flatMap_cons, List.flatMap_cons, map_snd_captioned_nodes, map_snd_captioned_nodes,
      List.cons_append, List.cons_append, List.cons.injEq] at hcaptions
    obtain ⟨hroot, hinside⟩ := hcaptions
    have hlabel : (schedule.pattern first).label = (other.pattern first).label :=
      String.append_right_inj _ |>.1 hroot
    have hlabels := congrArg₂ List.cons hlabel hinside
    rw [← List.cons_append, ← List.cons_append, ← Pattern.labels_nodes, ← Pattern.labels_nodes]
      at hlabels
    obtain ⟨hfirst, hrest⟩ :=
      Pattern.readBack _ (h.wellFormed first) (hother.wellFormed first) hlabels
    intro field hfield
    rcases List.mem_cons.1 hfield with rfl | hfield
    · exact hfirst
    · exact ih hrest field hfield

/-- Each line of the tree of a compiled schedule is read as the depth of one pattern and its
caption, with the patterns of the fields one after another and each before those inside it. The
trees of two compiled schedules are equal exactly if their patterns are. -/
theorem tree_shows_every_pattern (h : schedule.Compiled) :
    readTree schedule.tree = schedule.treeNodes.map captionLine ∧
      ∀ other : Schedule, other.Compiled →
        (other.tree = schedule.tree ↔ other.patterns = schedule.patterns) := by
  refine ⟨readTree_tree schedule, fun other hother => ⟨fun htree => ?_, fun hpatterns => ?_⟩⟩
  · have hread := congrArg readTree htree
    rw [readTree_tree, readTree_tree] at hread
    have hnodes : other.treeNodes = schedule.treeNodes :=
      List.map_injective_iff.2 captionLine_injective hread
    have hcaptions := congrArg (List.map Prod.snd) hnodes
    rw [treeNodes, treeNodes, List.map_flatMap, List.map_flatMap] at hcaptions
    apply PerField.ext_get
    intro field
    exact patterns_of_captions hother h hcaptions field (Field.mem_all field)
  · rw [tree, tree, treeLines, treeLines]
    refine congrArg _ (List.flatMap_congr fun field _ => ?_)
    rw [fieldLines, fieldLines, pattern, pattern, hpatterns]

/-- A quarter of an hour is one pattern inside another, and two weekdays are two. Names of weekdays
give the same tree as their numbers. -/
theorem tree_shows_every_pattern_of_quarters_on_two_weekdays :
    ∃ schedule other, compile ⟨0, none⟩ "0 */15 9 ? * 1,3 *" .unset = .ok schedule ∧
      compile ⟨0, none⟩ "0 */15 9 ? * MON,WED *" .unset = .ok other ∧
      readTree schedule.tree = [(3, "second: Single(0)".toList), (3, "minute: Step(/15)".toList),
        (6, "Wildcard".toList), (3, "hour: Single(9)".toList), (3, "dom: Unspecified".toList),
        (3, "month: Wildcard".toList), (3, "dow: List(2)".toList), (6, "Single(1)".toList),
        (6, "Single(3)".toList), (3, "year: Wildcard".toList)] ∧
      other.patterns = schedule.patterns := by
  obtain ⟨schedule, hcompile, compiled, h⟩ := exists_compiled ⟨0, none⟩ "0 */15 9 ? * 1,3 *" .unset
    (fun schedule => (schedule.tree, schedule.treeNodes))
    (show _ = some (String.intercalate "\n" ["┌─ second: Single(0)", "├─ minute: Step(/15)",
        "│  └─ Wildcard", "├─ hour: Single(9)", "├─ dom: Unspecified", "├─ month: Wildcard",
        "├─ dow: List(2)", "│  ├─ Single(1)", "│  └─ Single(3)", "└─ year: Wildcard"],
      [(0, "second: Single(0)"), (0, "minute: Step(/15)"), (1, "Wildcard"), (0, "hour: Single(9)"),
        (0, "dom: Unspecified"), (0, "month: Wildcard"), (0, "dow: List(2)"), (1, "Single(1)"),
        (1, "Single(3)"), (0, "year: Wildcard")]) by decide +kernel)
  obtain ⟨other, hcompile', compiled', htree'⟩ := exists_compiled ⟨0, none⟩
    "0 */15 9 ? * MON,WED *" .unset tree
    (show _ = some (String.intercalate "\n" ["┌─ second: Single(0)", "├─ minute: Step(/15)",
        "│  └─ Wildcard", "├─ hour: Single(9)", "├─ dom: Unspecified", "├─ month: Wildcard",
        "├─ dow: List(2)", "│  ├─ Single(1)", "│  └─ Single(3)", "└─ year: Wildcard"])
      by decide +kernel)
  obtain ⟨htree, hnodes⟩ := Prod.mk.inj h
  obtain ⟨hread, hsame⟩ := tree_shows_every_pattern compiled
  refine ⟨schedule, other, hcompile, hcompile', ?_, (hsame other compiled').1 ?_⟩
  · rw [hread, hnodes]
    rfl
  · rw [htree, htree']

end ReadBack

end Schedule

end CronSchedule

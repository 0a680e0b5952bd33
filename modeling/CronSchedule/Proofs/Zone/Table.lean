import CronSchedule.Proofs.Zone.Clock
import CronSchedule.Zone.Registry
import Mathlib.Data.List.Chain

/-!
# Tables of offsets

The instants that a table gives for a wall-clock time are those at which its
offset shows that time, provided that its changes ascend
(`ZoneTable.faithful_of_spaced`). They do so in every zone of the registry
(`ZoneTable.faithful_of_find?`).
-/

set_option autoImplicit false

namespace CronSchedule

/-! ## Between two changes -/

/-- Does the instant not lie before the start of a stretch, if it has one? -/
def FromStart (start : Option Int) (epoch : Int) : Prop := ∀ first, start = some first → first ≤ epoch

variable {epoch seconds offset : Int} {start : Option Int} {changes : List OffsetChange}

theorem all_iff_fromStart : start.all (· ≤ epoch) = true ↔ FromStart start epoch := by
  rw [Option.all_eq_true]
  exact forall₂_congr fun _ _ => decide_eq_true_iff

theorem mem_epochsShowing_cons {change : OffsetChange} {later : List OffsetChange} :
    epoch ∈ epochsShowing seconds start offset (change :: later) ↔
      (FromStart start (seconds - offset) ∧ seconds - offset < change.epoch ∧
        epoch = seconds - offset) ∨
      epoch ∈ epochsShowing seconds (some change.epoch) change.offset later := by
  rw [epochsShowing]
  split
  case isTrue hcond =>
    rw [Bool.and_eq_true, all_iff_fromStart, decide_eq_true_eq] at hcond
    rw [List.mem_cons]
    exact or_congr_left ⟨fun h => ⟨hcond.1, hcond.2, h⟩, fun h => h.2.2⟩
  case isFalse hcond =>
    rw [Bool.and_eq_true, all_iff_fromStart, decide_eq_true_eq] at hcond
    exact ⟨.inr, fun h => h.resolve_left fun h => hcond ⟨h.1, h.2.1⟩⟩

/-- The instants at which clocks show some seconds are those from the start on at which the offset
leads to them. -/
theorem mem_epochsShowing_iff (h : changes.Pairwise fun a b => a.epoch < b.epoch)
    (hstart : ∀ change ∈ changes, FromStart start change.epoch) :
    epoch ∈ epochsShowing seconds start offset changes ↔
      FromStart start epoch ∧ epoch + offsetAfter epoch offset changes = seconds := by
  induction changes generalizing start offset with
  | nil =>
    rw [epochsShowing, offsetAfter]
    split
    case isTrue hfrom =>
      rw [all_iff_fromStart] at hfrom
      rw [List.mem_singleton]
      constructor
      · rintro rfl
        exact ⟨hfrom, by omega⟩
      · rintro ⟨-, hseconds⟩
        omega
    case isFalse hfrom =>
      rw [all_iff_fromStart] at hfrom
      constructor
      · intro hmem
        cases hmem
      · rintro ⟨hepoch, hseconds⟩
        rw [show seconds - offset = epoch by omega] at hfrom
        exact absurd hepoch hfrom
  | cons change later ih =>
    obtain ⟨hnext, hlater⟩ := List.pairwise_cons.1 h
    -- from the change on, the later stretch is one that starts at it
    have hrest : epoch ∈ epochsShowing seconds (some change.epoch) change.offset later ↔
        change.epoch ≤ epoch ∧ epoch + offsetAfter epoch change.offset later = seconds := by
      rw [ih hlater fun other hother first hfirst => ?_]
      · simp only [FromStart, Option.some.injEq, forall_eq']
      · cases hfirst
        exact Int.le_of_lt (hnext other hother)
    have hchange := hstart change List.mem_cons_self
    rw [mem_epochsShowing_cons, hrest, offsetAfter]
    -- before the change only the first stretch counts, from it on only the later ones
    by_cases hepoch : epoch < change.epoch
    · rw [if_pos hepoch]
      constructor
      · rintro (⟨hfrom, -, rfl⟩ | ⟨hge, -⟩)
        · exact ⟨hfrom, by omega⟩
        · omega
      · rintro ⟨hfrom, hseconds⟩
        obtain rfl : epoch = seconds - offset := by omega
        exact .inl ⟨hfrom, hepoch, rfl⟩
    · rw [if_neg hepoch]
      constructor
      · rintro (⟨-, hlt, rfl⟩ | ⟨hge, hseconds⟩)
        · exact absurd hlt hepoch
        · exact ⟨fun first hfirst => Int.le_trans (hchange first hfirst) hge, hseconds⟩
      · rintro ⟨-, hseconds⟩
        exact .inr ⟨Int.not_lt.1 hepoch, hseconds⟩

theorem pairwise_epochsShowing (h : changes.Pairwise fun a b => a.epoch < b.epoch) :
    (epochsShowing seconds start offset changes).Pairwise (· < ·) := by
  induction changes generalizing start offset with
  | nil =>
    rw [epochsShowing]
    split
    · exact List.pairwise_singleton _ _
    · exact List.Pairwise.nil
  | cons change later ih =>
    obtain ⟨hnext, hlater⟩ := List.pairwise_cons.1 h
    rw [epochsShowing]
    split
    case isTrue hcond =>
      rw [Bool.and_eq_true, decide_eq_true_eq] at hcond
      -- the instant of this stretch lies before the change, those of the later ones do not
      refine List.pairwise_cons.2 ⟨?_, ih hlater⟩
      intro other hother
      rw [mem_epochsShowing_iff hlater fun next hnextMem first hfirst => ?_] at hother
      · exact Int.lt_of_lt_of_le hcond.2 (hother.1 change.epoch rfl)
      · cases hfirst
        exact Int.le_of_lt (hnext next hnextMem)
    case isFalse => exact ih hlater

/-! ## The offsets of a table -/

theorem offsetAfter_mem (epoch offset : Int) (changes : List OffsetChange) :
    offsetAfter epoch offset changes ∈ offset :: changes.map (·.offset) := by
  induction changes generalizing offset with
  | nil => exact List.mem_cons_self
  | cons change later ih =>
    rw [offsetAfter]
    split
    · exact List.mem_cons_self
    · exact List.mem_cons_of_mem _ (ih change.offset)

theorem exists_change_of_ne (h : offsetAfter (epoch - 1) offset changes ≠
    offsetAfter epoch offset changes) : ∃ change ∈ changes, change.epoch = epoch := by
  induction changes generalizing offset with
  | nil => exact absurd rfl h
  | cons change later ih =>
    rw [offsetAfter, offsetAfter] at h
    -- the head is passed between the two instants, or the rest of the table decides
    by_cases hbefore : epoch - 1 < change.epoch
    · by_cases hstill : epoch < change.epoch
      · rw [if_pos hbefore, if_pos hstill] at h
        exact absurd rfl h
      · exact ⟨change, List.mem_cons_self, by omega⟩
    · rw [if_neg hbefore, if_neg (by omega)] at h
      obtain ⟨other, hother, hepoch⟩ := ih h
      exact ⟨other, List.mem_cons_of_mem _ hother, hepoch⟩

namespace ZoneTable

variable {table : ZoneTable}

/-- All offsets of a table. -/
def offsets (table : ZoneTable) : List Int := table.initial :: table.changes.map (·.offset)

theorem offsetAt_mem (epoch : Int) : (Zone.named table).offsetAt epoch ∈ table.offsets :=
  offsetAfter_mem epoch table.initial table.changes

/-- The offset changes only where the table says so. -/
theorem exists_of_changesAt (h : (Zone.named table).ChangesAt epoch) :
    ∃ change ∈ table.changes, change.epoch = epoch :=
  exists_change_of_ne h

/-- Does a change come more than so many seconds before another one? -/
def Precedes (gap : Nat) (a b : OffsetChange) : Prop := a.epoch + (gap : Int) < b.epoch

instance (gap : Nat) : DecidableRel (Precedes gap) :=
  fun a b => inferInstanceAs (Decidable (a.epoch + (gap : Int) < b.epoch))

instance (gap : Nat) : Trans (Precedes gap) (Precedes gap) (Precedes gap) :=
  ⟨fun hab hbc => by
    rw [Precedes] at *
    omega⟩

/-- Does each change come more than so many seconds after the ones before it? -/
def Spaced (table : ZoneTable) (gap : Nat) : Prop := table.changes.Pairwise (Precedes gap)

-- neighbours decide, since the relation is transitive
instance (table : ZoneTable) (gap : Nat) : Decidable (table.Spaced gap) :=
  decidable_of_iff (table.changes.IsChain (Precedes gap)) List.isChain_iff_pairwise

theorem Spaced.ascending {gap : Nat} (h : table.Spaced gap) :
    table.changes.Pairwise fun a b => a.epoch < b.epoch :=
  h.imp fun hab => by
    rw [Precedes] at hab
    omega

/-- Any two changes of a table stand as far apart as neighbours do. -/
theorem Spaced.precedes {gap : Nat} (h : table.Spaced gap) {a b : OffsetChange}
    (ha : a ∈ table.changes) (hb : b ∈ table.changes) (hlt : a.epoch < b.epoch) :
    Precedes gap a b := by
  -- whichever of the two stands first in the table, the order of the instants decides
  have hforward : table.changes.Pairwise fun x y => x.epoch < y.epoch → Precedes gap x y := by
    apply h.imp
    intro x y hxy _
    exact hxy
  have hbackward : table.changes.Pairwise
      (flip fun x y => x.epoch < y.epoch → Precedes gap x y) := by
    apply h.imp
    intro x y hxy hyx
    rw [Precedes] at hxy
    omega
  exact List.Pairwise.forall_of_forall_of_flip (fun x _ hx => absurd hx (Int.lt_irrefl _)) hforward
    hbackward ha hb hlt

/-- If its changes ascend, a time denotes exactly the instants at which the table shows it. -/
theorem Spaced.mem_toEpochs_iff {gap : Nat} (h : table.Spaced gap) {time : LocalTime} :
    epoch ∈ (Zone.named table).toEpochs time ↔ (Zone.named table).toLocal? epoch = some time := by
  -- the first stretch has no start, so it takes in all instants before the first change
  have hmem : epoch ∈ epochsShowing time.seconds none table.initial table.changes ↔
      time.seconds = (Zone.named table).clock epoch := by
    rw [mem_epochsShowing_iff h.ascending fun _ _ first hfirst => by cases hfirst]
    refine ⟨fun hshown => hshown.2.symm, fun hshown => ⟨?_, hshown.symm⟩⟩
    intro first hfirst
    cases hfirst
  rw [Zone.toEpochs, epochsOf, List.mem_filter, hmem, Zone.toLocal?_eq_some_iff]
  exact And.comm

theorem Spaced.pairwise_toEpochs {gap : Nat} (h : table.Spaced gap) (time : LocalTime) :
    ((Zone.named table).toEpochs time).Pairwise (· < ·) :=
  (pairwise_epochsShowing h.ascending).filter _

/-- A table whose changes ascend is faithful. -/
theorem faithful_of_spaced {gap : Nat} (h : table.Spaced gap) : (Zone.named table).Faithful where
  mem_toEpochs_iff := fun _ _ _ => h.mem_toEpochs_iff
  ascending := fun time _ => h.pairwise_toEpochs time

/-- In the zones of the registry, changes stand more than 52 hours apart. -/
theorem spaced_of_mem_registry : ∀ table ∈ registry, table.Spaced 187200 := by
  decide +kernel

/-- The zones of the registry have offsets from -12 to 14 hours. -/
theorem offset_bounds_of_mem_registry :
    ∀ table ∈ registry, ∀ offset ∈ table.offsets, -43200 ≤ offset ∧ offset ≤ 50400 := by
  decide +kernel

/-- The zones of the registry are faithful. -/
theorem faithful_of_find? {name : String} (h : find? name = some table) :
    (Zone.named table).Faithful :=
  faithful_of_spaced (spaced_of_mem_registry table (List.mem_of_find?_eq_some h))

end ZoneTable

end CronSchedule

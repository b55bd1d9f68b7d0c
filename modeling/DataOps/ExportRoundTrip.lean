import DataOps.ExportGroups
/-!
# ExportRoundTrip — from `match` through the tables to the exported rows

`_load_groups` returns the groups of `match` or raises, whatever the cap and the order of the rows (`loadGroups_ok`), and
raises nothing when no pair was cut (`loadGroups_uncut`).  `Clusters` is what `materialize` then relies on: disjoint
groups, each with its canonical row.
-/
namespace DataOps
namespace Export

open Matching

variable {casefold : Str → Str} {t : Table} {ruleSet : Option MatchRuleSetConfig} {limits : MatchLimits}
variable {db : MatchTables} {organizationId : Nat} {matchGroups : List MatchGroupRow}
variable {matchDecisions : List MatchDecisionRow} {k : Nat} {g : Group t.rows.length}

/-! ## Loading -/

theorem members_sorted (hg : (matchRows casefold t ruleSet limits).groups[k]? = some g) :
    (g.memberRowIndices.map Fin.val).Pairwise (· < ·) := by
  obtain ⟨c, -, hmem, -⟩ := component_of_group hg
  rw [hmem]
  exact List.pairwise_map.2 (classOf_sorted _ _)

theorem loadGroup_eq (hmem : ∀ x, x ∈ groupMembers (groupModel db organizationId (g, k))
      (decisionsOf matchDecisions organizationId (groupModel db organizationId (g, k))) ↔
        x ∈ g.memberRowIndices.map Fin.val)
    (hg : (matchRows casefold t ruleSet limits).groups[k]? = some g) :
    loadGroup matchDecisions organizationId (groupModel db organizationId (g, k)) = .ok (groupInput db (g, k)) := by
  have hsorted := members_sorted hg
  have hnd := groupMembers_nodup (groupModel db organizationId (g, k))
    (decisionsOf matchDecisions organizationId (groupModel db organizationId (g, k)))
  have hperm := (List.perm_ext_iff_of_nodup hnd (hsorted.imp (fun h => ne_of_lt h))).2 hmem
  have hlen := hperm.length_eq
  rw [List.length_map] at hlen
  refine loadGroup_eq_ok_iff.2 ⟨hlen, ?_⟩
  rw [insertionSort_eq_of_mem_iff hnd hsorted hmem]
  rfl

/-- **A group is rebuilt whole or not at all.** -/
theorem loadGroup_ok
    (hdecisions : matchDecisions.Perm (db.persist organizationId (matchRows casefold t ruleSet limits)).matchDecisions)
    (hg : (matchRows casefold t ruleSet limits).groups[k]? = some g) {input : GroupInput}
    (h : loadGroup matchDecisions organizationId (groupModel db organizationId (g, k)) = .ok input) :
    input = groupInput db (g, k) := by
  obtain ⟨hlen, -⟩ := loadGroup_eq_ok_iff.1 h
  have hsub : groupMembers (groupModel db organizationId (g, k))
      (decisionsOf matchDecisions organizationId (groupModel db organizationId (g, k))) ⊆
        g.memberRowIndices.map Fin.val := fun x hx => groupMembers_subset hdecisions hg hx
  have hperm := ((groupMembers_nodup _ _).subperm hsub).perm_of_length_le (by rw [List.length_map, hlen]; exact le_refl _)
  rw [loadGroup_eq (fun x => hperm.mem_iff) hg] at h
  exact (Except.ok.inj h).symm

section
variable (hgroups : matchGroups.Perm (db.persist organizationId (matchRows casefold t ruleSet limits)).matchGroups)
  (hdecisions : matchDecisions.Perm (db.persist organizationId (matchRows casefold t ruleSet limits)).matchDecisions)
include hgroups

/-- The rows the query for the groups returns. -/
theorem queried_perm :
    (matchGroups.filter (fun g => g.matchRunId = db.matchRunId ∧ g.organizationId = organizationId)).Perm
      (groupModels db organizationId (matchRows casefold t ruleSet limits).groups) := by
  have h := hgroups.filter (fun g => g.matchRunId = db.matchRunId ∧ g.organizationId = organizationId)
  rwa [persist_groups_filter] at h

include hdecisions

/-- **`_load_groups` returns the groups of `match`**, or raises. -/
theorem loadGroups_ok {groups : List GroupInput}
    (h : loadGroups matchGroups matchDecisions organizationId db.matchRunId = .ok groups) :
    groups.Perm ((matchRows casefold t ruleSet limits).groups.zipIdx.map (groupInput db)) := by
  obtain ⟨inputs, hinputs, hperm⟩ :=
    List.perm_comp_forall₂ (queried_perm hgroups).symm (mapM_eq_ok_iff.1 h)
  have heq : inputs = (matchRows casefold t ruleSet limits).groups.zipIdx.map (groupInput db) := by
    unfold groupModels at hinputs
    rw [List.forall₂_map_left_iff] at hinputs
    exact eq_map_of_forall₂ hinputs (fun p hp input hload =>
      loadGroup_ok hdecisions (List.mem_zipIdx_iff_getElem?.1 hp) hload)
  rw [← heq]
  exact hperm.symm

/-- **`_load_groups` raises nothing when no pair was cut.** -/
theorem loadGroups_uncut (hcap : (allDecisions casefold t ruleSet limits).length ≤ limits.maxPersistedDecisions) :
    ∃ groups, loadGroups matchGroups matchDecisions organizationId db.matchRunId = .ok groups := by
  have hrow : ∀ m ∈ matchGroups.filter (fun g => g.matchRunId = db.matchRunId ∧ g.organizationId = organizationId),
      ∃ input, loadGroup matchDecisions organizationId m = .ok input := by
    intro m hm
    obtain ⟨k, g, hg, rfl⟩ := mem_groupModels.1 ((queried_perm hgroups).mem_iff.1 hm)
    refine ⟨_, loadGroup_eq (fun x => ⟨groupMembers_subset hdecisions hg, subset_groupMembers hdecisions hg hcap⟩) hg⟩
  unfold loadGroups
  generalize matchGroups.filter _ = l at hrow
  induction l with
  | nil => exact ⟨[], rfl⟩
  | cons m l ih =>
    obtain ⟨input, hinput⟩ := hrow m List.mem_cons_self
    obtain ⟨inputs, hinputs⟩ := ih (fun m hm => hrow m (List.mem_cons_of_mem _ hm))
    exact ⟨input :: inputs, mapM_eq_ok_iff.2 (.cons hinput (mapM_eq_ok_iff.1 hinputs))⟩

end

/-! ## The rows of the output -/

section
variable {n : Nat} {groups : List (Group n)}

/-- What clustering gives: sets of rows without a common row, each with one of them as canonical row. -/
structure Clusters (groups : List (Group n)) : Prop where
  nodup     : ∀ g ∈ groups, g.memberRowIndices.Nodup
  canonical : ∀ g ∈ groups, g.canonicalRowIndex ∈ g.memberRowIndices
  disjoint  : groups.Pairwise (fun g g' => ∀ i ∈ g.memberRowIndices, i ∉ g'.memberRowIndices)

theorem matchRows_clusters (casefold : Str → Str) (t : Table) (ruleSet : Option MatchRuleSetConfig)
    (limits : MatchLimits) : Clusters (matchRows casefold t ruleSet limits).groups where
  nodup g hg := by
    obtain ⟨k, hk⟩ := List.getElem?_of_mem hg
    obtain ⟨c, -, hmem, -⟩ := component_of_group hk
    rw [hmem]
    exact (classOf_sorted _ _).imp (fun h => ne_of_lt h)
  canonical g hg := by
    obtain ⟨k, hk⟩ := List.getElem?_of_mem hg
    obtain ⟨c, -, -, -, hcanon⟩ := component_of_group hk
    exact hcanon
  disjoint := groups_disjoint _

theorem Clusters.eq_of_mem (h : Clusters groups) {g g' : Group n} (hg : g ∈ groups) (hg' : g' ∈ groups) {i : Fin n}
    (hi : i ∈ g.memberRowIndices) (hi' : i ∈ g'.memberRowIndices) : g = g' := by
  by_contra hne
  have hsymm : Std.Symm (fun g g' : Group n => ∀ i ∈ g.memberRowIndices, i ∉ g'.memberRowIndices) :=
    ⟨fun g g' hdis i hi hi' => hdis i hi' hi⟩
  exact h.disjoint.forall hg hg' hne i hi hi'

/-- A member of a group other than its canonical row. -/
def Removed (groups : List (Group n)) (i : Fin n) : Prop :=
  ∃ g ∈ groups, i ∈ g.memberRowIndices ∧ i ≠ g.canonicalRowIndex

instance (groups : List (Group n)) (i : Fin n) : Decidable (Removed groups i) :=
  inferInstanceAs (Decidable (∃ g ∈ groups, _))

def keptRows (groups : List (Group n)) : List (Fin n) := (List.finRange n).filter (fun i => ¬ Removed groups i)

def removedRows (groups : List (Group n)) : List (Fin n) := (List.finRange n).filter (fun i => Removed groups i)

theorem mem_removedRows {i : Fin n} : i ∈ removedRows groups ↔ Removed groups i := by
  simp [removedRows]

/-- **The rows in no group, and the canonical rows.** -/
theorem Clusters.mem_keptRows (h : Clusters groups) {i : Fin n} :
    i ∈ keptRows groups ↔ (∀ g ∈ groups, i ∉ g.memberRowIndices) ∨ ∃ g ∈ groups, i = g.canonicalRowIndex := by
  have hkept : i ∈ keptRows groups ↔ ¬ Removed groups i := by simp [keptRows]
  rw [hkept]
  constructor
  · intro hrem
    by_cases hin : ∃ g ∈ groups, i ∈ g.memberRowIndices
    · obtain ⟨g, hg, hi⟩ := hin
      refine .inr ⟨g, hg, ?_⟩
      by_contra hne
      exact hrem ⟨g, hg, hi, hne⟩
    · exact .inl (fun g hg hi => hin ⟨g, hg, hi⟩)
  · rintro hin ⟨g, hg, hi, hne⟩
    rcases hin with hout | ⟨g', hg', rfl⟩
    · exact hout g hg hi
    · have heq := h.eq_of_mem hg hg' hi (h.canonical g' hg')
      subst heq
      exact hne rfl

theorem kept_add_removed (groups : List (Group n)) : (keptRows groups).length + (removedRows groups).length = n := by
  have h := List.length_eq_length_filter_add (l := List.finRange n) (fun i => decide (Removed groups i))
  rw [List.length_finRange] at h
  have hkept : keptRows groups = (List.finRange n).filter (fun i => !decide (Removed groups i)) := by
    simp [keptRows]
  rw [hkept, removedRows]
  omega

/-- **Every group removes all its rows but one.** -/
theorem Clusters.removedRows_length (h : Clusters groups) :
    (removedRows groups).length = (groups.map (fun g => g.recordCount - 1)).sum := by
  have hothers : ∀ g ∈ groups, (g.memberRowIndices.erase g.canonicalRowIndex).length = g.recordCount - 1 :=
    fun g hg => List.length_erase_of_mem (h.canonical g hg)
  have hnd : (groups.flatMap (fun g => g.memberRowIndices.erase g.canonicalRowIndex)).Nodup := by
    refine List.nodup_flatMap.2 ⟨fun g hg => (h.nodup g hg).erase _, ?_⟩
    exact h.disjoint.imp (fun hdis i hi hi' => hdis i (List.mem_of_mem_erase hi) (List.mem_of_mem_erase hi'))
  have hperm : (removedRows groups).Perm (groups.flatMap (fun g => g.memberRowIndices.erase g.canonicalRowIndex)) := by
    refine (List.perm_ext_iff_of_nodup ((List.nodup_finRange n).filter _) hnd).2 (fun i => ?_)
    rw [← removedRows, mem_removedRows, List.mem_flatMap]
    refine exists_congr (fun g => and_congr_right (fun hg => ?_))
    rw [(h.nodup g hg).mem_erase_iff, and_comm]
  rw [hperm.length_eq, List.length_flatMap]
  congr 1
  exact List.map_congr_left hothers

end

theorem excludes_groupInput {n : Nat} {db : MatchTables} {g : Group n} {k : Nat} {i : Fin n} :
    (groupInput db (g, k)).Excludes i ↔ i ∈ g.memberRowIndices ∧ i ≠ g.canonicalRowIndex := by
  unfold GroupInput.Excludes groupInput
  simp [Fin.val_inj]

section
variable {groups : List GroupInput}
  (hgroups : groups.Perm ((matchRows casefold t ruleSet limits).groups.zipIdx.map (groupInput db)))
include hgroups

theorem mem_loaded {input : GroupInput} :
    input ∈ groups ↔ ∃ k g, (matchRows casefold t ruleSet limits).groups[k]? = some g ∧ input = groupInput db (g, k) := by
  rw [hgroups.mem_iff]
  exact mem_map_zipIdx

theorem excluded_iff (i : t.RowIndex) :
    (∀ input ∈ groups, ¬ input.Excludes i) ↔ ¬ Removed (matchRows casefold t ruleSet limits).groups i := by
  constructor
  · rintro h ⟨g, hg, hi⟩
    obtain ⟨k, hk⟩ := List.getElem?_of_mem hg
    exact h _ ((mem_loaded hgroups).2 ⟨k, g, hk, rfl⟩) (excludes_groupInput.2 hi)
  · intro h input hinput hex
    obtain ⟨k, g, hk, rfl⟩ := (mem_loaded hgroups).1 hinput
    exact h ⟨g, List.mem_of_getElem? hk, excludes_groupInput.1 hex⟩

/-- **The exported rows are the kept ones**, each once, in order and unchanged. -/
theorem materialize_outputRows (exportLimits : ExportLimits) :
    (materialize t.rows t.headers groups exportLimits).outputRows =
      (keptRows (matchRows casefold t ruleSet limits).groups).map (fun i => outputRow (t.row i) i) := by
  rw [(materialize_spec t.rows t.headers groups exportLimits).1, zipIdx_eq_finRange, List.filter_map, List.map_map]
  have hkept : ∀ i : t.RowIndex, decide (∀ input ∈ groups, ¬ input.Excludes i) =
      decide (¬ Removed (matchRows casefold t ruleSet limits).groups i) := fun i =>
    decide_eq_decide.2 (excluded_iff hgroups i)
  unfold keptRows
  simp only [Function.comp_def, hkept]
  rfl

/-- **The exclusion records name the first removed rows**, in order, each with its group. -/
theorem materialize_exclusions (exportLimits : ExportLimits) :
    List.Forall₂ (fun (i : t.RowIndex) x => ∃ k g, (matchRows casefold t ruleSet limits).groups[k]? = some g ∧
        i ∈ g.memberRowIndices ∧ i ≠ g.canonicalRowIndex ∧ x = rowExclusion i (groupInput db (g, k)))
      ((removedRows (matchRows casefold t ruleSet limits).groups).take exportLimits.maxPersistedExclusions)
      (materialize t.rows t.headers groups exportLimits).exclusions := by
  rw [(materialize_spec t.rows t.headers groups exportLimits).2, zipIdx_eq_finRange, List.filterMap_map]
  have hall := forall₂_filterMap (f := fun i : t.RowIndex =>
    (Dict.get? (excludedByRow groups) i).map (rowExclusion i)) (List.finRange t.rows.length)
  have hremoved : ∀ i : t.RowIndex, ((Dict.get? (excludedByRow groups) i).map (rowExclusion i)).isSome =
      decide (Removed (matchRows casefold t ruleSet limits).groups i) := by
    intro i
    rw [Bool.eq_iff_iff, Option.isSome_map, decide_eq_true_eq, ← not_iff_not, ← excluded_iff hgroups,
      ← (excludedByRow_get? groups i).2, Bool.not_eq_true, Option.isSome_eq_false_iff, Option.isNone_iff_eq_none]
  simp only [hremoved] at hall
  refine (List.forall₂_take _ hall).imp (fun i x hx => ?_)
  obtain ⟨input, hget, rfl⟩ := Option.map_eq_some_iff.1 hx
  obtain ⟨hmem, hex⟩ := (excludedByRow_get? groups i).1 input hget
  obtain ⟨k, g, hk, rfl⟩ := (mem_loaded hgroups).1 hmem
  obtain ⟨hi, hne⟩ := excludes_groupInput.1 hex
  exact ⟨k, g, hk, hi, hne, rfl⟩

end

/-! ## The round trip -/

/-- `match` counts every decision, the cut ones too. -/
theorem decisions_counted :
    (matchRows casefold t ruleSet limits).duplicatePairsCount + (matchRows casefold t ruleSet limits).ambiguousPairsCount =
      (allDecisions casefold t ruleSet limits).length := by
  have hrec := matchState_records casefold t ruleSet limits
  have hdup : (matchRows casefold t ruleSet limits).duplicatePairsCount =
      (allDecisions casefold t ruleSet limits).countP (fun d => d.decision = .duplicate) := hrec.duplicates
  have hamb : (matchRows casefold t ruleSet limits).ambiguousPairsCount =
      (allDecisions casefold t ruleSet limits).countP (fun d => d.decision = .ambiguous) := hrec.ambiguous
  rw [hdup, hamb, List.length_eq_countP_add_countP (fun d : Decision t.rows.length => d.decision = .duplicate)]
  congr 1
  refine List.countP_congr (fun d _ => ?_)
  cases d.decision <;> simp

theorem decisions_length :
    (matchRows casefold t ruleSet limits).decisions.length =
      min limits.maxPersistedDecisions (allDecisions casefold t ruleSet limits).length := by
  rw [matchRows_eq, decisions_eq (matchState_records casefold t ruleSet limits), List.length_map, matchState_decisions,
    List.length_take]

/-- **Match, persist, export.**  Read back in any order of the rows, the tables give the groups of `match` or an error, and
no error when every decision was persisted; and the export has every row outside the groups and the canonical row of
each, once, unchanged and in order, with the other rows of the groups counted and recorded as excluded. -/
theorem match_persist_export (casefold : Str → Str) (t : Table) (ruleSet : Option MatchRuleSetConfig)
    (limits : MatchLimits) (db : MatchTables) (organizationId : Nat) (matchGroups : List MatchGroupRow)
    (matchDecisions : List MatchDecisionRow) (exportLimits : ExportLimits)
    (hgroups : matchGroups.Perm (db.persist organizationId (matchRows casefold t ruleSet limits)).matchGroups)
    (hdecisions :
      matchDecisions.Perm (db.persist organizationId (matchRows casefold t ruleSet limits)).matchDecisions) :
    let result := matchRows casefold t ruleSet limits
    let loaded := loadGroups matchGroups matchDecisions organizationId db.matchRunId
    (result.decisions.length = result.duplicatePairsCount + result.ambiguousPairsCount →
      ∃ groups, loaded = .ok groups) ∧
    ∀ groups, loaded = .ok groups →
      groups.Perm (result.groups.zipIdx.map (groupInput db)) ∧
      let exported := materialize t.rows t.headers groups exportLimits
      ∃ kept removed : List t.RowIndex,
        kept.Pairwise (· < ·) ∧ removed.Pairwise (· < ·) ∧
        (∀ i, i ∈ kept ↔
          (∀ g ∈ result.groups, i ∉ g.memberRowIndices) ∨ ∃ g ∈ result.groups, i = g.canonicalRowIndex) ∧
        (∀ i, i ∈ removed ↔ ∃ g ∈ result.groups, i ∈ g.memberRowIndices ∧ i ≠ g.canonicalRowIndex) ∧
        exported.outputRows = kept.map (fun i => outputRow (t.row i) i) ∧
        exported.rowCount = t.rows.length - (result.groups.map (fun g => g.recordCount - 1)).sum ∧
        exported.excludedRowCount = (result.groups.map (fun g => g.recordCount - 1)).sum ∧
        exported.rowCount + exported.excludedRowCount = t.rows.length ∧
        List.Forall₂ (fun (i : t.RowIndex) x => ∃ k g, result.groups[k]? = some g ∧ i ∈ g.memberRowIndices ∧
            i ≠ g.canonicalRowIndex ∧ x = rowExclusion i (groupInput db (g, k)))
          (removed.take exportLimits.maxPersistedExclusions) exported.exclusions ∧
        exported.exclusions.length = min exportLimits.maxPersistedExclusions exported.excludedRowCount := by
  intro result loaded
  constructor
  · intro huncut
    have hcap : (allDecisions casefold t ruleSet limits).length ≤ limits.maxPersistedDecisions := by
      rw [decisions_counted, decisions_length] at huncut
      omega
    exact loadGroups_uncut hgroups hdecisions hcap
  · intro groups hloaded
    have hperm := loadGroups_ok hgroups hdecisions hloaded
    have hclusters := matchRows_clusters casefold t ruleSet limits
    have hrows := materialize_outputRows hperm exportLimits
    have hexclusions := materialize_exclusions hperm exportLimits
    have htotal := kept_add_removed result.groups
    have hremoved := hclusters.removedRows_length
    have hcount : (materialize t.rows t.headers groups exportLimits).rowCount = (keptRows result.groups).length := by
      rw [materialize_rowCount, hrows, List.length_map]
    have hexcluded : (materialize t.rows t.headers groups exportLimits).excludedRowCount =
        (removedRows result.groups).length := by
      rw [materialize_excludedRowCount, hrows, List.length_map]
      exact Nat.sub_eq_of_eq_add' htotal.symm
    refine ⟨hperm, keptRows result.groups, removedRows result.groups, finRange_filter_sorted _, finRange_filter_sorted _,
      fun i => hclusters.mem_keptRows, fun i => mem_removedRows, hrows, ?_, hexcluded.trans hremoved, ?_, hexclusions, ?_⟩
    · rw [hremoved] at htotal
      exact hcount.trans (Nat.eq_sub_of_add_eq htotal)
    · exact (congrArg₂ (· + ·) hcount hexcluded).trans htotal
    · have hlen := hexclusions.length_eq
      rw [List.length_take, ← hexcluded] at hlen
      exact hlen.symm

/-- Two identical rows. -/
def twinRows : Table := ⟨["name".toList], [["Ann".toList], ["Ann".toList]], by simp⟩

theorem match_persist_export_twinRows :
    ∃ groups, loadGroups
        (MatchTables.empty.persist 1 (matchRows id twinRows none ⟨200, 500, 20⟩)).matchGroups
        (MatchTables.empty.persist 1 (matchRows id twinRows none ⟨200, 500, 20⟩)).matchDecisions 1 0 = .ok groups ∧
      (materialize twinRows.rows twinRows.headers groups ⟨500⟩).rowCount +
        (materialize twinRows.rows twinRows.headers groups ⟨500⟩).excludedRowCount = 2 := by
  obtain ⟨huncut, hexport⟩ := match_persist_export id twinRows none ⟨200, 500, 20⟩ MatchTables.empty 1 _ _ ⟨500⟩
    (List.Perm.refl _) (List.Perm.refl _)
  obtain ⟨groups, hloaded⟩ := huncut (by decide)
  obtain ⟨-, kept, removed, -, -, -, -, -, -, -, htotal, -⟩ := hexport groups hloaded
  exact ⟨groups, hloaded, htotal⟩

end Export
end DataOps

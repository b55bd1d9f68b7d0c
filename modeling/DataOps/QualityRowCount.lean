import Mathlib.Data.Finset.Card
import Mathlib.Order.Interval.Finset.Nat
import DataOps.QualityControlHandler
/-!
# QualityRowCount — the effective row count

The handler subtracts the passed removal changes, not the rows they remove.  Each removal action targets a row at most
once and never the first one, so the count is right exactly when no row is removed by both (`countsDistinctRows_iff`).
-/
namespace DataOps
namespace Quality

open Detection (DetectionDataset Finding IssueType duplicateRowRule duplicatePrimaryKeyRule detectionRules csvRowNumber)
open Remediation (Action)

section
variable {py : Python} {c : Chain py}

/-- The passed changes, as quality control finds them. -/
def Reads.applied (r : Reads c) : List RemediationChangeRow :=
  appliedChanges r.results (Dict.index (fun row => row.id) r.changes)

/-- The row numbers with a passed row-removal change. -/
def Reads.removedRowNumbers (r : Reads c) : List Nat :=
  ((r.applied.filter (fun change => change.action ∈ duplicateRemovalActions)).map (fun change => change.rowNumber)).dedup

/-- **The effective row count counts distinct rows**, and is 0 only when every row is removed. -/
def CountsDistinctRows (r : Reads c) : Prop :=
  r.stats.effectiveRowCount = (profileCsv c.dataset.toTable).rowCount - r.removedRowNumbers.length ∧
    (r.stats.effectiveRowCount = 0 → ∀ i : c.dataset.RowIndex, csvRowNumber i ∈ r.removedRowNumbers)

/-- No row has both a passed duplicate-row and a passed duplicate-key removal. -/
def NoRowRemovedTwice (r : Reads c) : Prop :=
  ∀ p ∈ r.applied, ∀ q ∈ r.applied, p.action = .removeDuplicateRow → q.action = .removeDuplicatePrimaryKey →
    p.rowNumber ≠ q.rowNumber

/-! ## The passed changes -/

theorem Reads.results_changeIds (r : Reads c) :
    (r.results.map (fun row => row.remediationChangeId)).Perm (c.approvedChanges.map (fun row => row.id)) :=
  (r.results_perm.map _).trans c.results_changeIds

theorem Reads.exists_change (r : Reads c) {row : ValidationResultRow} (h : row ∈ r.results) :
    ∃ change ∈ c.changes, change.id = row.remediationChangeId := by
  have hmem := r.results_changeIds.mem_iff.1 (List.mem_map_of_mem h)
  obtain ⟨change, hchange, hid⟩ := List.mem_map.1 hmem
  exact ⟨change, (List.mem_filter.1 hchange).1, hid⟩

/-- **Every passed result finds its change.** -/
theorem Reads.applied_ids (r : Reads c) :
    r.applied.map (fun change => change.id) = (passedResults r.results).map (fun row => row.remediationChangeId) := by
  refine map_filterMap_eq (fun row hrow => ?_)
  obtain ⟨change, hchange, hid⟩ := r.exists_change (List.mem_filter.1 hrow).1
  exact ⟨change, hid ▸ r.get?_change hchange, hid⟩

theorem Reads.mem_changes_of_applied (r : Reads c) {change : RemediationChangeRow} (h : change ∈ r.applied) :
    change ∈ c.changes := by
  obtain ⟨row, hrow, hget⟩ := List.mem_filterMap.1 h
  obtain ⟨change', hchange', hid⟩ := r.exists_change (List.mem_filter.1 hrow).1
  rw [← hid, r.get?_change hchange'] at hget
  exact Option.some.inj hget ▸ hchange'

theorem Reads.nodup_applied (r : Reads c) : r.applied.Nodup := by
  have hids : (r.applied.map (fun change => change.id)).Nodup := by
    rw [r.applied_ids]
    have hall := r.results_changeIds.nodup_iff.2 (c.changes_nodup.sublist (List.filter_sublist.map _))
    exact hall.sublist (List.filter_sublist.map _)
  exact hids.of_map

/-! ## What a change came from -/

/-- Where a change comes from: the issue, and the rule that proposed it. -/
theorem Chain.exists_issue {change : RemediationChangeRow} (h : change ∈ c.changes) :
    ∃ issue ∈ c.issues, ∃ rule v reason, Remediation.getRuleForIssueType py issue.issueType = some rule ∧
      rule.propose issue.input (Remediation.columnConfigOf c.columnConfig issue.columnName) c.datasetConfig =
        .changed v reason ∧
      change.toRemediationChangeProposal =
        ⟨issue.id, issue.rowNumber, issue.columnName, rule.action, issue.originalValue, v, reason⟩ := by
  have hp := c.changes_written.mem_iff.1 (List.mem_map_of_mem h)
  obtain ⟨input, hinput, rule, v, reason, hrule, -, -, hpropose, heq⟩ := Remediation.mem_changes hp
  obtain ⟨issue, hissue, rfl⟩ := List.mem_map.1 hinput
  exact ⟨issue, hissue, rule, v, reason, hrule, hpropose, heq⟩

theorem Chain.nodup_sourceIssueIds (c : Chain py) : (c.changes.map (fun change => change.sourceIssueId)).Nodup := by
  have hids : ((c.issues.map IssueRow.input).map (fun issue => issue.issueId)).Nodup := by
    rw [List.map_map]
    exact c.issues_nodup
  have hsorted := ((List.perm_insertionSort (fun a b => Remediation.issueSortKey a ≤ Remediation.issueSortKey b)
    (c.issues.map IssueRow.input)).map (fun issue => issue.issueId)).nodup_iff.2 hids
  have hproposals := hsorted.sublist (Remediation.changes_sublist py c.dataset.toTable (c.issues.map IssueRow.input)
    c.columnConfig c.datasetConfig c.remediationLimits)
  have hrows := (c.changes_written.map (fun p => p.sourceIssueId)).nodup_iff.2 hproposals
  rw [List.map_map] at hrows
  exact hrows

theorem Chain.mem_allFindings {issue : IssueRow} (h : issue ∈ c.issues) :
    issue.toFinding ∈ Detection.allFindings c.dataset :=
  Detection.mem_allFindings_of_mem (c.issues_written.mem_iff.1 (List.mem_map_of_mem h))

/-- The rows of the persisted issues of a type, when its rule reports each row once. -/
theorem Chain.nodup_rowNumbers {rule : Detection.DetectionRule py} (hrule : rule ∈ detectionRules)
    (hnd : ((rule.detect c.dataset).map (fun f => f.rowNumber)).Nodup) :
    ((c.issues.filter (fun issue => issue.issueType = rule.issueType)).map (fun issue => issue.rowNumber)).Nodup := by
  have hfindings : (((Detection.detectIssues c.dataset c.detectionLimits).findings.filter
      (fun f => f.issueType = rule.issueType)).map (fun f => f.rowNumber)).Nodup := by
    have hsorted : (((Detection.sortedFindings c.dataset).filter (fun f => f.issueType = rule.issueType)).map
        (fun f => f.rowNumber)).Nodup := by
      have hperm := ((Detection.sortedFindings_perm c.dataset).filter (fun f => f.issueType = rule.issueType)).map
        (fun f => f.rowNumber)
      rw [Detection.filter_allFindings hrule] at hperm
      exact hperm.nodup_iff.2 hnd
    exact hsorted.sublist (((List.take_sublist _ _).filter _).map _)
  have hperm := (c.issues_written.filter (fun f => f.issueType = rule.issueType)).map (fun f => f.rowNumber)
  have hrows := hperm.nodup_iff.2 hfindings
  rw [List.filter_map, List.map_map] at hrows
  exact hrows

/-- The issue types an action handles. -/
theorem issueType_of_action {issueType : IssueType} {rule : Remediation.RemediationRule}
    (h : Remediation.getRuleForIssueType py issueType = some rule) :
    (rule.action = .removeDuplicateRow → issueType = .duplicateRow) ∧
      (rule.action = .removeDuplicatePrimaryKey → issueType = .duplicatePrimaryKey) := by
  obtain ⟨hmem, htype⟩ := Remediation.getRuleForIssueType_action h
  simp only [Remediation.remediationRules, List.mem_cons, List.not_mem_nil, or_false] at hmem
  rcases hmem with rfl | rfl | rfl | rfl | rfl | rfl | rfl | rfl | rfl | rfl <;> simp_all

/-- **The changes of a removal action are at distinct rows**, all after the first. -/
theorem Chain.removals_of {rule : Detection.DetectionRule py} {action : Action} (hrule : rule ∈ detectionRules)
    (hreports : Detection.ReportsLaterRows (rule.detect c.dataset) c.dataset.rows.length)
    (haction : ∀ {issueType : IssueType} {r : Remediation.RemediationRule},
      Remediation.getRuleForIssueType py issueType = some r → r.action = action → issueType = rule.issueType) :
    (∀ p ∈ c.changes, p.action = action → 3 ≤ p.rowNumber ∧ p.rowNumber ≤ c.dataset.rows.length + 1) ∧
      ∀ p ∈ c.changes, ∀ q ∈ c.changes, p.action = action → q.action = action →
        p.rowNumber = q.rowNumber → p = q := by
  have horigin : ∀ p ∈ c.changes, p.action = action → ∃ issue ∈ c.issues, issue.issueType = rule.issueType ∧
      issue.id = p.sourceIssueId ∧ issue.rowNumber = p.rowNumber := by
    intro p hp hpaction
    obtain ⟨issue, hissue, r, v, reason, hr, -, heq⟩ := c.exists_issue hp
    rw [heq] at hpaction ⊢
    exact ⟨issue, hissue, haction hr hpaction, rfl, rfl⟩
  constructor
  · intro p hp hpaction
    obtain ⟨issue, hissue, htype, -, hrow⟩ := horigin p hp hpaction
    have hf := (Detection.mem_allFindings_of_rule hrule).1 ⟨c.mem_allFindings hissue, htype⟩
    rw [← hrow]
    exact hreports.range _ hf
  · intro p hp q hq hpaction hqaction hrow
    obtain ⟨issue, hissue, htype, hid, hprow⟩ := horigin p hp hpaction
    obtain ⟨issue', hissue', htype', hid', hqrow⟩ := horigin q hq hqaction
    have heq : issue = issue' := List.inj_on_of_nodup_map (c.nodup_rowNumbers hrule hreports.nodup)
      (List.mem_filter.2 ⟨hissue, by simpa using htype⟩) (List.mem_filter.2 ⟨hissue', by simpa using htype'⟩)
      (hprow.trans (hrow.trans hqrow.symm))
    exact List.inj_on_of_nodup_map c.nodup_sourceIssueIds hp hq (hid.symm.trans (heq ▸ hid'))

theorem Chain.duplicateRow_removals (c : Chain py) :
    (∀ p ∈ c.changes, p.action = .removeDuplicateRow → 3 ≤ p.rowNumber ∧ p.rowNumber ≤ c.dataset.rows.length + 1) ∧
      ∀ p ∈ c.changes, ∀ q ∈ c.changes, p.action = .removeDuplicateRow → q.action = .removeDuplicateRow →
        p.rowNumber = q.rowNumber → p = q := by
  have hrule : (duplicateRowRule : Detection.DetectionRule py) ∈ detectionRules := by simp [detectionRules]
  exact c.removals_of hrule (Detection.duplicateRowRule_reports _) (fun h => (issueType_of_action h).1)

theorem Chain.duplicatePrimaryKey_removals (c : Chain py) :
    (∀ p ∈ c.changes, p.action = .removeDuplicatePrimaryKey →
      3 ≤ p.rowNumber ∧ p.rowNumber ≤ c.dataset.rows.length + 1) ∧
      ∀ p ∈ c.changes, ∀ q ∈ c.changes, p.action = .removeDuplicatePrimaryKey →
        q.action = .removeDuplicatePrimaryKey → p.rowNumber = q.rowNumber → p = q := by
  have hrule : (duplicatePrimaryKeyRule : Detection.DetectionRule py) ∈ detectionRules := by simp [detectionRules]
  exact c.removals_of hrule (Detection.duplicatePrimaryKeyRule_reports _) (fun h => (issueType_of_action h).2)

/-! ## Counting the rows -/

/-- The rows with a passed change of an action. -/
def Reads.rowsOf (r : Reads c) (action : Action) : Finset Nat :=
  ((r.applied.filter (fun change => change.action = action)).map (fun change => change.rowNumber)).toFinset

theorem Reads.mem_rowsOf {r : Reads c} {action : Action} {n : Nat} :
    n ∈ r.rowsOf action ↔ ∃ p ∈ r.applied, p.action = action ∧ p.rowNumber = n := by
  unfold Reads.rowsOf
  rw [List.mem_toFinset, List.mem_map]
  simp only [List.mem_filter, decide_eq_true_eq, and_assoc]

theorem Reads.card_rowsOf (r : Reads c) {action : Action}
    (hinj : ∀ p ∈ c.changes, ∀ q ∈ c.changes, p.action = action → q.action = action →
      p.rowNumber = q.rowNumber → p = q) :
    (r.rowsOf action).card = r.applied.countP (fun change => change.action = action) := by
  have hnd : ((r.applied.filter (fun change => change.action = action)).map (fun change => change.rowNumber)).Nodup := by
    refine List.Nodup.map_on (fun p hp q hq hrow => ?_) (r.nodup_applied.filter _)
    have hp := List.mem_filter.1 hp
    have hq := List.mem_filter.1 hq
    exact hinj p (r.mem_changes_of_applied hp.1) q (r.mem_changes_of_applied hq.1) (by simpa using hp.2)
      (by simpa using hq.2) hrow
  unfold Reads.rowsOf
  rw [List.toFinset_card_of_nodup hnd, List.length_map, List.countP_eq_length_filter]

theorem Reads.removed_eq (r : Reads c) :
    r.removedRowNumbers.toFinset = r.rowsOf .removeDuplicateRow ∪ r.rowsOf .removeDuplicatePrimaryKey := by
  ext n
  unfold Reads.removedRowNumbers
  rw [List.mem_toFinset, List.mem_dedup, List.mem_map, Finset.mem_union, Reads.mem_rowsOf, Reads.mem_rowsOf]
  simp only [List.mem_filter, duplicateRemovalActions, List.mem_cons, List.not_mem_nil, or_false, decide_eq_true_eq]
  constructor
  · rintro ⟨p, ⟨hp, haction | haction⟩, hrow⟩
    · exact .inl ⟨p, hp, haction, hrow⟩
    · exact .inr ⟨p, hp, haction, hrow⟩
  · rintro (⟨p, hp, haction, hrow⟩ | ⟨p, hp, haction, hrow⟩)
    · exact ⟨p, ⟨hp, .inl haction⟩, hrow⟩
    · exact ⟨p, ⟨hp, .inr haction⟩, hrow⟩

theorem Reads.card_removed (r : Reads c) : r.removedRowNumbers.toFinset.card = r.removedRowNumbers.length := by
  unfold Reads.removedRowNumbers
  exact List.toFinset_card_of_nodup (List.nodup_dedup _)

/-- A removed row is there, and not the first. -/
theorem Reads.removed_range (r : Reads c) {n : Nat} (h : n ∈ r.removedRowNumbers) :
    3 ≤ n ∧ n ≤ c.dataset.rows.length + 1 := by
  rw [← List.mem_toFinset, r.removed_eq, Finset.mem_union, Reads.mem_rowsOf, Reads.mem_rowsOf] at h
  rcases h with ⟨p, hp, haction, rfl⟩ | ⟨p, hp, haction, rfl⟩
  · exact c.duplicateRow_removals.1 p (r.mem_changes_of_applied hp) haction
  · exact c.duplicatePrimaryKey_removals.1 p (r.mem_changes_of_applied hp) haction

/-- Fewer rows are removed than there are. -/
theorem Reads.removed_lt (r : Reads c) (h : 0 < c.dataset.rows.length) :
    r.removedRowNumbers.length < c.dataset.rows.length := by
  have hsub : r.removedRowNumbers.toFinset ⊆ Finset.Icc 3 (c.dataset.rows.length + 1) := by
    intro n hn
    rw [Finset.mem_Icc]
    exact r.removed_range (List.mem_toFinset.1 hn)
  have hcard := Finset.card_le_card hsub
  rw [r.card_removed, Nat.card_Icc] at hcard
  omega

/-- **The handler's count is the rows of each removal action, one after the other.** -/
theorem Reads.dupRemovalCount_eq (r : Reads c) :
    dupRemovalCount r.results (Dict.index (fun row => row.id) r.changes) =
      (r.rowsOf .removeDuplicateRow).card + (r.rowsOf .removeDuplicatePrimaryKey).card := by
  rw [r.card_rowsOf c.duplicateRow_removals.2, r.card_rowsOf c.duplicatePrimaryKey_removals.2]
  change r.applied.countP (fun change => change.action ∈ duplicateRemovalActions) = _
  induction r.applied with
  | nil => rfl
  | cons change l ih =>
    rw [List.countP_cons, List.countP_cons, List.countP_cons, ih]
    cases haction : change.action <;> simp [duplicateRemovalActions] <;> omega

theorem Reads.noRowRemovedTwice_iff (r : Reads c) :
    NoRowRemovedTwice r ↔ Disjoint (r.rowsOf .removeDuplicateRow) (r.rowsOf .removeDuplicatePrimaryKey) := by
  rw [Finset.disjoint_left]
  constructor
  · intro h n hn hn'
    obtain ⟨p, hp, hpaction, rfl⟩ := Reads.mem_rowsOf.1 hn
    obtain ⟨q, hq, hqaction, hrow⟩ := Reads.mem_rowsOf.1 hn'
    exact h p hp q hq hpaction hqaction hrow.symm
  · intro h p hp q hq hpaction hqaction hrow
    exact h (Reads.mem_rowsOf.2 ⟨p, hp, hpaction, rfl⟩) (Reads.mem_rowsOf.2 ⟨q, hq, hqaction, hrow.symm⟩)

theorem Reads.removed_length (r : Reads c) :
    r.removedRowNumbers.length +
        (r.rowsOf .removeDuplicateRow ∩ r.rowsOf .removeDuplicatePrimaryKey).card =
      dupRemovalCount r.results (Dict.index (fun row => row.id) r.changes) := by
  rw [r.dupRemovalCount_eq, ← r.card_removed, r.removed_eq]
  exact Finset.card_union_add_card_inter _ _

/-- **The effective row count counts distinct rows exactly when no row is removed twice.** -/
theorem countsDistinctRows_iff (r : Reads c) : CountsDistinctRows r ↔ NoRowRemovedTwice r := by
  have hlen := r.removed_length
  have heffective : r.stats.effectiveRowCount = c.dataset.rows.length -
      dupRemovalCount r.results (Dict.index (fun row => row.id) r.changes) := rfl
  have hrows : (profileCsv c.dataset.toTable).rowCount = c.dataset.rows.length := rfl
  rw [r.noRowRemovedTwice_iff, Finset.disjoint_iff_inter_eq_empty, ← Finset.card_eq_zero]
  unfold CountsDistinctRows
  rw [heffective, hrows]
  constructor
  · rintro ⟨hcount, -⟩
    rcases Nat.eq_zero_or_pos c.dataset.rows.length with hzero | hpos
    · -- without rows nothing is removed
      have hnone : r.rowsOf .removeDuplicateRow = ∅ := by
        refine Finset.eq_empty_of_forall_notMem (fun n hn => ?_)
        obtain ⟨p, hp, haction, rfl⟩ := Reads.mem_rowsOf.1 hn
        have hrange := c.duplicateRow_removals.1 p (r.mem_changes_of_applied hp) haction
        omega
      rw [hnone, Finset.empty_inter, Finset.card_empty]
    · have hlt := r.removed_lt hpos
      omega
  · intro hinter
    rw [hinter, Nat.add_zero] at hlen
    rw [← hlen]
    refine ⟨rfl, fun hzero i => ?_⟩
    have hlt := r.removed_lt (Nat.lt_of_le_of_lt (Nat.zero_le _) i.isLt)
    omega

end

/-! ## A row removed twice -/

/-- Two equal rows with the same key. -/
def twinKeys : DetectionDataset asciiPython where
  headers := ["id".toList]
  rows := [["1".toList], ["1".toList]]
  width := by simp
  columnRules := [("id".toList, { isPrimaryKey := true })]

/-- Both removals of the second row are enabled, approved and passed. -/
def twinChain : Chain asciiPython where
  dataset := twinKeys
  detectionLimits := ⟨10⟩
  issues := [⟨⟨3, none, .duplicateRow, .medium, none, none⟩, 1⟩,
    ⟨⟨3, some "id".toList, .duplicatePrimaryKey, .critical, some "1".toList, none⟩, 2⟩]
  issues_written := by decide
  issues_nodup := by decide
  columnConfig := []
  datasetConfig := ⟨true, true⟩
  remediationLimits := ⟨10⟩
  changes := [⟨⟨1, 3, none, .removeDuplicateRow, none, none, Action.removeDuplicateRow.changeReason⟩, 1⟩,
    ⟨⟨2, 3, some "id".toList, .removeDuplicatePrimaryKey, some "1".toList, none,
      Action.removeDuplicatePrimaryKey.changeReason⟩, 2⟩]
  changes_written := by decide
  changes_nodup := by decide
  approved := fun _ => true
  validationConfig := []
  validationLimits := ⟨10⟩
  results := [⟨1, 1, 1, some .validateRemoveDuplicateRow, .passed, .duplicateRemovalCorrectlyFormed, none, none, "1.0"⟩,
    ⟨2, 2, 2, some .validateRemoveDuplicatePrimaryKey, .passed, .duplicateRemovalCorrectlyFormed, some "1".toList, none,
      "1.0"⟩]
  results_written := .cons ⟨rfl, rfl, rfl, rfl, rfl, rfl, rfl, rfl⟩ (.cons ⟨rfl, rfl, rfl, rfl, rfl, rfl, rfl, rfl⟩ .nil)
  results_nodup := by decide

def twinReads : Reads twinChain where
  issues := twinChain.issues
  issues_perm := List.Perm.refl _
  changes := twinChain.changes
  changes_perm := List.Perm.refl _
  results := twinChain.results
  results_perm := List.Perm.refl _

theorem twinReads_empty : twinReads.stats.effectiveRowCount = 0 ∧ ¬ CountsDistinctRows twinReads := by
  refine ⟨by decide, fun h => ?_⟩
  have hfirst := h.2 (by decide) ⟨0, by decide⟩
  revert hfirst
  decide

end Quality
end DataOps

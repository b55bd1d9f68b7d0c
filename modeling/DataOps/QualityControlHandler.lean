import Mathlib.Data.List.Dedup
import DataOps.QualityEngine
/-!
# QualityControlHandler — the statistics and the engine input

Detection, remediation and validation each persist what the next stage reads (`Chain`); quality control reads the rows of
all three, in any order (`Reads`), and works out the statistics of the remediated table from the profile's totals.
-/
namespace DataOps
namespace Quality

open Detection (DetectionDataset DetectionLimits Finding IssueType Severity detectIssues)
open Remediation (Action IssueId RemediationIssueInput RemediationColumnConfig RemediationDatasetConfigInput
  RemediationLimits RemediationChangeProposal remediate)
open Validation (ChangeId ValidationChangeInput ValidationColumnConfig ValidationLimits ValidationResultItem validate)

/-! ## The profile -/

/-- The totals of `profile_csv`: cells are stripped, rows compare by their stripped cells. -/
def isBlank (value : Str) : Bool := value.strip = []

def normalizedRow (row : List Str) : List Str := row.map Str.strip

def distinctRowCount (t : Table) : Nat := (t.rows.map normalizedRow).dedup.length

def missingCount (t : Table) (c : t.ColIndex) : Nat :=
  (List.finRange t.rows.length).countP (fun i => isBlank (t.cell i c))

def profileCsv (t : Table) : DataProfileSnapshot where
  rowCount := t.rows.length
  columnCount := t.headers.length
  duplicateRowCount := t.rows.length - distinctRowCount t
  missingValueTotal := ((List.finRange t.headers.length).map (missingCount t)).sum

/-! ## The persisted rows -/

structure IssueRow extends Finding where
  id : IssueId
deriving DecidableEq, Repr

def IssueRow.input (row : IssueRow) : RemediationIssueInput :=
  ⟨row.id, row.rowNumber, row.columnName, row.issueType, row.originalValue, row.suggestedFix⟩

structure RemediationChangeRow extends RemediationChangeProposal where
  id : ChangeId
deriving DecidableEq, Repr

def RemediationChangeRow.input (row : RemediationChangeRow) : ValidationChangeInput :=
  ⟨row.id, row.sourceIssueId, row.rowNumber, row.columnName, row.action, row.originalValue, row.proposedValue⟩

/-- A result's row has neither the row number nor the column of its change. -/
structure ValidationResultRow where
  id                    : ResultId
  remediationChangeId   : ChangeId
  sourceIssueId         : IssueId
  validationRule        : Option Validation.RuleName
  outcome               : Validation.Outcome
  reason                : Validation.Reason
  originalValue         : Option Str
  proposedValue         : Option Str
  validationRuleVersion : String
deriving DecidableEq, Repr

/-- The row written for an item. -/
def ValidationResultRow.writes (row : ValidationResultRow) (item : ValidationResultItem) : Prop :=
  row.remediationChangeId = item.changeId ∧ row.sourceIssueId = item.sourceIssueId ∧
    row.validationRule = item.validationRule ∧ row.outcome = item.outcome ∧ row.reason = item.reason ∧
    row.originalValue = item.originalValue ∧ row.proposedValue = item.proposedValue ∧
    row.validationRuleVersion = item.validationRuleVersion

/-- **A run of detection, remediation and validation on one table**: each stage reads the rows of the one before in the
order the database returns them; `approved` are the changes whose effective decision is approved. -/
structure Chain (py : Python) where
  dataset           : DetectionDataset py
  detectionLimits   : DetectionLimits
  issues            : List IssueRow
  issues_written    : (issues.map (fun row => row.toFinding)).Perm (detectIssues dataset detectionLimits).findings
  issues_nodup      : (issues.map (fun row => row.id)).Nodup
  columnConfig      : Dict Str RemediationColumnConfig
  datasetConfig     : RemediationDatasetConfigInput
  remediationLimits : RemediationLimits
  changes           : List RemediationChangeRow
  changes_written   : (changes.map (fun row => row.toRemediationChangeProposal)).Perm
    (remediate py dataset.toTable (issues.map IssueRow.input) columnConfig datasetConfig remediationLimits).changes
  changes_nodup     : (changes.map (fun row => row.id)).Nodup
  approved          : ChangeId → Bool
  validationConfig  : Dict Str ValidationColumnConfig
  validationLimits  : ValidationLimits
  results           : List ValidationResultRow
  results_written   : List.Forall₂ ValidationResultRow.writes results
    (validate py ((changes.filter (fun row => approved row.id)).map RemediationChangeRow.input) validationConfig
      validationLimits).results
  results_nodup     : (results.map (fun row => row.id)).Nodup

/-- What quality control reads of the three tables. -/
structure Reads {py : Python} (c : Chain py) where
  issues       : List IssueRow
  issues_perm  : issues.Perm c.issues
  changes      : List RemediationChangeRow
  changes_perm : changes.Perm c.changes
  results      : List ValidationResultRow
  results_perm : results.Perm c.results

/-! ## The statistics -/

/-- `_MISSING_VALUE_ISSUE_TYPES`. -/
def missingValueIssueTypes : List IssueType := [.missingValue, .emptyString, .nullValue]

/-- `_DUPLICATE_REMOVAL_ACTIONS`. -/
def duplicateRemovalActions : List Action := [.removeDuplicateRow, .removeDuplicatePrimaryKey]

/-- What the run's row stores beside the statistics. -/
structure PostRemediationStats extends EffectiveDatasetStats where
  baseline               : DataProfileSnapshot
  appliedChangesByAction : Dict Action Nat
  appliedChangesByColumn : Dict Str Nat
deriving DecidableEq, Repr

def passedResults (results : List ValidationResultRow) : List ValidationResultRow :=
  results.filter (fun r => r.outcome = .passed)

/-- The changes of the passed results. -/
def appliedChanges (results : List ValidationResultRow) (changeById : Dict ChangeId RemediationChangeRow) :
    List RemediationChangeRow :=
  (passedResults results).filterMap (fun r => changeById.get? r.remediationChangeId)

def dupRemovalCount (results : List ValidationResultRow) (changeById : Dict ChangeId RemediationChangeRow) : Nat :=
  (appliedChanges results changeById).countP (fun change => change.action ∈ duplicateRemovalActions)

def missingFixCount (results : List ValidationResultRow) (issueById : Dict IssueId IssueRow) : Nat :=
  (passedResults results).countP (fun r =>
    (issueById.get? r.sourceIssueId).any (fun issue => issue.issueType ∈ missingValueIssueTypes))

def addressedIssueIds (results : List ValidationResultRow) : List IssueId :=
  ((passedResults results).map (fun r => r.sourceIssueId)).dedup

def unresolvedCount (severity : Severity) (results : List ValidationResultRow) (issueById : Dict IssueId IssueRow) : Nat :=
  issueById.values.countP (fun issue => issue.id ∉ addressedIssueIds results ∧ issue.severity = severity)

/-- `_compute_effective_stats`; the differences are floored at 0. -/
def computeEffectiveStats (dataProfile : DataProfileSnapshot) (results : List ValidationResultRow)
    (changeById : Dict ChangeId RemediationChangeRow) (issueById : Dict IssueId IssueRow) : PostRemediationStats where
  effectiveRowCount := dataProfile.rowCount - dupRemovalCount results changeById
  effectiveDuplicateRowCount := dataProfile.duplicateRowCount - dupRemovalCount results changeById
  effectiveMissingValueTotal := dataProfile.missingValueTotal - missingFixCount results issueById
  unresolvedHighCount := unresolvedCount .high results issueById
  unresolvedCriticalCount := unresolvedCount .critical results issueById
  addressedIssueCount := (addressedIssueIds results).length
  baseline := dataProfile
  appliedChangesByAction := Dict.tally ((appliedChanges results changeById).map (fun change => change.action))
  appliedChangesByColumn :=
    Dict.tally ((appliedChanges results changeById).filterMap (fun change => Str.given change.columnName))

/-! ## The engine input -/

/-- `_build_engine_input`: rows in the order of their ids. -/
def buildEngineInput {py : Python} (validationRun : ValidationRunSnapshot) (results : List ValidationResultRow)
    (totalIssuesFound : Nat) (dataProfile : DataProfileSnapshot) (effectiveStats : EffectiveDatasetStats)
    (issueRows : List IssueRow) (thresholds : QualityThresholdConfig py) (maxPersistedFindings : Nat) :
    QualityEngineInput py where
  validationRun := validationRun
  validationResults := (results.insertionSort (fun a b => a.id ≤ b.id)).map (fun vr =>
    { id := vr.id, outcome := vr.outcome, ruleName := vr.validationRule
      -- not stored on ValidationResult directly
      columnName := none
      sourceIssueId := some vr.sourceIssueId, remediationChangeId := some vr.remediationChangeId })
  totalIssuesFound := totalIssuesFound
  dataProfile := dataProfile
  effectiveStats := effectiveStats
  issues := (issueRows.insertionSort (fun a b => a.id ≤ b.id)).map
    (fun issue => ⟨issue.id, issue.severity, issue.issueType⟩)
  thresholds := thresholds
  maxPersistedFindings := maxPersistedFindings

/-- `_validate_threshold_config` raises nothing. -/
def validThresholdConfig {py : Python} (cfg : QualityThresholdConfig py) : Bool :=
  let within (x low high : py.Float) : Bool := py.le low x && py.le x high
  within cfg.failScoreThreshold (py.ofNat 0) (py.ofNat 100) && within cfg.passScoreThreshold (py.ofNat 0) (py.ofNat 100) &&
    !py.le cfg.passScoreThreshold cfg.failScoreThreshold &&
    within cfg.maxValidationFailureRate (py.ofNat 0) (py.ofNat 1) &&
    within cfg.maxValidationSkipRate (py.ofNat 0) (py.ofNat 1) &&
    (cfg.categoryWeights.getD []).all (fun p => p.1 ≠ .qualityControl && 0 < p.2)

section
variable {py : Python} {c : Chain py}

/-- The run row validation persisted. -/
def Chain.validationRun (c : Chain py) : ValidationRunSnapshot :=
  let run := validate py ((c.changes.filter (fun row => c.approved row.id)).map RemediationChangeRow.input)
    c.validationConfig c.validationLimits
  ⟨run.approvedChangesConsidered, run.passedCount, run.failedCount, run.skippedCount, run.resultsByRule⟩

def Reads.stats (r : Reads c) : PostRemediationStats :=
  computeEffectiveStats (profileCsv c.dataset.toTable) r.results (Dict.index (fun row => row.id) r.changes)
    (Dict.index (fun row => row.id) r.issues)

def Reads.engineInput (r : Reads c) (thresholds : QualityThresholdConfig py) (maxPersistedFindings : Nat) :
    QualityEngineInput py :=
  buildEngineInput c.validationRun r.results (detectIssues c.dataset c.detectionLimits).totalIssuesFound
    (profileCsv c.dataset.toTable) r.stats.toEffectiveDatasetStats r.issues thresholds maxPersistedFindings

/-- The quality-control run built on a chain. -/
def Reads.qualityControl (r : Reads c) (thresholds : QualityThresholdConfig py) (maxPersistedFindings : Nat) :
    QualityEngineResult py := Quality.qualityControl (r.engineInput thresholds maxPersistedFindings)

/-! ## Following a row back -/

theorem Reads.get?_change (r : Reads c) {change : RemediationChangeRow} (h : change ∈ c.changes) :
    (Dict.index (fun row : RemediationChangeRow => row.id) r.changes).get? change.id = some change :=
  Dict.get?_index ((r.changes_perm.map _).nodup_iff.2 c.changes_nodup) (r.changes_perm.mem_iff.2 h)

theorem Reads.get?_issue (r : Reads c) {issue : IssueRow} (h : issue ∈ c.issues) :
    (Dict.index (fun row : IssueRow => row.id) r.issues).get? issue.id = some issue :=
  Dict.get?_index ((r.issues_perm.map _).nodup_iff.2 c.issues_nodup) (r.issues_perm.mem_iff.2 h)

theorem Reads.values_issues (r : Reads c) :
    (Dict.index (fun row : IssueRow => row.id) r.issues).values = r.issues := by
  rw [Dict.index_eq_map ((r.issues_perm.map _).nodup_iff.2 c.issues_nodup), Dict.values, List.map_map]
  exact List.map_id _

/-- The changes validation considered. -/
def Chain.approvedChanges (c : Chain py) : List RemediationChangeRow := c.changes.filter (fun row => c.approved row.id)

/-- **Validation wrote one row for each approved change.** -/
theorem Chain.results_changeIds (c : Chain py) :
    (c.results.map (fun row => row.remediationChangeId)).Perm (c.approvedChanges.map (fun row => row.id)) := by
  have hmap : c.results.map (fun row => row.remediationChangeId) =
      (validate py (c.approvedChanges.map RemediationChangeRow.input) c.validationConfig
        c.validationLimits).results.map (fun item => item.changeId) :=
    map_eq_of_forall₂ (fun _ _ hwrites => hwrites.1) c.results_written
  rw [hmap]
  refine (Validation.map_changeId_results py _ _ _).trans ?_
  rw [List.map_map]
  exact List.Perm.refl _

end
end Quality
end DataOps

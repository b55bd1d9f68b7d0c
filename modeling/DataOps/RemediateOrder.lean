import DataOps.LibSortedCut
import DataOps.LibLists
import DataOps.CsvHandOff
import DataOps.QualityControlHandler
/-!
# RemediateOrder — what the order of the issues changes

The handler's query names no order.  The engine sorts what it gets by row, column name and issue type, a key two issues
share when two columns share a name; the ceiling then keeps whichever of them came first.  The outcome is the same for
every order exactly when no such run of issues lies across the ceiling (`remediate_orderFree_iff`).
-/
namespace DataOps
namespace Remediation

open SortedCut (SplitsTie StablySorts)
open Detection (DetectionDataset detectIssues)
open Quality (IssueRow)

section
variable (py : Python) (dataset : Table) (columnConfig : Dict Str RemediationColumnConfig)
  (datasetConfig : RemediationDatasetConfigInput) (limits : RemediationLimits) (issues : List RemediationIssueInput)

/-- The change the action of an issue's type proposes for it. -/
def pendingChange (issue : RemediationIssueInput) : Option PendingChange :=
  pendingOf (considerIssue py dataset columnConfig datasetConfig issue)

/-- The issues a change is proposed for. -/
def proposing : List RemediationIssueInput :=
  issues.filter (fun issue => (pendingChange py dataset columnConfig datasetConfig issue).isSome)

/-- The same changes, and the same skipped issues with the same reasons. -/
def SameResult (r r' : RemediationResult) : Prop :=
  (∀ change, change ∈ r.changes ↔ change ∈ r'.changes) ∧ ∀ skipped, skipped ∈ r.skipped ↔ skipped ∈ r'.skipped

/-- Whatever order the issues come in, the result is the same. -/
def OrderFree : Prop :=
  ∀ issues', issues'.Perm issues → SameResult (remediate py dataset issues' columnConfig datasetConfig limits)
    (remediate py dataset issues columnConfig datasetConfig limits)

end

/-! ## The result, issue by issue -/

section
variable {py : Python} {dataset : Table} {columnConfig : Dict Str RemediationColumnConfig}
  {datasetConfig : RemediationDatasetConfigInput} {limits : RemediationLimits} {issues : List RemediationIssueInput}

theorem pendingChange_issueId {issue : RemediationIssueInput} {pending : PendingChange}
    (h : pendingChange py dataset columnConfig datasetConfig issue = some pending) :
    pending.proposal.sourceIssueId = issue.issueId := by
  unfold pendingChange at h
  cases houtcome : considerIssue py dataset columnConfig datasetConfig issue with
  | error skipped =>
    rw [houtcome] at h
    cases h
  | ok pending' =>
    rw [houtcome] at h
    obtain rfl := Option.some.inj h
    obtain ⟨rule, v, reason, -, -, -, -, rfl⟩ := considerIssue_eq_ok.1 houtcome
    rfl

/-- The proposing issues in the order the engine takes them. -/
def sortedProposing (py : Python) (dataset : Table) (columnConfig : Dict Str RemediationColumnConfig)
    (datasetConfig : RemediationDatasetConfigInput) (issues : List RemediationIssueInput) : List RemediationIssueInput :=
  proposing py dataset columnConfig datasetConfig (issues.insertionSort (fun a b => issueSortKey a ≤ issueSortKey b))

theorem stablySorts_sortedProposing (py : Python) (dataset : Table) (columnConfig : Dict Str RemediationColumnConfig)
    (datasetConfig : RemediationDatasetConfigInput) (issues : List RemediationIssueInput) :
    StablySorts issueSortKey (proposing py dataset columnConfig datasetConfig issues)
      (sortedProposing py dataset columnConfig datasetConfig issues) :=
  (SortedCut.stablySorts_insertionSort issueSortKey issues).filter _

/-- **The changes are those of the first proposing issues.** -/
theorem mem_changes_iff {change : RemediationChangeProposal} :
    change ∈ (remediate py dataset issues columnConfig datasetConfig limits).changes ↔
      ∃ issue ∈ (sortedProposing py dataset columnConfig datasetConfig issues).take limits.maxPersistedChanges,
        ∃ pending, pendingChange py dataset columnConfig datasetConfig issue = some pending ∧
          pending.proposal = change := by
  unfold remediate
  simp only [applyPersistedChangeCeiling_eq, List.filterMap_map]
  rw [(take_filterMap _ _ _).1]
  simp only [List.mem_map, List.mem_filterMap]
  constructor
  · rintro ⟨pending, ⟨issue, hissue, hpending⟩, hchange⟩
    exact ⟨issue, hissue, pending, hpending, hchange⟩
  · rintro ⟨issue, hissue, pending, hpending, hchange⟩
    exact ⟨pending, ⟨issue, hissue, hpending⟩, hchange⟩

/-- **The skipped issues are those without a change, and the proposing ones beyond the ceiling.** -/
theorem mem_skipped_iff {skipped : SkippedIssue} :
    skipped ∈ (remediate py dataset issues columnConfig datasetConfig limits).skipped ↔
      (∃ issue ∈ issues, skippedOf (considerIssue py dataset columnConfig datasetConfig issue) = some skipped) ∨
      ∃ issue ∈ (sortedProposing py dataset columnConfig datasetConfig issues).drop limits.maxPersistedChanges,
        ∃ pending, pendingChange py dataset columnConfig datasetConfig issue = some pending ∧
          overLimit pending = skipped := by
  unfold remediate
  simp only [applyPersistedChangeCeiling_eq, List.filterMap_map]
  rw [(take_filterMap _ _ _).2]
  simp only [List.mem_insertionSort, List.mem_append, List.mem_map, List.mem_filterMap, Function.comp_apply]
  refine or_congr Iff.rfl ?_
  constructor
  · rintro ⟨pending, ⟨issue, hissue, hpending⟩, hskipped⟩
    exact ⟨issue, hissue, pending, hpending, hskipped⟩
  · rintro ⟨issue, hissue, pending, hpending, hskipped⟩
    exact ⟨pending, ⟨issue, hissue, hpending⟩, hskipped⟩

end

/-- **The order of the issues changes nothing exactly when no run of issues of one row, column name and type, all with a
proposed change, lies across the ceiling.** -/
theorem remediate_orderFree_iff (py : Python) (dataset : Table) (columnConfig : Dict Str RemediationColumnConfig)
    (datasetConfig : RemediationDatasetConfigInput) (limits : RemediationLimits) (issues : List RemediationIssueInput)
    (hids : (issues.map (fun issue => issue.issueId)).Nodup) :
    OrderFree py dataset columnConfig datasetConfig limits issues ↔
      ¬ SplitsTie issueSortKey (proposing py dataset columnConfig datasetConfig issues) limits.maxPersistedChanges := by
  have hsorts := stablySorts_sortedProposing py dataset columnConfig datasetConfig
  constructor
  · intro h hsplit
    have hreverse : StablySorts issueSortKey (proposing py dataset columnConfig datasetConfig issues).reverse
        (sortedProposing py dataset columnConfig datasetConfig issues.reverse) := by
      have := hsorts issues.reverse
      unfold proposing at this
      rw [List.filter_reverse] at this
      exact this
    obtain ⟨issue, hkept, hcut⟩ := SortedCut.exists_cut_off (hsorts issues) hreverse
      ((List.Nodup.of_map _ hids).filter _) hsplit
    have hmem : ∀ {issues₀ : List RemediationIssueInput} {n : Nat} {a : RemediationIssueInput},
        a ∈ (sortedProposing py dataset columnConfig datasetConfig issues₀).take n →
          a ∈ issues₀ ∧ (pendingChange py dataset columnConfig datasetConfig a).isSome := by
      intro issues₀ n a ha
      have ha := List.mem_filter.1 ((hsorts issues₀).perm.mem_iff.1 (List.mem_of_mem_take ha))
      exact ⟨ha.1, ha.2⟩
    obtain ⟨pending, hpending⟩ := Option.isSome_iff_exists.1 (hmem hkept).2
    have hchange := (h issues.reverse (List.reverse_perm issues)).1 pending.proposal
    obtain ⟨issue', hkept', pending', hpending', hsame⟩ :=
      mem_changes_iff.1 (hchange.2 (mem_changes_iff.2 ⟨issue, hkept, pending, hpending, rfl⟩))
    have hid : issue'.issueId = issue.issueId := by
      rw [← pendingChange_issueId hpending, ← pendingChange_issueId hpending', hsame]
    obtain rfl := List.inj_on_of_nodup_map hids (List.mem_reverse.1 (hmem hkept').1) (hmem hkept).1 hid
    exact hcut hkept'
  · intro hcut issues' hperm
    have hproposing : (proposing py dataset columnConfig datasetConfig issues').Perm
        (proposing py dataset columnConfig datasetConfig issues) := hperm.filter _
    have htake := SortedCut.take_perm (hsorts issues) (hsorts issues') hproposing hcut
    have hdrop := SortedCut.drop_perm (hsorts issues) (hsorts issues') hproposing hcut
    constructor
    · intro change
      rw [mem_changes_iff, mem_changes_iff]
      simp only [htake.mem_iff]
    · intro skipped
      rw [mem_skipped_iff, mem_skipped_iff]
      simp only [hdrop.mem_iff, hperm.mem_iff]

/-! ## Two columns of one name -/

open Profiling (LoadedCsv loadCsv defaultLimits)

/-- Two columns headed `a`, and one row with a leading blank in both. -/
def twinSource : ByteArray := (String.ofList ['a', ',', 'a', '\n', ' ', 'x', ',', ' ', 'y', '\n']).toByteArray

def twinLoaded : LoadedCsv where
  sourceSizeBytes := twinSource.size
  sourceSha256 := ""
  detectedEncoding := "utf-8"
  delimiter := ','
  headers := [['a'], ['a']]
  rows := [[[' ', 'x'], [' ', 'y']]]
  structuralIssues := [.duplicateHeader 1 0]

theorem loadCsv_twinSource :
    loadCsv id (fun _ => "") (fun _ => none) defaultLimits twinSource = .ok twinLoaded :=
  (Profiling.loadCsv_ofList (by decide) (by decide) (by decide)).trans rfl

def twinDataset : DetectionDataset asciiPython where
  headers := twinLoaded.headers
  rows := twinLoaded.rows
  width := by decide
  structuralIssues := twinLoaded.structuralIssues

def twinIssues : List IssueRow :=
  [⟨⟨2, some ['a'], .leadingWhitespace, .info, some [' ', 'x'], some ['x']⟩, 1⟩,
    ⟨⟨2, some ['a'], .leadingWhitespace, .info, some [' ', 'y'], some ['y']⟩, 2⟩]

/-- **With room for one change, the column that is repaired is the one whose issue came first.** -/
theorem twinIssues_order :
    loadCsv id (fun _ => "") (fun _ => none) defaultLimits twinSource = .ok twinLoaded ∧
      twinDataset.headers = twinLoaded.headers ∧ twinDataset.rows = twinLoaded.rows ∧
      (twinIssues.map (fun row => row.toFinding)).Perm (detectIssues twinDataset ⟨100⟩).findings ∧
      ¬ OrderFree asciiPython twinDataset.toTable [] {} ⟨1⟩ (twinIssues.map IssueRow.input) := by
  refine ⟨loadCsv_twinSource, rfl, rfl, by decide, fun h => ?_⟩
  have hsame := h (twinIssues.reverse.map IssueRow.input) (by decide)
  have hchange := hsame.1 ⟨1, 2, some ['a'], .trimWhitespace, some [' ', 'x'], some ['x'],
    Action.trimWhitespace.changeReason⟩
  revert hchange
  decide

/-- With room for both, the order does not matter. -/
theorem remediate_orderFree_iff_twinIssues :
    OrderFree asciiPython twinDataset.toTable [] {} ⟨2⟩ (twinIssues.map IssueRow.input) :=
  (remediate_orderFree_iff asciiPython twinDataset.toTable [] {} ⟨2⟩ (twinIssues.map IssueRow.input) (by decide)).2
    (by decide)

end Remediation
end DataOps

import DataOps.RemediateOrder
/-!
# ValidateOrder — what the order of the approved changes changes

The engine sorts the changes by row, column name and action, and past the ceiling skips them.  A leading and a trailing
blank of one cell both become `trim_whitespace`, so two changes of a plain table can share their key; which of them is
validated is then up to the order they came in.  The results are the same for every order exactly when no such run of
changes lies across the ceiling (`validate_orderFree_iff`).
-/
namespace DataOps
namespace Validation

open SortedCut (SplitsTie StablySorts)
open Remediation (columnConfigOf)

section
variable (py : Python) (columnConfig : Dict Str ValidationColumnConfig) (limits : ValidationLimits)

def ValidationResultItem.triple (item : ValidationResultItem) : ChangeId × Outcome × Reason :=
  (item.changeId, item.outcome, item.reason)

/-- The same change ids with the same outcomes and reasons, and the same counts. -/
structure SameRun (r r' : ValidationRunResult) : Prop where
  triples       : ∀ t, t ∈ r.results.map ValidationResultItem.triple ↔ t ∈ r'.results.map ValidationResultItem.triple
  considered    : r.approvedChangesConsidered = r'.approvedChangesConsidered
  passedCount   : r.passedCount = r'.passedCount
  failedCount   : r.failedCount = r'.failedCount
  skippedCount  : r.skippedCount = r'.skippedCount
  resultsByRule : ∀ rule, r.resultsByRule.get? rule = r'.resultsByRule.get? rule

/-- Whatever order the changes come in, the results are the same. -/
def OrderFree (changes : List ValidationChangeInput) : Prop :=
  ∀ changes', changes'.Perm changes → SameRun (validate py changes' columnConfig limits)
    (validate py changes columnConfig limits)

end

section
variable {py : Python} {columnConfig : Dict Str ValidationColumnConfig} {limits : ValidationLimits}
  {changes changes' : List ValidationChangeInput}

/-! ## The reasons of the rules -/

theorem compareProposal_reason (expected : Str) (change : ValidationChangeInput) :
    (compareProposal expected change).reason ≠ .resultLimitReached := by
  unfold compareProposal
  split <;> simp

theorem compareStandardized_reason (standardized : Str × Option Standardization.RuleName)
    (change : ValidationChangeInput) : (compareStandardized standardized change).reason ≠ .resultLimitReached := by
  unfold compareStandardized
  split
  · simp
  · exact compareProposal_reason _ _

/-- **No rule reports the ceiling.** -/
theorem rule_reason {rule : ValidationRule} (h : rule ∈ validationRules py) (change : ValidationChangeInput)
    (config : Option ValidationColumnConfig) : (rule.validate change config).reason ≠ .resultLimitReached := by
  simp only [validationRules, List.mem_cons, List.not_mem_nil, or_false] at h
  rcases h with rfl | rfl | rfl | rfl | rfl | rfl | rfl | rfl | rfl | rfl
  · change (validateTrim change).reason ≠ _
    unfold validateTrim
    split
    · simp
    · split <;> simp
  · change (validateCollapse change).reason ≠ _
    unfold validateCollapse
    split
    · simp
    · exact compareProposal_reason _ _
  · change (validateCapitalization py change config).reason ≠ _
    unfold validateCapitalization
    split
    · simp
    · split
      · simp
      · exact compareProposal_reason _ _
  · exact compareStandardized_reason _ _
  · change (validateDate py change config).reason ≠ _
    unfold validateDate
    split
    · simp
    · split
      · simp
      · split
        · simp
        · split
          · simp
          · exact compareProposal_reason _ _
  · change (validatePhone py change config).reason ≠ _
    unfold validatePhone
    split
    · simp
    · exact compareStandardized_reason _ _
  · exact compareStandardized_reason _ _
  · change (validateEnumValue py change config).reason ≠ _
    unfold validateEnumValue
    split
    · simp
    · simp
    · split
      · simp
      · split
        · exact compareProposal_reason _ _
        · simp
  · change (validateDuplicateRemoval change).reason ≠ _
    unfold validateDuplicateRemoval
    split <;> simp
  · change (validateDuplicateRemoval change).reason ≠ _
    unfold validateDuplicateRemoval
    split <;> simp

/-! ## The results on both sides of the ceiling -/

/-- A position below the ceiling or beyond it is all a result takes from its place. -/
theorem validateChange_congr {position position' : Nat} (change : ValidationChangeInput)
    (h : limits.maxPersistedResults ≤ position ↔ limits.maxPersistedResults ≤ position') :
    validateChange py columnConfig limits position change = validateChange py columnConfig limits position' change := by
  unfold validateChange
  simp only [h]

theorem validateChange_reason (position : Nat) (change : ValidationChangeInput) :
    (validateChange py columnConfig limits position change).reason = .resultLimitReached ↔
      limits.maxPersistedResults ≤ position := by
  unfold validateChange
  cases hrule : getRuleForAction py change.action with
  | none =>
    have hsome := getRuleForAction_isSome py change.action
    rw [hrule] at hsome
    cases hsome
  | some rule =>
    dsimp only
    by_cases hposition : limits.maxPersistedResults ≤ position
    · rw [if_pos hposition]
      exact ⟨fun _ => hposition, fun _ => rfl⟩
    · rw [if_neg hposition]
      exact ⟨fun h => absurd h (rule_reason (List.mem_of_find?_eq_some hrule) _ _), fun h => absurd h hposition⟩

theorem zipIdx_map_validateChange (position : Nat) (sortedChanges : List ValidationChangeInput) (start : Nat)
    (h : ∀ k < sortedChanges.length,
      limits.maxPersistedResults ≤ start + k ↔ limits.maxPersistedResults ≤ position) :
    (sortedChanges.zipIdx start).map (fun p => validateChange py columnConfig limits p.2 p.1) =
      sortedChanges.map (validateChange py columnConfig limits position) := by
  induction sortedChanges generalizing start with
  | nil => rfl
  | cons change sortedChanges ih =>
    have hhead : validateChange py columnConfig limits start change =
        validateChange py columnConfig limits position change :=
      validateChange_congr change (h 0 (Nat.succ_pos _))
    have htail := ih (start + 1) (fun k hk => by
      have hnext := h (k + 1) (Nat.succ_lt_succ hk)
      rw [show start + 1 + k = start + (k + 1) by omega]
      exact hnext)
    rw [List.zipIdx_cons, List.map_cons, List.map_cons, hhead, htail]

/-- **The changes up to the ceiling are validated, the others are not.** -/
theorem results_split (py : Python) (changes : List ValidationChangeInput)
    (columnConfig : Dict Str ValidationColumnConfig) (limits : ValidationLimits) :
    (validate py changes columnConfig limits).results =
      ((sortChanges changes).take limits.maxPersistedResults).map (fun change =>
        validateChange py columnConfig limits (limits.maxPersistedResults - 1) change) ++
      ((sortChanges changes).drop limits.maxPersistedResults).map
        (validateChange py columnConfig limits limits.maxPersistedResults) := by
  rw [results_eq]
  conv => lhs; rw [← List.take_append_drop limits.maxPersistedResults (sortChanges changes)]
  rw [List.zipIdx_append, List.map_append]
  congr 1
  · refine zipIdx_map_validateChange _ _ _ (fun k hk => ?_)
    rw [List.length_take] at hk
    omega
  · refine zipIdx_map_validateChange _ _ _ (fun k hk => ?_)
    rw [List.length_drop] at hk
    rw [List.length_take]
    omega

end

/-- **The order of the changes changes nothing exactly when no run of changes of one row, column name and action lies
across the ceiling.** -/
theorem validate_orderFree_iff (py : Python) (columnConfig : Dict Str ValidationColumnConfig) (limits : ValidationLimits)
    (changes : List ValidationChangeInput) (hids : (changes.map (fun change => change.changeId)).Nodup) :
    OrderFree py columnConfig limits changes ↔ ¬ SplitsTie changeSortKey changes limits.maxPersistedResults := by
  have hsorts := fun changes => SortedCut.stablySorts_insertionSort changeSortKey changes
  constructor
  · intro h hsplit
    obtain ⟨change, hkept, hcut⟩ := SortedCut.exists_cut_off (hsorts changes) (hsorts changes.reverse)
      (List.Nodup.of_map _ hids) hsplit
    have htriples := (h changes.reverse (List.reverse_perm changes)).triples
      (validateChange py columnConfig limits (limits.maxPersistedResults - 1) change).triple
    have hpos : 0 < limits.maxPersistedResults := by
      obtain ⟨_, -, hlow, -⟩ := hsplit
      omega
    have hmem : (validateChange py columnConfig limits (limits.maxPersistedResults - 1) change).triple ∈
        (validate py changes columnConfig limits).results.map ValidationResultItem.triple := by
      rw [results_split]
      exact List.mem_map_of_mem (List.mem_append_left _ (List.mem_map_of_mem hkept))
    obtain ⟨item, hitem, htriple⟩ := List.mem_map.1 (htriples.2 hmem)
    obtain ⟨hid, htriple⟩ := Prod.mk.inj htriple
    have hreason : item.reason ≠ .resultLimitReached := by
      rw [(Prod.mk.inj htriple).2, Ne, validateChange_reason]
      omega
    rw [results_split, List.mem_append, List.mem_map, List.mem_map] at hitem
    rcases hitem with ⟨change', hkept', rfl⟩ | ⟨change', -, rfl⟩
    · rw [(validateChange_changeId _ change').1, (validateChange_changeId _ change).1] at hid
      have hmem' : change' ∈ changes :=
        List.mem_reverse.1 ((hsorts changes.reverse).perm.mem_iff.1 (List.mem_of_mem_take hkept'))
      obtain rfl := List.inj_on_of_nodup_map hids hmem'
        ((hsorts changes).perm.mem_iff.1 (List.mem_of_mem_take hkept)) hid
      exact hcut hkept'
    · exact hreason ((validateChange_reason _ _).2 (Nat.le_refl _))
  · intro hcut changes' hperm
    have hresults : (validate py changes' columnConfig limits).results.Perm
        (validate py changes columnConfig limits).results := by
      rw [results_split, results_split]
      exact ((SortedCut.take_perm (hsorts changes) (hsorts changes') hperm hcut).map _).append
        ((SortedCut.drop_perm (hsorts changes) (hsorts changes') hperm hcut).map _)
    exact {
      triples := fun t => (hresults.map _).mem_iff
      considered := ((sortChanges_perm changes').trans (hperm.trans (sortChanges_perm changes).symm)).length_eq
      passedCount := hresults.countP_eq _
      failedCount := hresults.countP_eq _
      skippedCount := hresults.countP_eq _
      resultsByRule := Dict.get?_tally_perm (hresults.filterMap _) }

/-! ## A cell with a blank on both sides -/

open Quality (IssueRow RemediationChangeRow)
open Remediation (Action remediate)

def blankedDataset : Detection.DetectionDataset asciiPython where
  headers := [['a']]
  rows := [[[' ', 'x', ' ']]]
  width := by decide

def blankedIssues : List IssueRow :=
  [⟨⟨2, some ['a'], .leadingWhitespace, .info, some [' ', 'x', ' '], some ['x', ' ']⟩, 1⟩,
    ⟨⟨2, some ['a'], .trailingWhitespace, .info, some [' ', 'x', ' '], some [' ', 'x']⟩, 2⟩]

def blankedChanges : List RemediationChangeRow :=
  [⟨⟨1, 2, some ['a'], .trimWhitespace, some [' ', 'x', ' '], some ['x', ' '], Action.trimWhitespace.changeReason⟩, 1⟩,
    ⟨⟨2, 2, some ['a'], .trimWhitespace, some [' ', 'x', ' '], some [' ', 'x'], Action.trimWhitespace.changeReason⟩, 2⟩]

/-- **With room for one result, the change that is validated is the one that came first.** -/
theorem blankedChanges_order :
    (blankedIssues.map (fun row => row.toFinding)).Perm (Detection.detectIssues blankedDataset ⟨100⟩).findings ∧
      (blankedChanges.map (fun row => row.toRemediationChangeProposal)).Perm
        (remediate asciiPython blankedDataset.toTable (blankedIssues.map IssueRow.input) [] {} ⟨100⟩).changes ∧
      ¬ OrderFree asciiPython [] ⟨1⟩ (blankedChanges.map RemediationChangeRow.input) := by
  refine ⟨by decide, by decide, fun h => ?_⟩
  have htriples := (h (blankedChanges.reverse.map RemediationChangeRow.input) (by decide)).triples
    (1, .passed, .proposedValueMatches)
  revert htriples
  decide

/-- With room for both, the order does not matter. -/
theorem validate_orderFree_iff_blankedChanges :
    OrderFree asciiPython [] ⟨2⟩ (blankedChanges.map RemediationChangeRow.input) :=
  (validate_orderFree_iff asciiPython [] ⟨2⟩ (blankedChanges.map RemediationChangeRow.input) (by decide)).2
    (by decide)

end Validation
end DataOps

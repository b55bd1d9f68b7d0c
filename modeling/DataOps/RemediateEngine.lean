import DataOps.DetectEngine
import DataOps.StandardizationRules
/-!
# RemediateEngine — remediate

An action handles some issue types and proposes a replacement, the exclusion of a row, or nothing.  The engine sorts the
issues and asks for each the action of its type; every issue ends up changed or skipped (`remediate_reconciles`).
-/
namespace DataOps
namespace Remediation

open Detection (IssueType)

abbrev IssueId := Nat

inductive Action
  | trimWhitespace | collapseMultipleSpaces | standardizeCapitalization | normalizeBoolean | normalizeDate
  | normalizePhone | normalizeNumeric | normalizeEnumValue | removeDuplicateRow | removeDuplicatePrimaryKey
deriving DecidableEq, Repr

def Action.name : Action → Str
  | trimWhitespace            => "trim_whitespace".toList
  | collapseMultipleSpaces    => "collapse_multiple_spaces".toList
  | standardizeCapitalization => "standardize_capitalization".toList
  | normalizeBoolean          => "normalize_boolean".toList
  | normalizeDate             => "normalize_date".toList
  | normalizePhone            => "normalize_phone".toList
  | normalizeNumeric          => "normalize_numeric".toList
  | normalizeEnumValue        => "normalize_enum_value".toList
  | removeDuplicateRow        => "remove_duplicate_row".toList
  | removeDuplicatePrimaryKey => "remove_duplicate_primary_key".toList

/-- `CHANGE_REASONS`. -/
def Action.changeReason : Action → String
  | trimWhitespace => "Leading or trailing whitespace removed (Module 14 suggested_fix reused verbatim)."
  | collapseMultipleSpaces =>
    "Repeated internal whitespace collapsed to a single space (Module 14 suggested_fix reused verbatim)."
  | standardizeCapitalization => "Value recased to the column's configured capitalization target."
  | normalizeBoolean =>
    "Value normalized to the canonical boolean form (app.standardization.rules.values.standardize_boolean)."
  | normalizeDate =>
    "Value reparsed under the column's configured source date format and rendered into the column's configured " ++
      "target date format."
  | normalizePhone =>
    "Value reformatted to E.164 using the column's configured default country " ++
      "(app.standardization.rules.contact.standardize_phone)."
  | normalizeNumeric =>
    "Value normalized to canonical numeric form (app.standardization.rules.values.standardize_numeric)."
  | normalizeEnumValue => "Value matched case-insensitively to exactly one configured allowed value."
  | removeDuplicateRow =>
    "Row proposed for exclusion as an exact duplicate of an earlier row (Module 14 duplicate_row finding)."
  | removeDuplicatePrimaryKey =>
    "Row proposed for exclusion due to a duplicate primary key value (Module 14 duplicate_primary_key finding)."

inductive SkipReason
  | issueTypeNotRemediable | rowNotFoundInDataset | capitalizationTargetNotConfigured | sourceDateFormatNotConfigured
  | targetDateFormatNotConfigured | defaultCountryNotConfigured | allowedValuesNotConfigured | duplicateRemovalNotEnabled
  | noDeterministicChangeAvailable | persistedChangeLimitReached
deriving DecidableEq, Repr

structure RemediationIssueInput where
  issueId       : IssueId
  rowNumber     : Nat
  columnName    : Option Str
  issueType     : IssueType
  originalValue : Option Str
  suggestedFix  : Option Str
deriving DecidableEq, Repr

inductive CapitalizationTarget
  | lower | upper | title
deriving DecidableEq, Repr

structure RemediationColumnConfig where
  sourceDateFormat     : Option Str := none
  targetDateFormat     : Option Str := none
  defaultCountry       : Option Str := none
  capitalizationTarget : Option CapitalizationTarget := none
  allowedValues        : Option (List Str) := none
deriving DecidableEq, Repr

structure RemediationDatasetConfigInput where
  removeDuplicateRowsEnabled        : Bool := false
  removeDuplicatePrimaryKeysEnabled : Bool := false
deriving DecidableEq, Repr

structure RemediationLimits where
  maxPersistedChanges : Nat

/-- A change carries its reason, and no change its skip reason. -/
inductive RuleOutcome
  | changed (proposedValue : Option Str) (reason : String)
  | unchanged (skipReason : SkipReason)
deriving DecidableEq, Repr

structure RemediationChangeProposal where
  sourceIssueId : IssueId
  rowNumber     : Nat
  columnName    : Option Str
  action        : Action
  originalValue : Option Str
  proposedValue : Option Str
  reason        : String
deriving DecidableEq, Repr

structure SkippedIssue where
  sourceIssueId : IssueId
  rowNumber     : Nat
  columnName    : Option Str
  issueType     : IssueType
  reason        : SkipReason
deriving DecidableEq, Repr

structure RemediationRule where
  issueTypes : List IssueType
  action     : Action
  propose    : RemediationIssueInput → Option RemediationColumnConfig → RemediationDatasetConfigInput → RuleOutcome

/-! ## The actions -/

/-- A proposal, unless it is the text itself. -/
def proposeCanonical (action : Action) (value canonical : Str) : RuleOutcome :=
  if canonical = value then .unchanged .noDeterministicChangeAvailable
  else .changed (some canonical) action.changeReason

/-- A proposal from a standardization rule. -/
def proposeStandardized (action : Action) (standardized : Str × Option Standardization.RuleName) : RuleOutcome :=
  match standardized.2 with
  | none   => .unchanged .noDeterministicChangeAvailable
  | some _ => .changed (some standardized.1) action.changeReason

/-- The suggested fix of the issue, verbatim. -/
def proposeSuggestedFix (action : Action) (issue : RemediationIssueInput) : RuleOutcome :=
  match Str.given issue.suggestedFix with
  | none     => .unchanged .noDeterministicChangeAvailable
  | some fix =>
    if issue.suggestedFix = issue.originalValue then .unchanged .noDeterministicChangeAvailable
    else .changed (some fix) action.changeReason

def proposeTrim (issue : RemediationIssueInput) : RuleOutcome := proposeSuggestedFix .trimWhitespace issue
def proposeCollapse (issue : RemediationIssueInput) : RuleOutcome := proposeSuggestedFix .collapseMultipleSpaces issue

section
variable (py : Python)

/-- `_APPLY`. -/
def applyTarget : CapitalizationTarget → Str → Str
  | .lower => Standardization.lowerCase py
  | .upper => Standardization.upperCase py
  | .title => Standardization.titleCase py

def proposeStandardizeCapitalization (issue : RemediationIssueInput) (columnConfig : Option RemediationColumnConfig) :
    RuleOutcome :=
  match columnConfig.bind (fun config => config.capitalizationTarget) with
  | none        => .unchanged .capitalizationTargetNotConfigured
  | some target =>
    match Str.given issue.originalValue with
    | none       => .unchanged .noDeterministicChangeAvailable
    | some value => proposeCanonical .standardizeCapitalization value (applyTarget py target value)

def proposeNormalizeBoolean (issue : RemediationIssueInput) : RuleOutcome :=
  proposeStandardized .normalizeBoolean (Standardization.standardizeBoolean py (issue.originalValue.getD []) none)

def proposeNormalizeDate (issue : RemediationIssueInput) (columnConfig : Option RemediationColumnConfig) : RuleOutcome :=
  match Str.given (columnConfig.bind (fun config => config.sourceDateFormat)) with
  | none              => .unchanged .sourceDateFormatNotConfigured
  | some sourceFormat =>
    match Str.given (columnConfig.bind (fun config => config.targetDateFormat)) with
    | none              => .unchanged .targetDateFormatNotConfigured
    | some targetFormat =>
      match Str.given issue.originalValue with
      | none       => .unchanged .noDeterministicChangeAvailable
      | some value =>
        match py.strptime value sourceFormat with
        | none        => .unchanged .noDeterministicChangeAvailable
        | some parsed => proposeCanonical .normalizeDate value (py.strftime parsed targetFormat)

def proposeNormalizePhone (issue : RemediationIssueInput) (columnConfig : Option RemediationColumnConfig) : RuleOutcome :=
  match Str.given (columnConfig.bind (fun config => config.defaultCountry)) with
  | none         => .unchanged .defaultCountryNotConfigured
  | some country =>
    proposeStandardized .normalizePhone (Standardization.standardizePhone py (issue.originalValue.getD []) (some country))

def proposeNormalizeNumeric (issue : RemediationIssueInput) : RuleOutcome :=
  proposeStandardized .normalizeNumeric (Standardization.standardizeNumeric py (issue.originalValue.getD []) none)

/-- The allowed values that are the text up to case and surrounding blanks, without repetition. -/
def matchingAllowed (allowedValues : List Str) (value : Str) : List Str :=
  (allowedValues.filter (fun allowed => py.casefold allowed.strip = py.casefold value.strip)).dedup

def proposeNormalizeEnumValue (issue : RemediationIssueInput) (columnConfig : Option RemediationColumnConfig) :
    RuleOutcome :=
  match columnConfig.bind (fun config => config.allowedValues) with
  | none | some []     => .unchanged .allowedValuesNotConfigured
  | some allowedValues =>
    match Str.given issue.originalValue with
    | none       => .unchanged .noDeterministicChangeAvailable
    | some value =>
      match matchingAllowed py allowedValues value with
      | [canonical] => proposeCanonical .normalizeEnumValue value canonical
      | _           => .unchanged .noDeterministicChangeAvailable

/-- The exclusion of a row, where it is enabled. -/
def proposeRemoval (action : Action) (enabled : Bool) : RuleOutcome :=
  if enabled then .changed none action.changeReason else .unchanged .duplicateRemovalNotEnabled

def proposeRemoveDuplicateRow (config : RemediationDatasetConfigInput) : RuleOutcome :=
  proposeRemoval .removeDuplicateRow config.removeDuplicateRowsEnabled

def proposeRemoveDuplicatePrimaryKey (config : RemediationDatasetConfigInput) : RuleOutcome :=
  proposeRemoval .removeDuplicatePrimaryKey config.removeDuplicatePrimaryKeysEnabled

/-- `REMEDIATION_RULES`. -/
def remediationRules : List RemediationRule :=
  [⟨[.leadingWhitespace, .trailingWhitespace], .trimWhitespace, fun issue _ _ => proposeTrim issue⟩,
    ⟨[.multipleInternalSpaces], .collapseMultipleSpaces, fun issue _ _ => proposeCollapse issue⟩,
    ⟨[.inconsistentCapitalization], .standardizeCapitalization,
      fun issue config _ => proposeStandardizeCapitalization py issue config⟩,
    ⟨[.booleanInconsistency], .normalizeBoolean, fun issue _ _ => proposeNormalizeBoolean py issue⟩,
    ⟨[.invalidDate], .normalizeDate, fun issue config _ => proposeNormalizeDate py issue config⟩,
    ⟨[.invalidPhone], .normalizePhone, fun issue config _ => proposeNormalizePhone py issue config⟩,
    ⟨[.invalidNumeric], .normalizeNumeric, fun issue _ _ => proposeNormalizeNumeric py issue⟩,
    ⟨[.invalidEnumValue], .normalizeEnumValue, fun issue config _ => proposeNormalizeEnumValue py issue config⟩,
    ⟨[.duplicateRow], .removeDuplicateRow, fun _ _ config => proposeRemoveDuplicateRow config⟩,
    ⟨[.duplicatePrimaryKey], .removeDuplicatePrimaryKey, fun _ _ config => proposeRemoveDuplicatePrimaryKey config⟩]

def getRuleForIssueType (issueType : IssueType) : Option RemediationRule :=
  (remediationRules py).find? (fun rule => issueType ∈ rule.issueTypes)

/-! ## The engine -/

structure PendingChange where
  proposal  : RemediationChangeProposal
  issueType : IssueType
deriving DecidableEq, Repr

structure RemediationResult where
  changes               : List RemediationChangeProposal
  skipped               : List SkippedIssue
  issuesConsideredCount : Nat
  totalChangesCount     : Nat
  issuesSkippedCount    : Nat
  changesByAction       : Dict Action Nat
deriving DecidableEq, Repr

/-- `_issue_sort_key` and `_skipped_sort_key`. -/
def issueSortKey (issue : RemediationIssueInput) : Nat ×ₗ Str ×ₗ Str :=
  toLex (issue.rowNumber, toLex (issue.columnName.getD [], issue.issueType.name))
def skippedSortKey (skipped : SkippedIssue) : Nat ×ₗ Str ×ₗ Str :=
  toLex (skipped.rowNumber, toLex (skipped.columnName.getD [], skipped.issueType.name))

def skip (issue : RemediationIssueInput) (reason : SkipReason) : SkippedIssue :=
  ⟨issue.issueId, issue.rowNumber, issue.columnName, issue.issueType, reason⟩

/-- `column_config.get(name) if name else None`. -/
def columnConfigOf {γ : Type} (columnConfig : Dict Str γ) (columnName : Option Str) : Option γ :=
  (Str.given columnName).bind columnConfig.get?

/-- The loop body for one issue. -/
def considerIssue (dataset : Table) (columnConfig : Dict Str RemediationColumnConfig)
    (datasetConfig : RemediationDatasetConfigInput) (issue : RemediationIssueInput) : Except SkippedIssue PendingChange :=
  match getRuleForIssueType py issue.issueType with
  | none      => .error (skip issue .issueTypeNotRemediable)
  | some rule =>
    if ¬ (2 ≤ issue.rowNumber ∧ issue.rowNumber ≤ dataset.rows.length + 1) then
      .error (skip issue .rowNotFoundInDataset)
    else
      match rule.propose issue (columnConfigOf columnConfig issue.columnName) datasetConfig with
      | .unchanged skipReason         => .error (skip issue skipReason)
      | .changed proposedValue reason => .ok
        ⟨⟨issue.issueId, issue.rowNumber, issue.columnName, rule.action, issue.originalValue, proposedValue, reason⟩,
          issue.issueType⟩

def pendingOf : Except SkippedIssue PendingChange → Option PendingChange
  | .ok pending => some pending
  | .error _    => none

def skippedOf : Except SkippedIssue PendingChange → Option SkippedIssue
  | .ok _         => none
  | .error skipped => some skipped

/-- `_apply_persisted_change_ceiling`. -/
def applyPersistedChangeCeiling (pendingChanges : List PendingChange) (limits : RemediationLimits) :
    List PendingChange × List PendingChange :=
  if pendingChanges.length ≤ limits.maxPersistedChanges then (pendingChanges, [])
  else (pendingChanges.take limits.maxPersistedChanges, pendingChanges.drop limits.maxPersistedChanges)

/-- A change over the ceiling. -/
def overLimit (pending : PendingChange) : SkippedIssue :=
  ⟨pending.proposal.sourceIssueId, pending.proposal.rowNumber, pending.proposal.columnName, pending.issueType,
    .persistedChangeLimitReached⟩

def remediate (dataset : Table) (issues : List RemediationIssueInput) (columnConfig : Dict Str RemediationColumnConfig)
    (datasetConfig : RemediationDatasetConfigInput) (limits : RemediationLimits) : RemediationResult :=
  let sortedIssues := issues.insertionSort (fun a b => issueSortKey a ≤ issueSortKey b)
  let outcomes := sortedIssues.map (considerIssue py dataset columnConfig datasetConfig)
  let (kept, overflow) := applyPersistedChangeCeiling (outcomes.filterMap pendingOf) limits
  let skipped := (outcomes.filterMap skippedOf ++ overflow.map overLimit).insertionSort
    (fun a b => skippedSortKey a ≤ skippedSortKey b)
  let changes := kept.map (fun pending => pending.proposal)
  { changes := changes
    skipped := skipped
    issuesConsideredCount := issues.length
    totalChangesCount := changes.length
    issuesSkippedCount := skipped.length
    changesByAction := Dict.tally (changes.map (fun proposal => proposal.action)) }

/-! ## What the engine proposes -/

variable {py} {dataset : Table} {columnConfig : Dict Str RemediationColumnConfig}
  {datasetConfig : RemediationDatasetConfigInput} {limits : RemediationLimits} {issues : List RemediationIssueInput}

theorem considerIssue_eq_ok {issue : RemediationIssueInput} {pending : PendingChange} :
    considerIssue py dataset columnConfig datasetConfig issue = .ok pending ↔
      ∃ rule v reason, getRuleForIssueType py issue.issueType = some rule ∧
        2 ≤ issue.rowNumber ∧ issue.rowNumber ≤ dataset.rows.length + 1 ∧
        rule.propose issue (columnConfigOf columnConfig issue.columnName) datasetConfig = .changed v reason ∧
        pending = ⟨⟨issue.issueId, issue.rowNumber, issue.columnName, rule.action, issue.originalValue, v, reason⟩,
          issue.issueType⟩ := by
  unfold considerIssue
  cases hrule : getRuleForIssueType py issue.issueType with
  | none => simp
  | some rule =>
    dsimp only
    by_cases hrow : 2 ≤ issue.rowNumber ∧ issue.rowNumber ≤ dataset.rows.length + 1
    · rw [if_neg (not_not.2 hrow)]
      cases houtcome : rule.propose issue (columnConfigOf columnConfig issue.columnName) datasetConfig with
      | unchanged skipReason =>
        simp only [reduceCtorEq, false_iff]
        rintro ⟨rule', v, reason, heq, -, -, hprop, -⟩
        cases heq
        rw [houtcome] at hprop
        cases hprop
      | changed v reason =>
        simp only [Except.ok.injEq]
        constructor
        · rintro rfl
          exact ⟨rule, v, reason, rfl, hrow.1, hrow.2, houtcome, rfl⟩
        · rintro ⟨rule', v', reason', heq, -, -, hprop, rfl⟩
          cases heq
          rw [houtcome] at hprop
          cases hprop
          rfl
    · rw [if_pos hrow]
      simp only [reduceCtorEq, false_iff]
      rintro ⟨rule', v, reason, -, hlow, hhigh, -⟩
      exact hrow ⟨hlow, hhigh⟩

theorem applyPersistedChangeCeiling_eq (pendingChanges : List PendingChange) (limits : RemediationLimits) :
    applyPersistedChangeCeiling pendingChanges limits =
      (pendingChanges.take limits.maxPersistedChanges, pendingChanges.drop limits.maxPersistedChanges) := by
  unfold applyPersistedChangeCeiling
  split
  · rename_i hle
    rw [List.take_of_length_le hle, List.drop_of_length_le hle]
  · rfl

theorem length_outcomes : ∀ outcomes : List (Except SkippedIssue PendingChange),
    (outcomes.filterMap pendingOf).length + (outcomes.filterMap skippedOf).length = outcomes.length
  | [] => rfl
  | .ok pending :: outcomes => by
    have ih := length_outcomes outcomes
    simp only [List.filterMap_cons, pendingOf, skippedOf, List.length_cons]
    omega
  | .error skipped :: outcomes => by
    have ih := length_outcomes outcomes
    simp only [List.filterMap_cons, pendingOf, skippedOf, List.length_cons]
    omega

/-- **Every issue considered is changed or skipped.** -/
theorem remediate_reconciles (py : Python) (dataset : Table) (issues : List RemediationIssueInput)
    (columnConfig : Dict Str RemediationColumnConfig) (datasetConfig : RemediationDatasetConfigInput)
    (limits : RemediationLimits) :
    let result := remediate py dataset issues columnConfig datasetConfig limits
    result.totalChangesCount + result.issuesSkippedCount = result.issuesConsideredCount := by
  have hlen := length_outcomes ((issues.insertionSort (fun a b => issueSortKey a ≤ issueSortKey b)).map
    (considerIssue py dataset columnConfig datasetConfig))
  rw [List.length_map, List.length_insertionSort] at hlen
  unfold remediate
  simp only [applyPersistedChangeCeiling_eq, List.length_map, List.length_insertionSort, List.length_append,
    List.length_take, List.length_drop]
  omega

/-- The issues a change came from keep their order and are not repeated. -/
theorem changes_sublist (py : Python) (dataset : Table) (issues : List RemediationIssueInput)
    (columnConfig : Dict Str RemediationColumnConfig) (datasetConfig : RemediationDatasetConfigInput)
    (limits : RemediationLimits) :
    ((remediate py dataset issues columnConfig datasetConfig limits).changes.map (fun p => p.sourceIssueId)).Sublist
      ((issues.insertionSort (fun a b => issueSortKey a ≤ issueSortKey b)).map (fun issue => issue.issueId)) := by
  have hpending : ∀ l : List RemediationIssueInput,
      (((l.map (considerIssue py dataset columnConfig datasetConfig)).filterMap pendingOf).map
        (fun pending => pending.proposal.sourceIssueId)).Sublist (l.map (fun issue => issue.issueId)) := by
    intro l
    induction l with
    | nil => exact List.Sublist.refl _
    | cons issue l ih =>
      cases houtcome : considerIssue py dataset columnConfig datasetConfig issue with
      | error skipped =>
        simp only [List.map_cons, houtcome, List.filterMap_cons, pendingOf]
        exact ih.cons _
      | ok pending =>
        obtain ⟨rule, v, reason, -, -, -, -, rfl⟩ := considerIssue_eq_ok.1 houtcome
        simp only [List.map_cons, houtcome, List.filterMap_cons, pendingOf]
        exact ih.cons_cons _
  unfold remediate
  simp only [applyPersistedChangeCeiling_eq, List.map_map]
  exact ((List.take_sublist _ _).map _).trans (hpending _)

/-- **Every change is what the action of its issue's type proposed for it.** -/
theorem mem_changes {p : RemediationChangeProposal}
    (hp : p ∈ (remediate py dataset issues columnConfig datasetConfig limits).changes) :
    ∃ issue ∈ issues, ∃ rule v reason, getRuleForIssueType py issue.issueType = some rule ∧
      2 ≤ issue.rowNumber ∧ issue.rowNumber ≤ dataset.rows.length + 1 ∧
      rule.propose issue (columnConfigOf columnConfig issue.columnName) datasetConfig = .changed v reason ∧
      p = ⟨issue.issueId, issue.rowNumber, issue.columnName, rule.action, issue.originalValue, v, reason⟩ := by
  unfold remediate at hp
  simp only [applyPersistedChangeCeiling_eq] at hp
  obtain ⟨pending, hpending, rfl⟩ := List.mem_map.1 hp
  obtain ⟨outcome, houtcome, hok⟩ := List.mem_filterMap.1 (List.mem_of_mem_take hpending)
  obtain ⟨issue, hissue, rfl⟩ := List.mem_map.1 houtcome
  have hconsidered : considerIssue py dataset columnConfig datasetConfig issue = .ok pending := by
    cases h : considerIssue py dataset columnConfig datasetConfig issue with
    | error skipped =>
      rw [h] at hok
      cases hok
    | ok pending' =>
      rw [h] at hok
      exact congrArg Except.ok (Option.some.inj hok)
  obtain ⟨rule, v, reason, hrule, hlow, hhigh, hprop, rfl⟩ := considerIssue_eq_ok.1 hconsidered
  exact ⟨issue, (List.mem_insertionSort _).1 hissue, rule, v, reason, hrule, hlow, hhigh, hprop, rfl⟩

/-- The action that handles each issue type. -/
theorem getRuleForIssueType_action {issueType : IssueType} {rule : RemediationRule}
    (h : getRuleForIssueType py issueType = some rule) : rule ∈ remediationRules py ∧ issueType ∈ rule.issueTypes := by
  have hmem := List.mem_of_find?_eq_some h
  have htype := List.find?_some h
  exact ⟨hmem, by simpa using htype⟩

end
end Remediation
end DataOps

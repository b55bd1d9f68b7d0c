import DataOps.RemediateEngine
/-!
# ValidateEngine — validate

A rule for each action works out again what the change should propose.  The engine sorts the approved changes and gives
each a result, in order (`results_eq`); those beyond the ceiling are skipped.
-/
namespace DataOps
namespace Validation

open Remediation (Action IssueId CapitalizationTarget columnConfigOf)

abbrev ChangeId := Nat

structure ValidationChangeInput where
  changeId      : ChangeId
  sourceIssueId : IssueId
  rowNumber     : Nat
  columnName    : Option Str
  action        : Action
  originalValue : Option Str
  proposedValue : Option Str
deriving DecidableEq, Repr

structure ValidationColumnConfig where
  sourceDateFormat     : Option Str := none
  targetDateFormat     : Option Str := none
  defaultCountry       : Option Str := none
  capitalizationTarget : Option CapitalizationTarget := none
  allowedValues        : Option (List Str) := none
deriving DecidableEq, Repr

inductive Outcome
  | passed | failed | skipped
deriving DecidableEq, Repr

inductive Reason
  | proposedValueMatches | duplicateRemovalCorrectlyFormed | proposedValueMismatch | duplicateRemovalProposedValueNotNone
  | actionNotRecognised | originalValueMissing | capitalizationTargetNotConfigured | sourceDateFormatNotConfigured
  | targetDateFormatNotConfigured | defaultCountryNotConfigured | allowedValuesNotConfigured | resultLimitReached
deriving DecidableEq, Repr

structure ValidationRuleOutcome where
  outcome : Outcome
  reason  : Reason
deriving DecidableEq, Repr

/-- `VALIDATION_RULE_NAMES`. -/
inductive RuleName
  | validateTrimWhitespace | validateCollapseMultipleSpaces | validateStandardizeCapitalization
  | validateNormalizeBoolean | validateNormalizeDate | validateNormalizePhone | validateNormalizeNumeric
  | validateNormalizeEnumValue | validateRemoveDuplicateRow | validateRemoveDuplicatePrimaryKey
deriving DecidableEq, Repr

structure ValidationRule where
  ruleName    : RuleName
  action      : Action
  validate    : ValidationChangeInput → Option ValidationColumnConfig → ValidationRuleOutcome
  ruleVersion : String := "1.0"

/-! ## The rules -/

/-- Whether the proposal is the expected text. -/
def compareProposal (expected : Str) (change : ValidationChangeInput) : ValidationRuleOutcome :=
  if change.proposedValue = some expected then ⟨.passed, .proposedValueMatches⟩ else ⟨.failed, .proposedValueMismatch⟩

/-- Whether the proposal is what a standardization rule makes. -/
def compareStandardized (standardized : Str × Option Standardization.RuleName) (change : ValidationChangeInput) :
    ValidationRuleOutcome :=
  match standardized.2 with
  | none   => ⟨.failed, .proposedValueMismatch⟩
  | some _ => compareProposal standardized.1 change

def validateTrim (change : ValidationChangeInput) : ValidationRuleOutcome :=
  match change.originalValue with
  | none       => ⟨.skipped, .originalValueMissing⟩
  | some value =>
    if change.proposedValue = some value.lstrip ∨ change.proposedValue = some value.rstrip then
      ⟨.passed, .proposedValueMatches⟩
    else ⟨.failed, .proposedValueMismatch⟩

def validateCollapse (change : ValidationChangeInput) : ValidationRuleOutcome :=
  match change.originalValue with
  | none       => ⟨.skipped, .originalValueMissing⟩
  | some value => compareProposal value.collapse change

section
variable (py : Python)

/-- `_APPLY`. -/
def applyTarget : CapitalizationTarget → Str → Str
  | .lower => Standardization.lowerCase py
  | .upper => Standardization.upperCase py
  | .title => Standardization.titleCase py

def validateCapitalization (change : ValidationChangeInput) (columnConfig : Option ValidationColumnConfig) :
    ValidationRuleOutcome :=
  match columnConfig.bind (fun config => config.capitalizationTarget) with
  | none        => ⟨.skipped, .capitalizationTargetNotConfigured⟩
  | some target =>
    match Str.given change.originalValue with
    | none       => ⟨.skipped, .originalValueMissing⟩
    | some value => compareProposal (applyTarget py target value) change

def validateBoolean (change : ValidationChangeInput) : ValidationRuleOutcome :=
  compareStandardized (Standardization.standardizeBoolean py (change.originalValue.getD []) none) change

def validateDate (change : ValidationChangeInput) (columnConfig : Option ValidationColumnConfig) :
    ValidationRuleOutcome :=
  match Str.given (columnConfig.bind (fun config => config.sourceDateFormat)) with
  | none              => ⟨.skipped, .sourceDateFormatNotConfigured⟩
  | some sourceFormat =>
    match Str.given (columnConfig.bind (fun config => config.targetDateFormat)) with
    | none              => ⟨.skipped, .targetDateFormatNotConfigured⟩
    | some targetFormat =>
      match Str.given change.originalValue with
      | none       => ⟨.skipped, .originalValueMissing⟩
      | some value =>
        match py.strptime value sourceFormat with
        | none        => ⟨.failed, .proposedValueMismatch⟩
        | some parsed => compareProposal (py.strftime parsed targetFormat) change

def validatePhone (change : ValidationChangeInput) (columnConfig : Option ValidationColumnConfig) :
    ValidationRuleOutcome :=
  match Str.given (columnConfig.bind (fun config => config.defaultCountry)) with
  | none         => ⟨.skipped, .defaultCountryNotConfigured⟩
  | some country =>
    compareStandardized (Standardization.standardizePhone py (change.originalValue.getD []) (some country)) change

def validateNumeric (change : ValidationChangeInput) : ValidationRuleOutcome :=
  compareStandardized (Standardization.standardizeNumeric py (change.originalValue.getD []) none) change

/-- The allowed values that are the text up to case and surrounding blanks, without repetition. -/
def matchingAllowed (allowedValues : List Str) (value : Str) : List Str :=
  (allowedValues.filter (fun allowed => py.casefold allowed.strip = py.casefold value.strip)).dedup

def validateEnumValue (change : ValidationChangeInput) (columnConfig : Option ValidationColumnConfig) :
    ValidationRuleOutcome :=
  match columnConfig.bind (fun config => config.allowedValues) with
  | none | some []     => ⟨.skipped, .allowedValuesNotConfigured⟩
  | some allowedValues =>
    match Str.given change.originalValue with
    | none       => ⟨.skipped, .originalValueMissing⟩
    | some value =>
      match matchingAllowed py allowedValues value with
      | [canonical] => compareProposal canonical change
      | _           => ⟨.failed, .proposedValueMismatch⟩

def validateDuplicateRemoval (change : ValidationChangeInput) : ValidationRuleOutcome :=
  if change.proposedValue = none then ⟨.passed, .duplicateRemovalCorrectlyFormed⟩
  else ⟨.failed, .duplicateRemovalProposedValueNotNone⟩

/-- `VALIDATION_RULES`. -/
def validationRules : List ValidationRule :=
  [{ ruleName := .validateTrimWhitespace, action := .trimWhitespace, validate := fun change _ => validateTrim change },
    { ruleName := .validateCollapseMultipleSpaces, action := .collapseMultipleSpaces
      validate := fun change _ => validateCollapse change },
    { ruleName := .validateStandardizeCapitalization, action := .standardizeCapitalization
      validate := validateCapitalization py },
    { ruleName := .validateNormalizeBoolean, action := .normalizeBoolean
      validate := fun change _ => validateBoolean py change },
    { ruleName := .validateNormalizeDate, action := .normalizeDate, validate := validateDate py },
    { ruleName := .validateNormalizePhone, action := .normalizePhone, validate := validatePhone py },
    { ruleName := .validateNormalizeNumeric, action := .normalizeNumeric
      validate := fun change _ => validateNumeric py change },
    { ruleName := .validateNormalizeEnumValue, action := .normalizeEnumValue, validate := validateEnumValue py },
    { ruleName := .validateRemoveDuplicateRow, action := .removeDuplicateRow
      validate := fun change _ => validateDuplicateRemoval change },
    { ruleName := .validateRemoveDuplicatePrimaryKey, action := .removeDuplicatePrimaryKey
      validate := fun change _ => validateDuplicateRemoval change }]

def getRuleForAction (action : Action) : Option ValidationRule :=
  (validationRules py).find? (fun rule => rule.action = action)

/-- Every action has a rule. -/
theorem getRuleForAction_isSome (action : Action) : (getRuleForAction py action).isSome := by cases action <;> rfl

/-! ## The engine -/

structure ValidationResultItem where
  changeId              : ChangeId
  sourceIssueId         : IssueId
  rowNumber             : Nat
  columnName            : Option Str
  -- none is the empty name of an action without a rule
  validationRule        : Option RuleName
  outcome               : Outcome
  reason                : Reason
  originalValue         : Option Str
  proposedValue         : Option Str
  validationRuleVersion : String
deriving DecidableEq, Repr

structure ValidationLimits where
  maxPersistedResults : Nat

structure ValidationRunResult where
  results                   : List ValidationResultItem
  approvedChangesConsidered : Nat
  passedCount               : Nat
  failedCount               : Nat
  skippedCount              : Nat
  resultsByRule             : Dict RuleName Nat
deriving DecidableEq, Repr

/-- `_change_sort_key`. -/
def changeSortKey (change : ValidationChangeInput) : Nat ×ₗ Str ×ₗ Str :=
  toLex (change.rowNumber, toLex (change.columnName.getD [], change.action.name))

def resultItem (change : ValidationChangeInput) (validationRule : Option RuleName) (outcome : ValidationRuleOutcome)
    (version : String) : ValidationResultItem :=
  ⟨change.changeId, change.sourceIssueId, change.rowNumber, change.columnName, validationRule, outcome.outcome,
    outcome.reason, change.originalValue, change.proposedValue, version⟩

/-- The item of a change, when `position` results come before it. -/
def validateChange (columnConfig : Dict Str ValidationColumnConfig) (limits : ValidationLimits)
    (position : Nat) (change : ValidationChangeInput) : ValidationResultItem :=
  match getRuleForAction py change.action with
  | none      => resultItem change none ⟨.skipped, .actionNotRecognised⟩ ""
  | some rule =>
    if limits.maxPersistedResults ≤ position then
      resultItem change (some rule.ruleName) ⟨.skipped, .resultLimitReached⟩ rule.ruleVersion
    else
      resultItem change (some rule.ruleName) (rule.validate change (columnConfigOf columnConfig change.columnName))
        rule.ruleVersion

/-- The loop over the sorted changes. -/
def collectResults (columnConfig : Dict Str ValidationColumnConfig) (limits : ValidationLimits)
    (sortedChanges : List ValidationChangeInput) : List ValidationResultItem :=
  sortedChanges.foldl (fun results change => results ++ [validateChange py columnConfig limits results.length change]) []

def sortChanges (changes : List ValidationChangeInput) : List ValidationChangeInput :=
  changes.insertionSort (fun a b => changeSortKey a ≤ changeSortKey b)

def validate (changes : List ValidationChangeInput) (columnConfig : Dict Str ValidationColumnConfig)
    (limits : ValidationLimits) : ValidationRunResult :=
  let results := collectResults py columnConfig limits (sortChanges changes)
  { results := results
    approvedChangesConsidered := (sortChanges changes).length
    passedCount := results.countP (fun item => item.outcome = .passed)
    failedCount := results.countP (fun item => item.outcome = .failed)
    skippedCount := results.countP (fun item => item.outcome = .skipped)
    resultsByRule := Dict.tally (results.filterMap (fun item => item.validationRule)) }

/-! ## The results -/

variable {py} {columnConfig : Dict Str ValidationColumnConfig} {limits : ValidationLimits}
  {changes : List ValidationChangeInput}

/-- **One result for each change, in order.** -/
theorem collectResults_eq (sortedChanges : List ValidationChangeInput) :
    collectResults py columnConfig limits sortedChanges =
      sortedChanges.zipIdx.map (fun p => validateChange py columnConfig limits p.2 p.1) := by
  unfold collectResults
  induction sortedChanges using List.reverseRecOn with
  | nil => rfl
  | append_singleton sortedChanges change ih =>
    rw [List.foldl_append, ih, List.zipIdx_append, List.map_append]
    simp

theorem results_eq (py : Python) (changes : List ValidationChangeInput) (columnConfig : Dict Str ValidationColumnConfig)
    (limits : ValidationLimits) :
    (validate py changes columnConfig limits).results =
      (sortChanges changes).zipIdx.map (fun p => validateChange py columnConfig limits p.2 p.1) :=
  collectResults_eq _

theorem sortChanges_perm (changes : List ValidationChangeInput) : (sortChanges changes).Perm changes :=
  List.perm_insertionSort _ _

theorem validateChange_changeId (position : Nat) (change : ValidationChangeInput) :
    (validateChange py columnConfig limits position change).changeId = change.changeId ∧
      (validateChange py columnConfig limits position change).sourceIssueId = change.sourceIssueId := by
  unfold validateChange
  split
  · exact ⟨rfl, rfl⟩
  · split <;> exact ⟨rfl, rfl⟩

/-- What a result takes from its change, each change having one result. -/
theorem map_results {κ : Type} {f : ValidationResultItem → κ} {g : ValidationChangeInput → κ}
    (hfg : ∀ position change, f (validateChange py columnConfig limits position change) = g change) :
    ((validate py changes columnConfig limits).results.map f).Perm (changes.map g) := by
  have hmap : (validate py changes columnConfig limits).results.map f = (sortChanges changes).map g := by
    rw [results_eq, List.map_map]
    conv => rhs; rw [← List.zipIdx_map_fst 0 (sortChanges changes), List.map_map]
    exact List.map_congr_left (fun p _ => hfg p.2 p.1)
  rw [hmap]
  exact (sortChanges_perm changes).map _

/-- Every change has one result. -/
theorem map_changeId_results (py : Python) (changes : List ValidationChangeInput)
    (columnConfig : Dict Str ValidationColumnConfig) (limits : ValidationLimits) :
    ((validate py changes columnConfig limits).results.map (fun item => item.changeId)).Perm
      (changes.map (fun change => change.changeId)) :=
  map_results (fun position change => (validateChange_changeId position change).1)

/-- **Passed, failed and skipped are all the changes considered.** -/
theorem validate_reconciles (py : Python) (changes : List ValidationChangeInput)
    (columnConfig : Dict Str ValidationColumnConfig) (limits : ValidationLimits) :
    let run := validate py changes columnConfig limits
    run.passedCount + run.failedCount + run.skippedCount = run.approvedChangesConsidered := by
  have hsplit : ∀ results : List ValidationResultItem,
      results.countP (fun item => item.outcome = .passed) + results.countP (fun item => item.outcome = .failed) +
        results.countP (fun item => item.outcome = .skipped) = results.length := by
    intro results
    induction results with
    | nil => rfl
    | cons item results ih =>
      simp only [List.countP_cons, List.length_cons]
      cases item.outcome <;> simp <;> omega
  have hlen : (validate py changes columnConfig limits).results.length = (sortChanges changes).length := by
    rw [results_eq, List.length_map, List.length_zipIdx]
  exact (hsplit _).trans hlen

end
end Validation
end DataOps

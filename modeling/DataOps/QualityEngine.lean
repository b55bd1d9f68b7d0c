import DataOps.ValidateEngine
/-!
# QualityEngine — quality_control

Eight categories score the run, two of them never; the weighted scores, the findings and the unresolved counts decide the
recommendation.  `recommendation_fail_iff` lists the grounds for FAIL.
-/
namespace DataOps
namespace Quality

open Detection (IssueType Severity)
open Remediation (IssueId)
open Validation (ChangeId)

abbrev ResultId := Nat

/-- `QUALITY_CATEGORIES`, and the category of the engine's own finding. -/
inductive CategoryName
  | completeness | uniqueness | validity | consistency | referentialIntegrity | businessRuleCompliance | unresolvedRisk
  | validationCoverage | qualityControl
deriving DecidableEq, Repr

def CategoryName.name : CategoryName → Str
  | completeness           => "completeness".toList
  | uniqueness             => "uniqueness".toList
  | validity               => "validity".toList
  | consistency            => "consistency".toList
  | referentialIntegrity   => "referential_integrity".toList
  | businessRuleCompliance => "business_rule_compliance".toList
  | unresolvedRisk         => "unresolved_risk".toList
  | validationCoverage     => "validation_coverage".toList
  | qualityControl         => "quality_control".toList

def validationRuleName : Validation.RuleName → Str
  | .validateTrimWhitespace            => "validate_trim_whitespace".toList
  | .validateCollapseMultipleSpaces    => "validate_collapse_multiple_spaces".toList
  | .validateStandardizeCapitalization => "validate_standardize_capitalization".toList
  | .validateNormalizeBoolean          => "validate_normalize_boolean".toList
  | .validateNormalizeDate             => "validate_normalize_date".toList
  | .validateNormalizePhone            => "validate_normalize_phone".toList
  | .validateNormalizeNumeric          => "validate_normalize_numeric".toList
  | .validateNormalizeEnumValue        => "validate_normalize_enum_value".toList
  | .validateRemoveDuplicateRow        => "validate_remove_duplicate_row".toList
  | .validateRemoveDuplicatePrimaryKey => "validate_remove_duplicate_primary_key".toList

inductive FindingRule
  | completenessMissingValueRate | uniquenessDuplicateRowRate | validityValidationPassRate
  | consistency (rule : Validation.RuleName) | unresolvedRiskCriticalSeverity | unresolvedRiskHighSeverity
  | validationCoverageSkipRate | noApplicableCategories
deriving DecidableEq, Repr

def FindingRule.name : FindingRule → Str
  | completenessMissingValueRate   => "completeness_missing_value_rate".toList
  | uniquenessDuplicateRowRate     => "uniqueness_duplicate_row_rate".toList
  | validityValidationPassRate     => "validity_validation_pass_rate".toList
  | consistency rule               => "consistency_".toList ++ validationRuleName rule
  | unresolvedRiskCriticalSeverity => "unresolved_risk_critical_severity".toList
  | unresolvedRiskHighSeverity     => "unresolved_risk_high_severity".toList
  | validationCoverageSkipRate     => "validation_coverage_skip_rate".toList
  | noApplicableCategories         => "no_applicable_categories".toList

inductive FindingSeverity
  | info | warning | blocking
deriving DecidableEq, Repr

inductive FindingReason
  | emptyDataset | criticalMissingRate | highMissingRate | missingValuesPresent | criticalDuplicateRate
  | highDuplicateRate | duplicatesPresent | criticalValidationFailureRate | highValidationFailureRate
  | validationFailuresPresent | inconsistentNormalization | unresolvedCriticalIssues | unresolvedHighIssues | highSkipRate
  | resultsSkipped | noApplicableCategories
deriving DecidableEq, Repr

def FindingReason.name : FindingReason → Str
  | emptyDataset                  => "EMPTY_DATASET".toList
  | criticalMissingRate           => "CRITICAL_MISSING_RATE".toList
  | highMissingRate               => "HIGH_MISSING_RATE".toList
  | missingValuesPresent          => "MISSING_VALUES_PRESENT".toList
  | criticalDuplicateRate         => "CRITICAL_DUPLICATE_RATE".toList
  | highDuplicateRate             => "HIGH_DUPLICATE_RATE".toList
  | duplicatesPresent             => "DUPLICATES_PRESENT".toList
  | criticalValidationFailureRate => "CRITICAL_VALIDATION_FAILURE_RATE".toList
  | highValidationFailureRate     => "HIGH_VALIDATION_FAILURE_RATE".toList
  | validationFailuresPresent     => "VALIDATION_FAILURES_PRESENT".toList
  | inconsistentNormalization     => "INCONSISTENT_NORMALIZATION".toList
  | unresolvedCriticalIssues      => "UNRESOLVED_CRITICAL_ISSUES".toList
  | unresolvedHighIssues          => "UNRESOLVED_HIGH_ISSUES".toList
  | highSkipRate                  => "HIGH_SKIP_RATE".toList
  | resultsSkipped                => "RESULTS_SKIPPED".toList
  | noApplicableCategories        => "NO_APPLICABLE_CATEGORIES".toList

structure ValidationResultSnapshot where
  id                  : ResultId
  outcome             : Validation.Outcome
  ruleName            : Option Validation.RuleName
  columnName          : Option Str
  sourceIssueId       : Option IssueId
  remediationChangeId : Option ChangeId
deriving DecidableEq, Repr

structure ValidationRunSnapshot where
  approvedChangesConsidered : Nat
  passedCount               : Nat
  failedCount               : Nat
  skippedCount              : Nat
  resultsByRule             : Dict Validation.RuleName Nat
deriving DecidableEq, Repr

structure IssueSnapshot where
  id        : IssueId
  severity  : Severity
  issueType : IssueType
deriving DecidableEq, Repr

structure DataProfileSnapshot where
  rowCount          : Nat
  columnCount       : Nat
  duplicateRowCount : Nat
  missingValueTotal : Nat
deriving DecidableEq, Repr

structure EffectiveDatasetStats where
  effectiveRowCount          : Nat
  effectiveDuplicateRowCount : Nat
  effectiveMissingValueTotal : Nat
  unresolvedHighCount        : Nat
  unresolvedCriticalCount    : Nat
  addressedIssueCount        : Nat
deriving DecidableEq, Repr

structure QualityThresholdConfig (py : Python) where
  failScoreThreshold            : py.Float := py.ofNat 60
  passScoreThreshold            : py.Float := py.ofNat 85
  maxValidationFailureRate      : py.Float := py.ofNat 0
  maxValidationSkipRate         : py.Float := py.float "0.5".toList
  maxHighSeverityUnresolved     : Nat := 0
  maxCriticalSeverityUnresolved : Nat := 0
  maxWarningsForCleanPass       : Nat := 0
  categoryWeights               : Option (Dict CategoryName Nat) := none

structure QualityEngineInput (py : Python) where
  validationRun        : ValidationRunSnapshot
  validationResults    : List ValidationResultSnapshot
  totalIssuesFound     : Nat
  dataProfile          : DataProfileSnapshot
  effectiveStats       : EffectiveDatasetStats
  issues               : List IssueSnapshot
  thresholds           : QualityThresholdConfig py
  maxPersistedFindings : Nat

structure QualityFindingResult where
  category            : CategoryName
  ruleName            : FindingRule
  ruleVersion         : String := "1.0"
  severity            : FindingSeverity
  outcome             : Validation.Outcome := .failed
  reason              : FindingReason
  affectedRowCount    : Option Nat := none
  affectedColumn      : Option Str := none
  sourceIssueId       : Option IssueId := none
  remediationChangeId : Option ChangeId := none
  validationResultId  : Option ResultId := none
deriving DecidableEq, Repr

structure CategoryEvaluationResult (py : Python) where
  score    : py.Float
  findings : List QualityFindingResult

/-- A category is only evaluated where it applies. -/
structure QualityCategory (py : Python) where
  categoryName  : CategoryName
  defaultWeight : Nat
  isApplicable  : QualityEngineInput py → Bool
  evaluate      : (inputs : QualityEngineInput py) → isApplicable inputs = true → CategoryEvaluationResult py

section
variable {py : Python}

/-! ## The categories -/

/-- `max(0.0, min(100.0, x))`. -/
def clampScore (x : py.Float) : py.Float := py.max (py.ofNat 0) (py.min (py.ofNat 100) x)

/-- `100.0 * (1.0 - rate)`, between 0 and 100. -/
def scoreOfRate (rate : py.Float) : py.Float := clampScore (py.mul (py.ofNat 100) (py.sub (py.ofNat 1) rate))

/-- The finding of a score by its band. -/
def bandFinding (category : CategoryName) (rule : FindingRule) (critical high present : FindingReason) (score : py.Float)
    (affected : Option Nat) : QualityFindingResult :=
  let band :=
    if py.lt score (py.ofNat 60) then (FindingSeverity.blocking, critical)
    else if py.lt score (py.ofNat 85) then (.warning, high)
    else (.info, present)
  { category := category, ruleName := rule, severity := band.1, reason := band.2, affectedRowCount := affected }

/-- `missing_rate` of a table that has rows. -/
def missingRate (stats : EffectiveDatasetStats) (dataProfile : DataProfileSnapshot) : py.Float :=
  let totalCells := stats.effectiveRowCount * dataProfile.columnCount
  if totalCells = 0 then py.ofNat 0 else py.ratio stats.effectiveMissingValueTotal totalCells

def completenessCategory : QualityCategory py where
  categoryName := .completeness
  defaultWeight := 20
  isApplicable := fun _ => true
  evaluate := fun inputs _ =>
    if inputs.effectiveStats.effectiveRowCount = 0 then
      ⟨py.ofNat 0, [{ category := .completeness, ruleName := .completenessMissingValueRate, severity := .blocking
                      reason := .emptyDataset, affectedRowCount := some 0 }]⟩
    else
      let rate := missingRate inputs.effectiveStats inputs.dataProfile
      let score := scoreOfRate rate
      if py.eq rate (py.ofNat 0) then ⟨score, []⟩
      else ⟨score, [bandFinding .completeness .completenessMissingValueRate .criticalMissingRate .highMissingRate
        .missingValuesPresent score (some inputs.effectiveStats.effectiveMissingValueTotal)]⟩

def duplicateRate (stats : EffectiveDatasetStats) : py.Float :=
  py.ratio stats.effectiveDuplicateRowCount stats.effectiveRowCount

def uniquenessCategory : QualityCategory py where
  categoryName := .uniqueness
  defaultWeight := 15
  isApplicable := fun inputs => 0 < inputs.effectiveStats.effectiveRowCount
  evaluate := fun inputs _ =>
    let score := scoreOfRate (duplicateRate inputs.effectiveStats)
    if inputs.effectiveStats.effectiveDuplicateRowCount = 0 then ⟨score, []⟩
    else ⟨score, [bandFinding .uniqueness .uniquenessDuplicateRowRate .criticalDuplicateRate .highDuplicateRate
      .duplicatesPresent score (some inputs.effectiveStats.effectiveDuplicateRowCount)]⟩

def validityScore (run : ValidationRunSnapshot) : py.Float :=
  clampScore (py.mul (py.ofNat 100) (py.ratio run.passedCount run.approvedChangesConsidered))

def validityCategory : QualityCategory py where
  categoryName := .validity
  defaultWeight := 25
  isApplicable := fun inputs => 0 < inputs.validationRun.approvedChangesConsidered
  evaluate := fun inputs _ =>
    let score := validityScore inputs.validationRun
    if inputs.validationRun.passedCount = inputs.validationRun.approvedChangesConsidered then ⟨score, []⟩
    else ⟨score, [bandFinding .validity .validityValidationPassRate .criticalValidationFailureRate
      .highValidationFailureRate .validationFailuresPresent score
      (if 0 < inputs.validationRun.failedCount then some inputs.validationRun.failedCount else none)]⟩

/-- `_CONSISTENCY_RULE_NAMES`. -/
def consistencyRuleNames : List Validation.RuleName :=
  [.validateStandardizeCapitalization, .validateNormalizeBoolean, .validateNormalizeDate, .validateNormalizeEnumValue]

def pairStep (pairOutcomes : Dict (Validation.RuleName × Str) (List Validation.Outcome))
    (result : ValidationResultSnapshot) : Dict (Validation.RuleName × Str) (List Validation.Outcome) :=
  match result.ruleName, result.columnName with
  | some rule, some column =>
    if rule ∈ consistencyRuleNames then pairOutcomes.push (rule, column) result.outcome else pairOutcomes
  | _, _                   => pairOutcomes

/-- The outcomes of each rule and column. -/
def pairOutcomes (results : List ValidationResultSnapshot) :
    Dict (Validation.RuleName × Str) (List Validation.Outcome) := results.foldl pairStep []

/-- The pairs with both outcomes, sorted. -/
def inconsistentPairs (results : List ValidationResultSnapshot) : List (Validation.RuleName × Str) :=
  (((pairOutcomes results).filter (fun p => .passed ∈ p.2 ∧ .failed ∈ p.2)).map (·.1)).insertionSort
    (fun a b => toLex (validationRuleName a.1, a.2) ≤ toLex (validationRuleName b.1, b.2))

def consistencyCategory : QualityCategory py where
  categoryName := .consistency
  defaultWeight := 10
  isApplicable := fun inputs => inputs.validationRun.resultsByRule.keys.any (fun rule => rule ∈ consistencyRuleNames)
  evaluate := fun inputs _ =>
    let totalPairs := (pairOutcomes inputs.validationResults).length
    if totalPairs = 0 then ⟨py.ofNat 100, []⟩
    else
      let inconsistent := inconsistentPairs inputs.validationResults
      ⟨clampScore (py.mul (py.ofNat 100) (py.sub (py.ofNat 1) (py.ratio inconsistent.length totalPairs))),
        inconsistent.map (fun p =>
          { category := .consistency, ruleName := .consistency p.1, severity := .warning
            reason := .inconsistentNormalization, affectedColumn := some p.2 })⟩

def referentialIntegrityCategory : QualityCategory py where
  categoryName := .referentialIntegrity
  defaultWeight := 10
  isApplicable := fun _ => false
  evaluate := fun _ h => by cases h

def businessRuleComplianceCategory : QualityCategory py where
  categoryName := .businessRuleCompliance
  defaultWeight := 15
  isApplicable := fun _ => false
  evaluate := fun _ h => by cases h

/-- The findings of unresolved issues, critical first. -/
def unresolvedFindings (stats : EffectiveDatasetStats) : List QualityFindingResult :=
  (if 0 < stats.unresolvedCriticalCount then
    [{ category := .unresolvedRisk, ruleName := .unresolvedRiskCriticalSeverity, severity := .blocking
       reason := .unresolvedCriticalIssues, affectedRowCount := some stats.unresolvedCriticalCount }]
  else []) ++
  if 0 < stats.unresolvedHighCount then
    [{ category := .unresolvedRisk, ruleName := .unresolvedRiskHighSeverity, severity := .warning
       reason := .unresolvedHighIssues, affectedRowCount := some stats.unresolvedHighCount }]
  else []

def unresolvedRiskCategory : QualityCategory py where
  categoryName := .unresolvedRisk
  defaultWeight := 25
  isApplicable := fun inputs => 0 < inputs.totalIssuesFound
  evaluate := fun inputs _ =>
    let unresolved := inputs.effectiveStats.unresolvedCriticalCount + inputs.effectiveStats.unresolvedHighCount
    if unresolved = 0 then ⟨py.ofNat 100, []⟩
    else ⟨scoreOfRate (py.ratio unresolved (max 1 inputs.totalIssuesFound)), unresolvedFindings inputs.effectiveStats⟩

def skipRate (run : ValidationRunSnapshot) : py.Float := py.ratio run.skippedCount run.approvedChangesConsidered

def validationCoverageCategory : QualityCategory py where
  categoryName := .validationCoverage
  defaultWeight := 15
  isApplicable := fun inputs => 0 < inputs.validationRun.approvedChangesConsidered
  evaluate := fun inputs _ =>
    let score : py.Float := scoreOfRate (skipRate inputs.validationRun)
    if inputs.validationRun.skippedCount = 0 then ⟨score, []⟩
    else
      let tooMany := py.lt inputs.thresholds.maxValidationSkipRate (skipRate inputs.validationRun)
      ⟨score, [{ category := .validationCoverage, ruleName := .validationCoverageSkipRate
                 severity := if tooMany then .blocking else .warning
                 reason := if tooMany then .highSkipRate else .resultsSkipped
                 affectedRowCount := some inputs.validationRun.skippedCount }]⟩

/-- `QUALITY_RULES`. -/
def qualityRules : List (QualityCategory py) :=
  [completenessCategory, uniquenessCategory, validityCategory, consistencyCategory, referentialIntegrityCategory,
    businessRuleComplianceCategory, unresolvedRiskCategory, validationCoverageCategory]

/-! ## The engine -/

inductive CategoryStatus
  | passed | warning | failed | skipped
deriving DecidableEq, Repr

inductive Recommendation
  | pass | passWithWarnings | fail
deriving DecidableEq, Repr

def effectiveWeight (category : CategoryName) (defaultWeight : Nat) (overrides : Option (Dict CategoryName Nat)) : Nat :=
  match overrides.bind (fun weights => weights.get? category) with
  | some weight => if 0 < weight then weight else defaultWeight
  | none        => defaultWeight

def categoryStatus (score : py.Float) (findings : List QualityFindingResult) : CategoryStatus :=
  if findings.any (fun f => f.severity = .blocking) ∨ py.lt score (py.ofNat 60) then .failed
  else if py.le (py.ofNat 85) score ∧ ¬ findings.any (fun f => f.severity = .warning) then .passed
  else .warning

/-- The accumulators of the loop over the categories. -/
structure Evaluation (py : Python) where
  findings         : List QualityFindingResult
  categoryScores   : Dict CategoryName py.Float
  categoryStatuses : Dict CategoryName CategoryStatus
  weightsUsed      : Dict CategoryName py.Float
  weightedScoreSum : py.Float
  weightSum        : Nat

def Evaluation.initial : Evaluation py := ⟨[], [], [], [], py.ofNat 0, 0⟩

def evaluationStep (inputs : QualityEngineInput py) (e : Evaluation py) (rule : QualityCategory py) : Evaluation py :=
  if h : rule.isApplicable inputs = true then
    let result := rule.evaluate inputs h
    let weight := effectiveWeight rule.categoryName rule.defaultWeight inputs.thresholds.categoryWeights
    { findings := e.findings ++ result.findings
      categoryScores := e.categoryScores.set rule.categoryName result.score
      categoryStatuses := e.categoryStatuses.set rule.categoryName (categoryStatus result.score result.findings)
      weightsUsed := e.weightsUsed.set rule.categoryName (py.ofNat weight)
      weightedScoreSum := py.add e.weightedScoreSum (py.mul result.score (py.ofNat weight))
      weightSum := e.weightSum + weight }
  else { e with categoryStatuses := e.categoryStatuses.set rule.categoryName .skipped }

def evaluateAll (inputs : QualityEngineInput py) : Evaluation py :=
  qualityRules.foldl (evaluationStep inputs) .initial

def noApplicableCategoriesFinding : QualityFindingResult :=
  { category := .qualityControl, ruleName := .noApplicableCategories, severity := .blocking
    reason := .noApplicableCategories }

def Evaluation.overallScore (e : Evaluation py) : Option py.Float :=
  if e.weightSum = 0 then none else some (py.div e.weightedScoreSum (py.ofNat e.weightSum))

def Evaluation.allFindings (e : Evaluation py) : List QualityFindingResult :=
  if e.weightSum = 0 then [noApplicableCategoriesFinding] else e.findings

/-- `_compute_recommendation`. -/
def computeRecommendation (overallScore : Option py.Float) (blockingCount warningCount : Nat)
    (inputs : QualityEngineInput py) : Recommendation :=
  match overallScore with
  | none              => .fail
  | some overallScore =>
    if 0 < blockingCount then .fail
    else if py.lt overallScore inputs.thresholds.failScoreThreshold then .fail
    else if 0 < inputs.validationRun.approvedChangesConsidered ∧ py.lt inputs.thresholds.maxValidationFailureRate
        (py.ratio inputs.validationRun.failedCount inputs.validationRun.approvedChangesConsidered) then .fail
    else if inputs.thresholds.maxCriticalSeverityUnresolved < inputs.effectiveStats.unresolvedCriticalCount then .fail
    else if inputs.thresholds.maxHighSeverityUnresolved < inputs.effectiveStats.unresolvedHighCount then .fail
    else if py.le inputs.thresholds.passScoreThreshold overallScore ∧
        warningCount ≤ inputs.thresholds.maxWarningsForCleanPass then .pass
    else .passWithWarnings

structure QualityEngineResult (py : Python) where
  overallScore     : Option py.Float
  recommendation   : Recommendation
  findings         : List QualityFindingResult
  totalFindings    : Nat
  blockingCount    : Nat
  warningCount     : Nat
  infoCount        : Nat
  categoryScores   : Dict CategoryName py.Float
  categoryStatuses : Dict CategoryName CategoryStatus
  weightsUsed      : Dict CategoryName py.Float

/-- `_finding_sort_key`. -/
def findingSortKey (f : QualityFindingResult) : Str ×ₗ Str ×ₗ Str ×ₗ Str :=
  let column := (Str.given f.affectedColumn).getD ['\u00ff']
  toLex (f.category.name, toLex (f.ruleName.name, toLex (column, f.reason.name)))

def severityCount (findings : List QualityFindingResult) (severity : FindingSeverity) : Nat :=
  findings.countP (fun f => f.severity = severity)

def qualityControl (inputs : QualityEngineInput py) : QualityEngineResult py :=
  let e := evaluateAll inputs
  let findings := e.allFindings
  { overallScore := e.overallScore
    recommendation := computeRecommendation e.overallScore (severityCount findings .blocking)
      (severityCount findings .warning) inputs
    findings := (findings.insertionSort (fun a b => findingSortKey a ≤ findingSortKey b)).take inputs.maxPersistedFindings
    totalFindings := findings.length
    blockingCount := severityCount findings .blocking
    warningCount := severityCount findings .warning
    infoCount := severityCount findings .info
    categoryScores := e.categoryScores
    categoryStatuses := e.categoryStatuses
    weightsUsed := e.weightsUsed }

/-! ## The loop over the categories -/

/-- **The rule for what every category preserves.** -/
theorem evaluateAll_induction {inputs : QualityEngineInput py} {P : Evaluation py → Prop} (hinitial : P .initial)
    (hstep : ∀ e, ∀ rule ∈ qualityRules, P e → P (evaluationStep inputs e rule)) : P (evaluateAll inputs) := by
  have hfold : ∀ (rules : List (QualityCategory py)) (e : Evaluation py),
    (∀ rule ∈ rules, rule ∈ qualityRules) → P e →
      P (rules.foldl (evaluationStep inputs) e) := by
    intro rules
    induction rules with
    | nil => exact fun e _ he => he
    | cons rule rules ih =>
      intro e hsub he
      rw [List.foldl_cons]
      exact ih _ (fun r hr => hsub r (List.mem_cons_of_mem _ hr)) (hstep e rule (hsub rule List.mem_cons_self) he)
  exact hfold qualityRules _ (fun _ h => h) hinitial

/-- A finding of the run comes from a category. -/
theorem exists_category {inputs : QualityEngineInput py} :
    ∀ f ∈ (evaluateAll inputs).findings, ∃ rule ∈ qualityRules, ∃ happ, f ∈ (rule.evaluate inputs happ).findings := by
  refine evaluateAll_induction (P := fun e => ∀ f ∈ e.findings, ∃ rule ∈ qualityRules, ∃ happ,
    f ∈ (rule.evaluate inputs happ).findings) (fun f hf => by cases hf) (fun e rule hrule ih f hf => ?_)
  unfold evaluationStep at hf
  split at hf
  · rename_i happ
    rcases List.mem_append.1 hf with hf | hf
    · exact ih f hf
    · exact ⟨rule, hrule, happ, hf⟩
  · exact ih f hf

/-- What a category finds is a finding of the run. -/
theorem mem_findings_of_category {inputs : QualityEngineInput py} {rule : QualityCategory py} (hrule : rule ∈ qualityRules)
    (happ : rule.isApplicable inputs = true) {f : QualityFindingResult}
    (hf : f ∈ (rule.evaluate inputs happ).findings) : f ∈ (evaluateAll inputs).findings := by
  have hkept : ∀ (rules : List (QualityCategory py)) (e : Evaluation py), f ∈ e.findings →
      f ∈ (rules.foldl (evaluationStep inputs) e).findings := by
    intro rules
    induction rules with
    | nil => exact fun e he => he
    | cons r rules ih =>
      intro e he
      refine ih _ ?_
      unfold evaluationStep
      split
      · exact List.mem_append_left _ he
      · exact he
  have hfold : ∀ (rules : List (QualityCategory py)) (e : Evaluation py), rule ∈ rules →
      f ∈ (rules.foldl (evaluationStep inputs) e).findings := by
    intro rules
    induction rules with
    | nil => intro e hmem; cases hmem
    | cons r rules ih =>
      intro e hmem
      rw [List.foldl_cons]
      rcases List.mem_cons.1 hmem with rfl | hmem
      · refine hkept _ _ ?_
        unfold evaluationStep
        rw [dif_pos happ]
        exact List.mem_append_right _ hf
      · exact ih _ hmem
  exact hfold _ _ hrule

/-- Completeness always applies, so there is a score. -/
theorem weightSum_pos (inputs : QualityEngineInput py) : 0 < (evaluateAll inputs).weightSum := by
  have hkept : ∀ (rules : List (QualityCategory py)) (e : Evaluation py),
      e.weightSum ≤ (rules.foldl (evaluationStep inputs) e).weightSum := by
    intro rules
    induction rules with
    | nil => exact fun e => Nat.le_refl _
    | cons r rules ih =>
      intro e
      refine Nat.le_trans ?_ (ih _)
      unfold evaluationStep
      split
      · exact Nat.le_add_right _ _
      · exact Nat.le_refl _
  have hfirst : 0 < (evaluationStep inputs Evaluation.initial completenessCategory).weightSum := by
    have happ : completenessCategory.isApplicable inputs = true := rfl
    unfold evaluationStep
    rw [dif_pos happ]
    change 0 < 0 + effectiveWeight _ 20 _
    unfold effectiveWeight
    split
    · split <;> omega
    · omega
  exact Nat.lt_of_lt_of_le hfirst (hkept _ _)

theorem allFindings_eq (inputs : QualityEngineInput py) :
    (evaluateAll inputs).allFindings = (evaluateAll inputs).findings := by
  unfold Evaluation.allFindings
  rw [if_neg (Nat.pos_iff_ne_zero.1 (weightSum_pos inputs))]

/-! ## Scores are not below zero -/

theorem ofNat_nonneg (n : Nat) : py.lt (py.ofNat n) (py.ofNat 0) = false := py.ratio_nonneg n 1

theorem le_ofNat (n m : Nat) (h : n ≤ m) (hm : m ≤ 100) : py.le (py.ofNat n) (py.ofNat m) = true := by
  unfold Python.le Python.ofNat
  rw [py.lt_small n m (Nat.le_trans h hm) hm, py.eq_small n m (Nat.le_trans h hm) hm]
  rcases Nat.lt_or_eq_of_le h with hlt | heq
  · simp [hlt]
  · simp [heq]

theorem clampScore_nonneg (x : py.Float) : py.lt (clampScore x) (py.ofNat 0) = false := by
  unfold clampScore Python.max
  split
  · rename_i hlt
    exact py.lt_asymm _ _ hlt
  · exact ofNat_nonneg 0

theorem evaluate_nonneg {inputs : QualityEngineInput py} {rule : QualityCategory py} (hrule : rule ∈ qualityRules)
    (happ : rule.isApplicable inputs = true) : py.lt (rule.evaluate inputs happ).score (py.ofNat 0) = false := by
  simp only [qualityRules, List.mem_cons, List.not_mem_nil, or_false] at hrule
  rcases hrule with rfl | rfl | rfl | rfl | rfl | rfl | rfl | rfl
  · unfold completenessCategory
    dsimp only
    split
    · exact ofNat_nonneg 0
    · split <;> exact clampScore_nonneg _
  · unfold uniquenessCategory
    dsimp only
    split <;> exact clampScore_nonneg _
  · unfold validityCategory
    dsimp only
    split <;> exact clampScore_nonneg _
  · unfold consistencyCategory
    dsimp only
    split
    · exact ofNat_nonneg 100
    · exact clampScore_nonneg _
  · cases happ
  · cases happ
  · unfold unresolvedRiskCategory
    dsimp only
    split
    · exact ofNat_nonneg 100
    · exact clampScore_nonneg _
  · unfold validationCoverageCategory
    dsimp only
    split <;> exact clampScore_nonneg _

/-- **The overall score is there, and not below zero.** -/
theorem exists_overallScore (inputs : QualityEngineInput py) :
    ∃ score, (evaluateAll inputs).overallScore = some score ∧ py.lt score (py.ofNat 0) = false := by
  have hsum : py.lt (evaluateAll inputs).weightedScoreSum (py.ofNat 0) = false := by
    refine evaluateAll_induction (P := fun e => py.lt e.weightedScoreSum (py.ofNat 0) = false) (ofNat_nonneg 0)
      (fun e rule hrule ih => ?_)
    unfold evaluationStep
    split
    · rename_i happ
      exact py.add_nonneg _ _ ih (py.mul_nonneg _ _ (evaluate_nonneg hrule happ) (ofNat_nonneg _))
    · exact ih
  unfold Evaluation.overallScore
  rw [if_neg (Nat.pos_iff_ne_zero.1 (weightSum_pos inputs))]
  exact ⟨_, rfl, py.div_nonneg _ _ hsum (ofNat_nonneg _)⟩

/-! ## When a category blocks -/

/-- A score in the lowest band. -/
def TooLow (score : py.Float) : Prop := py.lt score (py.ofNat 60) = true

def Blocking (findings : List QualityFindingResult) : Prop := ∃ f ∈ findings, f.severity = .blocking

theorem not_blocking_nil : ¬ Blocking [] := by
  rintro ⟨f, hf, -⟩
  cases hf

theorem blocking_singleton {f : QualityFindingResult} : Blocking [f] ↔ f.severity = .blocking := by
  unfold Blocking
  simp only [List.mem_singleton, exists_eq_left]

theorem bandFinding_blocking {category : CategoryName} {rule : FindingRule} {critical high present : FindingReason}
    {score : py.Float} {affected : Option Nat} :
    (bandFinding category rule critical high present score affected).severity = .blocking ↔ TooLow score := by
  unfold bandFinding TooLow
  dsimp only
  split
  · rename_i hlow
    exact ⟨fun _ => hlow, fun _ => rfl⟩
  · rename_i hlow
    constructor
    · intro h
      split at h <;> cases h
    · exact fun h => absurd h hlow

variable {inputs : QualityEngineInput py}

theorem completeness_blocking (happ : completenessCategory.isApplicable inputs = true) :
    Blocking (completenessCategory.evaluate inputs happ).findings ↔
      inputs.effectiveStats.effectiveRowCount = 0 ∨
      (inputs.effectiveStats.effectiveRowCount ≠ 0 ∧
        py.eq (missingRate inputs.effectiveStats inputs.dataProfile) (py.ofNat 0) = false ∧
        TooLow (scoreOfRate (missingRate inputs.effectiveStats inputs.dataProfile : py.Float))) := by
  unfold completenessCategory
  dsimp only
  split
  · rename_i hzero
    exact ⟨fun _ => .inl hzero, fun _ => blocking_singleton.2 rfl⟩
  · rename_i hrows
    split
    · rename_i heq
      simp only [not_blocking_nil, hrows, heq, false_iff]
      simp
    · rename_i heq
      rw [blocking_singleton, bandFinding_blocking]
      simp only [hrows, false_or, ne_eq, not_false_eq_true, true_and, Bool.not_eq_true] at heq ⊢
      exact ⟨fun h => ⟨heq, h⟩, fun h => h.2⟩

theorem uniqueness_blocking (happ : uniquenessCategory.isApplicable inputs = true) :
    Blocking (uniquenessCategory.evaluate inputs happ).findings ↔
      inputs.effectiveStats.effectiveDuplicateRowCount ≠ 0 ∧
        TooLow (scoreOfRate (duplicateRate inputs.effectiveStats : py.Float)) := by
  unfold uniquenessCategory
  dsimp only
  split
  · rename_i hzero
    simp only [not_blocking_nil, hzero, ne_eq, not_true_eq_false, false_and]
  · rename_i hne
    rw [blocking_singleton, bandFinding_blocking]
    exact ⟨fun h => ⟨hne, h⟩, fun h => h.2⟩

theorem validity_blocking (happ : validityCategory.isApplicable inputs = true) :
    Blocking (validityCategory.evaluate inputs happ).findings ↔
      inputs.validationRun.passedCount ≠ inputs.validationRun.approvedChangesConsidered ∧
        TooLow (validityScore inputs.validationRun : py.Float) := by
  unfold validityCategory
  dsimp only
  split
  · rename_i heq
    simp only [not_blocking_nil, heq, ne_eq, not_true_eq_false, false_and]
  · rename_i hne
    rw [blocking_singleton, bandFinding_blocking]
    exact ⟨fun h => ⟨hne, h⟩, fun h => h.2⟩

theorem consistency_not_blocking (happ : consistencyCategory.isApplicable inputs = true) :
    ¬ Blocking (consistencyCategory.evaluate inputs happ).findings := by
  unfold consistencyCategory
  dsimp only
  split
  · exact not_blocking_nil
  · rintro ⟨f, hf, hsev⟩
    obtain ⟨p, -, rfl⟩ := List.mem_map.1 hf
    cases hsev

theorem unresolvedRisk_blocking (happ : unresolvedRiskCategory.isApplicable inputs = true) :
    Blocking (unresolvedRiskCategory.evaluate inputs happ).findings ↔
      0 < inputs.effectiveStats.unresolvedCriticalCount := by
  unfold unresolvedRiskCategory
  dsimp only
  split
  · rename_i hzero
    simp only [not_blocking_nil, false_iff]
    omega
  · unfold unresolvedFindings Blocking
    by_cases hcritical : 0 < inputs.effectiveStats.unresolvedCriticalCount
    · simp [hcritical]
    · by_cases hhigh : 0 < inputs.effectiveStats.unresolvedHighCount <;> simp [hcritical, hhigh]

theorem validationCoverage_blocking (happ : validationCoverageCategory.isApplicable inputs = true) :
    Blocking (validationCoverageCategory.evaluate inputs happ).findings ↔
      inputs.validationRun.skippedCount ≠ 0 ∧
        py.lt inputs.thresholds.maxValidationSkipRate (skipRate inputs.validationRun) = true := by
  unfold validationCoverageCategory
  dsimp only
  split
  · rename_i hzero
    simp only [not_blocking_nil, hzero, ne_eq, not_true_eq_false, false_and]
  · rename_i hne
    rw [blocking_singleton]
    dsimp only
    split
    · rename_i hlt
      exact ⟨fun _ => ⟨hne, hlt⟩, fun _ => rfl⟩
    · rename_i hlt
      exact ⟨fun h => absurd h (by decide), fun h => absurd h.2 hlt⟩

/-- **What blocks a run.** -/
theorem evaluateAll_blocking_iff (inputs : QualityEngineInput py) : Blocking (evaluateAll inputs).findings ↔
    inputs.effectiveStats.effectiveRowCount = 0 ∨
    (inputs.effectiveStats.effectiveRowCount ≠ 0 ∧
      py.eq (missingRate inputs.effectiveStats inputs.dataProfile) (py.ofNat 0) = false ∧
      TooLow (scoreOfRate (missingRate inputs.effectiveStats inputs.dataProfile : py.Float))) ∨
    (inputs.effectiveStats.effectiveRowCount ≠ 0 ∧ inputs.effectiveStats.effectiveDuplicateRowCount ≠ 0 ∧
      TooLow (scoreOfRate (duplicateRate inputs.effectiveStats : py.Float))) ∨
    (0 < inputs.validationRun.approvedChangesConsidered ∧
      inputs.validationRun.passedCount ≠ inputs.validationRun.approvedChangesConsidered ∧
      TooLow (validityScore inputs.validationRun : py.Float)) ∨
    (0 < inputs.totalIssuesFound ∧ 0 < inputs.effectiveStats.unresolvedCriticalCount) ∨
    (0 < inputs.validationRun.approvedChangesConsidered ∧ inputs.validationRun.skippedCount ≠ 0 ∧
      py.lt inputs.thresholds.maxValidationSkipRate (skipRate inputs.validationRun) = true) := by
  have hrules : Blocking (evaluateAll inputs).findings ↔
      ∃ rule ∈ qualityRules, ∃ happ, Blocking (rule.evaluate inputs happ).findings := by
    constructor
    · rintro ⟨f, hf, hsev⟩
      obtain ⟨rule, hrule, happ, hf⟩ := exists_category f hf
      exact ⟨rule, hrule, happ, f, hf, hsev⟩
    · rintro ⟨rule, hrule, happ, f, hf, hsev⟩
      exact ⟨f, mem_findings_of_category hrule happ hf, hsev⟩
  rw [hrules]
  constructor
  · rintro ⟨rule, hrule, happ, hblocking⟩
    simp only [qualityRules, List.mem_cons, List.not_mem_nil, or_false] at hrule
    rcases hrule with rfl | rfl | rfl | rfl | rfl | rfl | rfl | rfl
    · rcases (completeness_blocking happ).1 hblocking with h | h
      · exact .inl h
      · exact .inr (.inl h)
    · have hrows : 0 < inputs.effectiveStats.effectiveRowCount := by simpa [uniquenessCategory] using happ
      exact .inr (.inr (.inl ⟨Nat.pos_iff_ne_zero.1 hrows, (uniqueness_blocking happ).1 hblocking⟩))
    · have hconsidered : 0 < inputs.validationRun.approvedChangesConsidered := by simpa [validityCategory] using happ
      exact .inr (.inr (.inr (.inl ⟨hconsidered, (validity_blocking happ).1 hblocking⟩)))
    · exact absurd hblocking (consistency_not_blocking happ)
    · cases happ
    · cases happ
    · have htotal : 0 < inputs.totalIssuesFound := by simpa [unresolvedRiskCategory] using happ
      exact .inr (.inr (.inr (.inr (.inl ⟨htotal, (unresolvedRisk_blocking happ).1 hblocking⟩))))
    · have hconsidered : 0 < inputs.validationRun.approvedChangesConsidered := by
        simpa [validationCoverageCategory] using happ
      exact .inr (.inr (.inr (.inr (.inr ⟨hconsidered, (validationCoverage_blocking happ).1 hblocking⟩))))
  · rintro (h | h | ⟨hrows, h⟩ | ⟨hconsidered, h⟩ | ⟨htotal, h⟩ | ⟨hconsidered, h⟩)
    · exact ⟨completenessCategory, by simp [qualityRules], rfl, (completeness_blocking rfl).2 (.inl h)⟩
    · exact ⟨completenessCategory, by simp [qualityRules], rfl, (completeness_blocking rfl).2 (.inr h)⟩
    · have happ : uniquenessCategory.isApplicable inputs = true := decide_eq_true (Nat.pos_iff_ne_zero.2 hrows)
      exact ⟨uniquenessCategory, by simp [qualityRules], happ, (uniqueness_blocking happ).2 h⟩
    · have happ : validityCategory.isApplicable inputs = true := decide_eq_true hconsidered
      exact ⟨validityCategory, by simp [qualityRules], happ, (validity_blocking happ).2 h⟩
    · have happ : unresolvedRiskCategory.isApplicable inputs = true := decide_eq_true htotal
      exact ⟨unresolvedRiskCategory, by simp [qualityRules], happ, (unresolvedRisk_blocking happ).2 h⟩
    · have happ : validationCoverageCategory.isApplicable inputs = true := decide_eq_true hconsidered
      exact ⟨validationCoverageCategory, by simp [qualityRules], happ, (validationCoverage_blocking happ).2 h⟩

/-! ## The grounds for FAIL -/

/-- **When a run fails.** -/
theorem recommendation_fail_iff (inputs : QualityEngineInput py) : (qualityControl inputs).recommendation = .fail ↔
    Blocking (evaluateAll inputs).findings ∨
    (∃ score, (evaluateAll inputs).overallScore = some score ∧
      py.lt score inputs.thresholds.failScoreThreshold = true) ∨
    (0 < inputs.validationRun.approvedChangesConsidered ∧ py.lt inputs.thresholds.maxValidationFailureRate
      (py.ratio inputs.validationRun.failedCount inputs.validationRun.approvedChangesConsidered) = true) ∨
    inputs.thresholds.maxCriticalSeverityUnresolved < inputs.effectiveStats.unresolvedCriticalCount ∨
    inputs.thresholds.maxHighSeverityUnresolved < inputs.effectiveStats.unresolvedHighCount := by
  obtain ⟨score, hscore, -⟩ := exists_overallScore inputs
  have hblocking : 0 < severityCount (evaluateAll inputs).findings .blocking ↔ Blocking (evaluateAll inputs).findings := by
    unfold severityCount Blocking
    rw [List.countP_pos_iff]
    simp only [decide_eq_true_eq]
  unfold qualityControl
  simp only [allFindings_eq, hscore, computeRecommendation]
  rw [← hblocking]
  simp only [Option.some.injEq, exists_eq_left']
  split_ifs with h1 h2 h3 h4 h5 h6 <;> simp_all

theorem mem_qualityControl_findings {inputs : QualityEngineInput py} {f : QualityFindingResult}
    (h : f ∈ (qualityControl inputs).findings) : f ∈ (evaluateAll inputs).findings :=
  allFindings_eq inputs ▸ (List.mem_insertionSort _).1 (List.mem_of_mem_take h)

end
end Quality
end DataOps

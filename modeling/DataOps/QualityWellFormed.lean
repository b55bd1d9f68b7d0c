import DataOps.LibExactNumbers
import DataOps.QualityEngine
/-!
# QualityWellFormed — what every quality result is

The engine with its divisions and its assertion checked returns on every input (`checkedQualityControl_eq`), and on exact
numbers its result is well formed (`qualityControl_wellFormed`).
-/
namespace DataOps
namespace Quality

section
variable {py : Python}

/-! ## The engine that can raise -/

/-- `n / m`; `none` is a `ZeroDivisionError`. -/
def checkedRatio (n m : Nat) : Option py.Float := if m = 0 then none else some (py.ratio n m)

def checkedDiv (x : py.Float) (n : Nat) : Option py.Float := if n = 0 then none else some (py.div x (py.ofNat n))

def completenessOf (inputs : QualityEngineInput py) (rate : py.Float) : CategoryEvaluationResult py :=
  if py.eq rate (py.ofNat 0) then ⟨scoreOfRate rate, []⟩
  else ⟨scoreOfRate rate, [bandFinding .completeness .completenessMissingValueRate .criticalMissingRate .highMissingRate
    .missingValuesPresent (scoreOfRate rate) (some inputs.effectiveStats.effectiveMissingValueTotal)]⟩

def uniquenessOf (inputs : QualityEngineInput py) (rate : py.Float) : CategoryEvaluationResult py :=
  if inputs.effectiveStats.effectiveDuplicateRowCount = 0 then ⟨scoreOfRate rate, []⟩
  else ⟨scoreOfRate rate, [bandFinding .uniqueness .uniquenessDuplicateRowRate .criticalDuplicateRate .highDuplicateRate
    .duplicatesPresent (scoreOfRate rate) (some inputs.effectiveStats.effectiveDuplicateRowCount)]⟩

def validityOf (inputs : QualityEngineInput py) (rate : py.Float) : CategoryEvaluationResult py :=
  let score := clampScore (py.mul (py.ofNat 100) rate)
  if inputs.validationRun.passedCount = inputs.validationRun.approvedChangesConsidered then ⟨score, []⟩
  else ⟨score, [bandFinding .validity .validityValidationPassRate .criticalValidationFailureRate
    .highValidationFailureRate .validationFailuresPresent score
    (if 0 < inputs.validationRun.failedCount then some inputs.validationRun.failedCount else none)]⟩

def consistencyOf (inputs : QualityEngineInput py) (rate : py.Float) : CategoryEvaluationResult py :=
  ⟨scoreOfRate rate, (inconsistentPairs inputs.validationResults).map (fun p =>
    { category := .consistency, ruleName := .consistency p.1, severity := .warning
      reason := .inconsistentNormalization, affectedColumn := some p.2 })⟩

def validationCoverageOf (inputs : QualityEngineInput py) (rate : py.Float) : CategoryEvaluationResult py :=
  if inputs.validationRun.skippedCount = 0 then ⟨scoreOfRate rate, []⟩
  else
    let tooMany := py.lt inputs.thresholds.maxValidationSkipRate rate
    ⟨scoreOfRate rate, [{ category := .validationCoverage, ruleName := .validationCoverageSkipRate
                          severity := if tooMany then .blocking else .warning
                          reason := if tooMany then .highSkipRate else .resultsSkipped
                          affectedRowCount := some inputs.validationRun.skippedCount }]⟩

/-- `evaluate` of each category; two of them raise `NotImplementedError`. -/
def checkedEvaluate (inputs : QualityEngineInput py) : CategoryName → Option (CategoryEvaluationResult py)
  | .completeness           =>
    let stats := inputs.effectiveStats
    if stats.effectiveRowCount = 0 then
      some ⟨py.ofNat 0, [{ category := .completeness, ruleName := .completenessMissingValueRate, severity := .blocking
                           reason := .emptyDataset, affectedRowCount := some 0 }]⟩
    else
      let totalCells := stats.effectiveRowCount * inputs.dataProfile.columnCount
      let rate := if totalCells = 0 then some (py.ofNat 0) else checkedRatio stats.effectiveMissingValueTotal totalCells
      rate.map (completenessOf inputs)
  | .uniqueness             =>
    (checkedRatio inputs.effectiveStats.effectiveDuplicateRowCount inputs.effectiveStats.effectiveRowCount).map
      (uniquenessOf inputs)
  | .validity               =>
    (checkedRatio inputs.validationRun.passedCount inputs.validationRun.approvedChangesConsidered).map (validityOf inputs)
  | .consistency            =>
    let totalPairs := (pairOutcomes inputs.validationResults).length
    if totalPairs = 0 then some ⟨py.ofNat 100, []⟩
    else (checkedRatio (inconsistentPairs inputs.validationResults).length totalPairs).map (consistencyOf inputs)
  | .referentialIntegrity   => none
  | .businessRuleCompliance => none
  | .unresolvedRisk         =>
    let unresolved := inputs.effectiveStats.unresolvedCriticalCount + inputs.effectiveStats.unresolvedHighCount
    if unresolved = 0 then some ⟨py.ofNat 100, []⟩
    else (checkedRatio unresolved (max 1 inputs.totalIssuesFound)).map
      (fun rate => ⟨scoreOfRate rate, unresolvedFindings inputs.effectiveStats⟩)
  | .validationCoverage     =>
    (checkedRatio inputs.validationRun.skippedCount inputs.validationRun.approvedChangesConsidered).map
      (validationCoverageOf inputs)
  | .qualityControl         => none

/-- What the loop does with an applicable category's result. -/
def Evaluation.add (inputs : QualityEngineInput py) (e : Evaluation py) (rule : QualityCategory py)
    (result : CategoryEvaluationResult py) : Evaluation py :=
  let weight := effectiveWeight rule.categoryName rule.defaultWeight inputs.thresholds.categoryWeights
  { findings := e.findings ++ result.findings
    categoryScores := e.categoryScores.set rule.categoryName result.score
    categoryStatuses := e.categoryStatuses.set rule.categoryName (categoryStatus result.score result.findings)
    weightsUsed := e.weightsUsed.set rule.categoryName (py.ofNat weight)
    weightedScoreSum := py.add e.weightedScoreSum (py.mul result.score (py.ofNat weight))
    weightSum := e.weightSum + weight }

def checkedStep (inputs : QualityEngineInput py) (e : Evaluation py) (rule : QualityCategory py) :
    Option (Evaluation py) :=
  if rule.isApplicable inputs then (checkedEvaluate inputs rule.categoryName).map (e.add inputs rule)
  else some { e with categoryStatuses := e.categoryStatuses.set rule.categoryName .skipped }

def checkedRecommendation (overallScore : Option py.Float) (blockingCount warningCount : Nat)
    (inputs : QualityEngineInput py) : Option Recommendation :=
  match overallScore with
  | none              => some .fail
  | some overallScore =>
    if 0 < blockingCount then some .fail
    else if py.lt overallScore inputs.thresholds.failScoreThreshold then some .fail
    else
      let exceeded :=
        if 0 < inputs.validationRun.approvedChangesConsidered then
          (checkedRatio inputs.validationRun.failedCount inputs.validationRun.approvedChangesConsidered).map
            (fun rate => py.lt inputs.thresholds.maxValidationFailureRate rate)
        else some false
      exceeded.map (fun exceeded =>
        if exceeded then .fail
        else if inputs.thresholds.maxCriticalSeverityUnresolved < inputs.effectiveStats.unresolvedCriticalCount then .fail
        else if inputs.thresholds.maxHighSeverityUnresolved < inputs.effectiveStats.unresolvedHighCount then .fail
        else if py.le inputs.thresholds.passScoreThreshold overallScore ∧
            warningCount ≤ inputs.thresholds.maxWarningsForCleanPass then .pass
        else .passWithWarnings)

/-- `quality_control` with what can raise in it: `none` is an exception. -/
def checkedQualityControl (inputs : QualityEngineInput py) : Option (QualityEngineResult py) := do
  let e ← qualityRules.foldlM (checkedStep inputs) Evaluation.initial
  let overallScore ← if e.weightSum = 0 then some none else (checkedDiv e.weightedScoreSum e.weightSum).map some
  let findings := e.allFindings
  let blockingCount := severityCount findings .blocking
  let warningCount := severityCount findings .warning
  let infoCount := severityCount findings .info
  guard (blockingCount + warningCount + infoCount = findings.length)
  let recommendation ← checkedRecommendation overallScore blockingCount warningCount inputs
  return {
    overallScore := overallScore
    recommendation := recommendation
    findings := (findings.insertionSort (fun a b => findingSortKey a ≤ findingSortKey b)).take inputs.maxPersistedFindings
    totalFindings := findings.length
    blockingCount := blockingCount
    warningCount := warningCount
    infoCount := infoCount
    categoryScores := e.categoryScores
    categoryStatuses := e.categoryStatuses
    weightsUsed := e.weightsUsed }

/-! ## It returns -/

theorem checkedRatio_of_ne {n m : Nat} (hm : m ≠ 0) : (checkedRatio n m : Option py.Float) = some (py.ratio n m) :=
  if_neg hm

theorem checkedMissingRate_eq (stats : EffectiveDatasetStats) (dataProfile : DataProfileSnapshot) :
    (if stats.effectiveRowCount * dataProfile.columnCount = 0 then some (py.ofNat 0)
      else checkedRatio stats.effectiveMissingValueTotal (stats.effectiveRowCount * dataProfile.columnCount)) =
    some (missingRate stats dataProfile) := by
  unfold missingRate
  dsimp only
  split
  · rfl
  · rename_i hcells
    exact checkedRatio_of_ne hcells

/-- **No applicable category raises.** -/
theorem checkedEvaluate_eq {inputs : QualityEngineInput py} {rule : QualityCategory py} (hrule : rule ∈ qualityRules)
    (happ : rule.isApplicable inputs = true) :
    checkedEvaluate inputs rule.categoryName = some (rule.evaluate inputs happ) := by
  simp only [qualityRules, List.mem_cons, List.not_mem_nil, or_false] at hrule
  rcases hrule with rfl | rfl | rfl | rfl | rfl | rfl | rfl | rfl
  · simp only [checkedEvaluate, completenessCategory]
    by_cases hrows : inputs.effectiveStats.effectiveRowCount = 0
    · rw [if_pos hrows, if_pos hrows]
    · rw [if_neg hrows, if_neg hrows, checkedMissingRate_eq]
      rfl
  · have hrows : inputs.effectiveStats.effectiveRowCount ≠ 0 := Nat.pos_iff_ne_zero.1 (of_decide_eq_true happ)
    simp only [checkedEvaluate, uniquenessCategory]
    rw [checkedRatio_of_ne hrows]
    rfl
  · have hconsidered : inputs.validationRun.approvedChangesConsidered ≠ 0 :=
      Nat.pos_iff_ne_zero.1 (of_decide_eq_true happ)
    simp only [checkedEvaluate, validityCategory]
    rw [checkedRatio_of_ne hconsidered]
    rfl
  · simp only [checkedEvaluate, consistencyCategory]
    by_cases hpairs : (pairOutcomes inputs.validationResults).length = 0
    · rw [if_pos hpairs, if_pos hpairs]
    · rw [if_neg hpairs, if_neg hpairs, checkedRatio_of_ne hpairs]
      rfl
  · cases happ
  · cases happ
  · simp only [checkedEvaluate, unresolvedRiskCategory]
    by_cases hzero : inputs.effectiveStats.unresolvedCriticalCount + inputs.effectiveStats.unresolvedHighCount = 0
    · rw [if_pos hzero, if_pos hzero]
    · rw [if_neg hzero, if_neg hzero, checkedRatio_of_ne (by omega)]
      rfl
  · have hconsidered : inputs.validationRun.approvedChangesConsidered ≠ 0 :=
      Nat.pos_iff_ne_zero.1 (of_decide_eq_true happ)
    simp only [checkedEvaluate, validationCoverageCategory]
    rw [checkedRatio_of_ne hconsidered]
    rfl

theorem checkedStep_eq {inputs : QualityEngineInput py} (e : Evaluation py) {rule : QualityCategory py}
    (hrule : rule ∈ qualityRules) : checkedStep inputs e rule = some (evaluationStep inputs e rule) := by
  unfold checkedStep evaluationStep
  by_cases happ : rule.isApplicable inputs = true
  · rw [if_pos happ, dif_pos happ, checkedEvaluate_eq hrule happ]
    rfl
  · rw [if_neg happ, dif_neg happ]

theorem foldlM_checkedStep (inputs : QualityEngineInput py) :
    qualityRules.foldlM (checkedStep inputs) Evaluation.initial = some (evaluateAll inputs) := by
  have hfold : ∀ (rules : List (QualityCategory py)) (e : Evaluation py), (∀ rule ∈ rules, rule ∈ qualityRules) →
      rules.foldlM (checkedStep inputs) e = some (rules.foldl (evaluationStep inputs) e) := by
    intro rules
    induction rules with
    | nil => exact fun e _ => rfl
    | cons rule rules ih =>
      intro e hsub
      rw [List.foldlM_cons, checkedStep_eq e (hsub rule List.mem_cons_self)]
      exact ih _ (fun r hr => hsub r (List.mem_cons_of_mem _ hr))
  exact hfold qualityRules _ (fun _ hr => hr)

/-- Every finding has one of three severities. -/
theorem severityCount_sum (findings : List QualityFindingResult) : severityCount findings .blocking +
    severityCount findings .warning + severityCount findings .info = findings.length := by
  unfold severityCount
  induction findings with
  | nil => rfl
  | cons f findings ih =>
    rw [List.countP_cons, List.countP_cons, List.countP_cons, List.length_cons, ← ih]
    cases hsev : f.severity <;> simp <;> omega

theorem checkedRecommendation_eq (overallScore : Option py.Float) (blockingCount warningCount : Nat)
    (inputs : QualityEngineInput py) : checkedRecommendation overallScore blockingCount warningCount inputs =
      some (computeRecommendation overallScore blockingCount warningCount inputs) := by
  cases overallScore with
  | none => rfl
  | some score =>
    unfold checkedRecommendation computeRecommendation
    dsimp only
    by_cases hconsidered : 0 < inputs.validationRun.approvedChangesConsidered
    · rw [if_pos hconsidered, checkedRatio_of_ne (Nat.pos_iff_ne_zero.1 hconsidered)]
      simp only [Option.map_some, hconsidered, true_and]
      split_ifs <;> rfl
    · rw [if_neg hconsidered]
      simp only [Option.map_some, hconsidered, false_and, Bool.false_eq_true, if_false]
      split_ifs <;> rfl

/-- **Nothing raises: no division by zero, no category without an evaluation, no failed assertion.** -/
theorem checkedQualityControl_eq (inputs : QualityEngineInput py) :
    checkedQualityControl inputs = some (qualityControl inputs) := by
  have hsum : (evaluateAll inputs).weightSum ≠ 0 := Nat.pos_iff_ne_zero.1 (weightSum_pos inputs)
  unfold checkedQualityControl
  rw [foldlM_checkedStep]
  simp only [Option.bind_eq_bind, Option.bind_some, hsum, if_false, checkedDiv, Option.map_some, severityCount_sum,
    guard, if_true, checkedRecommendation_eq]
  have hoverall : (evaluateAll inputs).overallScore =
      some (py.div (evaluateAll inputs).weightedScoreSum (py.ofNat (evaluateAll inputs).weightSum)) := if_neg hsum
  unfold qualityControl
  simp only [hoverall]
  rfl

/-! ## On exact numbers -/

theorem exists_clampScore (x : (exactPython py).Float) : ∃ q, clampScore x = exact py q ∧ 0 ≤ q ∧ q ≤ 100 := by
  have hzero : (exactPython py).ofNat 0 = exact py 0 := by simp
  have hhundred : (exactPython py).ofNat 100 = exact py 100 := by simp
  unfold clampScore Python.max Python.min
  rw [hzero, hhundred]
  by_cases hhigh : (exactPython py).lt x (exact py 100) = true
  · rw [if_pos hhigh]
    obtain ⟨q, q', rfl, hq', hlt⟩ := exact_lt_iff.1 hhigh
    cases exact_inj hq'
    split
    · rename_i hlow
      exact ⟨q, rfl, (of_decide_eq_true hlow).le, hlt.le⟩
    · exact ⟨0, rfl, le_refl _, by norm_num⟩
  · rw [if_neg hhigh]
    split
    · exact ⟨100, rfl, by norm_num, le_refl _⟩
    · exact ⟨0, rfl, le_refl _, by norm_num⟩

/-- **The score of a category is a number between 0 and 100.** -/
theorem exists_score {inputs : QualityEngineInput (exactPython py)} {rule : QualityCategory (exactPython py)}
    (hrule : rule ∈ qualityRules) (happ : rule.isApplicable inputs = true) :
    ∃ q, (rule.evaluate inputs happ).score = exact py q ∧ 0 ≤ q ∧ q ≤ 100 := by
  have hhundred : ∃ q, (exactPython py).ofNat 100 = exact py q ∧ 0 ≤ q ∧ q ≤ 100 :=
    ⟨100, by simp, by norm_num, le_refl _⟩
  simp only [qualityRules, List.mem_cons, List.not_mem_nil, or_false] at hrule
  rcases hrule with rfl | rfl | rfl | rfl | rfl | rfl | rfl | rfl
  · unfold completenessCategory
    dsimp only
    split
    · exact ⟨0, by simp, le_refl _, by norm_num⟩
    · split <;> exact exists_clampScore _
  · unfold uniquenessCategory
    dsimp only
    split <;> exact exists_clampScore _
  · unfold validityCategory
    dsimp only
    split <;> exact exists_clampScore _
  · unfold consistencyCategory
    dsimp only
    split
    · exact hhundred
    · exact exists_clampScore _
  · cases happ
  · cases happ
  · unfold unresolvedRiskCategory
    dsimp only
    split
    · exact hhundred
    · exact exists_clampScore _
  · unfold validationCoverageCategory
    dsimp only
    split <;> exact exists_clampScore _

/-- A category's part in the overall score. -/
structure ScoredCategory where
  category : CategoryName
  score    : Rat
  weight   : Nat

def ScoredCategory.weighted (s : ScoredCategory) : Rat × Nat := (s.score, s.weight)

/-- A quality result over the scored categories, as numbers. -/
structure WellFormed (inputs : QualityEngineInput (exactPython py)) (result : QualityEngineResult (exactPython py))
    (scored : List ScoredCategory) : Prop where
  applicable     : scored.map (·.category) =
    (qualityRules.filter (fun rule => rule.isApplicable inputs)).map (·.categoryName)
  evaluated      : ∀ s ∈ scored, ∃ rule ∈ qualityRules, ∃ happ, s.category = rule.categoryName ∧
    (rule.evaluate inputs happ).score = exact py s.score ∧
    s.weight = effectiveWeight rule.categoryName rule.defaultWeight inputs.thresholds.categoryWeights
  categoryScores : result.categoryScores = scored.map (fun s => (s.category, exact py s.score))
  weightsUsed    : result.weightsUsed = scored.map (fun s => (s.category, exact py s.weight))
  inRange        : ∀ s ∈ scored, 0 ≤ s.score ∧ s.score ≤ 100
  overallScore   : result.overallScore = some (exact py (weightedMean (scored.map (·.weighted))))
  between        : ∃ least ∈ scored, ∃ greatest ∈ scored,
    (∀ s ∈ scored, least.score ≤ s.score ∧ s.score ≤ greatest.score) ∧
    least.score ≤ weightedMean (scored.map (·.weighted)) ∧ weightedMean (scored.map (·.weighted)) ≤ greatest.score
  statuses       : ∀ rule ∈ qualityRules, ∃ status, result.categoryStatuses.get? rule.categoryName = some status ∧
    (status = .skipped ↔ rule.isApplicable inputs = false)
  counts         : result.blockingCount + result.warningCount + result.infoCount = result.totalFindings
  fails          : (0 < result.blockingCount ∨ ∃ f ∈ result.findings, f.severity = .blocking) →
    result.recommendation = .fail

/-- The part of a category, if it applies. -/
def scoredCategory (inputs : QualityEngineInput (exactPython py)) (rule : QualityCategory (exactPython py)) :
    Option ScoredCategory :=
  if happ : rule.isApplicable inputs = true then
    some ⟨rule.categoryName, Option.getD (α := Rat) (rule.evaluate inputs happ).score 0,
      effectiveWeight rule.categoryName rule.defaultWeight inputs.thresholds.categoryWeights⟩
  else none

variable {inputs : QualityEngineInput (exactPython py)}

theorem scoredCategory_of_applicable {rule : QualityCategory (exactPython py)} (hrule : rule ∈ qualityRules)
    (happ : rule.isApplicable inputs = true) :
    ∃ q, (rule.evaluate inputs happ).score = exact py q ∧ 0 ≤ q ∧ q ≤ 100 ∧
      scoredCategory inputs rule = some ⟨rule.categoryName, q,
        effectiveWeight rule.categoryName rule.defaultWeight inputs.thresholds.categoryWeights⟩ := by
  obtain ⟨q, hq, hzero, hhundred⟩ := exists_score hrule happ
  refine ⟨q, hq, hzero, hhundred, ?_⟩
  unfold scoredCategory
  rw [dif_pos happ, hq]
  rfl

def scoredCategories (inputs : QualityEngineInput (exactPython py)) (rules : List (QualityCategory (exactPython py))) :
    List ScoredCategory := rules.filterMap (scoredCategory inputs)

/-- What the loop has accumulated over some of the categories. -/
structure Accumulated (inputs : QualityEngineInput (exactPython py)) (rules : List (QualityCategory (exactPython py)))
    (e : Evaluation (exactPython py)) : Prop where
  categoryScores   : e.categoryScores = (scoredCategories inputs rules).map (fun s => (s.category, exact py s.score))
  weightsUsed      : e.weightsUsed = (scoredCategories inputs rules).map (fun s => (s.category, exact py s.weight))
  weightedScoreSum : e.weightedScoreSum =
    exact py (((scoredCategories inputs rules).map (·.weighted)).map (fun p => p.1 * (p.2 : Rat))).sum
  weightSum        : e.weightSum = (((scoredCategories inputs rules).map (·.weighted)).map (·.2)).sum
  statuses         : ∀ rule ∈ rules, ∃ status, e.categoryStatuses.get? rule.categoryName = some status ∧
    (status = .skipped ↔ rule.isApplicable inputs = false)

theorem mem_scoredCategories {rules : List (QualityCategory (exactPython py))} {s : ScoredCategory} :
    s ∈ scoredCategories inputs rules ↔ ∃ rule ∈ rules, scoredCategory inputs rule = some s := List.mem_filterMap

theorem scoredCategory_category {rule : QualityCategory (exactPython py)} {s : ScoredCategory}
    (h : scoredCategory inputs rule = some s) : s.category = rule.categoryName := by
  unfold scoredCategory at h
  split at h
  · rw [← Option.some.inj h]
  · cases h

theorem categoryStatus_ne_skipped (score : (exactPython py).Float) (findings : List QualityFindingResult) :
    categoryStatus score findings ≠ .skipped := by
  unfold categoryStatus
  split_ifs <;> decide

theorem Accumulated.step {rules : List (QualityCategory (exactPython py))} {e : Evaluation (exactPython py)}
    (he : Accumulated inputs rules e) {rule : QualityCategory (exactPython py)} (hrule : rule ∈ qualityRules)
    (hnew : ∀ r ∈ rules, r.categoryName ≠ rule.categoryName) :
    Accumulated inputs (rules ++ [rule]) (evaluationStep inputs e rule) := by
  have hstatuses : ∀ (status : CategoryStatus), (status = .skipped ↔ rule.isApplicable inputs = false) →
      ∀ r ∈ rules ++ [rule], ∃ status', (e.categoryStatuses.set rule.categoryName status).get? r.categoryName =
        some status' ∧ (status' = .skipped ↔ r.isApplicable inputs = false) := by
    intro status hstatus r hr
    rw [Dict.get?_set]
    rcases List.mem_append.1 hr with hr | hr
    · rw [if_neg (fun heq => hnew r hr heq.symm)]
      exact he.statuses r hr
    · rw [List.mem_singleton.1 hr, if_pos rfl]
      exact ⟨status, rfl, hstatus⟩
  have hnotMem : ∀ (f : ScoredCategory → (exactPython py).Float),
      rule.categoryName ∉ Dict.keys ((scoredCategories inputs rules).map (fun s => (s.category, f s))) := by
    intro f hmem
    obtain ⟨p, hp, hname⟩ := List.mem_map.1 hmem
    obtain ⟨s, hs, rfl⟩ := List.mem_map.1 hp
    obtain ⟨r, hr, hscored⟩ := mem_scoredCategories.1 hs
    exact hnew r hr ((scoredCategory_category hscored).symm.trans hname)
  unfold evaluationStep
  by_cases happ : rule.isApplicable inputs = true
  · obtain ⟨q, hq, -, -, hscored⟩ := scoredCategory_of_applicable hrule happ
    have happend : scoredCategories inputs (rules ++ [rule]) = scoredCategories inputs rules ++ [⟨rule.categoryName, q,
        effectiveWeight rule.categoryName rule.defaultWeight inputs.thresholds.categoryWeights⟩] := by
      simp [scoredCategories, hscored]
    rw [dif_pos happ]
    constructor
    · dsimp only
      rw [happend, List.map_append, hq, he.categoryScores, Dict.set_of_notMem (hnotMem _)]
      rfl
    · dsimp only
      rw [happend, List.map_append, he.weightsUsed, Dict.set_of_notMem (hnotMem _), exact_ofNat]
      rfl
    · dsimp only
      rw [happend, hq, he.weightedScoreSum, exact_ofNat, exact_mul, exact_add]
      simp [ScoredCategory.weighted]
    · dsimp only
      rw [happend, he.weightSum]
      simp [ScoredCategory.weighted]
    · exact hstatuses _ (by simp [categoryStatus_ne_skipped, happ])
  · have happend : scoredCategories inputs (rules ++ [rule]) = scoredCategories inputs rules := by
      simp [scoredCategories, scoredCategory, happ]
    rw [dif_neg happ]
    exact {
      categoryScores := by rw [happend]; exact he.categoryScores
      weightsUsed := by rw [happend]; exact he.weightsUsed
      weightedScoreSum := by rw [happend]; exact he.weightedScoreSum
      weightSum := by rw [happend]; exact he.weightSum
      statuses := hstatuses .skipped (by simpa using happ) }

theorem nodup_qualityRules : ((qualityRules : List (QualityCategory (exactPython py))).map (·.categoryName)).Nodup := by
  have hnames : (qualityRules : List (QualityCategory (exactPython py))).map (·.categoryName) =
    [.completeness, .uniqueness, .validity, .consistency, .referentialIntegrity, .businessRuleCompliance,
      .unresolvedRisk, .validationCoverage] := rfl
  rw [hnames]
  decide

theorem evaluateAll_accumulated (inputs : QualityEngineInput (exactPython py)) :
    Accumulated inputs qualityRules (evaluateAll inputs) := by
  have hfold : ∀ (rules done : List (QualityCategory (exactPython py))) (e : Evaluation (exactPython py)),
      (∀ rule ∈ rules, rule ∈ qualityRules) → ((done ++ rules).map (·.categoryName)).Nodup →
        Accumulated inputs done e →
      Accumulated inputs (done ++ rules) (rules.foldl (evaluationStep inputs) e) := by
    intro rules
    induction rules with
    | nil =>
      intro done e _ _ he
      rwa [List.append_nil]
    | cons rule rules ih =>
      intro done e hsub hnodup he
      have hnew : ∀ r ∈ done, r.categoryName ≠ rule.categoryName := by
        rw [List.map_append, List.map_cons] at hnodup
        intro r hr
        exact (List.nodup_append.1 hnodup).2.2 _ (List.mem_map_of_mem hr) _ List.mem_cons_self
      have hassoc : done ++ rule :: rules = (done ++ [rule]) ++ rules := by simp
      rw [List.foldl_cons, hassoc]
      rw [hassoc] at hnodup
      exact ih _ _ (fun r hr => hsub r (List.mem_cons_of_mem _ hr)) hnodup (he.step (hsub rule List.mem_cons_self) hnew)
  refine hfold qualityRules [] _ (fun _ hr => hr) nodup_qualityRules ?_
  exact ⟨rfl, rfl, by simp [Evaluation.initial, scoredCategories], rfl, fun rule hr => by simp at hr⟩

theorem scoredCategories_ne_nil (inputs : QualityEngineInput (exactPython py)) :
    scoredCategories inputs qualityRules ≠ [] := by
  have hmem : completenessCategory ∈ (qualityRules : List (QualityCategory (exactPython py))) := List.mem_cons_self
  have happ : completenessCategory.isApplicable inputs = true := rfl
  obtain ⟨q, -, -, -, hscored⟩ := scoredCategory_of_applicable hmem happ
  exact List.ne_nil_of_mem (mem_scoredCategories.2 ⟨_, hmem, hscored⟩)

theorem exists_least_greatest {scored : List ScoredCategory} (hne : scored ≠ []) :
    ∃ least ∈ scored, ∃ greatest ∈ scored, ∀ s ∈ scored, least.score ≤ s.score ∧ s.score ≤ greatest.score := by
  induction scored with
  | nil => exact absurd rfl hne
  | cons s scored ih =>
    by_cases hnil : scored = []
    · subst hnil
      refine ⟨s, List.mem_cons_self, s, List.mem_cons_self, fun t ht => ?_⟩
      rw [List.mem_singleton.1 ht]
      exact ⟨le_refl _, le_refl _⟩
    · obtain ⟨least, hleast, greatest, hgreatest, hall⟩ := ih hnil
      have hle : ∃ l ∈ s :: scored, l.score ≤ s.score ∧ l.score ≤ least.score := by
        rcases le_total s.score least.score with h | h
        · exact ⟨s, List.mem_cons_self, le_refl _, h⟩
        · exact ⟨least, List.mem_cons_of_mem _ hleast, h, le_refl _⟩
      have hge : ∃ g ∈ s :: scored, s.score ≤ g.score ∧ greatest.score ≤ g.score := by
        rcases le_total s.score greatest.score with h | h
        · exact ⟨greatest, List.mem_cons_of_mem _ hgreatest, h, le_refl _⟩
        · exact ⟨s, List.mem_cons_self, le_refl _, h⟩
      obtain ⟨l, hl, hls, hll⟩ := hle
      obtain ⟨g, hg, hgs, hgg⟩ := hge
      refine ⟨l, hl, g, hg, fun t ht => ?_⟩
      rcases List.mem_cons.1 ht with rfl | ht
      · exact ⟨hls, hgs⟩
      · exact ⟨hll.trans (hall t ht).1, (hall t ht).2.trans hgg⟩

theorem scoredCategories_applicable (inputs : QualityEngineInput (exactPython py)) :
    ∀ {rules : List (QualityCategory (exactPython py))}, (∀ rule ∈ rules, rule ∈ qualityRules) →
    (scoredCategories inputs rules).map (·.category) =
      (rules.filter (fun rule => rule.isApplicable inputs)).map (·.categoryName)
  | [], _ => rfl
  | rule :: rules, hsub => by
    have ih := scoredCategories_applicable inputs (fun r hr => hsub r (List.mem_cons_of_mem rule hr))
    unfold scoredCategories at ih ⊢
    by_cases happ : rule.isApplicable inputs = true
    · obtain ⟨q, -, -, -, hscored⟩ := scoredCategory_of_applicable (hsub rule List.mem_cons_self) happ
      rw [List.filterMap_cons_some hscored, List.map_cons, ih, List.filter_cons, if_pos happ, List.map_cons]
    · have hnone : scoredCategory inputs rule = none := dif_neg happ
      rw [List.filterMap_cons_none hnone, ih, List.filter_cons, if_neg happ]

theorem blocking_of_findings {result : QualityEngineResult (exactPython py)} (hresult : qualityControl inputs = result)
    (h : 0 < result.blockingCount ∨ ∃ f ∈ result.findings, f.severity = .blocking) :
    Blocking (evaluateAll inputs).findings := by
  subst hresult
  rcases h with hcount | ⟨f, hf, hsev⟩
  · have hcount' : 0 < severityCount (evaluateAll inputs).allFindings .blocking := hcount
    rw [allFindings_eq] at hcount'
    obtain ⟨f, hf, hsev⟩ := List.countP_pos_iff.1 hcount'
    exact ⟨f, hf, of_decide_eq_true hsev⟩
  · exact ⟨f, mem_qualityControl_findings hf, hsev⟩

/-- **The quality engine returns, and its result is well formed.** -/
theorem qualityControl_wellFormed (py : Python) (inputs : QualityEngineInput (exactPython py)) :
    ∃ result scored, checkedQualityControl inputs = some result ∧ WellFormed inputs result scored := by
  have hall := evaluateAll_accumulated inputs
  have hevaluated : ∀ s ∈ scoredCategories inputs qualityRules, ∃ rule ∈ qualityRules, ∃ happ,
      s.category = rule.categoryName ∧ (rule.evaluate inputs happ).score = exact py s.score ∧
        0 ≤ s.score ∧ s.score ≤ 100 ∧
      s.weight = effectiveWeight rule.categoryName rule.defaultWeight inputs.thresholds.categoryWeights := by
    intro s hs
    obtain ⟨rule, hrule, hscored⟩ := mem_scoredCategories.1 hs
    have happ : rule.isApplicable inputs = true := by
      by_contra hnot
      rw [scoredCategory, dif_neg hnot] at hscored
      cases hscored
    obtain ⟨q, hq, hzero, hhundred, hsome⟩ := scoredCategory_of_applicable hrule happ
    rw [hsome] at hscored
    cases hscored
    exact ⟨rule, hrule, happ, rfl, hq, hzero, hhundred, rfl⟩
  have hpos := weightSum_pos inputs
  have hsum := hall.weightSum ▸ hpos
  obtain ⟨least, hleast, greatest, hgreatest, hbounds⟩ := exists_least_greatest (scoredCategories_ne_nil inputs)
  have hmean := weightedMean_mem hsum (fun p hp => by
    obtain ⟨s, hs, rfl⟩ := List.mem_map.1 hp
    exact hbounds s hs)
  refine ⟨qualityControl inputs, scoredCategories inputs qualityRules, checkedQualityControl_eq inputs, ?_⟩
  exact {
    applicable := scoredCategories_applicable inputs (fun _ hr => hr)
    evaluated := fun s hs => by
      obtain ⟨rule, hrule, happ, hname, hscore, -, -, hweight⟩ := hevaluated s hs
      exact ⟨rule, hrule, happ, hname, hscore, hweight⟩
    categoryScores := hall.categoryScores
    weightsUsed := hall.weightsUsed
    inRange := fun s hs => by
      obtain ⟨-, -, -, -, -, hzero, hhundred, -⟩ := hevaluated s hs
      exact ⟨hzero, hhundred⟩
    overallScore := by
      have hne : (((evaluateAll inputs).weightSum : Nat) : Rat) ≠ 0 := Nat.cast_ne_zero.2 hpos.ne'
      have hoverall : (qualityControl inputs).overallScore =
        some ((exactPython py).div (evaluateAll inputs).weightedScoreSum
          ((exactPython py).ofNat (evaluateAll inputs).weightSum)) := if_neg hpos.ne'
      rw [hoverall, hall.weightedScoreSum, exact_ofNat, exact_div _ hne, hall.weightSum]
      rfl
    between := ⟨least, hleast, greatest, hgreatest, hbounds, hmean⟩
    statuses := hall.statuses
    counts := severityCount_sum _
    fails := fun h => (recommendation_fail_iff inputs).2 (.inl (blocking_of_findings rfl h)) }

end
end Quality
end DataOps

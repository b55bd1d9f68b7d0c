import DataOps.QualityControlHandler
/-!
# QualityConsistency — the consistency category never sees a column

Result rows carry no column, so the engine input has none, and the category skips every result: it scores 100 and finds
nothing, whatever the outcomes (`consistency_blind`).
-/
namespace DataOps
namespace Quality

section
variable {py : Python}

/-- A column that has, for one consistency rule, a passed and a failed result. -/
def MixedColumn (changes : List RemediationChangeRow) (results : List ValidationResultRow) (column : Str) : Prop :=
  ∃ rule ∈ consistencyRuleNames, ∃ p ∈ results, ∃ q ∈ results,
    p.validationRule = some rule ∧ q.validationRule = some rule ∧ p.outcome = .passed ∧ q.outcome = .failed ∧
    (∃ change ∈ changes, change.id = p.remediationChangeId ∧ change.columnName = some column) ∧
    ∃ change ∈ changes, change.id = q.remediationChangeId ∧ change.columnName = some column

def EmitsInconsistency (result : QualityEngineResult py) (column : Str) : Prop :=
  ∃ f ∈ result.findings, f.reason = .inconsistentNormalization ∧ f.affectedColumn = some column

def ScoresInconsistency (result : QualityEngineResult py) : Prop :=
  ∃ score, result.categoryScores.get? .consistency = some score ∧ py.lt score (py.ofNat 100) = true

/-- **The run sees that a column is normalized inconsistently.** -/
def SeesInconsistency (result : QualityEngineResult py) (column : Str) : Prop :=
  EmitsInconsistency result column ∧ ScoresInconsistency result

/-- Results without columns form no pairs. -/
theorem pairOutcomes_eq_nil {results : List ValidationResultSnapshot} (h : ∀ r ∈ results, r.columnName = none) :
    pairOutcomes results = [] := by
  unfold pairOutcomes
  induction results with
  | nil => rfl
  | cons r results ih =>
    have hstep : pairStep [] r = [] := by
      unfold pairStep
      rw [h r List.mem_cons_self]
      cases r.ruleName <;> rfl
    rw [List.foldl_cons, hstep]
    exact ih (fun r' hr' => h r' (List.mem_cons_of_mem _ hr'))

theorem bandFinding_reason {category : CategoryName} {rule : FindingRule} {critical high present reason : FindingReason}
    {score : py.Float} {affected : Option Nat} (hcritical : critical ≠ reason) (hhigh : high ≠ reason)
    (hpresent : present ≠ reason) : (bandFinding category rule critical high present score affected).reason ≠ reason := by
  unfold bandFinding
  dsimp only
  split
  · exact hcritical
  · split
    · exact hhigh
    · exact hpresent

variable {inputs : QualityEngineInput py}

/-- **What a category makes of an input without columns.** -/
theorem evaluate_without_columns (h : ∀ r ∈ inputs.validationResults, r.columnName = none)
    {rule : QualityCategory py} (hrule : rule ∈ qualityRules) (happ : rule.isApplicable inputs = true) :
    (∀ f ∈ (rule.evaluate inputs happ).findings, f.reason ≠ .inconsistentNormalization) ∧
      (rule.categoryName = .consistency → (rule.evaluate inputs happ).score = py.ofNat 100) := by
  simp only [qualityRules, List.mem_cons, List.not_mem_nil, or_false] at hrule
  rcases hrule with rfl | rfl | rfl | rfl | rfl | rfl | rfl | rfl
  · refine ⟨fun f hf => ?_, fun hname => by cases hname⟩
    unfold completenessCategory at hf
    dsimp only at hf
    split at hf
    · rw [List.mem_singleton.1 hf]
      decide
    · split at hf
      · cases hf
      · rw [List.mem_singleton.1 hf]
        exact bandFinding_reason (by decide) (by decide) (by decide)
  · refine ⟨fun f hf => ?_, fun hname => by cases hname⟩
    unfold uniquenessCategory at hf
    dsimp only at hf
    split at hf
    · cases hf
    · rw [List.mem_singleton.1 hf]
      exact bandFinding_reason (by decide) (by decide) (by decide)
  · refine ⟨fun f hf => ?_, fun hname => by cases hname⟩
    unfold validityCategory at hf
    dsimp only at hf
    split at hf
    · cases hf
    · rw [List.mem_singleton.1 hf]
      exact bandFinding_reason (by decide) (by decide) (by decide)
  · have hpairs := pairOutcomes_eq_nil h
    unfold consistencyCategory
    simp [hpairs]
  · cases happ
  · cases happ
  · refine ⟨fun f hf => ?_, fun hname => by cases hname⟩
    unfold unresolvedRiskCategory at hf
    dsimp only at hf
    split at hf
    · cases hf
    · unfold unresolvedFindings at hf
      rcases List.mem_append.1 hf with hf | hf
      · split at hf
        · rw [List.mem_singleton.1 hf]
          simp
        · cases hf
      · split at hf
        · rw [List.mem_singleton.1 hf]
          simp
        · cases hf
  · refine ⟨fun f hf => ?_, fun hname => by cases hname⟩
    unfold validationCoverageCategory at hf
    dsimp only at hf
    split at hf
    · cases hf
    · rw [List.mem_singleton.1 hf]
      dsimp only
      split <;> decide

theorem consistencyScore_without_columns (h : ∀ r ∈ inputs.validationResults, r.columnName = none) :
    ∀ score, (evaluateAll inputs).categoryScores.get? .consistency = some score → score = py.ofNat 100 := by
  refine evaluateAll_induction (P := fun e => ∀ score, e.categoryScores.get? .consistency = some score →
    score = py.ofNat 100) (fun score hscore => by cases hscore) (fun e rule hrule ih score hscore => ?_)
  unfold evaluationStep at hscore
  split at hscore
  · rename_i happ
    dsimp only at hscore
    rw [Dict.get?_set] at hscore
    split at hscore
    · rename_i hname
      rw [← Option.some.inj hscore]
      exact (evaluate_without_columns h hrule happ).2 hname
    · exact ih score hscore
  · exact ih score hscore

theorem buildEngineInput_columns (validationRun : ValidationRunSnapshot) (results : List ValidationResultRow)
    (totalIssuesFound : Nat) (dataProfile : DataProfileSnapshot) (effectiveStats : EffectiveDatasetStats)
    (issueRows : List IssueRow) (thresholds : QualityThresholdConfig py) (maxPersistedFindings : Nat) :
    ∀ r ∈ (buildEngineInput validationRun results totalIssuesFound dataProfile effectiveStats issueRows thresholds
      maxPersistedFindings).validationResults, r.columnName = none := by
  intro r hr
  obtain ⟨vr, -, rfl⟩ := List.mem_map.1 hr
  rfl

theorem not_emitsInconsistency (h : ∀ r ∈ inputs.validationResults, r.columnName = none) (column : Str) :
    ¬ EmitsInconsistency (qualityControl inputs) column := by
  rintro ⟨f, hf, hreason, -⟩
  obtain ⟨rule, hrule, happ, hf⟩ := exists_category f (mem_qualityControl_findings hf)
  exact (evaluate_without_columns h hrule happ).1 f hf hreason

/-- **Quality control sees no inconsistent normalization**, whatever the changes and results. -/
theorem consistency_blind (py : Python) (validationRun : ValidationRunSnapshot) (results : List ValidationResultRow)
    (totalIssuesFound : Nat) (dataProfile : DataProfileSnapshot) (effectiveStats : EffectiveDatasetStats)
    (issueRows : List IssueRow) (thresholds : QualityThresholdConfig py) (maxPersistedFindings : Nat) (column : Str) :
    let result := qualityControl (buildEngineInput validationRun results totalIssuesFound dataProfile effectiveStats
      issueRows thresholds maxPersistedFindings)
    ¬ EmitsInconsistency result column ∧ ¬ ScoresInconsistency result ∧ ¬ SeesInconsistency result column := by
  have hcolumns := buildEngineInput_columns validationRun results totalIssuesFound dataProfile effectiveStats issueRows
    thresholds maxPersistedFindings
  have hemits := not_emitsInconsistency hcolumns column
  refine ⟨hemits, ?_, fun hsees => hemits hsees.1⟩
  rintro ⟨score, hscore, hlt⟩
  rw [consistencyScore_without_columns hcolumns score hscore, py.lt_irrefl] at hlt
  cases hlt

end

/-! ## A mixed column -/

/-- Two changes of column `flag`, of which one passed and one failed. -/
def mixedChanges : List RemediationChangeRow :=
  [⟨⟨1, 2, some "flag".toList, .normalizeBoolean, some "yes".toList, some "true".toList,
      Remediation.Action.normalizeBoolean.changeReason⟩, 1⟩,
    ⟨⟨2, 3, some "flag".toList, .normalizeBoolean, some "no".toList, some "False".toList,
      Remediation.Action.normalizeBoolean.changeReason⟩, 2⟩]

def mixedResults : List ValidationResultRow :=
  [⟨1, 1, 1, some .validateNormalizeBoolean, .passed, .proposedValueMatches, some "yes".toList, some "true".toList, "1.0"⟩,
    ⟨2, 2, 2, some .validateNormalizeBoolean, .failed, .proposedValueMismatch, some "no".toList, some "False".toList,
      "1.0"⟩]

theorem mixed_unseen : MixedColumn mixedChanges mixedResults "flag".toList ∧
    ¬ SeesInconsistency (qualityControl (buildEngineInput ⟨2, 1, 1, 0, [(.validateNormalizeBoolean, 2)]⟩ mixedResults 2
      ⟨2, 1, 0, 0⟩ ⟨2, 0, 0, 0, 0, 1⟩ [] ({} : QualityThresholdConfig asciiPython) 100)) "flag".toList := by
  refine ⟨⟨.validateNormalizeBoolean, by decide, mixedResults[0], by decide, mixedResults[1], by decide,
    rfl, rfl, rfl, rfl, ⟨mixedChanges[0], by decide, rfl, rfl⟩, ⟨mixedChanges[1], by decide, rfl, rfl⟩⟩, fun hsees => ?_⟩
  exact not_emitsInconsistency (buildEngineInput_columns _ _ _ _ _ _ _ _) _ hsees.1

end Quality
end DataOps

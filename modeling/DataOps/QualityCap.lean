import DataOps.QualityControlHandler
/-!
# QualityCap — what the detection cap hides from quality control

The unresolved counts are taken over the persisted issues, so a HIGH or CRITICAL finding that the cap dropped is in none
of them.  Whatever the thresholds, a run with too many unresolved findings fails exactly when the cap drops no such
finding or a category blocks the run anyway (`failsOnExcess_iff`).
-/
namespace DataOps
namespace Quality

open Detection (DetectionDataset Finding Severity detectIssues sortedFindings)
open Remediation (Action)

section
variable {py : Python} {c : Chain py}

/-- The persisted issues of a severity that have a passed validated change. -/
def Reads.addressedCount (r : Reads c) (severity : Severity) : Nat :=
  r.issues.countP (fun issue => issue.id ∈ addressedIssueIds r.results ∧ issue.severity = severity)

/-- What detection counted of a severity, less what has a passed validated change. -/
def Reads.remaining (r : Reads c) (severity : Severity) : Nat :=
  (detectIssues c.dataset c.detectionLimits).severityCount severity - r.addressedCount severity

/-- More findings remain than a threshold allows. -/
def Excess (r : Reads c) (thresholds : QualityThresholdConfig py) : Prop :=
  thresholds.maxCriticalSeverityUnresolved < r.remaining .critical ∨
    thresholds.maxHighSeverityUnresolved < r.remaining .high

/-- **A run on a chain with too many remaining findings recommends FAIL**, whatever the configured thresholds. -/
def FailsOnExcess (r : Reads c) : Prop :=
  ∀ thresholds maxPersistedFindings, validThresholdConfig thresholds = true → Excess r thresholds →
    (r.qualityControl thresholds maxPersistedFindings).recommendation = .fail

/-- The cap drops no HIGH or CRITICAL finding. -/
def CapSpares (c : Chain py) : Prop :=
  ∀ f ∈ (sortedFindings c.dataset).drop c.detectionLimits.maxPersistedIssues, f.severity ≠ .high ∧
    f.severity ≠ .critical

/-- A category blocks the run whatever the thresholds: no row is left, too many cells are blank, too many rows are
duplicates, too few changes passed, or a persisted CRITICAL issue is not addressed. -/
def BlocksAnyway (r : Reads c) : Prop :=
  r.stats.effectiveRowCount = 0 ∨
  (py.eq (missingRate r.stats.toEffectiveDatasetStats (profileCsv c.dataset.toTable)) (py.ofNat 0) = false ∧
    TooLow (scoreOfRate (missingRate r.stats.toEffectiveDatasetStats (profileCsv c.dataset.toTable) : py.Float))) ∨
  (r.stats.effectiveDuplicateRowCount ≠ 0 ∧
    TooLow (scoreOfRate (duplicateRate r.stats.toEffectiveDatasetStats : py.Float))) ∨
  (0 < c.validationRun.approvedChangesConsidered ∧
    c.validationRun.passedCount ≠ c.validationRun.approvedChangesConsidered ∧
    TooLow (validityScore c.validationRun : py.Float)) ∨
  0 < r.stats.unresolvedCriticalCount

/-! ## What the cap hides -/

/-- The findings of a severity that the cap dropped. -/
def Chain.droppedCount (c : Chain py) (severity : Severity) : Nat :=
  ((sortedFindings c.dataset).drop c.detectionLimits.maxPersistedIssues).countP (fun f => f.severity = severity)

theorem capSpares_iff (c : Chain py) : CapSpares c ↔ c.droppedCount .high = 0 ∧ c.droppedCount .critical = 0 := by
  unfold CapSpares Chain.droppedCount
  rw [List.countP_eq_zero, List.countP_eq_zero]
  simp only [decide_eq_true_eq]
  exact ⟨fun h => ⟨fun f hf => (h f hf).1, fun f hf => (h f hf).2⟩, fun h f hf => ⟨h.1 f hf, h.2 f hf⟩⟩

/-- **What remains of a severity is what is unresolved among the persisted issues, and what the cap dropped.** -/
theorem Reads.remaining_eq (r : Reads c) (severity : Severity) :
    r.remaining severity = unresolvedCount severity r.results (Dict.index (fun row => row.id) r.issues) +
      c.droppedCount severity := by
  have hfound : (detectIssues c.dataset c.detectionLimits).severityCount severity =
      (detectIssues c.dataset c.detectionLimits).findings.countP (fun f => f.severity = severity) +
        c.droppedCount severity := by
    rw [Detection.severityCount_detectIssues, ← List.countP_eq_length_filter,
      ← (Detection.sortedFindings_perm c.dataset).countP_eq]
    unfold Chain.droppedCount
    conv => lhs; rw [← List.take_append_drop c.detectionLimits.maxPersistedIssues (sortedFindings c.dataset)]
    exact List.countP_append
  have hpersisted : (detectIssues c.dataset c.detectionLimits).findings.countP (fun f => f.severity = severity) =
      r.issues.countP (fun issue => issue.severity = severity) := by
    rw [← c.issues_written.countP_eq, List.countP_map, r.issues_perm.countP_eq]
    rfl
  have hsplit := List.countP_eq_countP_filter_add r.issues (fun issue => issue.severity = severity)
    (fun issue => issue.id ∈ addressedIssueIds r.results)
  simp only [List.countP_filter, Bool.and_comm (decide (_ = severity)), ← decide_not, ← Bool.decide_and] at hsplit
  unfold Reads.remaining Reads.addressedCount unresolvedCount
  rw [hfound, hpersisted, r.values_issues, hsplit]
  omega

/-! ## What blocks a run -/

/-- An unresolved issue was found. -/
theorem Reads.totalIssues_pos (r : Reads c) (h : 0 < r.stats.unresolvedCriticalCount) :
    0 < (detectIssues c.dataset c.detectionLimits).totalIssuesFound := by
  have hremaining := r.remaining_eq .critical
  have hunresolved : r.stats.unresolvedCriticalCount =
      unresolvedCount .critical r.results (Dict.index (fun row => row.id) r.issues) := rfl
  have hle : (detectIssues c.dataset c.detectionLimits).severityCount .critical ≤
      (detectIssues c.dataset c.detectionLimits).totalIssuesFound := by
    rw [Detection.severityCount_detectIssues]
    exact Nat.le_trans (List.length_filter_le _ _) (Nat.le_of_eq (Detection.sortedFindings_perm _).length_eq.symm)
  unfold Reads.remaining at hremaining
  omega

/-- What blocks a run beside `BlocksAnyway` is a skip rate above its threshold. -/
theorem Reads.blocking_iff (r : Reads c) (thresholds : QualityThresholdConfig py) (maxPersistedFindings : Nat) :
    Blocking (evaluateAll (r.engineInput thresholds maxPersistedFindings)).findings ↔
      BlocksAnyway r ∨ (0 < c.validationRun.approvedChangesConsidered ∧ c.validationRun.skippedCount ≠ 0 ∧
        py.lt thresholds.maxValidationSkipRate (skipRate c.validationRun) = true) := by
  rw [evaluateAll_blocking_iff]
  constructor
  · rintro (hrows | ⟨-, hmissing⟩ | ⟨-, hduplicates⟩ | hvalidity | ⟨-, hcritical⟩ | hskipped)
    · exact .inl (.inl hrows)
    · exact .inl (.inr (.inl hmissing))
    · exact .inl (.inr (.inr (.inl hduplicates)))
    · exact .inl (.inr (.inr (.inr (.inl hvalidity))))
    · exact .inl (.inr (.inr (.inr (.inr hcritical))))
    · exact .inr hskipped
  · intro h
    by_cases hrows : r.stats.effectiveRowCount = 0
    · exact .inl hrows
    · rcases h with (hzero | hmissing | hduplicates | hvalidity | hcritical) | hskipped
      · exact .inl hzero
      · exact .inr (.inl ⟨hrows, hmissing⟩)
      · exact .inr (.inr (.inl ⟨hrows, hduplicates⟩))
      · exact .inr (.inr (.inr (.inl hvalidity)))
      · exact .inr (.inr (.inr (.inr (.inl ⟨r.totalIssues_pos hcritical, hcritical⟩))))
      · exact .inr (.inr (.inr (.inr (.inr hskipped))))

/-! ## The most lenient thresholds -/

/-- Every rate and every score is accepted, and as many unresolved issues as are persisted. -/
def Reads.lenient (r : Reads c) : QualityThresholdConfig py where
  failScoreThreshold := py.ofNat 0
  maxValidationFailureRate := py.ofNat 1
  maxValidationSkipRate := py.ofNat 1
  maxHighSeverityUnresolved := r.stats.unresolvedHighCount
  maxCriticalSeverityUnresolved := r.stats.unresolvedCriticalCount

theorem Reads.lenient_valid (r : Reads c) : validThresholdConfig r.lenient = true := by
  have hbelow : py.le (py.ofNat 85) (py.ofNat 0) = false := by
    unfold Python.le Python.ofNat
    rw [py.lt_small 85 0 (by omega) (by omega), py.eq_small 85 0 (by omega) (by omega)]
    rfl
  unfold validThresholdConfig Reads.lenient
  simp only [hbelow, le_ofNat 0 100 (by omega) (by omega),
    le_ofNat 0 0 (by omega) (by omega),
    le_ofNat 0 85 (by omega) (by omega),
    le_ofNat 85 100 (by omega) (by omega),
    le_ofNat 0 1 (by omega) (by omega),
    le_ofNat 1 1 (by omega) (by omega)]
  rfl

/-- A share of the considered changes is at most 1. -/
theorem Chain.share_le_one (c : Chain py) {n : Nat} (h : n ≤ c.validationRun.approvedChangesConsidered)
    (hpos : 0 < c.validationRun.approvedChangesConsidered) :
    py.lt (py.ofNat 1) (py.ratio n c.validationRun.approvedChangesConsidered) = false :=
  py.ratio_le_one n _ h hpos

/-- **Under the most lenient thresholds only what blocks anyway fails the run.** -/
theorem Reads.lenient_fail {r : Reads c}
    (h : (r.qualityControl r.lenient 0).recommendation = .fail) : BlocksAnyway r := by
  have hreconciles : c.validationRun.passedCount + c.validationRun.failedCount + c.validationRun.skippedCount =
      c.validationRun.approvedChangesConsidered := Validation.validate_reconciles py _ _ _
  rcases (recommendation_fail_iff _).1 h with hblocking | ⟨score, hscore, hlow⟩ | ⟨hpos, hfailed⟩ | hcritical | hhigh
  · rcases (r.blocking_iff _ _).1 hblocking with hanyway | ⟨hpos, -, hskipped⟩
    · exact hanyway
    · exact absurd ((c.share_le_one (by omega) hpos).symm.trans hskipped) Bool.false_ne_true
  · obtain ⟨score', hscore', hnonneg⟩ := exists_overallScore (r.engineInput r.lenient 0)
    obtain rfl : score = score' := Option.some.inj (hscore.symm.trans hscore')
    exact absurd (hnonneg.symm.trans hlow) Bool.false_ne_true
  · have hle : c.validationRun.failedCount ≤ c.validationRun.approvedChangesConsidered := by omega
    exact absurd ((c.share_le_one hle hpos).symm.trans hfailed) Bool.false_ne_true
  · exact absurd hcritical (Nat.lt_irrefl _)
  · exact absurd hhigh (Nat.lt_irrefl _)

/-- **A run with too many findings left fails exactly when the cap spares the severe ones or it is blocked anyway.** -/
theorem failsOnExcess_iff (r : Reads c) : FailsOnExcess r ↔ CapSpares c ∨ BlocksAnyway r := by
  have hhigh := r.remaining_eq .high
  have hcritical := r.remaining_eq .critical
  constructor
  · intro h
    by_cases hspares : CapSpares c
    · exact .inl hspares
    · have hdropped : 0 < c.droppedCount .high ∨ 0 < c.droppedCount .critical := by
        rw [capSpares_iff] at hspares
        omega
      have hexcess : Excess r r.lenient := by
        rcases hdropped with hdropped | hdropped
        · refine .inr (show r.stats.unresolvedHighCount < r.remaining .high from ?_)
          rw [hhigh]
          exact Nat.lt_add_of_pos_right hdropped
        · refine .inl (show r.stats.unresolvedCriticalCount < r.remaining .critical from ?_)
          rw [hcritical]
          exact Nat.lt_add_of_pos_right hdropped
      exact .inr (Reads.lenient_fail (h r.lenient 0 r.lenient_valid hexcess))
  · rintro (hspares | hanyway) thresholds maxPersistedFindings - hexcess
    · rw [capSpares_iff] at hspares
      refine (recommendation_fail_iff _).2 (.inr (.inr (.inr ?_)))
      rw [Excess, hhigh, hcritical, hspares.1, hspares.2] at hexcess
      exact hexcess
    · exact (recommendation_fail_iff _).2 (.inl ((r.blocking_iff _ _).2 (.inl hanyway)))

end

/-! ## A dropped finding -/

/-- Row 2 has a leading blank, row 3 a value that is not allowed. -/
def spacedRows : DetectionDataset asciiPython where
  headers := ["a".toList, "b".toList]
  rows := [[" p".toList, "x".toList], ["q".toList, "y".toList]]
  width := by simp
  columnRules := [("b".toList, { allowedValues := some ["x".toList] })]

/-- One issue is persisted, and its change is not approved. -/
def cappedChain : Chain asciiPython where
  dataset := spacedRows
  detectionLimits := ⟨1⟩
  issues := [⟨⟨2, some "a".toList, .leadingWhitespace, .info, some " p".toList, some "p".toList⟩, 1⟩]
  issues_written := by decide
  issues_nodup := by decide
  columnConfig := []
  datasetConfig := ⟨false, false⟩
  remediationLimits := ⟨10⟩
  changes := [⟨⟨1, 2, some "a".toList, .trimWhitespace, some " p".toList, some "p".toList,
    Action.trimWhitespace.changeReason⟩, 1⟩]
  changes_written := by decide
  changes_nodup := by decide
  approved := fun _ => false
  validationConfig := []
  validationLimits := ⟨10⟩
  results := []
  results_written := .nil
  results_nodup := by decide

def cappedReads : Reads cappedChain where
  issues := cappedChain.issues
  issues_perm := List.Perm.refl _
  changes := cappedChain.changes
  changes_perm := List.Perm.refl _
  results := cappedChain.results
  results_perm := List.Perm.refl _

/-- **The default thresholds allow no HIGH finding; one remains, and the run passes.** -/
theorem cappedReads_pass : cappedReads.remaining .high = 1 ∧ (cappedReads.qualityControl {} 100).recommendation = .pass ∧
    ¬ FailsOnExcess cappedReads := by
  have hremaining : cappedReads.remaining .high = 1 := by decide
  have hpass : (cappedReads.qualityControl {} 100).recommendation = .pass := by decide +kernel
  refine ⟨hremaining, hpass, fun h => ?_⟩
  have hfail := h {} 100 (by decide +kernel) (.inr (by decide))
  rw [hpass] at hfail
  cases hfail

end Quality
end DataOps

import DataOps.LibExactNumbers
import DataOps.QualityEngine
/-!
# QualityMonotone — a worse run is not recommended better

One result that fails instead of passing, more missing cells, more duplicates or more unresolved issues never improve the
recommendation (`recommendation_le`), but for one way: a column whose last passed result fails is no longer inconsistent
(`recommendation_improves`).
-/
namespace DataOps

namespace Quality

section
variable {py : Python}

/-! ## The pairs of the consistency category -/

/-- The pair that a result counts for. -/
def pairOf (r : ValidationResultSnapshot) : Option (Validation.RuleName × Str) :=
  match r.ruleName, r.columnName with
  | some rule, some column => if rule ∈ consistencyRuleNames then some (rule, column) else none
  | _, _                   => none

theorem pairStep_of_none {d : Dict (Validation.RuleName × Str) (List Validation.Outcome)} {r : ValidationResultSnapshot}
    (h : pairOf r = none) : pairStep d r = d := by
  unfold pairOf at h
  unfold pairStep
  cases hrule : r.ruleName with
  | none => rfl
  | some rule =>
    cases hcolumn : r.columnName with
    | none => rfl
    | some column =>
      rw [hrule, hcolumn] at h
      dsimp only at h ⊢
      split at h
      · cases h
      · rename_i hnot
        rw [if_neg hnot]

theorem pairStep_of_some {d : Dict (Validation.RuleName × Str) (List Validation.Outcome)} {r : ValidationResultSnapshot}
    {k : Validation.RuleName × Str} (h : pairOf r = some k) : pairStep d r = d.push k r.outcome := by
  unfold pairOf at h
  unfold pairStep
  cases hrule : r.ruleName with
  | none =>
    rw [hrule] at h
    cases h
  | some rule =>
    cases hcolumn : r.columnName with
    | none =>
      rw [hrule, hcolumn] at h
      cases h
    | some column =>
      rw [hrule, hcolumn] at h
      dsimp only at h ⊢
      split at h
      · rename_i hmem
        rw [if_pos hmem, Option.some.inj h]
      · cases h

theorem pairOutcomes_append_singleton (results : List ValidationResultSnapshot) (r : ValidationResultSnapshot) :
    pairOutcomes (results ++ [r]) = pairStep (pairOutcomes results) r := by
  simp [pairOutcomes]

/-- The pairs depend on the rules and columns alone. -/
theorem keys_pairOutcomes {results : List ValidationResultSnapshot} : ∀ {results' : List ValidationResultSnapshot},
    results.map pairOf = results'.map pairOf → (pairOutcomes results).keys = (pairOutcomes results').keys := by
  induction results using List.reverseRecOn with
  | nil =>
    intro results' h
    rw [List.map_nil, eq_comm, List.map_eq_nil_iff] at h
    rw [h]
  | append_singleton results r ih =>
    intro results' h
    rw [List.map_append, List.map_singleton] at h
    obtain ⟨init, last, rfl, hinit, hlast⟩ := List.map_eq_append_iff.1 h.symm
    obtain ⟨r', rfl, hr'⟩ := List.map_eq_singleton_iff.1 hlast
    have hkeys := ih hinit.symm
    rw [pairOutcomes_append_singleton, pairOutcomes_append_singleton]
    cases hpair : pairOf r with
    | none => rw [pairStep_of_none hpair, pairStep_of_none (hr'.trans hpair), hkeys]
    | some k =>
      rw [pairStep_of_some hpair, pairStep_of_some (hr'.trans hpair), Dict.keys_push, Dict.keys_push, hkeys]

theorem nodup_keys_pairOutcomes (results : List ValidationResultSnapshot) : (pairOutcomes results).keys.Nodup := by
  induction results using List.reverseRecOn with
  | nil => exact List.nodup_nil
  | append_singleton results r ih =>
    rw [pairOutcomes_append_singleton]
    cases hpair : pairOf r with
    | none => rwa [pairStep_of_none hpair]
    | some k =>
      rw [pairStep_of_some hpair]
      exact Dict.nodup_keys_push ih k _

theorem getD_get?_pairOutcomes (results : List ValidationResultSnapshot) (k : Validation.RuleName × Str) :
    ((pairOutcomes results).get? k).getD [] = (results.filter (fun r => pairOf r = some k)).map (·.outcome) := by
  induction results using List.reverseRecOn with
  | nil => rfl
  | append_singleton results r ih =>
    rw [pairOutcomes_append_singleton, List.filter_append, List.map_append, ← ih]
    cases hpair : pairOf r with
    | none => simp [pairStep_of_none hpair, hpair]
    | some j =>
      rw [pairStep_of_some hpair, Dict.get?_push]
      by_cases hj : j = k
      · subst hj
        simp [hpair]
      · simp [hpair, hj]

/-- A pair with both outcomes. -/
def MixedPair (results : List ValidationResultSnapshot) (k : Validation.RuleName × Str) : Prop :=
  (∃ r ∈ results, pairOf r = some k ∧ r.outcome = .passed) ∧ ∃ r ∈ results, pairOf r = some k ∧ r.outcome = .failed

theorem mem_pairOutcomes {results : List ValidationResultSnapshot}
    {p : (Validation.RuleName × Str) × List Validation.Outcome} (hp : p ∈ pairOutcomes results)
    (outcome : Validation.Outcome) :
    outcome ∈ p.2 ↔ ∃ r ∈ results, pairOf r = some p.1 ∧ r.outcome = outcome := by
  have hget := getD_get?_pairOutcomes results p.1
  rw [Dict.get?_eq_some_of_mem (nodup_keys_pairOutcomes results) hp, Option.getD_some] at hget
  rw [hget]
  simp only [List.mem_map, List.mem_filter, decide_eq_true_eq, and_assoc]

instance (results : List ValidationResultSnapshot) (k : Validation.RuleName × Str) : Decidable (MixedPair results k) :=
  inferInstanceAs (Decidable (_ ∧ _))

theorem length_inconsistentPairs (results : List ValidationResultSnapshot) :
    (inconsistentPairs results).length = (pairOutcomes results).keys.countP (fun k => MixedPair results k) := by
  unfold inconsistentPairs Dict.keys
  rw [List.length_insertionSort, List.length_map, ← List.countP_eq_length_filter, List.countP_map]
  apply List.countP_congr
  intro p hp
  simp only [Function.comp, decide_eq_true_eq]
  rw [mem_pairOutcomes hp, mem_pairOutcomes hp]
  rfl

theorem length_inconsistentPairs_le {results results' : List ValidationResultSnapshot}
    (hpairs : results.map pairOf = results'.map pairOf) (hmixed : ∀ k, MixedPair results k → MixedPair results' k) :
    (inconsistentPairs results).length ≤ (inconsistentPairs results').length := by
  rw [length_inconsistentPairs, length_inconsistentPairs, keys_pairOutcomes hpairs]
  apply List.countP_mono_left
  intro k _ hk
  simp only [decide_eq_true_eq] at hk ⊢
  exact hmixed k hk

/-! ## Scores in order -/

variable {x y : py.Float}

theorem le_of_lt (h : py.lt x y = true) : py.le x y = true := by
  unfold Python.le
  rw [h, Bool.true_or]

theorem le_clampScore : py.le (py.ofNat 0) (clampScore x) = true := by
  unfold clampScore Python.max
  split
  · rename_i hlt
    exact le_of_lt hlt
  · exact le_ofNat _ _ (Nat.le_refl 0) (by decide)

theorem clampScore_le : py.le (clampScore x) (py.ofNat 100) = true := by
  have hmin : py.le (py.min (py.ofNat 100) x) (py.ofNat 100) = true := by
    unfold Python.min
    split
    · rename_i hlt
      exact le_of_lt hlt
    · exact le_ofNat _ _ (Nat.le_refl 100) (by decide)
  unfold clampScore Python.max
  split
  · exact hmin
  · exact le_ofNat _ _ (by decide) (by decide)

theorem clampScore_mono (h : py.OrderedArithmetic) (hxy : py.le x y = true) :
    py.le (clampScore x) (clampScore y) = true := by
  have hmin : py.le (py.min (py.ofNat 100) x) (py.min (py.ofNat 100) y) = true := by
    unfold Python.min
    by_cases hy : py.lt y (py.ofNat 100) = true
    · rw [if_pos hy, if_pos (h.lt_of_le_lt _ _ _ hxy hy)]
      exact hxy
    · rw [if_neg hy]
      split
      · rename_i hx
        exact le_of_lt hx
      · exact le_ofNat _ _ (Nat.le_refl 100) (by decide)
  unfold clampScore Python.max
  by_cases hx : py.lt (py.ofNat 0) (py.min (py.ofNat 100) x) = true
  · rw [if_pos hx, if_pos (h.lt_of_lt_le _ _ _ hx hmin)]
    exact hmin
  · rw [if_neg hx]
    split
    · rename_i hy
      exact le_of_lt hy
    · exact le_ofNat _ _ (Nat.le_refl 0) (by decide)

/-- A higher rate scores lower. -/
theorem scoreOfRate_anti (h : py.OrderedArithmetic) (hxy : py.le x y = true) :
    py.le (scoreOfRate y) (scoreOfRate x) = true :=
  clampScore_mono h (h.ofNat_mul_le 100 _ _ (by decide) (h.sub_le 1 _ _ hxy))

/-! ## Results in order -/

def warningCount (findings : List QualityFindingResult) : Nat := severityCount findings .warning

theorem Blocking.append_left {l l' : List QualityFindingResult} (h : Blocking l) : Blocking (l ++ l') := by
  obtain ⟨f, hf, hsev⟩ := h
  exact ⟨f, List.mem_append_left _ hf, hsev⟩

theorem Blocking.append_right {l l' : List QualityFindingResult} (h : Blocking l') : Blocking (l ++ l') := by
  obtain ⟨f, hf, hsev⟩ := h
  exact ⟨f, List.mem_append_right _ hf, hsev⟩

theorem warningCount_append (l l' : List QualityFindingResult) :
    warningCount (l ++ l') = warningCount l + warningCount l' := List.countP_append

/-- Findings that are no better. -/
structure FindingsWorsen (l l' : List QualityFindingResult) : Prop where
  blocking : Blocking l → Blocking l'
  warnings : ¬ Blocking l' → warningCount l ≤ warningCount l'

theorem FindingsWorsen.refl (l : List QualityFindingResult) : FindingsWorsen l l := ⟨id, fun _ => Nat.le_refl _⟩

theorem FindingsWorsen.append {a a' b b' : List QualityFindingResult} (ha : FindingsWorsen a a')
    (hb : FindingsWorsen b b') : FindingsWorsen (a ++ b) (a' ++ b') := by
  constructor
  · rintro ⟨f, hf, hsev⟩
    rcases List.mem_append.1 hf with hf | hf
    · exact (ha.blocking ⟨f, hf, hsev⟩).append_left
    · exact (hb.blocking ⟨f, hf, hsev⟩).append_right
  · intro hnot
    rw [warningCount_append, warningCount_append]
    exact Nat.add_le_add (ha.warnings (fun hblocks => hnot hblocks.append_left))
      (hb.warnings (fun hblocks => hnot hblocks.append_right))

/-- Nothing that counts becomes anything. -/
theorem FindingsWorsen.of_harmless {l l' : List QualityFindingResult} (hblocking : ¬ Blocking l)
    (hwarnings : warningCount l = 0) : FindingsWorsen l l' :=
  ⟨fun h => absurd h hblocking, fun _ => hwarnings ▸ Nat.zero_le _⟩

/-- A category's result that is no better. -/
structure ResultWorsens (r r' : CategoryEvaluationResult py) : Prop where
  nonneg   : py.le (py.ofNat 0) r'.score = true
  score    : py.le r'.score r.score = true
  findings : FindingsWorsen r.findings r'.findings

/-- A lower score is in no better band. -/
theorem bandFinding_worsens (h : py.OrderedArithmetic) {category : CategoryName} {rule : FindingRule}
    {critical high present : FindingReason} {affected affected' : Option Nat} (hyx : py.le y x = true) :
    FindingsWorsen [bandFinding category rule critical high present x affected]
      [bandFinding category rule critical high present y affected'] := by
  constructor
  · rw [blocking_singleton, blocking_singleton, bandFinding_blocking, bandFinding_blocking]
    exact h.lt_of_le_lt _ _ _ hyx
  · rw [blocking_singleton, bandFinding_blocking]
    intro hlow
    have hlow' : ¬ py.lt y (py.ofNat 60) = true := hlow
    unfold warningCount severityCount bandFinding
    simp only [List.countP_singleton, hlow', Bool.false_eq_true, if_false]
    by_cases hx : py.lt x (py.ofNat 60) = true
    · simp [hx]
    · by_cases hx85 : py.lt x (py.ofNat 85) = true
      · simp [hx, hx85, h.lt_of_le_lt _ _ _ hyx hx85]
      · simp [hx, hx85]

/-- A score that is not below 85 finds nothing that counts. -/
theorem bandFinding_harmless (h : py.OrderedArithmetic) (hx : py.le (py.ofNat 85) x = true) (category : CategoryName)
    (rule : FindingRule) (critical high present : FindingReason) (affected : Option Nat) :
    ¬ Blocking [bandFinding category rule critical high present x affected] ∧
      warningCount [bandFinding category rule critical high present x affected] = 0 := by
  have hnot : ∀ n, n ≤ 85 → py.lt x (py.ofNat n) = false := by
    intro n hn
    by_contra hlt
    have hself := h.lt_of_le_lt _ _ _ hx (Bool.eq_true_of_not_eq_false hlt)
    have hsmall : py.lt (py.ofNat 85) (py.ofNat n) = decide (85 < n) := py.lt_small 85 n (by decide) (by omega)
    rw [hsmall, decide_eq_true_eq] at hself
    omega
  constructor
  · rw [blocking_singleton, bandFinding_blocking]
    unfold TooLow
    rw [hnot 60 (by decide)]
    decide
  · unfold warningCount severityCount bandFinding
    simp [hnot 60 (by decide), hnot 85 (Nat.le_refl 85)]

/-! ## Worse runs -/

/-- What a run may lose: the rest is as before. -/
structure Worse (inputs inputs' : QualityEngineInput py) : Prop where
  rows        : inputs'.effectiveStats.effectiveRowCount = inputs.effectiveStats.effectiveRowCount
  columns     : inputs'.dataProfile.columnCount = inputs.dataProfile.columnCount
  considered  : inputs'.validationRun.approvedChangesConsidered = inputs.validationRun.approvedChangesConsidered
  skipped     : inputs'.validationRun.skippedCount = inputs.validationRun.skippedCount
  rules       : inputs'.validationRun.resultsByRule = inputs.validationRun.resultsByRule
  totalIssues : inputs'.totalIssuesFound = inputs.totalIssuesFound
  thresholds  : inputs'.thresholds = inputs.thresholds
  passed      : inputs'.validationRun.passedCount ≤ inputs.validationRun.passedCount
  failed      : inputs.validationRun.failedCount ≤ inputs'.validationRun.failedCount
  missing     : inputs.effectiveStats.effectiveMissingValueTotal ≤ inputs'.effectiveStats.effectiveMissingValueTotal
  duplicates  : inputs.effectiveStats.effectiveDuplicateRowCount ≤ inputs'.effectiveStats.effectiveDuplicateRowCount
  high        : inputs.effectiveStats.unresolvedHighCount ≤ inputs'.effectiveStats.unresolvedHighCount
  critical    : inputs.effectiveStats.unresolvedCriticalCount ≤ inputs'.effectiveStats.unresolvedCriticalCount
  pairs       : inputs.validationResults.map pairOf = inputs'.validationResults.map pairOf
  mixed       : consistencyCategory.isApplicable inputs = true →
    ∀ k, MixedPair inputs.validationResults k → MixedPair inputs'.validationResults k

variable {inputs inputs' : QualityEngineInput py}

theorem Worse.isApplicable_eq (hworse : Worse inputs inputs') {rule : QualityCategory py} (hrule : rule ∈ qualityRules) :
    rule.isApplicable inputs' = rule.isApplicable inputs := by
  simp only [qualityRules, List.mem_cons, List.not_mem_nil, or_false] at hrule
  rcases hrule with rfl | rfl | rfl | rfl | rfl | rfl | rfl | rfl
  · rfl
  · simp only [uniquenessCategory, hworse.rows]
  · simp only [validityCategory, hworse.considered]
  · simp only [consistencyCategory, hworse.rules]
  · rfl
  · rfl
  · simp only [unresolvedRiskCategory, hworse.totalIssues]
  · simp only [validationCoverageCategory, hworse.considered]

theorem ratio_le_of_le (h : py.OrderedArithmetic) {n n' m : Nat} (hn : n ≤ n') (hm : m ≠ 0) :
    py.le (py.ratio n m) (py.ratio n' m) = true := h.ratio_le n n' m hn (Nat.pos_of_ne_zero hm)

theorem missingRate_le (h : py.OrderedArithmetic) (hworse : Worse inputs inputs') :
    py.le (missingRate inputs.effectiveStats inputs.dataProfile : py.Float)
      (missingRate inputs'.effectiveStats inputs'.dataProfile) = true := by
  unfold missingRate
  rw [hworse.rows, hworse.columns]
  dsimp only
  split
  · exact le_ofNat _ _ (Nat.le_refl 0) (by decide)
  · rename_i hcells
    exact ratio_le_of_le h hworse.missing hcells

theorem le_missingRate (h : py.OrderedArithmetic) (inputs : QualityEngineInput py) :
    py.le (py.ofNat 0) (missingRate inputs.effectiveStats inputs.dataProfile : py.Float) = true := by
  unfold missingRate
  dsimp only
  split
  · exact le_ofNat _ _ (Nat.le_refl 0) (by decide)
  · rename_i hcells
    exact h.zero_le_ratio _ _ (Nat.pos_of_ne_zero hcells)

theorem completeness_worsens (h : py.OrderedArithmetic) (hworse : Worse inputs inputs')
    (happ : completenessCategory.isApplicable inputs = true) (happ' : completenessCategory.isApplicable inputs' = true) :
    ResultWorsens (completenessCategory.evaluate inputs happ) (completenessCategory.evaluate inputs' happ') := by
  have hrate := missingRate_le h hworse
  have hscore := scoreOfRate_anti h hrate
  unfold completenessCategory
  dsimp only
  rw [hworse.rows]
  split
  · exact ⟨le_ofNat _ _ (Nat.le_refl 0) (by decide), le_ofNat _ _ (Nat.le_refl 0) (by decide), FindingsWorsen.refl _⟩
  · by_cases hzero : py.eq (missingRate inputs.effectiveStats inputs.dataProfile) (py.ofNat 0) = true
    · rw [if_pos hzero]
      split <;> exact ⟨le_clampScore, hscore, .of_harmless not_blocking_nil rfl⟩
    · have hzero' : py.eq (missingRate inputs'.effectiveStats inputs'.dataProfile) (py.ofNat 0) = false := by
        by_contra heq
        have hle : py.le (missingRate inputs'.effectiveStats inputs'.dataProfile) (py.ofNat 0) = true := by
          unfold Python.le
          rw [Bool.eq_true_of_not_eq_false heq, Bool.or_true]
        exact hzero (h.le_antisymm _ _ (h.le_trans _ _ _ hrate hle) (le_missingRate h inputs))
      rw [if_neg hzero, if_neg (by simp [hzero'])]
      exact ⟨le_clampScore, hscore, bandFinding_worsens h hscore⟩

theorem uniqueness_worsens (h : py.OrderedArithmetic) (hworse : Worse inputs inputs')
    (happ : uniquenessCategory.isApplicable inputs = true) (happ' : uniquenessCategory.isApplicable inputs' = true) :
    ResultWorsens (uniquenessCategory.evaluate inputs happ) (uniquenessCategory.evaluate inputs' happ') := by
  have hrows : inputs.effectiveStats.effectiveRowCount ≠ 0 := Nat.pos_iff_ne_zero.1 (of_decide_eq_true happ)
  have hrate : py.le (duplicateRate inputs.effectiveStats : py.Float) (duplicateRate inputs'.effectiveStats) = true := by
    unfold duplicateRate
    rw [hworse.rows]
    exact ratio_le_of_le h hworse.duplicates hrows
  have hscore := scoreOfRate_anti h hrate
  have hduplicates := hworse.duplicates
  unfold uniquenessCategory
  dsimp only
  by_cases hzero : inputs.effectiveStats.effectiveDuplicateRowCount = 0
  · rw [if_pos hzero]
    split <;> exact ⟨le_clampScore, hscore, .of_harmless not_blocking_nil rfl⟩
  · rw [if_neg hzero, if_neg (by omega)]
    exact ⟨le_clampScore, hscore, bandFinding_worsens h hscore⟩

/-- Where every considered change passed, and more, nothing counts. -/
theorem le_validityScore (h : py.OrderedArithmetic) {run : ValidationRunSnapshot}
    (hzero : run.approvedChangesConsidered ≠ 0) (hall : run.approvedChangesConsidered ≤ run.passedCount) :
    py.le (py.ofNat 85) (validityScore run : py.Float) = true := by
  have hratio := h.one_le_ratio _ _ hall (Nat.pos_of_ne_zero hzero)
  have hmul := clampScore_mono h (h.le_mul 100 _ (by decide) hratio)
  have hclamp : py.le (py.ofNat 85) (clampScore (py.ofNat 100)) = true := by
    have hmin : py.min (py.ofNat 100) (py.ofNat 100) = py.ofNat 100 := by simp [Python.min]
    unfold clampScore Python.max
    rw [hmin, if_pos (by simp [Python.ofNat, py.lt_small 0 100 (by decide) (by decide)])]
    exact le_ofNat _ _ (by decide) (by decide)
  exact h.le_trans _ _ _ hclamp hmul

theorem validity_worsens (h : py.OrderedArithmetic) (hworse : Worse inputs inputs')
    (happ : validityCategory.isApplicable inputs = true) (happ' : validityCategory.isApplicable inputs' = true) :
    ResultWorsens (validityCategory.evaluate inputs happ) (validityCategory.evaluate inputs' happ') := by
  have hconsidered : inputs.validationRun.approvedChangesConsidered ≠ 0 :=
    Nat.pos_iff_ne_zero.1 (of_decide_eq_true happ)
  have hscore : py.le (validityScore inputs'.validationRun : py.Float) (validityScore inputs.validationRun) = true := by
    unfold validityScore
    rw [hworse.considered]
    exact clampScore_mono h (h.ofNat_mul_le 100 _ _ (by decide) (ratio_le_of_le h hworse.passed hconsidered))
  have hpassed := hworse.passed
  unfold validityCategory
  dsimp only
  rw [hworse.considered]
  by_cases hall : inputs.validationRun.passedCount = inputs.validationRun.approvedChangesConsidered
  · rw [if_pos hall]
    split <;> exact ⟨le_clampScore, hscore, .of_harmless not_blocking_nil rfl⟩
  · rw [if_neg hall]
    by_cases hall' : inputs'.validationRun.passedCount = inputs.validationRun.approvedChangesConsidered
    -- more passed than were considered: the score was 100
    · have hharmless := bandFinding_harmless h (le_validityScore h hconsidered (by omega))
      rw [if_pos hall']
      exact ⟨le_clampScore, hscore, .of_harmless (hharmless _ _ _ _ _ _).1 (hharmless _ _ _ _ _ _).2⟩
    · rw [if_neg hall']
      exact ⟨le_clampScore, hscore, bandFinding_worsens h hscore⟩

theorem consistency_worsens (h : py.OrderedArithmetic) (hworse : Worse inputs inputs')
    (happ : consistencyCategory.isApplicable inputs = true) (happ' : consistencyCategory.isApplicable inputs' = true) :
    ResultWorsens (consistencyCategory.evaluate inputs happ) (consistencyCategory.evaluate inputs' happ') := by
  have htotal : (pairOutcomes inputs'.validationResults).length = (pairOutcomes inputs.validationResults).length := by
    have hkeys := congrArg List.length (keys_pairOutcomes hworse.pairs)
    simpa only [Dict.keys, List.length_map] using hkeys.symm
  have hcount := length_inconsistentPairs_le hworse.pairs (hworse.mixed happ)
  unfold consistencyCategory
  dsimp only
  rw [htotal]
  split
  · exact ⟨le_ofNat _ _ (by decide) (by decide), le_ofNat _ _ (Nat.le_refl 100) (by decide), FindingsWorsen.refl _⟩
  · rename_i hpairs
    refine ⟨le_clampScore, scoreOfRate_anti h (ratio_le_of_le h hcount hpairs), ?_, fun _ => ?_⟩
    · rintro ⟨f, hf, hsev⟩
      obtain ⟨p, -, rfl⟩ := List.mem_map.1 hf
      cases hsev
    · simpa [warningCount, severityCount, List.countP_map, Function.comp_def] using hcount

theorem unresolvedFindings_worsens (hworse : Worse inputs inputs') :
    FindingsWorsen (unresolvedFindings inputs.effectiveStats) (unresolvedFindings inputs'.effectiveStats) := by
  have hhigh := hworse.high
  have hcritical := hworse.critical
  apply FindingsWorsen.append
  · by_cases hzero : 0 < inputs.effectiveStats.unresolvedCriticalCount
    · rw [if_pos hzero, if_pos (by omega)]
      exact ⟨fun _ => blocking_singleton.2 rfl, fun hnot => absurd (blocking_singleton.2 rfl) hnot⟩
    · rw [if_neg hzero]
      exact .of_harmless not_blocking_nil rfl
  · by_cases hzero : 0 < inputs.effectiveStats.unresolvedHighCount
    · rw [if_pos hzero, if_pos (by omega)]
      exact ⟨fun hblocking => absurd (blocking_singleton.1 hblocking) (by simp), fun _ => Nat.le_refl 1⟩
    · rw [if_neg hzero]
      exact .of_harmless not_blocking_nil rfl

theorem unresolvedRisk_worsens (h : py.OrderedArithmetic) (hworse : Worse inputs inputs')
    (happ : unresolvedRiskCategory.isApplicable inputs = true)
    (happ' : unresolvedRiskCategory.isApplicable inputs' = true) :
    ResultWorsens (unresolvedRiskCategory.evaluate inputs happ) (unresolvedRiskCategory.evaluate inputs' happ') := by
  have hhigh := hworse.high
  have hcritical := hworse.critical
  unfold unresolvedRiskCategory
  dsimp only
  rw [hworse.totalIssues]
  by_cases hzero : inputs.effectiveStats.unresolvedCriticalCount + inputs.effectiveStats.unresolvedHighCount = 0
  · rw [if_pos hzero]
    split
    · exact ⟨le_ofNat _ _ (by decide) (by decide), le_ofNat _ _ (Nat.le_refl 100) (by decide), FindingsWorsen.refl _⟩
    · exact ⟨le_clampScore, clampScore_le, .of_harmless not_blocking_nil rfl⟩
  · rw [if_neg hzero, if_neg (by omega)]
    refine ⟨le_clampScore, scoreOfRate_anti h (ratio_le_of_le h (by omega) (by omega)), ?_⟩
    exact unresolvedFindings_worsens hworse

theorem validationCoverage_worsens (h : py.OrderedArithmetic) (hworse : Worse inputs inputs')
    (happ : validationCoverageCategory.isApplicable inputs = true)
    (happ' : validationCoverageCategory.isApplicable inputs' = true) :
    ResultWorsens (validationCoverageCategory.evaluate inputs happ)
      (validationCoverageCategory.evaluate inputs' happ') := by
  have hconsidered : inputs.validationRun.approvedChangesConsidered ≠ 0 :=
    Nat.pos_iff_ne_zero.1 (of_decide_eq_true happ)
  have hrate : (skipRate inputs'.validationRun : py.Float) = skipRate inputs.validationRun := by
    unfold skipRate
    rw [hworse.skipped, hworse.considered]
  have hself : py.le (skipRate inputs.validationRun : py.Float) (skipRate inputs.validationRun) = true :=
    ratio_le_of_le h (Nat.le_refl _) hconsidered
  unfold validationCoverageCategory
  dsimp only
  rw [hrate, hworse.skipped, hworse.thresholds]
  split <;> exact ⟨le_clampScore, scoreOfRate_anti h hself, FindingsWorsen.refl _⟩

/-- **A worse run scores no better in any category.** -/
theorem evaluate_worsens (h : py.OrderedArithmetic) (hworse : Worse inputs inputs') {rule : QualityCategory py}
    (hrule : rule ∈ qualityRules) (happ : rule.isApplicable inputs = true) (happ' : rule.isApplicable inputs' = true) :
    ResultWorsens (rule.evaluate inputs happ) (rule.evaluate inputs' happ') := by
  simp only [qualityRules, List.mem_cons, List.not_mem_nil, or_false] at hrule
  rcases hrule with rfl | rfl | rfl | rfl | rfl | rfl | rfl | rfl
  · exact completeness_worsens h hworse happ happ'
  · exact uniqueness_worsens h hworse happ happ'
  · exact validity_worsens h hworse happ happ'
  · exact consistency_worsens h hworse happ happ'
  · cases happ
  · cases happ
  · exact unresolvedRisk_worsens h hworse happ happ'
  · exact validationCoverage_worsens h hworse happ happ'

/-! ## The worse evaluation -/

theorem effectiveWeight_pos {rule : QualityCategory py} (hrule : rule ∈ qualityRules)
    (overrides : Option (Dict CategoryName Nat)) : 0 < effectiveWeight rule.categoryName rule.defaultWeight overrides := by
  have hdefault : 0 < rule.defaultWeight := by
    simp only [qualityRules, List.mem_cons, List.not_mem_nil, or_false] at hrule
    rcases hrule with rfl | rfl | rfl | rfl | rfl | rfl | rfl | rfl <;> exact Nat.succ_pos _
  unfold effectiveWeight
  split
  · split
    · assumption
    · exact hdefault
  · exact hdefault

structure EvaluationWorsens (e e' : Evaluation py) : Prop where
  nonneg   : py.le (py.ofNat 0) e'.weightedScoreSum = true
  sum      : py.le e'.weightedScoreSum e.weightedScoreSum = true
  weights  : e'.weightSum = e.weightSum
  findings : FindingsWorsen e.findings e'.findings

theorem EvaluationWorsens.step (h : py.OrderedArithmetic) (hworse : Worse inputs inputs') {e e' : Evaluation py}
    (he : EvaluationWorsens e e') {rule : QualityCategory py} (hrule : rule ∈ qualityRules) :
    EvaluationWorsens (evaluationStep inputs e rule) (evaluationStep inputs' e' rule) := by
  unfold evaluationStep
  by_cases happ : rule.isApplicable inputs = true
  · have happ' : rule.isApplicable inputs' = true := (hworse.isApplicable_eq hrule).trans happ
    have hresult := evaluate_worsens h hworse hrule happ happ'
    have hweight := effectiveWeight_pos hrule inputs.thresholds.categoryWeights
    rw [dif_pos happ, dif_pos happ']
    dsimp only
    rw [hworse.thresholds]
    exact {
      nonneg := h.le_add _ _ he.nonneg (h.le_mul_ofNat _ _ hweight hresult.nonneg)
      sum := h.add_le _ _ _ _ he.nonneg (h.le_mul_ofNat _ _ hweight hresult.nonneg) he.sum
        (h.mul_ofNat_le _ _ _ hweight hresult.nonneg hresult.score)
      weights := by rw [he.weights]
      findings := he.findings.append hresult.findings }
  · rw [dif_neg happ, dif_neg (by rwa [hworse.isApplicable_eq hrule])]
    exact ⟨he.nonneg, he.sum, he.weights, he.findings⟩

theorem evaluateAll_worsens (h : py.OrderedArithmetic) (hworse : Worse inputs inputs') :
    EvaluationWorsens (evaluateAll inputs) (evaluateAll inputs') := by
  have hfold : ∀ (rules : List (QualityCategory py)) (e e' : Evaluation py), (∀ rule ∈ rules, rule ∈ qualityRules) →
      EvaluationWorsens e e' →
      EvaluationWorsens (rules.foldl (evaluationStep inputs) e) (rules.foldl (evaluationStep inputs') e') := by
    intro rules
    induction rules with
    | nil => exact fun e e' _ he => he
    | cons rule rules ih =>
      intro e e' hsub he
      rw [List.foldl_cons, List.foldl_cons]
      exact ih _ _ (fun r hr => hsub r (List.mem_cons_of_mem _ hr)) (he.step h hworse (hsub rule List.mem_cons_self))
  refine hfold qualityRules _ _ (fun _ hr => hr) ⟨?_, ?_, rfl, FindingsWorsen.refl _⟩
  · exact le_ofNat _ _ (Nat.le_refl 0) (by decide)
  · exact le_ofNat _ _ (Nat.le_refl 0) (by decide)

/-! ## The recommendation -/

/-- The order of the recommendations, FAIL first. -/
def Recommendation.rank : Recommendation → Nat
  | .fail             => 0
  | .passWithWarnings => 1
  | .pass             => 2

theorem rank_le_of {r r' : Recommendation} (hfail : r = .fail → r' = .fail) (hpass : r' = .pass → r = .pass) :
    r'.rank ≤ r.rank := by
  cases r with
  | pass => cases r' <;> decide
  | passWithWarnings =>
    cases r' with
    | pass => cases hpass rfl
    | passWithWarnings => decide
    | fail => decide
  | fail =>
    rw [hfail rfl]

/-- What a clean pass takes besides not failing. -/
theorem recommendation_pass_iff (inputs : QualityEngineInput py) : (qualityControl inputs).recommendation = .pass ↔
    (qualityControl inputs).recommendation ≠ .fail ∧
    (∃ score, (evaluateAll inputs).overallScore = some score ∧
      py.le inputs.thresholds.passScoreThreshold score = true) ∧
    warningCount (evaluateAll inputs).findings ≤ inputs.thresholds.maxWarningsForCleanPass := by
  obtain ⟨score, hscore, -⟩ := exists_overallScore inputs
  unfold qualityControl warningCount
  simp only [allFindings_eq, hscore, computeRecommendation, Option.some.injEq, exists_eq_left']
  split_ifs with h1 h2 h3 h4 h5 h6 <;> simp_all

theorem exists_score_worsens (h : py.OrderedArithmetic) (hworse : Worse inputs inputs') :
    ∃ score score', (evaluateAll inputs).overallScore = some score ∧ (evaluateAll inputs').overallScore = some score' ∧
      py.le score' score = true := by
  have hall := evaluateAll_worsens h hworse
  have hpos := weightSum_pos inputs
  unfold Evaluation.overallScore
  rw [hall.weights, if_neg (Nat.pos_iff_ne_zero.1 hpos), if_neg (Nat.pos_iff_ne_zero.1 hpos)]
  exact ⟨_, _, rfl, rfl, h.div_le _ _ _ hall.nonneg hall.sum hpos⟩

/-- **A worse run is recommended no better.** -/
theorem Worse.rank_le (h : py.OrderedArithmetic) (hworse : Worse inputs inputs') :
    (qualityControl inputs').recommendation.rank ≤ (qualityControl inputs).recommendation.rank := by
  have hall := evaluateAll_worsens h hworse
  obtain ⟨score, score', hscore, hscore', hle⟩ := exists_score_worsens h hworse
  have hfail : (qualityControl inputs).recommendation = .fail → (qualityControl inputs').recommendation = .fail := by
    rw [recommendation_fail_iff, recommendation_fail_iff, hscore, hscore', hworse.thresholds, hworse.considered]
    rintro (hblocking | ⟨s, hs, hlow⟩ | ⟨hconsidered, hrate⟩ | hcritical | hhigh)
    · exact .inl (hall.findings.blocking hblocking)
    · cases hs
      exact .inr (.inl ⟨score', rfl, h.lt_of_le_lt _ _ _ hle hlow⟩)
    · have hfailures := h.ratio_le _ _ _ hworse.failed hconsidered
      exact .inr (.inr (.inl ⟨hconsidered, h.lt_of_lt_le _ _ _ hrate hfailures⟩))
    · exact .inr (.inr (.inr (.inl (Nat.lt_of_lt_of_le hcritical hworse.critical))))
    · exact .inr (.inr (.inr (.inr (Nat.lt_of_lt_of_le hhigh hworse.high))))
  refine rank_le_of hfail (fun hpass' => ?_)
  obtain ⟨hnot, ⟨s, hs, hhigh⟩, hwarnings⟩ := (recommendation_pass_iff inputs').1 hpass'
  rw [hscore'] at hs
  cases hs
  rw [hworse.thresholds] at hhigh hwarnings
  have hblocks : ¬ Blocking (evaluateAll inputs').findings :=
    fun hblocking => hnot ((recommendation_fail_iff inputs').2 (.inl hblocking))
  rw [recommendation_pass_iff]
  exact ⟨fun hfails => hnot (hfail hfails), ⟨score, hscore, h.le_trans _ _ _ hhigh hle⟩,
    Nat.le_trans (hall.findings.warnings hblocks) hwarnings⟩

/-! ## What degrades a run -/

/-- One passed result that fails, or a count that grows; everything else stays. -/
inductive Degrades (inputs : QualityEngineInput py) : QualityEngineInput py → Prop
  | resultFails {before after : List ValidationResultSnapshot} {r : ValidationResultSnapshot} :
    inputs.validationResults = before ++ r :: after → r.outcome = .passed → 0 < inputs.validationRun.passedCount →
    Degrades inputs { inputs with
      validationResults := before ++ { r with outcome := .failed } :: after
      validationRun := { inputs.validationRun with
        passedCount := inputs.validationRun.passedCount - 1
        failedCount := inputs.validationRun.failedCount + 1 } }
  | missing {n : Nat} : inputs.effectiveStats.effectiveMissingValueTotal ≤ n →
    Degrades inputs { inputs with effectiveStats := { inputs.effectiveStats with effectiveMissingValueTotal := n } }
  | duplicates {n : Nat} : inputs.effectiveStats.effectiveDuplicateRowCount ≤ n →
    Degrades inputs { inputs with effectiveStats := { inputs.effectiveStats with effectiveDuplicateRowCount := n } }
  | unresolvedHigh {n : Nat} : inputs.effectiveStats.unresolvedHighCount ≤ n →
    Degrades inputs { inputs with effectiveStats := { inputs.effectiveStats with unresolvedHighCount := n } }
  | unresolvedCritical {n : Nat} : inputs.effectiveStats.unresolvedCriticalCount ≤ n →
    Degrades inputs { inputs with effectiveStats := { inputs.effectiveStats with unresolvedCriticalCount := n } }

/-- The result that now fails was the last passed one of its column and rule, which also had a failed one. -/
def LastPassedFails (results results' : List ValidationResultSnapshot) : Prop :=
  ∃ before after r k, results = before ++ r :: after ∧ results' = before ++ { r with outcome := .failed } :: after ∧
    r.outcome = .passed ∧ pairOf r = some k ∧ (∀ q ∈ before ++ after, pairOf q = some k → q.outcome ≠ .passed) ∧
    ∃ q ∈ before ++ after, pairOf q = some k ∧ q.outcome = .failed

theorem mixed_of_not_lastPassedFails {before after : List ValidationResultSnapshot} {r : ValidationResultSnapshot}
    (hpassed : r.outcome = .passed)
    (hlast : ¬ LastPassedFails (before ++ r :: after) (before ++ { r with outcome := .failed } :: after))
    {k : Validation.RuleName × Str} (hmixed : MixedPair (before ++ r :: after) k) :
    MixedPair (before ++ { r with outcome := .failed } :: after) k := by
  have hmid : ∀ (x q : ValidationResultSnapshot), q ∈ before ++ x :: after ↔ q = x ∨ q ∈ before ++ after := by
    intro x q
    simp only [List.mem_append, List.mem_cons]
    tauto
  obtain ⟨⟨p, hp, hpk, hpassed'⟩, ⟨q, hq, hqk, hfailed⟩⟩ := hmixed
  -- the failed result stays
  have hq' : q ∈ before ++ after := by
    rcases (hmid r q).1 hq with rfl | hq
    · rw [hpassed] at hfailed
      cases hfailed
    · exact hq
  refine ⟨?_, q, (hmid _ q).2 (.inr hq'), hqk, hfailed⟩
  rcases (hmid r p).1 hp with rfl | hp'
  · by_contra hnone
    refine hlast ⟨before, after, p, k, rfl, rfl, hpassed, hpk, fun q' hq' hk' hpass => ?_, q, hq', hqk, hfailed⟩
    exact hnone ⟨q', (hmid _ q').2 (.inr hq'), hk', hpass⟩
  · exact ⟨p, (hmid _ p).2 (.inr hp'), hpk, hpassed'⟩

theorem Degrades.worse (hdegrades : Degrades inputs inputs')
    (hlast : consistencyCategory.isApplicable inputs = true →
      ¬ LastPassedFails inputs.validationResults inputs'.validationResults) : Worse inputs inputs' := by
  cases hdegrades with
  | @resultFails before after r hresults hpassed hcount =>
    constructor <;> try first | exact rfl | exact Nat.le_refl _
    · exact Nat.sub_le _ _
    · exact Nat.le_succ _
    · rw [hresults, List.map_append, List.map_append]
      rfl
    · intro happ k hmixed
      have hlast' := hlast happ
      rw [hresults] at hmixed hlast'
      exact mixed_of_not_lastPassedFails hpassed hlast' hmixed
  | missing hn => constructor <;> first | exact rfl | exact Nat.le_refl _ | exact hn | exact fun _ _ hk => hk
  | duplicates hn => constructor <;> first | exact rfl | exact Nat.le_refl _ | exact hn | exact fun _ _ hk => hk
  | unresolvedHigh hn => constructor <;> first | exact rfl | exact Nat.le_refl _ | exact hn | exact fun _ _ hk => hk
  | unresolvedCritical hn => constructor <;> first | exact rfl | exact Nat.le_refl _ | exact hn | exact fun _ _ hk => hk

/-- **Degrading a run never improves its recommendation**, but where a last passed result of an inconsistent column
fails. -/
theorem recommendation_le (h : py.OrderedArithmetic) (hdegrades : Degrades inputs inputs')
    (hlast : consistencyCategory.isApplicable inputs = true →
      ¬ LastPassedFails inputs.validationResults inputs'.validationResults) :
    (qualityControl inputs').recommendation.rank ≤ (qualityControl inputs).recommendation.rank :=
  (hdegrades.worse hlast).rank_le h

end

theorem not_lastPassedFails_self (results : List ValidationResultSnapshot) : ¬ LastPassedFails results results := by
  rintro ⟨before, after, r, k, hresults, hresults', hpassed, -⟩
  have hsame := List.append_cancel_left (hresults.symm.trans hresults')
  have houtcome := congrArg ValidationResultSnapshot.outcome (List.cons.inj hsame).1
  rw [hpassed] at houtcome
  cases houtcome

/-! ## The way to improve -/

def flagResult (id : ResultId) (outcome : Validation.Outcome) : ValidationResultSnapshot :=
  { id := id, outcome := outcome, ruleName := some .validateNormalizeBoolean, columnName := some ['f']
    sourceIssueId := none, remediationChangeId := some id }

def trimResult (id : ResultId) : ValidationResultSnapshot :=
  { id := id, outcome := .passed, ruleName := some .validateTrimWhitespace, columnName := some ['n']
    sourceIssueId := none, remediationChangeId := some id }

/-- Twenty validated changes, one of which failed, in a column where another passed; one failure in ten is allowed. -/
def mixedColumnInputs : QualityEngineInput (exactPython asciiPython) where
  validationRun :=
    { approvedChangesConsidered := 20, passedCount := 19, failedCount := 1, skippedCount := 0
      resultsByRule := [(.validateNormalizeBoolean, 2), (.validateTrimWhitespace, 18)] }
  validationResults := flagResult 1 .passed :: flagResult 2 .failed :: (List.range' 3 18).map trimResult
  totalIssuesFound := 20
  dataProfile := { rowCount := 100, columnCount := 2, duplicateRowCount := 0, missingValueTotal := 0 }
  effectiveStats :=
    { effectiveRowCount := 100, effectiveDuplicateRowCount := 0, effectiveMissingValueTotal := 0
      unresolvedHighCount := 0, unresolvedCriticalCount := 0, addressedIssueCount := 19 }
  issues := []
  thresholds := { maxValidationFailureRate := (exactPython asciiPython).ratio 1 10 }
  maxPersistedFindings := 100

/-- Twenty of two hundred cells go missing. -/
theorem recommendation_le_missing :
    (qualityControl { mixedColumnInputs with effectiveStats :=
      { mixedColumnInputs.effectiveStats with effectiveMissingValueTotal := 20 } }).recommendation.rank ≤
    (qualityControl mixedColumnInputs).recommendation.rank :=
  recommendation_le (exactPython_ordered asciiPython) (.missing (by decide)) (fun _ => not_lastPassedFails_self _)

/-- The passed result of the column fails too. -/
def failedColumnInputs : QualityEngineInput (exactPython asciiPython) :=
  { mixedColumnInputs with
    validationResults := [] ++ { flagResult 1 .passed with outcome := .failed } ::
      flagResult 2 .failed :: (List.range' 3 18).map trimResult
    validationRun := { mixedColumnInputs.validationRun with
      passedCount := mixedColumnInputs.validationRun.passedCount - 1
      failedCount := mixedColumnInputs.validationRun.failedCount + 1 } }

theorem recommendation_improves : Degrades mixedColumnInputs failedColumnInputs ∧
    (qualityControl mixedColumnInputs).recommendation = .passWithWarnings ∧
    (qualityControl failedColumnInputs).recommendation = .pass ∧
    ¬ (qualityControl failedColumnInputs).recommendation.rank ≤
      (qualityControl mixedColumnInputs).recommendation.rank := by
  refine ⟨?_, by decide +kernel, by decide +kernel, by decide +kernel⟩
  exact @Degrades.resultFails _ mixedColumnInputs [] _ (flagResult 1 .passed) rfl rfl (by decide)

end Quality
end DataOps

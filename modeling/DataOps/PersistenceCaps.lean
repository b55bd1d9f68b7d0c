import DataOps.CleaningEngine
import DataOps.DetectEngine
import DataOps.ExportEngine
import DataOps.MatchPersist
import DataOps.QualityEngine
import DataOps.StandardizationEngine
/-!
# PersistenceCaps — bounded but never silent

A run under a smaller cap is the run under a larger one with the details cut: every total, count, group, output row and
score is the same.
-/
namespace DataOps

/-! ## Matching -/

namespace Matching

variable {n : Nat}

/-- A skipped block with a shorter sample. -/
def SkippedBlock.sampled (sample : Nat) (b : SkippedBlock n) : SkippedBlock n :=
  { b with sampleRowIndices := b.sampleRowIndices.take sample }

/-- What a smaller cap makes of a state: fewer decisions and shorter samples. -/
structure CutState (limits : MatchLimits) (s s' : MatchState n) : Prop where
  uf          : s.uf = s'.uf
  decisions   : s.decisions = s'.decisions.take limits.maxPersistedDecisions
  byRule      : s.decisionsByRule = s'.decisionsByRule
  duplicates  : s.duplicatePairsCount = s'.duplicatePairsCount
  ambiguous   : s.ambiguousPairsCount = s'.ambiguousPairsCount
  comparisons : s.totalComparisonsCount = s'.totalComparisonsCount
  skipped     : s.skippedBlocks = s'.skippedBlocks.map (SkippedBlock.sampled limits.maxSkippedRowSample)
  edges       : s.duplicateEdges = s'.duplicateEdges

variable {limits limits' : MatchLimits} {s s' : MatchState n}

theorem CutState.start : CutState limits (MatchState.start n) (MatchState.start n) :=
  ⟨rfl, by simp [MatchState.start], rfl, rfl, rfl, rfl, rfl, rfl⟩

theorem CutState.unite (h : CutState limits s s') (a b : Fin n) (confidence : ℚ) :
    CutState limits (s.uniteDuplicates a b confidence) (s'.uniteDuplicates a b confidence) where
  uf := by rw [MatchState.uniteDuplicates, MatchState.uniteDuplicates, h.uf]
  decisions := h.decisions
  byRule := h.byRule
  duplicates := h.duplicates
  ambiguous := h.ambiguous
  comparisons := h.comparisons
  skipped := h.skipped
  edges := by rw [MatchState.uniteDuplicates, MatchState.uniteDuplicates, h.edges]

theorem CutState.compared (h : CutState limits s s') :
    CutState limits { s with totalComparisonsCount := s.totalComparisonsCount + 1 }
      { s' with totalComparisonsCount := s'.totalComparisonsCount + 1 } :=
  ⟨h.uf, h.decisions, h.byRule, h.duplicates, h.ambiguous, by rw [h.comparisons], h.skipped, h.edges⟩

/-- **One recorded decision**: it is counted under both caps, and kept under the smaller only if under the larger. -/
theorem CutState.record (hcap : limits.maxPersistedDecisions ≤ limits'.maxPersistedDecisions) (h : CutState limits s s')
    (d : Decision n) : CutState limits (s.recordDecision limits d) (s'.recordDecision limits' d) := by
  obtain ⟨hd, hdup, hamb, hrule, hedges, huf, -⟩ := recordDecision_fields limits s d
  obtain ⟨hd', hdup', hamb', hrule', hedges', huf', -⟩ := recordDecision_fields limits' s' d
  refine ⟨by rw [huf, huf', h.uf], ?_, by rw [hrule, hrule', h.byRule], by rw [hdup, hdup', h.duplicates],
    by rw [hamb, hamb', h.ambiguous],
    by rw [recordDecision_totalComparisonsCount, recordDecision_totalComparisonsCount, h.comparisons],
    by rw [recordDecision_skippedBlocks, recordDecision_skippedBlocks, h.skipped], by rw [hedges, hedges', h.edges]⟩
  rw [hd, hd', h.decisions]
  by_cases hroom : s'.decisions.length < limits.maxPersistedDecisions
  · have hlen : (s'.decisions ++ [d]).length ≤ limits.maxPersistedDecisions := by
      rw [List.length_append, List.length_singleton]
      omega
    rw [List.take_of_length_le (Nat.le_of_lt hroom), if_pos hroom, if_pos (by omega), List.take_of_length_le hlen]
  · have hfull : ¬ (s'.decisions.take limits.maxPersistedDecisions).length < limits.maxPersistedDecisions := by
      rw [List.length_take]
      omega
    rw [if_neg hfull]
    split
    · rw [List.take_append_of_le_length (by omega)]
    · rfl

section
variable {t : Table} {casefold : Str → Str}

theorem CutState.chain (hcap : limits.maxPersistedDecisions ≤ limits'.maxPersistedDecisions) {k : Nat}
    {s s' : MatchState t.rows.length} (h : CutState limits s s') (p : t.RowIndex × t.RowIndex) :
    CutState limits (chainLink t limits k s p) (chainLink t limits' k s' p) :=
  ((h.unite p.1 p.2 1).compared).record hcap _

theorem stage1_cut (hcap : limits.maxPersistedDecisions ≤ limits'.maxPersistedDecisions) :
    CutState limits (stage1 t limits).1 (stage1 t limits').1 ∧ (stage1 t limits).2 = (stage1 t limits').2 := by
  refine List.foldl_rel (r := fun (acc acc' : MatchState t.rows.length × (t.RowIndex → Option t.RowIndex)) =>
    CutState limits acc.1 acc'.1 ∧ acc.2 = acc'.2) ⟨CutState.start, rfl⟩ ?_
  rintro indices - ⟨s, reps⟩ ⟨s', reps'⟩ ⟨hs, hreps⟩
  dsimp only at hs hreps
  subst hreps
  unfold exactGroupStep
  split
  · exact ⟨hs, rfl⟩
  · exact ⟨List.foldl_rel hs (fun p _ _ _ h => h.chain hcap p), rfl⟩

theorem CutState.pair (hcap : limits.maxPersistedDecisions ≤ limits'.maxPersistedDecisions)
    {ruleSet : MatchRuleSetConfig} {key : Str} {s s' : MatchState t.rows.length} (h : CutState limits s s')
    (p : t.RowIndex × t.RowIndex) :
    CutState limits (comparePairOf casefold t ruleSet limits key s p)
      (comparePairOf casefold t ruleSet limits' key s' p) := by
  unfold comparePairOf
  dsimp only
  split
  · split
    · exact (h.compared.unite p.1 p.2 _).record hcap _
    · exact h.compared.record hcap _
  · exact h.compared

theorem CutState.block (hcap : limits.maxPersistedDecisions ≤ limits'.maxPersistedDecisions)
    (hsample : limits.maxSkippedRowSample ≤ limits'.maxSkippedRowSample)
    (hblock : limits.maxBlockSize = limits'.maxBlockSize) {ruleSet : MatchRuleSetConfig}
    {blocks : Dict Str (List t.RowIndex)} {s s' : MatchState t.rows.length} (h : CutState limits s s') (key : Str) :
    CutState limits (blockStep casefold t ruleSet limits blocks s key)
      (blockStep casefold t ruleSet limits' blocks s' key) := by
  unfold blockStep
  dsimp only
  rw [hblock]
  split
  · refine ⟨h.uf, h.decisions, h.byRule, h.duplicates, h.ambiguous, h.comparisons, ?_, h.edges⟩
    dsimp only
    rw [h.skipped, List.map_append, List.map_singleton, SkippedBlock.sampled, List.take_take, Nat.min_eq_left hsample]
  · exact List.foldl_rel h (fun p _ _ _ h => h.pair hcap p)

theorem stage2_cut (hcap : limits.maxPersistedDecisions ≤ limits'.maxPersistedDecisions)
    (hsample : limits.maxSkippedRowSample ≤ limits'.maxSkippedRowSample)
    (hblock : limits.maxBlockSize = limits'.maxBlockSize) (ruleSet : Option MatchRuleSetConfig)
    (reps : t.RowIndex → Option t.RowIndex) {s s' : MatchState t.rows.length} (h : CutState limits s s') :
    CutState limits (stage2 casefold t ruleSet limits reps s) (stage2 casefold t ruleSet limits' reps s') := by
  unfold stage2
  split
  · exact h
  · split
    · exact h
    · exact List.foldl_rel h (fun key _ _ _ h => h.block hcap hsample hblock key)

theorem CutState.groups (h : CutState limits s s') : (matchResult s).groups = (matchResult s').groups := by
  have hgroup : groupOf s = groupOf s' := by
    funext members
    unfold groupOf groupConfidence
    rw [h.uf, h.edges]
  unfold matchResult
  dsimp only
  rw [h.uf, hgroup]

theorem CutState.decisions_wired {all all' : List (Decision n)} (h : CutState limits s s') (hs : Records limits s all)
    (hs' : Records limits' s' all') :
    (matchResult s).decisions = (matchResult s').decisions.take limits.maxPersistedDecisions := by
  have hwired : wired s = wired s' := by
    funext d
    unfold wired assignGroup
    rw [h.uf]
  rw [decisions_eq hs, decisions_eq hs', hwired, h.decisions, List.map_take]

attribute [ext] MatchResult

/-- **Matching under a smaller cap.** -/
theorem matchRows_cut (hcap : limits.maxPersistedDecisions ≤ limits'.maxPersistedDecisions)
    (hsample : limits.maxSkippedRowSample ≤ limits'.maxSkippedRowSample)
    (hblock : limits.maxBlockSize = limits'.maxBlockSize) (ruleSet : Option MatchRuleSetConfig) :
    matchRows casefold t ruleSet limits =
      { matchRows casefold t ruleSet limits' with
        decisions := (matchRows casefold t ruleSet limits').decisions.take limits.maxPersistedDecisions
        skippedBlocks := (matchRows casefold t ruleSet limits').skippedBlocks.map
          (SkippedBlock.sampled limits.maxSkippedRowSample) } := by
  obtain ⟨hstage1, hreps⟩ := stage1_cut (t := t) hcap
  have hcut : CutState limits (matchState casefold t ruleSet limits) (matchState casefold t ruleSet limits') := by
    unfold matchState
    rw [hreps]
    exact stage2_cut hcap hsample hblock ruleSet _ hstage1
  rw [matchRows_eq, matchRows_eq]
  refine MatchResult.ext hcut.groups ?_ hcut.skipped rfl hcut.comparisons ?_ hcut.duplicates hcut.ambiguous ?_
    hcut.byRule ?_
  · exact hcut.decisions_wired (matchState_records casefold t ruleSet limits)
      (matchState_records casefold t ruleSet limits')
  · exact congrArg List.length hcut.groups
  · exact (congrArg List.length hcut.skipped).trans (List.length_map _)
  · exact congrArg (fun groups => ((List.map Group.confidenceScore groups).min?).getD 1) hcut.groups

end
end Matching

/-! ## The other engines -/

namespace Export

/-- **Materializing under a smaller cap.** -/
theorem materialize_cut {limits limits' : ExportLimits}
    (hcap : limits.maxPersistedExclusions ≤ limits'.maxPersistedExclusions) (rows : List (List Str))
    (headers : List Str) (groups : List GroupInput) :
    materialize rows headers groups limits =
      { materialize rows headers groups limits' with
        exclusions := (materialize rows headers groups limits').exclusions.take limits.maxPersistedExclusions } := by
  unfold materialize
  rw [materializeRow_foldl, materializeRow_foldl]
  dsimp only
  rw [List.take_take, Nat.min_eq_left hcap]

end Export

namespace Detection

/-- **Detection under a smaller cap.** -/
theorem detectIssues_cut {py : Python} {limits limits' : DetectionLimits}
    (hcap : limits.maxPersistedIssues ≤ limits'.maxPersistedIssues) (d : DetectionDataset py) :
    detectIssues d limits =
      { detectIssues d limits' with
        findings := (detectIssues d limits').findings.take limits.maxPersistedIssues
        persistedIssueCount := ((detectIssues d limits').findings.take limits.maxPersistedIssues).length } := by
  unfold detectIssues
  dsimp only
  rw [List.take_take, Nat.min_eq_left hcap]

end Detection

namespace Quality

attribute [ext] QualityEngineResult

/-- No category reads the cap. -/
theorem evaluationStep_cap {py : Python} (k : Nat) (inputs : QualityEngineInput py) (e : Evaluation py) :
    ∀ rule ∈ qualityRules, evaluationStep { inputs with maxPersistedFindings := k } e rule =
      evaluationStep inputs e rule := by
  intro rule hrule
  simp only [qualityRules, List.mem_cons, List.not_mem_nil, or_false] at hrule
  rcases hrule with rfl | rfl | rfl | rfl | rfl | rfl | rfl | rfl
  all_goals rfl

theorem evaluateAll_cap {py : Python} (k : Nat) (inputs : QualityEngineInput py) :
    evaluateAll { inputs with maxPersistedFindings := k } = evaluateAll inputs :=
  List.foldl_ext _ _ _ (evaluationStep_cap k inputs)

/-- **Quality control under a smaller cap.** -/
theorem qualityControl_cut {py : Python} {k k' : Nat} (hcap : k ≤ k') (inputs : QualityEngineInput py) :
    qualityControl { inputs with maxPersistedFindings := k } =
      { qualityControl { inputs with maxPersistedFindings := k' } with
        findings := (qualityControl { inputs with maxPersistedFindings := k' }).findings.take k } := by
  have heval : evaluateAll { inputs with maxPersistedFindings := k } =
      evaluateAll { inputs with maxPersistedFindings := k' } :=
    (evaluateAll_cap k inputs).trans (evaluateAll_cap k' inputs).symm
  have hfindings := congrArg Evaluation.allFindings heval
  refine QualityEngineResult.ext (congrArg Evaluation.overallScore heval) ?_ ?_ (congrArg List.length hfindings)
    (congrArg (fun l => severityCount l .blocking) hfindings) (congrArg (fun l => severityCount l .warning) hfindings)
    (congrArg (fun l => severityCount l .info) hfindings) (congrArg Evaluation.categoryScores heval)
    (congrArg Evaluation.categoryStatuses heval) (congrArg Evaluation.weightsUsed heval)
  · exact congrArg (fun e : Evaluation py => computeRecommendation e.overallScore
      (severityCount e.allFindings .blocking) (severityCount e.allFindings .warning) inputs) heval
  · have hsorted := congrArg (fun l : List QualityFindingResult =>
      (l.insertionSort (fun a b => findingSortKey a ≤ findingSortKey b)).take k) hfindings
    refine hsorted.trans ?_
    unfold qualityControl
    dsimp only
    rw [List.take_take, Nat.min_eq_left hcap]

end Quality

namespace Cleaning

/-- **Cleaning under a smaller cap.** -/
theorem clean_cut {py : PythonValues} {limits limits' : CleaningLimits}
    (hcap : limits.maxPersistedChanges ≤ limits'.maxPersistedChanges) (rows : List (List Str)) (headers : List Str)
    (columnTypes : List InferredType) :
    clean py rows headers columnTypes limits =
      (clean py rows headers columnTypes limits').map
        (fun result => { result with changes := result.changes.take limits.maxPersistedChanges }) := by
  unfold clean
  cases cleanRows py (headers.zip columnTypes) 0 ⟨[], []⟩ rows with
  | none => rfl
  | some p =>
    dsimp only [Option.map_some]
    rw [List.take_take, Nat.min_eq_left hcap]

end Cleaning

namespace Standardization

/-- **Standardization under a smaller cap.** -/
theorem standardize_cut {py : PythonValues} {limits limits' : StandardizationLimits}
    (hcap : limits.maxPersistedChanges ≤ limits'.maxPersistedChanges) (lookupTables : LookupTables)
    (config : StandardizationConfig) (rows : List (List Str)) (headers : List Str)
    (fieldTypes : List (Option FieldType)) :
    standardize py lookupTables config rows headers fieldTypes limits =
      (standardize py lookupTables config rows headers fieldTypes limits').map
        (fun result => { result with changes := result.changes.take limits.maxPersistedChanges }) := by
  unfold standardize
  dsimp only
  cases standardizeRows py lookupTables config (headers.zip fieldTypes)
    (fieldTypes.findIdx? (fun fieldType => fieldType = some .country)) 0 ⟨[], []⟩ rows with
  | none => rfl
  | some p =>
    dsimp only [Option.map_some]
    rw [List.take_take, Nat.min_eq_left hcap]

end Standardization

/-- **Bounded but never silent**: under the smaller of two caps every engine returns what it returns under the larger,
but for the details, which are cut. -/
theorem caps_cut_details_only (py : PythonValues) :
    (∀ (t : Table) (ruleSet : Option Matching.MatchRuleSetConfig) (maxBlockSize sample sample' k k' : Nat), k ≤ k' →
      sample ≤ sample' →
      Matching.matchRows py.casefold t ruleSet ⟨maxBlockSize, k, sample⟩ =
        { Matching.matchRows py.casefold t ruleSet ⟨maxBlockSize, k', sample'⟩ with
          decisions := (Matching.matchRows py.casefold t ruleSet ⟨maxBlockSize, k', sample'⟩).decisions.take k
          skippedBlocks := (Matching.matchRows py.casefold t ruleSet ⟨maxBlockSize, k', sample'⟩).skippedBlocks.map
            (Matching.SkippedBlock.sampled sample) }) ∧
    (∀ (rows : List (List Str)) (headers : List Str) (groups : List Export.GroupInput) (k k' : Nat), k ≤ k' →
      Export.materialize rows headers groups ⟨k⟩ =
        { Export.materialize rows headers groups ⟨k'⟩ with
          exclusions := (Export.materialize rows headers groups ⟨k'⟩).exclusions.take k }) ∧
    (∀ (d : Detection.DetectionDataset py.toPython) (k k' : Nat), k ≤ k' →
      Detection.detectIssues d ⟨k⟩ =
        { Detection.detectIssues d ⟨k'⟩ with
          findings := (Detection.detectIssues d ⟨k'⟩).findings.take k
          persistedIssueCount := ((Detection.detectIssues d ⟨k'⟩).findings.take k).length }) ∧
    (∀ (inputs : Quality.QualityEngineInput py.toPython) (k k' : Nat), k ≤ k' →
      Quality.qualityControl { inputs with maxPersistedFindings := k } =
        { Quality.qualityControl { inputs with maxPersistedFindings := k' } with
          findings := (Quality.qualityControl { inputs with maxPersistedFindings := k' }).findings.take k }) ∧
    (∀ (rows : List (List Str)) (headers : List Str) (columnTypes : List Cleaning.InferredType) (k k' : Nat), k ≤ k' →
      Cleaning.clean py rows headers columnTypes ⟨k⟩ =
        (Cleaning.clean py rows headers columnTypes ⟨k'⟩).map
          (fun result => { result with changes := result.changes.take k })) ∧
    (∀ (lookupTables : Standardization.LookupTables) (config : Standardization.StandardizationConfig)
        (rows : List (List Str)) (headers : List Str) (fieldTypes : List (Option Standardization.FieldType))
        (k k' : Nat), k ≤ k' →
      Standardization.standardize py lookupTables config rows headers fieldTypes ⟨k⟩ =
        (Standardization.standardize py lookupTables config rows headers fieldTypes ⟨k'⟩).map
          (fun result => { result with changes := result.changes.take k })) := by
  refine ⟨?_, ?_, ?_, ?_, ?_, ?_⟩
  · intro t ruleSet maxBlockSize sample sample' k k' hcap hsample
    exact @Matching.matchRows_cut ⟨maxBlockSize, k, sample⟩ ⟨maxBlockSize, k', sample'⟩ t py.casefold hcap hsample rfl
      ruleSet
  · intro rows headers groups k k' hcap
    exact @Export.materialize_cut ⟨k⟩ ⟨k'⟩ hcap rows headers groups
  · intro d k k' hcap
    exact @Detection.detectIssues_cut py.toPython ⟨k⟩ ⟨k'⟩ hcap d
  · intro inputs k k' hcap
    exact Quality.qualityControl_cut hcap inputs
  · intro rows headers columnTypes k k' hcap
    exact @Cleaning.clean_cut py ⟨k⟩ ⟨k'⟩ hcap rows headers columnTypes
  · intro lookupTables config rows headers fieldTypes k k' hcap
    exact @Standardization.standardize_cut py ⟨k⟩ ⟨k'⟩ hcap lookupTables config rows headers fieldTypes

def triplets : Table := ⟨["name".toList], [["x".toList], ["x".toList], ["x".toList]], by decide⟩

/-- Two exact duplicates, of which one is kept. -/
theorem caps_cut_details_only_triplets :
    (Matching.matchRows asciiValues.casefold triplets none ⟨10, 1, 1⟩).duplicatePairsCount = 2 ∧
    (Matching.matchRows asciiValues.casefold triplets none ⟨10, 1, 1⟩).decisions.length = 1 ∧
    Matching.matchRows asciiValues.casefold triplets none ⟨10, 1, 1⟩ =
      { Matching.matchRows asciiValues.casefold triplets none ⟨10, 5, 1⟩ with
        decisions := (Matching.matchRows asciiValues.casefold triplets none ⟨10, 5, 1⟩).decisions.take 1
        skippedBlocks := (Matching.matchRows asciiValues.casefold triplets none ⟨10, 5, 1⟩).skippedBlocks.map
          (Matching.SkippedBlock.sampled 1) } ∧
    Export.materialize triplets.rows triplets.headers [⟨7, 0, 3, [0, 1, 2]⟩] ⟨1⟩ =
      { Export.materialize triplets.rows triplets.headers [⟨7, 0, 3, [0, 1, 2]⟩] ⟨2⟩ with
        exclusions :=
          (Export.materialize triplets.rows triplets.headers [⟨7, 0, 3, [0, 1, 2]⟩] ⟨2⟩).exclusions.take 1 } := by
  obtain ⟨hmatch, hmaterialize, -⟩ := caps_cut_details_only asciiValues
  exact ⟨by decide, by decide, hmatch triplets none 10 1 1 1 5 (by decide) (by decide),
    hmaterialize _ _ _ 1 2 (by decide)⟩

end DataOps

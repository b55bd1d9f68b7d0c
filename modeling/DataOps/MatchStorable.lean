import DataOps.LibSortedCut
import DataOps.MatchPersist
/-!
# MatchStorable — which match results their tables take

Rows and scores of every result keep the checks of `match_groups`, `match_decisions` and `match_skipped_blocks`.  A
blocking key need not fit its column: a cell may be longer, and it may have a U+0000.  `matchRows_storable_iff` says when
every key that is written fits.
-/
namespace DataOps
namespace Matching

variable {n : Nat}

/-! ## The tables' constraints -/

/-- A row of `match_skipped_blocks`. -/
structure MatchSkippedBlockRow where
  organizationId   : Nat
  matchRunId       : Nat
  blockingKey      : Str
  blockSize        : Nat
  sampleRowIndices : List Nat

def skippedModel (db : MatchTables) (organizationId : Nat) (b : SkippedBlock n) : MatchSkippedBlockRow where
  organizationId := organizationId
  matchRunId := db.matchRunId
  blockingKey := b.blockingKey
  blockSize := b.blockSize
  sampleRowIndices := b.sampleRowIndices.map Fin.val

/-- The width of both `blocking_key` columns. -/
def blockingKeyWidth : Nat := 500

structure MatchGroupRow.Storable (g : MatchGroupRow) : Prop where
  recordCount     : 2 ≤ g.recordCount
  confidenceScore : 0 ≤ g.confidenceScore ∧ g.confidenceScore ≤ 1

/-- `groups` are the rows a group id may name. -/
structure MatchDecisionRow.Storable (groups : List MatchGroupRow) (d : MatchDecisionRow) : Prop where
  rowOrder        : d.recordARowIndex < d.recordBRowIndex
  totalScore      : 0 ≤ d.totalScore ∧ d.totalScore ≤ 1
  thresholdUsed   : 0 ≤ d.thresholdUsed ∧ d.thresholdUsed ≤ 1
  confidenceScore : 0 ≤ d.confidenceScore ∧ d.confidenceScore ≤ 1
  ruleName        : Str.fits 50 d.ruleName.toList
  ruleVersion     : Str.fits 20 d.ruleVersion.toList
  reason          : Str.nul ∉ d.reason.toList
  matchGroup      : ∀ id, d.matchGroupId = some id → ∃ g ∈ groups, g.organizationId = d.organizationId ∧ g.id = id
  blockingKey     : ∀ key, d.blockingKey = some key → key.fits blockingKeyWidth

structure MatchSkippedBlockRow.Storable (b : MatchSkippedBlockRow) : Prop where
  blockSize   : 0 < b.blockSize
  blockingKey : b.blockingKey.fits blockingKeyWidth

/-- **The three tables take what `MatchHandler` adds for a result.** -/
structure MatchResult.Storable (db : MatchTables) (organizationId : Nat) (result : MatchResult n) : Prop where
  groups        : ∀ g ∈ groupModels db organizationId result.groups, g.Storable
  decisions     : ∀ d ∈ result.decisions.map (decisionModel db organizationId
    (groupModels db organizationId result.groups)), d.Storable (groupModels db organizationId result.groups)
  skippedBlocks : ∀ b ∈ result.skippedBlocks.map (skippedModel db organizationId), b.Storable
  -- `uq_match_skipped_blocks_run_key`
  skippedOnce   : (result.skippedBlocks.map (skippedModel db organizationId)).Pairwise
    (fun b b' => ¬ (b.matchRunId = b'.matchRunId ∧ b.blockingKey = b'.blockingKey))

/-! ## The condition -/

section
variable (casefold : Str → Str) (t : Table) (limits : MatchLimits)

/-- The rows that an earlier row is identical to. -/
def repeatedRows : List t.RowIndex := (List.finRange t.rows.length).filter (fun i => representative i ≠ i)

/-- The nonempty values the rows are blocked by. -/
def blockingKeys (field : MatchRuleFieldSpec) : List Str := (buildBlocks casefold t (representatives t) field).keys

/-- The compared pairs of a block that reach the review threshold. -/
def reviewedPairs (ruleSet : MatchRuleSetConfig) (field : MatchRuleFieldSpec) (key : Str) :
    List (t.RowIndex × t.RowIndex) :=
  if limits.maxBlockSize < (blockMembers casefold t field key).length then []
  else (pairsOf (blockMembers casefold t field key)).filter
    (fun p => ruleSet.reviewThreshold ≤ (comparePair casefold t p.1 p.2 ruleSet.fields).2)

/-- No value that does not fit its column blocks too many rows, or a pair worth a decision while decisions are still
kept: the repeated rows and the pairs of the lesser values come first. -/
def KeysFit (ruleSet : Option MatchRuleSetConfig) : Prop :=
  ∀ rs field, blockedBy ruleSet = some (rs, field) →
    ∀ key ∈ blockingKeys casefold t field, key.fits blockingKeyWidth = false →
      (blockMembers casefold t field key).length ≤ limits.maxBlockSize ∧
        (reviewedPairs casefold t limits rs field key = [] ∨
          limits.maxPersistedDecisions ≤ (repeatedRows t).length +
            (((blockingKeys casefold t field).filter (· < key)).flatMap
              (reviewedPairs casefold t limits rs field)).length)

end

variable {casefold : Str → Str} {t : Table} {limits : MatchLimits}

/-! ## Exact decisions -/

/-- The later rows of the exact decisions are what follows the least row of each set of identical ones. -/
theorem exactDecisions_later :
    (exactDecisions t).map Decision.recordBRowIndex = (Dict.values (exactGroups t)).flatMap List.tail := by
  have hchain : ∀ indices : List t.RowIndex, (chainDecisions t indices).map Decision.recordBRowIndex = indices.tail := by
    intro indices
    unfold chainDecisions
    rw [List.map_map]
    exact List.map_snd_zip (by rw [List.length_tail]; omega)
  unfold exactDecisions
  rw [List.map_flatMap]
  exact List.flatMap_congr (fun indices _ => hchain indices)

/-- No row is the later one of two exact decisions. -/
theorem exactDecisions_nodup : ((exactDecisions t).map Decision.recordBRowIndex).Nodup := by
  have hgroups : (Dict.values (exactGroups t)).Pairwise List.Disjoint := by
    unfold Dict.values
    rw [List.pairwise_map]
    have hkeys := Dict.nodup_keys_collect t.row (List.finRange t.rows.length)
    refine (List.pairwise_map.1 hkeys).imp_of_mem (fun {p p'} hp hp' hne i hi hi' => hne ?_)
    rw [(Dict.mem_collect.1 hp).1] at hi
    rw [(Dict.mem_collect.1 hp').1] at hi'
    exact (of_decide_eq_true (List.mem_filter.1 hi).2).symm.trans (of_decide_eq_true (List.mem_filter.1 hi').2)
  rw [exactDecisions_later]
  refine List.nodup_flatMap.2 ⟨fun indices hindices => ?_, ?_⟩
  · obtain ⟨i, rfl⟩ := mem_values_exactGroups.1 hindices
    exact ((exactGroup_sorted i).imp (fun h => ne_of_lt h)).sublist (List.tail_sublist _)
  · exact hgroups.imp (fun hdisj i hi hi' => hdisj (List.mem_of_mem_tail hi) (List.mem_of_mem_tail hi'))

theorem exactDecisions_length : (exactDecisions t).length = (repeatedRows t).length := by
  have hnd := exactDecisions_nodup (t := t)
  rw [exactDecisions_later] at hnd
  have hmem : ∀ i, i ∈ (Dict.values (exactGroups t)).flatMap List.tail ↔ i ∈ repeatedRows t := by
    intro i
    have hhead : exactGroup t i = representative i :: (exactGroup t i).tail := (List.cons_head_tail _).symm
    have hsorted := exactGroup_sorted i
    rw [hhead] at hsorted
    have hrepeated : i ∈ repeatedRows t ↔ representative i ≠ i := by simp [repeatedRows]
    rw [hrepeated, List.mem_flatMap]
    constructor
    · rintro ⟨indices, hindices, hi⟩ heq
      obtain ⟨j, rfl⟩ := mem_values_exactGroups.1 hindices
      rw [← exactGroup_congr (mem_exactGroup.1 (List.mem_of_mem_tail hi))] at hi
      have hlt := (List.pairwise_cons.1 hsorted).1 i hi
      rw [heq] at hlt
      exact lt_irrefl _ hlt
    · intro hne
      refine ⟨exactGroup t i, mem_values_exactGroups.2 ⟨i, rfl⟩, ?_⟩
      have hself := self_mem_exactGroup i
      rw [hhead] at hself
      exact (List.mem_cons.1 hself).resolve_left (Ne.symm hne)
  have hperm := (List.perm_ext_iff_of_nodup hnd ((List.nodup_finRange _).sublist List.filter_sublist)).2 hmem
  rw [← List.length_map (f := Decision.recordBRowIndex), exactDecisions_later]
  exact hperm.length_eq

/-! ## Scored decisions -/

/-- A pair gets a decision exactly when it reaches the review threshold; the decision's other columns. -/
theorem scoredDecision_columns {ruleSet : MatchRuleSetConfig} {key : Str} {a b : t.RowIndex} :
    ((scoredDecision casefold t ruleSet key a b).isSome ↔
        ruleSet.reviewThreshold ≤ (comparePair casefold t a b ruleSet.fields).2) ∧
      ∀ d, scoredDecision casefold t ruleSet key a b = some d →
        d.blockingKey = some key ∧ d.thresholdUsed = ruleSet.duplicateThreshold ∧ d.confidenceScore = d.totalScore ∧
          (d.ruleName = ruleNormalizedExact ∨ d.ruleName = ruleCompositeWeighted) ∧
          d.ruleVersion = matchEngineVersion := by
  have hlt := ruleSet.reviewThreshold_lt
  have hname : ∀ k : Nat, (if k = 1 then ruleNormalizedExact else ruleCompositeWeighted) = ruleNormalizedExact ∨
      (if k = 1 then ruleNormalizedExact else ruleCompositeWeighted) = ruleCompositeWeighted := by
    intro k
    split
    · exact .inl rfl
    · exact .inr rfl
  unfold scoredDecision
  dsimp only
  split
  · rename_i hdup
    refine ⟨iff_of_true rfl (hlt.le.trans hdup), ?_⟩
    rintro d ⟨⟩
    exact ⟨rfl, rfl, rfl, hname _, rfl⟩
  · split
    · rename_i hreview
      refine ⟨iff_of_true rfl hreview, ?_⟩
      rintro d ⟨⟩
      exact ⟨rfl, rfl, rfl, hname _, rfl⟩
    · rename_i hreview
      refine ⟨iff_of_false (by simp) hreview, ?_⟩
      rintro d ⟨⟩

theorem blockDecisions_length {ruleSet : MatchRuleSetConfig} {field : MatchRuleFieldSpec} {key : Str} :
    (blockDecisions casefold t ruleSet limits field key).length =
      (reviewedPairs casefold t limits ruleSet field key).length := by
  unfold blockDecisions reviewedPairs
  split
  · rfl
  · rw [List.length_filterMap_eq_countP, List.countP_eq_length_filter]
    refine congrArg List.length (List.filter_congr (fun p _ => ?_))
    exact Bool.eq_iff_iff.2 (scoredDecision_columns.1.trans decide_eq_true_iff.symm)

theorem mem_blockDecisions_key {ruleSet : MatchRuleSetConfig} {field : MatchRuleFieldSpec} {key : Str}
    {d : Decision t.rows.length} (h : d ∈ blockDecisions casefold t ruleSet limits field key) :
    d.blockingKey = some key := by
  unfold blockDecisions at h
  split at h
  · cases h
  · obtain ⟨p, -, hd⟩ := List.mem_filterMap.1 h
    exact (scoredDecision_columns.2 d hd).1

/-- The keys in the order the blocks are compared in. -/
theorem blockingKeys_sorted (field : MatchRuleFieldSpec) :
    ((blockingKeys casefold t field).insertionSort (· ≤ ·)).Pairwise (· < ·) := by
  have hnd : (blockingKeys casefold t field).Nodup := by
    unfold blockingKeys
    rw [buildBlocks_eq]
    exact Dict.nodup_keys_collect _ _
  have hnd' := ((List.perm_insertionSort (· ≤ ·) (blockingKeys casefold t field)).nodup_iff).2 hnd
  exact ((List.pairwise_insertionSort (· ≤ ·) (blockingKeys casefold t field)).and hnd').imp
    (fun h => lt_of_le_of_ne h.1 h.2)

theorem scoredDecisions_eq {ruleSet : Option MatchRuleSetConfig} {rs : MatchRuleSetConfig} {field : MatchRuleFieldSpec}
    (h : blockedBy ruleSet = some (rs, field)) :
    scoredDecisions casefold t ruleSet limits =
      ((blockingKeys casefold t field).insertionSort (· ≤ ·)).flatMap (blockDecisions casefold t rs limits field) := by
  obtain ⟨f, fs, rfl, hf, rfl⟩ := blockedBy_some h
  unfold scoredDecisions
  dsimp only
  rw [hf]
  rfl

theorem scoredDecisions_eq_nil {ruleSet : Option MatchRuleSetConfig} (h : blockedBy ruleSet = none) :
    scoredDecisions casefold t ruleSet limits = [] := by
  unfold scoredDecisions
  obtain rfl | ⟨rs, rfl, hfields⟩ := blockedBy_none h
  · rfl
  · dsimp only
    rw [hfields]

/-- **A decision kept under a key that does not fit.** -/
theorem exists_unfit_kept {rs : MatchRuleSetConfig} {field : MatchRuleFieldSpec} {room : Nat} :
    (∃ d ∈ (((blockingKeys casefold t field).insertionSort (· ≤ ·)).flatMap
        (blockDecisions casefold t rs limits field)).take room,
        ∃ key, d.blockingKey = some key ∧ key.fits blockingKeyWidth = false) ↔
      ∃ key ∈ blockingKeys casefold t field, key.fits blockingKeyWidth = false ∧
        reviewedPairs casefold t limits rs field key ≠ [] ∧
        (((blockingKeys casefold t field).filter (· < key)).flatMap
          (reviewedPairs casefold t limits rs field)).length < room := by
  have hunfit : ∀ key ∈ (blockingKeys casefold t field).insertionSort (· ≤ ·),
      ∀ d ∈ blockDecisions casefold t rs limits field key,
        ((∃ key, d.blockingKey = some key ∧ key.fits blockingKeyWidth = false) ↔ key.fits blockingKeyWidth = false) := by
    intro key _ d hd
    rw [mem_blockDecisions_key hd]
    simp
  have hlength : ∀ keys : List Str, (keys.flatMap (blockDecisions casefold t rs limits field)).length =
      (keys.flatMap (reviewedPairs casefold t limits rs field)).length := by
    intro keys
    induction keys with
    | nil => rfl
    | cons key keys ih =>
      rw [List.flatMap_cons, List.flatMap_cons, List.length_append, List.length_append, blockDecisions_length, ih]
  rw [SortedCut.exists_mem_take_flatMap (blockingKeys_sorted field) hunfit]
  refine exists_congr (fun key => ?_)
  have hperm := fun p => (((List.perm_insertionSort (· ≤ ·) (blockingKeys casefold t field)).filter p).flatMap_right
    (reviewedPairs casefold t limits rs field)).length_eq
  rw [List.mem_insertionSort, hlength, hperm, ne_eq, ne_eq, ← List.length_eq_zero_iff, blockDecisions_length,
    List.length_eq_zero_iff]
  -- the order of texts is decided in two ways
  congr!

/-! ## Skipped blocks -/

/-- A fold that skips nothing. -/
theorem foldl_skippedBlocks {α : Type} {f : MatchState n → α → MatchState n}
    (h : ∀ s a, (f s a).skippedBlocks = s.skippedBlocks) (l : List α) (s : MatchState n) :
    (l.foldl f s).skippedBlocks = s.skippedBlocks := by
  induction l generalizing s with
  | nil => rfl
  | cons a l ih => rw [List.foldl_cons, ih, h]

theorem stage1_skippedBlocks : (stage1 t limits).1.skippedBlocks = [] := by
  have hfold : ∀ (vs : List (List t.RowIndex)) (acc : MatchState t.rows.length × (t.RowIndex → Option t.RowIndex)),
      (vs.foldl (exactGroupStep t limits) acc).1.skippedBlocks = acc.1.skippedBlocks := by
    intro vs
    induction vs with
    | nil => intro acc; rfl
    | cons v vs ih =>
      intro acc
      rw [List.foldl_cons, ih]
      unfold exactGroupStep
      split
      · rfl
      · exact foldl_skippedBlocks (f := chainLink t limits _) (fun s p => recordDecision_skippedBlocks limits _ _) _ acc.1
  exact hfold _ _

theorem comparePairOf_skippedBlocks {ruleSet : MatchRuleSetConfig} {key : Str} (s : MatchState t.rows.length)
    (p : t.RowIndex × t.RowIndex) :
    (comparePairOf casefold t ruleSet limits key s p).skippedBlocks = s.skippedBlocks := by
  unfold comparePairOf
  dsimp only
  split
  · split
    · exact recordDecision_skippedBlocks limits _ _
    · exact recordDecision_skippedBlocks limits _ _
  · rfl

/-- The row of an oversized block. -/
def skippedBlockOf (casefold : Str → Str) (t : Table) (limits : MatchLimits) (field : MatchRuleFieldSpec) (key : Str) :
    SkippedBlock t.rows.length :=
  ⟨key, (blockMembers casefold t field key).length,
    (blockMembers casefold t field key).take limits.maxSkippedRowSample⟩

/-- **The blocks skipped are the oversized ones**, each once, in the order of their keys. -/
theorem matchState_skippedBlocks {ruleSet : Option MatchRuleSetConfig} {rs : MatchRuleSetConfig}
    {field : MatchRuleFieldSpec} (h : blockedBy ruleSet = some (rs, field)) :
    (matchState casefold t ruleSet limits).skippedBlocks =
      (((blockingKeys casefold t field).insertionSort (· ≤ ·)).filter
        (fun key => limits.maxBlockSize < (blockMembers casefold t field key).length)).map
          (skippedBlockOf casefold t limits field) := by
  obtain ⟨f, fs, rfl, hf, rfl⟩ := blockedBy_some h
  have hfold : ∀ (keys : List Str) (s : MatchState t.rows.length), (∀ key ∈ keys, key ≠ []) →
      (keys.foldl (blockStep casefold t rs limits
        (buildBlocks casefold t (representatives t) (selectBlockingField f fs))) s).skippedBlocks =
        s.skippedBlocks ++ (keys.filter (fun key =>
          limits.maxBlockSize < (blockMembers casefold t (selectBlockingField f fs) key).length)).map
            (skippedBlockOf casefold t limits (selectBlockingField f fs)) := by
    intro keys
    induction keys with
    | nil => intro s _; simp
    | cons key keys ih =>
      intro s hkeys
      have hmembers : ((Dict.get? (buildBlocks casefold t (representatives t) (selectBlockingField f fs)) key).getD
          []).insertionSort (· ≤ ·) = blockMembers casefold t (selectBlockingField f fs) key := by
        rw [(buildBlocks_spec _ key).2 (hkeys key List.mem_cons_self)]
        exact List.Pairwise.insertionSort_eq ((blockMembers_sorted _ key).imp (fun h => le_of_lt h))
      rw [List.foldl_cons, ih _ (fun k hk => hkeys k (List.mem_cons_of_mem _ hk))]
      unfold blockStep
      dsimp only
      rw [hmembers]
      split
      · rename_i hsize
        dsimp only
        rw [List.filter_cons, if_pos (decide_eq_true hsize), List.map_cons, List.append_assoc]
        rfl
      · rename_i hsize
        rw [List.filter_cons_of_neg (by simpa using hsize), foldl_skippedBlocks comparePairOf_skippedBlocks]
  have hkeys : ∀ key ∈ (blockingKeys casefold t (selectBlockingField f fs)).insertionSort (· ≤ ·), key ≠ [] :=
    fun key hkey => (((buildBlocks_spec _ key).1).1 ((List.mem_insertionSort (· ≤ ·)).1 hkey)).1
  unfold matchState stage2
  dsimp only
  rw [hf]
  dsimp only
  rw [candidateIndices_eq]
  refine (hfold _ _ hkeys).trans ?_
  rw [stage1_skippedBlocks, List.nil_append]

theorem matchState_skippedBlocks_nil {ruleSet : Option MatchRuleSetConfig} (h : blockedBy ruleSet = none) :
    (matchState casefold t ruleSet limits).skippedBlocks = [] := by
  have hstage1 : (stage1 t limits).1.skippedBlocks = [] := stage1_skippedBlocks
  refine Eq.trans ?_ hstage1
  unfold matchState stage2
  obtain rfl | ⟨rs, rfl, hfields⟩ := blockedBy_none h
  · rfl
  · dsimp only
    rw [hfields]

/-! ## When the tables take a result -/

variable {ruleSet : Option MatchRuleSetConfig}

theorem edgeScore_bounds (i j : t.RowIndex) :
    0 ≤ edgeScore casefold t ruleSet i j ∧ edgeScore casefold t ruleSet i j ≤ 1 := by
  unfold edgeScore
  split
  · exact ⟨zero_le_one, le_refl 1⟩
  · split
    · exact comparePair_bounds _
    · exact ⟨le_refl 0, zero_le_one⟩

/-- What a decision holds in the columns with a check, whichever stage made it. -/
structure FitColumns (d : Decision n) : Prop where
  totalScore      : 0 ≤ d.totalScore ∧ d.totalScore ≤ 1
  thresholdUsed   : 0 ≤ d.thresholdUsed ∧ d.thresholdUsed ≤ 1
  confidenceScore : 0 ≤ d.confidenceScore ∧ d.confidenceScore ≤ 1
  ruleName        : Str.fits 50 d.ruleName.toList
  ruleVersion     : Str.fits 20 d.ruleVersion.toList
  reason          : Str.nul ∉ d.reason.toList

/-! ### The reasons -/

theorem nul_notMem_toString (k : Nat) : Str.nul ∉ (toString k).toList := by
  intro hmem
  rw [show toString k = Nat.repr k from rfl, Nat.repr, String.toList_ofList] at hmem
  exact absurd (Nat.isDigit_of_mem_toDigits (by decide) (by decide) hmem) (by decide)

theorem nul_notMem_fixed4 (q : ℚ) : Str.nul ∉ (fixed4 q).toList := by
  unfold fixed4
  simp only [String.toList_append, List.mem_append, nul_notMem_toString, String.toList_ofList,
    List.mem_replicate, false_or,
    or_false, not_or, not_and]
  exact ⟨by decide, fun _ => by decide⟩

theorem nul_notMem_exactReason (k : Nat) : Str.nul ∉ (exactReason k).toList := by
  unfold exactReason
  simp only [String.toList_append, List.mem_append, nul_notMem_toString, or_false, not_or]
  exact ⟨by decide, by decide⟩

theorem scoredDecision_reason {rs : MatchRuleSetConfig} {key : Str} {a b : t.RowIndex} {d : Decision t.rows.length}
    (h : scoredDecision casefold t rs key a b = some d) : Str.nul ∉ d.reason.toList := by
  unfold scoredDecision at h
  dsimp only at h
  split at h
  · cases h
    unfold duplicateReason
    simp only [String.toList_append, List.mem_append, nul_notMem_toString, nul_notMem_fixed4, false_or, or_false, not_or,
      and_assoc]
    exact ⟨by decide, by decide, by decide, by decide⟩
  · split at h
    · cases h
      unfold ambiguousReason
      simp only [String.toList_append, List.mem_append, nul_notMem_toString, nul_notMem_fixed4, false_or, or_false, not_or,
        and_assoc]
      exact ⟨by decide, by decide, by decide, by decide, by decide⟩
    · cases h

theorem exactDecision_fits (k : Nat) (a b : t.RowIndex) : FitColumns (exactDecision t k a b) := by
  have hone : (0 : ℚ) ≤ 1 ∧ (1 : ℚ) ≤ 1 := ⟨zero_le_one, le_refl 1⟩
  exact ⟨hone, hone, hone, show Str.fits 50 ruleExactRow.toList by decide,
    show Str.fits 20 matchEngineVersion.toList by decide, nul_notMem_exactReason k⟩

theorem scoredDecision_fits {rs : MatchRuleSetConfig} {key : Str} {a b : t.RowIndex} {d : Decision t.rows.length}
    (h : scoredDecision casefold t rs key a b = some d) : FitColumns d := by
  obtain ⟨-, -, hscore, -, -⟩ := scoredDecision_spec h
  obtain ⟨-, hthreshold, hconfidence, hname, hversion⟩ := scoredDecision_columns.2 d h
  have hbounds : 0 ≤ d.totalScore ∧ d.totalScore ≤ 1 := by
    rw [hscore]
    exact comparePair_bounds _
  refine ⟨hbounds, ?_, by rw [hconfidence]; exact hbounds, ?_, by rw [hversion]; decide, scoredDecision_reason h⟩
  · rw [hthreshold]
    exact ⟨rs.reviewThreshold_nonneg.trans rs.reviewThreshold_lt.le, rs.duplicateThreshold_le⟩
  · rcases hname with hname | hname
    · rw [hname]; decide
    · rw [hname]; decide

theorem allDecisions_fit {d : Decision t.rows.length} (h : d ∈ allDecisions casefold t ruleSet limits) :
    FitColumns d := by
  rcases List.mem_append.1 h with h | h
  · obtain ⟨i, p, -, rfl⟩ := mem_exactDecisions.1 h
    exact exactDecision_fits _ _ _
  · cases hblocked : blockedBy ruleSet with
    | none =>
      rw [scoredDecisions_eq_nil hblocked] at h
      cases h
    | some p =>
      rw [scoredDecisions_eq hblocked] at h
      obtain ⟨key, -, hd⟩ := List.mem_flatMap.1 h
      unfold blockDecisions at hd
      split at hd
      · cases hd
      · obtain ⟨p, -, hd⟩ := List.mem_filterMap.1 hd
        exact scoredDecision_fits hd

theorem matchRows_decisions : (matchRows casefold t ruleSet limits).decisions =
    ((allDecisions casefold t ruleSet limits).take limits.maxPersistedDecisions).map
      (wired (matchState casefold t ruleSet limits)) := by
  rw [matchRows_eq, decisions_eq (matchState_records casefold t ruleSet limits), matchState_decisions]

/-- Wiring a decision to its group changes no other column. -/
theorem wired_columns (s : MatchState n) (d : Decision n) :
    (wired s d).recordARowIndex = d.recordARowIndex ∧ (wired s d).recordBRowIndex = d.recordBRowIndex ∧
      (wired s d).blockingKey = d.blockingKey ∧ (FitColumns d → FitColumns (wired s d)) := by
  unfold wired assignGroup
  split
  · exact ⟨rfl, rfl, rfl,
      fun h => ⟨h.totalScore, h.thresholdUsed, h.confidenceScore, h.ruleName, h.ruleVersion, h.reason⟩⟩
  · exact ⟨rfl, rfl, rfl, id⟩

/-- **A decision kept under a key that does not fit**, of all decisions. -/
theorem exists_unfit_decision :
    (∃ d ∈ (matchRows casefold t ruleSet limits).decisions,
        ∃ key, d.blockingKey = some key ∧ key.fits blockingKeyWidth = false) ↔
      ∃ rs field, blockedBy ruleSet = some (rs, field) ∧ ∃ key ∈ blockingKeys casefold t field,
        key.fits blockingKeyWidth = false ∧ reviewedPairs casefold t limits rs field key ≠ [] ∧
        (((blockingKeys casefold t field).filter (· < key)).flatMap
          (reviewedPairs casefold t limits rs field)).length <
          limits.maxPersistedDecisions - (repeatedRows t).length := by
  have hexact : ∀ d ∈ exactDecisions t, d.blockingKey = none := by
    intro d hd
    obtain ⟨i, p, -, rfl⟩ := mem_exactDecisions.1 hd
    rfl
  have hkept : (∃ d ∈ (matchRows casefold t ruleSet limits).decisions,
        ∃ key, d.blockingKey = some key ∧ key.fits blockingKeyWidth = false) ↔
      ∃ d ∈ (scoredDecisions casefold t ruleSet limits).take (limits.maxPersistedDecisions - (repeatedRows t).length),
        ∃ key, d.blockingKey = some key ∧ key.fits blockingKeyWidth = false := by
    rw [matchRows_decisions]
    unfold allDecisions
    rw [List.take_append, exactDecisions_length]
    constructor
    · rintro ⟨d', hd', key, hkey, hunfit⟩
      obtain ⟨d, hd, rfl⟩ := List.mem_map.1 hd'
      rw [(wired_columns _ d).2.2.1] at hkey
      rcases List.mem_append.1 hd with hd | hd
      · rw [hexact d (List.mem_of_mem_take hd)] at hkey
        cases hkey
      · exact ⟨d, hd, key, hkey, hunfit⟩
    · rintro ⟨d, hd, key, hkey, hunfit⟩
      exact ⟨_, List.mem_map_of_mem (List.mem_append_right _ hd), key, (wired_columns _ d).2.2.1.trans hkey, hunfit⟩
  rw [hkept]
  cases hblocked : blockedBy ruleSet with
  | none =>
    rw [scoredDecisions_eq_nil hblocked]
    simp
  | some p =>
    obtain ⟨rs, field⟩ := p
    rw [scoredDecisions_eq hblocked, exists_unfit_kept]
    constructor
    · intro h
      exact ⟨rs, field, rfl, h⟩
    · rintro ⟨rs', field', heq, h⟩
      cases heq
      exact h

theorem matchRows_groups_storable (db : MatchTables) (organizationId : Nat) :
    ∀ g ∈ groupModels db organizationId (matchRows casefold t ruleSet limits).groups, g.Storable := by
  intro g hg
  obtain ⟨k, group, hk, rfl⟩ := mem_groupModels.1 hg
  have hmem := List.mem_of_getElem? hk
  obtain ⟨⟨i, -, j, -, -, hconfidence⟩, -⟩ := confidence_isLeast hmem
  rw [matchRows_eq] at hmem
  obtain ⟨r, -, hlen, -⟩ := mem_groups.1 hmem
  refine ⟨hlen, ?_⟩
  show 0 ≤ group.confidenceScore ∧ group.confidenceScore ≤ 1
  rw [hconfidence]
  exact edgeScore_bounds i j

/-- **The tables take a result of matching exactly when the keys fit.** -/
theorem matchRows_storable_iff (db : MatchTables) (organizationId : Nat) :
    (matchRows casefold t ruleSet limits).Storable db organizationId ↔ KeysFit casefold t limits ruleSet := by
  have hskipped : (matchRows casefold t ruleSet limits).skippedBlocks =
      (matchState casefold t ruleSet limits).skippedBlocks := rfl
  constructor
  · intro h rs field hblocked key hkey hunfit
    constructor
    · by_contra hsize
      have hmem : skippedBlockOf casefold t limits field key ∈ (matchRows casefold t ruleSet limits).skippedBlocks := by
        rw [hskipped, matchState_skippedBlocks hblocked]
        exact List.mem_map_of_mem (List.mem_filter.2
          ⟨(List.mem_insertionSort (· ≤ ·)).2 hkey, decide_eq_true (Nat.not_le.1 hsize)⟩)
      exact Bool.false_ne_true (hunfit.symm.trans (h.skippedBlocks _ (List.mem_map_of_mem hmem)).blockingKey)
    · by_contra hroom
      obtain ⟨hpairs, hroom⟩ := not_or.1 hroom
      obtain ⟨d, hd, key', hkey', hunfit'⟩ := exists_unfit_decision.2
        ⟨rs, field, hblocked, key, hkey, hunfit, hpairs, by omega⟩
      exact Bool.false_ne_true (hunfit'.symm.trans ((h.decisions _ (List.mem_map_of_mem hd)).blockingKey key' hkey'))
  · intro h
    refine ⟨matchRows_groups_storable db organizationId, ?_, ?_, ?_⟩
    · intro row hrow
      obtain ⟨d, hd, rfl⟩ := List.mem_map.1 hrow
      have hmem := hd
      rw [matchRows_decisions] at hmem
      obtain ⟨d₀, hd₀, rfl⟩ := List.mem_map.1 hmem
      have hall := List.mem_of_mem_take hd₀
      obtain ⟨ha, hb, -, hfits⟩ := wired_columns (matchState casefold t ruleSet limits) d₀
      have hfit := hfits (allDecisions_fit hall)
      refine ⟨?_, hfit.totalScore, hfit.thresholdUsed, hfit.confidenceScore, hfit.ruleName, hfit.ruleVersion,
        hfit.reason, ?_, ?_⟩
      · have hlt := (mem_allDecisions hall).1
        rw [← ha, ← hb] at hlt
        exact hlt
      · intro id hid
        obtain ⟨k, -, hlt, rfl⟩ := matchGroupIdOf_eq_some.1 hid
        exact ⟨_, mem_groupModels.2 ⟨k, _, List.getElem?_eq_getElem hlt, rfl⟩, rfl, rfl⟩
      · intro key hkey
        by_contra hunfit
        obtain ⟨rs, field, hblocked, key', hkey', hunfit', hpairs, hroom⟩ := exists_unfit_decision.1
          ⟨_, hd, key, hkey, Bool.eq_false_iff.2 hunfit⟩
        rcases (h rs field hblocked key' hkey' hunfit').2 with hnone | hfull
        · exact hpairs hnone
        · omega
    · intro row hrow
      obtain ⟨b, hb, rfl⟩ := List.mem_map.1 hrow
      rw [hskipped] at hb
      cases hblocked : blockedBy ruleSet with
      | none =>
        rw [matchState_skippedBlocks_nil hblocked] at hb
        cases hb
      | some p =>
        obtain ⟨rs, field⟩ := p
        rw [matchState_skippedBlocks hblocked] at hb
        obtain ⟨key, hkey, rfl⟩ := List.mem_map.1 hb
        obtain ⟨hkey, hsize⟩ := List.mem_filter.1 hkey
        have hsize : limits.maxBlockSize < (blockMembers casefold t field key).length := of_decide_eq_true hsize
        refine ⟨Nat.lt_of_le_of_lt (Nat.zero_le _) hsize, ?_⟩
        by_contra hunfit
        exact Nat.not_le.2 hsize
          (h rs field hblocked key ((List.mem_insertionSort (· ≤ ·)).1 hkey) (Bool.eq_false_iff.2 hunfit)).1
    · rw [hskipped, List.pairwise_map]
      cases hblocked : blockedBy ruleSet with
      | none =>
        rw [matchState_skippedBlocks_nil hblocked]
        exact List.Pairwise.nil
      | some p =>
        obtain ⟨rs, field⟩ := p
        rw [matchState_skippedBlocks hblocked, List.pairwise_map]
        refine ((blockingKeys_sorted field).sublist List.filter_sublist).imp (fun hlt hsame => ?_)
        exact ne_of_lt hlt hsame.2

end Matching
end DataOps

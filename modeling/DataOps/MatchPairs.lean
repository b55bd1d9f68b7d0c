import DataOps.MatchStages
/-!
# MatchPairs — what the second stage compares

The blocks hold the representatives by their blocking value, so the pairs compared are exactly the pairs of distinct
representatives that share a non-blank value, in the blocks within the limit (`mem_scoredDecisions`).
-/
namespace DataOps
namespace Matching

/-! ## Pairs of a sorted list -/

theorem mem_pairsOf {α : Type} [LinearOrder α] : ∀ {l : List α} {a b : α}, l.Pairwise (· < ·) →
    ((a, b) ∈ pairsOf l ↔ a ∈ l ∧ b ∈ l ∧ a < b)
  | [], a, b, _ => by simp [pairsOf]
  | x :: l, a, b, h => by
    obtain ⟨hx, hl⟩ := List.pairwise_cons.1 h
    simp only [pairsOf, List.mem_append, List.mem_map, Prod.mk.injEq, exists_eq_right_right, List.mem_cons]
    rw [mem_pairsOf hl]
    constructor
    · rintro (⟨hb, rfl⟩ | ⟨ha, hb, hlt⟩)
      · exact ⟨.inl rfl, .inr hb, hx b hb⟩
      · exact ⟨.inr ha, .inr hb, hlt⟩
    · rintro ⟨rfl | ha, rfl | hb, hlt⟩
      · exact absurd hlt (lt_irrefl _)
      · exact .inl ⟨hb, rfl⟩
      · exact absurd hlt (lt_asymm (hx a ha))
      · exact .inr ⟨ha, hb, hlt⟩

variable (casefold : Str → Str) (t : Table)

/-! ## Blocks -/

/-- The least rows of the sets of identical rows, in order. -/
def representatives : List t.RowIndex := (List.finRange t.rows.length).filter (fun i => representative i = i)

theorem candidateIndices_eq (limits : MatchLimits) : candidateIndices (stage1 t limits).2 = representatives t := by
  obtain ⟨hmem, hsorted⟩ := candidateIndices_spec (t := t) limits
  refine List.Pairwise.eq_of_mem_iff hsorted (finRange_filter_sorted _) (fun i => ?_)
  simp [hmem, representatives]

/-- The representatives with a blocking value. -/
def blockMembers (field : MatchRuleFieldSpec) (key : Str) : List t.RowIndex :=
  (representatives t).filter (fun i => blockingValue casefold t field i = key)

variable {casefold t}

theorem mem_blockMembers {field : MatchRuleFieldSpec} {key : Str} {i : t.RowIndex} :
    i ∈ blockMembers casefold t field key ↔ representative i = i ∧ blockingValue casefold t field i = key := by
  simp [blockMembers, representatives, and_comm]

theorem blockMembers_sorted (field : MatchRuleFieldSpec) (key : Str) :
    (blockMembers casefold t field key).Pairwise (· < ·) :=
  (finRange_filter_sorted _).sublist List.filter_sublist

theorem buildBlocks_eq (candidates : List t.RowIndex) (field : MatchRuleFieldSpec) :
    buildBlocks casefold t candidates field =
      Dict.collect (blockingValue casefold t field)
        (candidates.filter (fun i => blockingValue casefold t field i ≠ [])) := by
  unfold buildBlocks Dict.collect
  rw [List.foldl_filter]
  congr 1
  funext blocks i
  by_cases h : blockingValue casefold t field i = [] <;> simp [h]

theorem filter_nonblank (field : MatchRuleFieldSpec) {key : Str} (hkey : key ≠ []) :
    ((representatives t).filter (fun i => blockingValue casefold t field i ≠ [])).filter
        (fun i => blockingValue casefold t field i = key) = blockMembers casefold t field key := by
  unfold blockMembers
  rw [List.filter_filter]
  refine List.filter_congr (fun i _ => ?_)
  by_cases h : blockingValue casefold t field i = key
  · simp [h, hkey]
  · simp [h]

/-- **A block holds the representatives with its value.** -/
theorem buildBlocks_spec (field : MatchRuleFieldSpec) (key : Str) :
    (key ∈ (buildBlocks casefold t (representatives t) field).keys ↔
      key ≠ [] ∧ blockMembers casefold t field key ≠ []) ∧
    (key ≠ [] → (Dict.get? (buildBlocks casefold t (representatives t) field) key).getD [] =
      blockMembers casefold t field key) := by
  rw [buildBlocks_eq]
  constructor
  · unfold Dict.keys
    rw [List.mem_map]
    constructor
    · rintro ⟨⟨k, vs⟩, hmem, rfl⟩
      obtain ⟨hvs, hne⟩ := Dict.mem_collect.1 hmem
      have hk : k ≠ [] := by
        obtain ⟨i, hi⟩ := List.exists_mem_of_ne_nil vs hne
        rw [hvs, List.mem_filter, List.mem_filter] at hi
        simp only [decide_eq_true_eq, ne_eq] at hi
        exact fun hnil => hi.1.2 (hi.2.trans hnil)
      rw [filter_nonblank field hk] at hvs
      exact ⟨hk, by rw [← hvs]; exact hne⟩
    · rintro ⟨hk, hne⟩
      exact ⟨(key, _), Dict.mem_collect.2 ⟨(filter_nonblank field hk).symm, hne⟩, rfl⟩
  · intro hk
    rw [(Dict.get?_collect _ _ key).1, filter_nonblank field hk]

/-! ## What the second stage records -/

variable (casefold t)

/-- The decisions on the pairs of one block. -/
def blockDecisions (ruleSet : MatchRuleSetConfig) (limits : MatchLimits) (field : MatchRuleFieldSpec) (key : Str) :
    List (Decision t.rows.length) :=
  if limits.maxBlockSize < (blockMembers casefold t field key).length then []
  else (pairsOf (blockMembers casefold t field key)).filterMap (fun p => scoredDecision casefold t ruleSet key p.1 p.2)

/-- **What the second stage records.** -/
def scoredDecisions (ruleSet : Option MatchRuleSetConfig) (limits : MatchLimits) : List (Decision t.rows.length) :=
  match ruleSet with
  | none => []
  | some ruleSet =>
    match ruleSet.fields with
    | [] => []
    | field :: fields =>
      ((buildBlocks casefold t (representatives t) (selectBlockingField field fields)).keys.insertionSort
        (· ≤ ·)).flatMap (blockDecisions casefold t ruleSet limits (selectBlockingField field fields))

variable {casefold t}

/-- What is known of a decision on a compared pair. -/
theorem scoredDecision_spec {ruleSet : MatchRuleSetConfig} {key : Str} {a b : t.RowIndex}
    {d : Decision t.rows.length} (h : scoredDecision casefold t ruleSet key a b = some d) :
    d.recordARowIndex = a ∧ d.recordBRowIndex = b ∧ d.totalScore = (comparePair casefold t a b ruleSet.fields).2 ∧
      d.groupIndex = none ∧
      (d.decision = .duplicate ↔ ruleSet.duplicateThreshold ≤ (comparePair casefold t a b ruleSet.fields).2) := by
  unfold scoredDecision at h
  dsimp only at h
  split at h
  · rename_i hle
    cases h
    exact ⟨rfl, rfl, rfl, rfl, iff_of_true rfl hle⟩
  · rename_i hle
    split at h
    · cases h
      exact ⟨rfl, rfl, rfl, rfl, iff_of_false (by simp) hle⟩
    · cases h

/-- A pair that scores the duplicate threshold gets a decision. -/
theorem scoredDecision_isSome {ruleSet : MatchRuleSetConfig} {key : Str} {a b : t.RowIndex}
    (h : ruleSet.duplicateThreshold ≤ (comparePair casefold t a b ruleSet.fields).2) :
    ∃ d, scoredDecision casefold t ruleSet key a b = some d := by
  unfold scoredDecision
  dsimp only
  rw [if_pos h]
  exact ⟨_, rfl⟩

theorem comparePairOf_records {limits : MatchLimits} (ruleSet : MatchRuleSetConfig) (key : Str)
    (s : MatchState t.rows.length) (all : List (Decision t.rows.length)) (p : t.RowIndex × t.RowIndex)
    (h : Records limits s all) :
    Records limits (comparePairOf casefold t ruleSet limits key s p)
      (all ++ (scoredDecision casefold t ruleSet key p.1 p.2).toList) := by
  have hcount := h.of_eq (s.totalComparisonsCount + 1) s.skippedBlocks
  unfold comparePairOf
  cases hd : scoredDecision casefold t ruleSet key p.1 p.2 with
  | none => simpa using hcount
  | some d =>
    obtain ⟨ha, hb, -⟩ := scoredDecision_spec hd
    have hacc := hcount.accept d
    unfold MatchState.accept at hacc
    rw [Option.toList_some]
    cases hdd : d.decision with
    | duplicate =>
      simp only [hdd, ha, hb] at hacc ⊢
      exact hacc
    | ambiguous =>
      simp only [hdd] at hacc ⊢
      exact hacc

theorem blockStep_records {limits : MatchLimits} (ruleSet : MatchRuleSetConfig) (field : MatchRuleFieldSpec) {key : Str}
    (hkey : key ≠ []) (s : MatchState t.rows.length) (all : List (Decision t.rows.length)) (h : Records limits s all) :
    Records limits (blockStep casefold t ruleSet limits (buildBlocks casefold t (representatives t) field) s key)
      (all ++ blockDecisions casefold t ruleSet limits field key) := by
  have hsort : (blockMembers casefold t field key).insertionSort (· ≤ ·) = blockMembers casefold t field key :=
    List.Pairwise.insertionSort_eq ((blockMembers_sorted field key).imp (fun h => le_of_lt h))
  unfold blockStep blockDecisions
  dsimp only
  rw [(buildBlocks_spec field key).2 hkey, hsort]
  split
  · rw [List.append_nil]
    exact h.of_eq s.totalComparisonsCount _
  · have := Records.fold (comparePairOf casefold t ruleSet limits key) _ (comparePairOf_records ruleSet key)
      (pairsOf (blockMembers casefold t field key)) s all h
    rwa [← List.filterMap_eq_flatMap_toList] at this

/-- **The second stage** records the scored decisions. -/
theorem stage2_records {limits : MatchLimits} (ruleSet : Option MatchRuleSetConfig) {s : MatchState t.rows.length}
    {all : List (Decision t.rows.length)} (h : Records limits s all) :
    Records limits (stage2 casefold t ruleSet limits (stage1 t limits).2 s)
      (all ++ scoredDecisions casefold t ruleSet limits) := by
  unfold stage2 scoredDecisions
  cases ruleSet with
  | none => simpa using h
  | some ruleSet =>
    dsimp only
    cases ruleSet.fields with
    | nil => simpa using h
    | cons field fields =>
      dsimp only
      rw [candidateIndices_eq]
      generalize selectBlockingField field fields = best
      have hkeys : ∀ key ∈ (buildBlocks casefold t (representatives t) best).keys.insertionSort (· ≤ ·), key ≠ [] :=
        fun key hk => (((buildBlocks_spec best key).1).1 ((List.mem_insertionSort (· ≤ ·)).1 hk)).1
      generalize (buildBlocks casefold t (representatives t) best).keys.insertionSort (· ≤ ·) = keys at hkeys
      induction keys generalizing s all with
      | nil => simpa using h
      | cons key keys ih =>
        rw [List.foldl_cons, List.flatMap_cons, ← List.append_assoc]
        exact ih (blockStep_records ruleSet best (hkeys key List.mem_cons_self) s all h)
          (fun k hk => hkeys k (List.mem_cons_of_mem _ hk))

/-- **The pairs the second stage decides**: two representatives of a block within the limit. -/
theorem mem_scoredDecisions {ruleSet : MatchRuleSetConfig} {field : MatchRuleFieldSpec}
    {fields : List MatchRuleFieldSpec} (hfields : ruleSet.fields = field :: fields) {limits : MatchLimits}
    {d : Decision t.rows.length} :
    d ∈ scoredDecisions casefold t (some ruleSet) limits ↔
      ∃ key a b, key ≠ [] ∧
        (blockMembers casefold t (selectBlockingField field fields) key).length ≤ limits.maxBlockSize ∧
        a ∈ blockMembers casefold t (selectBlockingField field fields) key ∧
        b ∈ blockMembers casefold t (selectBlockingField field fields) key ∧ a < b ∧
        scoredDecision casefold t ruleSet key a b = some d := by
  unfold scoredDecisions
  dsimp only
  rw [hfields]
  dsimp only
  generalize selectBlockingField field fields = best
  simp only [List.mem_flatMap, List.mem_insertionSort]
  constructor
  · rintro ⟨key, hkey, hd⟩
    unfold blockDecisions at hd
    split at hd
    · cases hd
    · rename_i hsize
      obtain ⟨⟨a, b⟩, hp, hd⟩ := List.mem_filterMap.1 hd
      obtain ⟨ha, hb, hlt⟩ := (mem_pairsOf (blockMembers_sorted best key)).1 hp
      exact ⟨key, a, b, (((buildBlocks_spec best key).1).1 hkey).1, Nat.not_lt.1 hsize, ha, hb, hlt, hd⟩
  · rintro ⟨key, a, b, hkey, hsize, ha, hb, hlt, hd⟩
    refine ⟨key, ((buildBlocks_spec best key).1).2 ⟨hkey, List.ne_nil_of_mem ha⟩, ?_⟩
    unfold blockDecisions
    rw [if_neg (Nat.not_lt.2 hsize)]
    exact List.mem_filterMap.2 ⟨(a, b), (mem_pairsOf (blockMembers_sorted best key)).2 ⟨ha, hb, hlt⟩, hd⟩

end Matching
end DataOps

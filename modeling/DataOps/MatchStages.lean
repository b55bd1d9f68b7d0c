import DataOps.LibLists
import DataOps.MatchEngine
import Mathlib.Data.List.Perm.Basic
/-!
# MatchStages — what the loops of `match` record

`Records` says what the state holds after a list of decisions, whatever the cap on the persisted ones: both stages only
ever add to that list (`stage1_records`, `stage2_records`), so everything later is about two lists, `exactDecisions` and
`scoredDecisions`, and what is in them.
-/
namespace DataOps
namespace Matching

variable {n : Nat}

/-! ## The records -/

def Decision.edge (d : Decision n) : DuplicateEdge n := ⟨d.recordARowIndex, d.recordBRowIndex, d.totalScore⟩

/-- The duplicate pairs among some decisions, in order. -/
def duplicateEdgesOf (all : List (Decision n)) : List (DuplicateEdge n) :=
  (all.filter (fun d => d.decision = .duplicate)).map Decision.edge

/-- **The state after recording `all`.** -/
structure Records (limits : MatchLimits) (s : MatchState n) (all : List (Decision n)) : Prop where
  decisions  : s.decisions = all.take limits.maxPersistedDecisions
  duplicates : s.duplicatePairsCount = all.countP (fun d => d.decision = .duplicate)
  ambiguous  : s.ambiguousPairsCount = all.countP (fun d => d.decision = .ambiguous)
  byRule     : ∀ rule, (Dict.get? s.decisionsByRule rule).getD 0 = all.countP (fun d => d.ruleName = rule)
  edges      : s.duplicateEdges = duplicateEdgesOf all
  uf         : s.uf = UnionFind.unions n (s.duplicateEdges.map (fun e => (e.a, e.b)))
  pending    : ∀ pos, pos ∈ s.pendingDuplicateEdgePositions ↔ ∃ d, s.decisions[pos]? = some d ∧ d.decision = .duplicate

theorem Records.start (limits : MatchLimits) (n : Nat) : Records limits (MatchState.start n) [] where
  decisions := by simp [MatchState.start]
  duplicates := rfl
  ambiguous := rfl
  byRule rule := rfl
  edges := rfl
  uf := rfl
  pending pos := by simp [MatchState.start]

/-- Counting a comparison or skipping a block records nothing. -/
theorem Records.of_eq {limits : MatchLimits} {s : MatchState n} {all : List (Decision n)} (h : Records limits s all)
    (total : Nat) (skipped : List (SkippedBlock n)) :
    Records limits { s with totalComparisonsCount := total, skippedBlocks := skipped } all :=
  ⟨h.decisions, h.duplicates, h.ambiguous, h.byRule, h.edges, h.uf, h.pending⟩

/-- The pair united, if it is a duplicate, and the decision recorded. -/
def MatchState.accept (limits : MatchLimits) (s : MatchState n) (d : Decision n) : MatchState n :=
  match d.decision with
  | .duplicate => (s.uniteDuplicates d.recordARowIndex d.recordBRowIndex d.totalScore).recordDecision limits d
  | .ambiguous => s.recordDecision limits d

theorem recordDecision_totalComparisonsCount (limits : MatchLimits) (s : MatchState n) (d : Decision n) :
    (s.recordDecision limits d).totalComparisonsCount = s.totalComparisonsCount := by
  unfold MatchState.recordDecision
  dsimp only
  split <;> rfl

theorem recordDecision_skippedBlocks (limits : MatchLimits) (s : MatchState n) (d : Decision n) :
    (s.recordDecision limits d).skippedBlocks = s.skippedBlocks := by
  unfold MatchState.recordDecision
  dsimp only
  split <;> rfl

theorem recordDecision_fields (limits : MatchLimits) (s : MatchState n) (d : Decision n) :
    (s.recordDecision limits d).decisions =
        (if s.decisions.length < limits.maxPersistedDecisions then s.decisions ++ [d] else s.decisions) ∧
      (s.recordDecision limits d).duplicatePairsCount =
        (if d.decision = .duplicate then s.duplicatePairsCount + 1 else s.duplicatePairsCount) ∧
      (s.recordDecision limits d).ambiguousPairsCount =
        (if d.decision = .duplicate then s.ambiguousPairsCount else s.ambiguousPairsCount + 1) ∧
      (s.recordDecision limits d).decisionsByRule =
        Dict.set s.decisionsByRule d.ruleName ((Dict.get? s.decisionsByRule d.ruleName).getD 0 + 1) ∧
      (s.recordDecision limits d).duplicateEdges = s.duplicateEdges ∧
      (s.recordDecision limits d).uf = s.uf ∧
      (s.recordDecision limits d).pendingDuplicateEdgePositions =
        (if s.decisions.length < limits.maxPersistedDecisions ∧ d.decision = .duplicate then
          s.pendingDuplicateEdgePositions ++ [s.decisions.length] else s.pendingDuplicateEdgePositions) := by
  unfold MatchState.recordDecision
  dsimp only
  split
  · rename_i h
    refine ⟨rfl, rfl, rfl, rfl, rfl, rfl, ?_⟩
    by_cases hd : d.decision = .duplicate <;> simp [h, hd]
  · rename_i h
    refine ⟨rfl, rfl, rfl, rfl, rfl, rfl, ?_⟩
    simp [h]

theorem accept_fields (limits : MatchLimits) (s : MatchState n) (d : Decision n) :
    (s.accept limits d).duplicateEdges = s.duplicateEdges ++ duplicateEdgesOf [d] ∧
      (s.accept limits d).uf =
        (if d.decision = .duplicate then s.uf.union d.recordARowIndex d.recordBRowIndex else s.uf) ∧
      ((s.accept limits d).decisions = (s.recordDecision limits d).decisions ∧
        (s.accept limits d).duplicatePairsCount = (s.recordDecision limits d).duplicatePairsCount ∧
        (s.accept limits d).ambiguousPairsCount = (s.recordDecision limits d).ambiguousPairsCount ∧
        (s.accept limits d).decisionsByRule = (s.recordDecision limits d).decisionsByRule ∧
        (s.accept limits d).pendingDuplicateEdgePositions =
          (s.recordDecision limits d).pendingDuplicateEdgePositions) := by
  have hrec := recordDecision_fields limits s d
  have hrec' := recordDecision_fields limits (s.uniteDuplicates d.recordARowIndex d.recordBRowIndex d.totalScore) d
  obtain ⟨h1, h2, h3, h4, h5, h6, h7⟩ := hrec
  obtain ⟨h1', h2', h3', h4', h5', h6', h7'⟩ := hrec'
  unfold MatchState.accept duplicateEdgesOf
  cases hd : d.decision with
  | duplicate =>
    -- uniting the pair touches none of the fields `recordDecision` reads
    refine ⟨h5'.trans ?_, h6', h1'.trans h1.symm, h2'.trans h2.symm, h3'.trans h3.symm, h4'.trans h4.symm,
      h7'.trans h7.symm⟩
    simp [hd, MatchState.uniteDuplicates, Decision.edge]
  | ambiguous => exact ⟨by simp [h5, hd], h6, rfl, rfl, rfl, rfl, rfl⟩

/-- **One accepted decision extends the records by it.** -/
theorem Records.accept {limits : MatchLimits} {s : MatchState n} {all : List (Decision n)} (h : Records limits s all)
    (d : Decision n) : Records limits (s.accept limits d) (all ++ [d]) := by
  obtain ⟨hd, hdup, hamb, hrule, -, -, hpend⟩ := recordDecision_fields limits s d
  obtain ⟨hedges, huf, hdec', hdup', hamb', hrule', hpend'⟩ := accept_fields limits s d
  have hdecs : (s.accept limits d).decisions = (all ++ [d]).take limits.maxPersistedDecisions := by
    rw [hdec', hd, take_concat_eq, h.decisions]
  refine ⟨hdecs, ?_, ?_, fun rule => ?_, ?_, ?_, fun pos => ?_⟩
  · rw [hdup', hdup, h.duplicates, List.countP_append]
    by_cases hdd : d.decision = .duplicate <;> simp [hdd]
  · rw [hamb', hamb, h.ambiguous, List.countP_append]
    cases hdd : d.decision <;> simp [hdd]
  · rw [hrule', hrule, Dict.get?_set, List.countP_append]
    by_cases hr : d.ruleName = rule
    · subst hr
      simp [h.byRule]
    · simp [hr, h.byRule]
  · rw [hedges, h.edges]
    unfold duplicateEdgesOf
    rw [List.filter_append, List.map_append]
  · rw [huf, hedges, h.uf, List.map_append]
    unfold duplicateEdgesOf
    by_cases hdd : d.decision = .duplicate
    · rw [if_pos hdd]
      simp [hdd, UnionFind.unions_concat, Decision.edge]
    · rw [if_neg hdd]
      simp [hdd]
  · rw [hpend', hpend, hdec', hd]
    by_cases hlt : s.decisions.length < limits.maxPersistedDecisions
    · rw [if_pos hlt]
      by_cases hdd : d.decision = .duplicate
      · rw [if_pos ⟨hlt, hdd⟩, List.mem_append, List.mem_singleton, h.pending]
        by_cases hpos : pos < s.decisions.length
        · rw [List.getElem?_append_left hpos]
          exact or_iff_left (Nat.ne_of_lt hpos)
        · rw [List.getElem?_append_right (Nat.not_lt.1 hpos), List.getElem?_eq_none (Nat.not_lt.1 hpos)]
          rcases Nat.eq_or_lt_of_le (Nat.not_lt.1 hpos) with heq | hgt
          · simp [← heq, hdd]
          · have hne : pos - s.decisions.length ≠ 0 := by omega
            simp only [reduceCtorEq, false_and, exists_false, false_or]
            refine iff_of_false (Nat.ne_of_gt hgt) ?_
            rintro ⟨d', hd', -⟩
            rw [List.getElem?_eq_none (by simp; omega)] at hd'
            cases hd'
      · rw [if_neg (fun hh => hdd hh.2), h.pending]
        by_cases hpos : pos < s.decisions.length
        · rw [List.getElem?_append_left hpos]
        · rw [List.getElem?_append_right (Nat.not_lt.1 hpos), List.getElem?_eq_none (Nat.not_lt.1 hpos)]
          simp only [reduceCtorEq, false_and, exists_false, false_iff, not_exists, not_and]
          intro d' hd'
          obtain rfl : d' = d := List.mem_singleton.1 (List.mem_of_getElem? hd')
          exact hdd
    · rw [if_neg hlt, if_neg (fun hh => hlt hh.1), h.pending]

/-- Accepting a list of decisions, with comparisons counted in between. -/
theorem Records.fold {limits : MatchLimits} {α : Type} (step : MatchState n → α → MatchState n)
    (out : α → List (Decision n))
    (hstep : ∀ (s : MatchState n) (all : List (Decision n)) (a : α), Records limits s all →
      Records limits (step s a) (all ++ out a)) :
    ∀ (l : List α) (s : MatchState n) (all : List (Decision n)), Records limits s all →
      Records limits (l.foldl step s) (all ++ l.flatMap out)
  | [], s, all, h => by simpa using h
  | a :: l, s, all, h => by
    rw [List.foldl_cons, List.flatMap_cons, ← List.append_assoc]
    exact Records.fold step out hstep l (step s a) (all ++ out a) (hstep s all a h)

/-! ## Stage 1 -/

section
variable (t : Table)

/-- The rows identical to row `i`. -/
def exactGroup (i : t.RowIndex) : List t.RowIndex :=
  (List.finRange t.rows.length).filter (fun j => t.row j = t.row i)

variable {t}

theorem mem_exactGroup {i j : t.RowIndex} : j ∈ exactGroup t i ↔ t.row j = t.row i := by
  simp [exactGroup]

theorem self_mem_exactGroup (i : t.RowIndex) : i ∈ exactGroup t i := mem_exactGroup.2 rfl

theorem exactGroup_congr {i j : t.RowIndex} (h : t.row i = t.row j) : exactGroup t i = exactGroup t j := by
  unfold exactGroup; rw [h]

/-- The sets of identical rows are the rows' exact groups. -/
theorem mem_values_exactGroups {l : List t.RowIndex} : l ∈ Dict.values (exactGroups t) ↔ ∃ i, l = exactGroup t i := by
  unfold Dict.values exactGroups
  rw [List.mem_map]
  constructor
  · rintro ⟨⟨key, vs⟩, hmem, rfl⟩
    obtain ⟨hvs, hne⟩ := Dict.mem_collect.1 hmem
    obtain ⟨i, hi⟩ := List.exists_mem_of_ne_nil vs hne
    have hkey : t.row i = key := by
      rw [hvs] at hi
      simpa using (List.mem_filter.1 hi).2
    exact ⟨i, by rw [hvs, ← hkey]; rfl⟩
  · rintro ⟨i, rfl⟩
    exact ⟨(t.row i, exactGroup t i), Dict.mem_collect.2 ⟨rfl, List.ne_nil_of_mem (self_mem_exactGroup i)⟩, rfl⟩

/-- The least row identical to row `i`. -/
def representative (i : t.RowIndex) : t.RowIndex :=
  (exactGroup t i).head (List.ne_nil_of_mem (self_mem_exactGroup i))

theorem representative_row (i : t.RowIndex) : t.row (representative i) = t.row i :=
  mem_exactGroup.1 (List.head_mem _)

theorem representative_congr {i j : t.RowIndex} (h : t.row i = t.row j) : representative i = representative j := by
  unfold representative
  simp only [exactGroup_congr h]

theorem representative_representative (i : t.RowIndex) : representative (representative i) = representative i :=
  representative_congr (representative_row i)

variable (t)

/-- The decisions on one set of identical rows. -/
def chainDecisions (indices : List t.RowIndex) : List (Decision t.rows.length) :=
  (indices.zip indices.tail).map (fun p => exactDecision t indices.length p.1 p.2)

/-- **What the first stage records.** -/
def exactDecisions : List (Decision t.rows.length) := (Dict.values (exactGroups t)).flatMap (chainDecisions t)

variable {t}

theorem chainLink_records {limits : MatchLimits} (k : Nat) (s : MatchState t.rows.length)
    (all : List (Decision t.rows.length)) (p : t.RowIndex × t.RowIndex) (h : Records limits s all) :
    Records limits (chainLink t limits k s p) (all ++ [exactDecision t k p.1 p.2]) :=
  (h.of_eq (s.totalComparisonsCount + 1) s.skippedBlocks).accept (exactDecision t k p.1 p.2)

theorem exactGroupStep_records {limits : MatchLimits} (s : MatchState t.rows.length)
    (reps : t.RowIndex → Option t.RowIndex) (all : List (Decision t.rows.length)) (i : t.RowIndex)
    (h : Records limits s all) :
    Records limits (exactGroupStep t limits (s, reps) (exactGroup t i)).1
      (all ++ chainDecisions t (exactGroup t i)) := by
  unfold exactGroupStep
  split
  · rename_i hlen
    have hnil : chainDecisions t (exactGroup t i) = [] := by
      unfold chainDecisions
      match exactGroup t i, hlen with
      | [], _ => rfl
      | [_], _ => rfl
      | _ :: _ :: _, h => simp only [List.length_cons] at h; omega
    rw [hnil, List.append_nil]
    exact h
  · have hsort : (exactGroup t i).insertionSort (· ≤ ·) = exactGroup t i := finRange_filter_insertionSort _
    dsimp only
    rw [hsort]
    have := Records.fold (chainLink t limits (exactGroup t i).length)
      (fun p => [exactDecision t (exactGroup t i).length p.1 p.2]) (chainLink_records _)
      ((exactGroup t i).zip (exactGroup t i).tail) s all h
    rwa [← List.map_eq_flatMap] at this

theorem exactGroupStep_representative {limits : MatchLimits}
    (acc : MatchState t.rows.length × (t.RowIndex → Option t.RowIndex)) (i j : t.RowIndex) :
    (exactGroupStep t limits acc (exactGroup t i)).2 j =
      if 2 ≤ (exactGroup t i).length ∧ t.row j = t.row i then some (representative j) else acc.2 j := by
  unfold exactGroupStep
  by_cases hlen : (exactGroup t i).length < 2
  · rw [if_pos hlen, if_neg (fun h => Nat.not_lt.2 h.1 hlen)]
  · have hsort : (exactGroup t i).insertionSort (· ≤ ·) = exactGroup t i := finRange_filter_insertionSort _
    rw [if_neg hlen]
    dsimp only
    rw [hsort]
    by_cases hrow : t.row j = t.row i
    · rw [if_pos (mem_exactGroup.2 hrow), if_pos ⟨Nat.not_lt.1 hlen, hrow⟩, representative_congr hrow]
      exact List.head?_eq_some_head _
    · rw [if_neg (fun h => hrow (mem_exactGroup.1 h)), if_neg (fun h => hrow h.2)]

/-- **The first stage**: it records the exact decisions, and maps the rows that have duplicates to the least of them. -/
theorem stage1_spec (limits : MatchLimits) :
    Records limits (stage1 t limits).1 (exactDecisions t) ∧
      ∀ j, (stage1 t limits).2 j = if 2 ≤ (exactGroup t j).length then some (representative j) else none := by
  have hfold : ∀ (vs : List (List t.RowIndex)), (∀ v ∈ vs, ∃ i, v = exactGroup t i) →
      ∀ (acc : MatchState t.rows.length × (t.RowIndex → Option t.RowIndex)) (all : List (Decision t.rows.length)),
        Records limits acc.1 all →
        Records limits (vs.foldl (exactGroupStep t limits) acc).1 (all ++ vs.flatMap (chainDecisions t)) ∧
          ∀ j, (vs.foldl (exactGroupStep t limits) acc).2 j =
            if exactGroup t j ∈ vs ∧ 2 ≤ (exactGroup t j).length then some (representative j) else acc.2 j := by
    intro vs
    induction vs with
    | nil => intro _ acc all h; exact ⟨by simpa using h, fun j => by simp⟩
    | cons v vs ih =>
      intro hvs acc all h
      obtain ⟨i, rfl⟩ := hvs v List.mem_cons_self
      obtain ⟨hrec, hrep⟩ := ih (fun v hv => hvs v (List.mem_cons_of_mem _ hv)) _ _
        (exactGroupStep_records acc.1 acc.2 all i h)
      rw [List.foldl_cons, List.flatMap_cons, ← List.append_assoc]
      refine ⟨hrec, fun j => ?_⟩
      rw [hrep j, exactGroupStep_representative]
      have hiff : exactGroup t j = exactGroup t i ↔ t.row j = t.row i := by
        refine ⟨fun heq => ?_, exactGroup_congr⟩
        have hj := self_mem_exactGroup j
        rw [heq] at hj
        exact mem_exactGroup.1 hj
      by_cases hlen : 2 ≤ (exactGroup t j).length
      · by_cases hrow : t.row j = t.row i
        · have hlen' : 2 ≤ (exactGroup t i).length := by rw [← exactGroup_congr hrow]; exact hlen
          simp [hlen', hrow, hiff.2 hrow]
        · simp [hlen, hrow, List.mem_cons, hiff]
      · have hno : ¬ (2 ≤ (exactGroup t i).length ∧ t.row j = t.row i) := fun h =>
          hlen (by rw [exactGroup_congr h.2]; exact h.1)
        simp [hlen, hno]
  obtain ⟨hrec, hrep⟩ := hfold (Dict.values (exactGroups t)) (fun v hv => mem_values_exactGroups.1 hv)
    (MatchState.start _, fun _ => none) [] (Records.start limits _)
  refine ⟨hrec, fun j => ?_⟩
  have hmem : exactGroup t j ∈ Dict.values (exactGroups t) := mem_values_exactGroups.2 ⟨j, rfl⟩
  exact (hrep j).trans (by simp [hmem])

/-! ## The candidates of the second stage -/

/-- **The loop collects each representative once.** -/
theorem candidateStep_fold {reps : Fin n → Option (Fin n)} {rep : Fin n → Fin n}
    (hnone : ∀ i, reps i = none → rep i = i ∧ ∀ j, rep j = i → j = i) (hsome : ∀ i r, reps i = some r → r = rep i) :
    ∀ l : List (Fin n), l.Nodup →
      (∀ j, j ∈ (l.foldl (candidateStep reps) ([], [])).1 ↔ ∃ i ∈ l, rep i = j) ∧
      (∀ j, j ∈ (l.foldl (candidateStep reps) ([], [])).2 ↔ ∃ i ∈ l, reps i ≠ none ∧ rep i = j) ∧
      (l.foldl (candidateStep reps) ([], [])).1.Nodup := by
  intro l
  induction l using List.reverseRecOn with
  | nil => simp
  | append_singleton l i ih =>
    intro hnd
    have hi : i ∉ l := fun h => (List.disjoint_of_nodup_append hnd) h (List.mem_singleton_self i)
    obtain ⟨h1, h2, h3⟩ := ih (List.Nodup.of_append_left hnd)
    rw [List.foldl_append, List.foldl_cons, List.foldl_nil]
    generalize l.foldl (candidateStep reps) ([], []) = acc at h1 h2 h3
    unfold candidateStep
    split
    · rename_i hr
      obtain ⟨hself, honly⟩ := hnone i hr
      have hnot : i ∉ acc.1 := fun h => by
        obtain ⟨i', hi', hrep⟩ := (h1 i).1 h
        exact hi (honly i' hrep ▸ hi')
      refine ⟨fun j => ?_, fun j => ?_, h3.append (List.nodup_singleton i) (List.disjoint_singleton.2 hnot)⟩
      · rw [exists_mem_concat, List.mem_append, List.mem_singleton, h1, hself, eq_comm (a := j)]
      · rw [exists_mem_concat, h2, or_iff_left (fun h => h.1 hr)]
    · rename_i r hr
      have hrep := hsome i r hr
      split
      · rename_i hseen
        obtain ⟨i', hi', hne', hrep'⟩ := (h2 r).1 hseen
        refine ⟨fun j => ?_, fun j => ?_, h3⟩
        · rw [exists_mem_concat, h1]
          refine ⟨.inl, ?_⟩
          rintro (h | rfl)
          · exact h
          · exact ⟨i', hi', hrep'.trans hrep⟩
        · rw [exists_mem_concat, h2]
          refine ⟨.inl, ?_⟩
          rintro (h | ⟨-, rfl⟩)
          · exact h
          · exact ⟨i', hi', hne', hrep'.trans hrep⟩
      · rename_i hseen
        have hnot : r ∉ acc.1 := fun h => by
          obtain ⟨i', hi', hrep'⟩ := (h1 r).1 h
          by_cases hne : reps i' = none
          · obtain ⟨hself, honly⟩ := hnone i' hne
            have heq : i = i' := honly i (by rw [← hrep, ← hrep', hself])
            exact hi (heq ▸ hi')
          · exact hseen ((h2 r).2 ⟨i', hi', hne, hrep'⟩)
        have hne : reps i ≠ none := by rw [hr]; simp
        refine ⟨fun j => ?_, fun j => ?_, h3.append (List.nodup_singleton r) (List.disjoint_singleton.2 hnot)⟩
        · rw [exists_mem_concat, List.mem_append, List.mem_singleton, h1, hrep, eq_comm (a := j)]
        · rw [exists_mem_concat, List.mem_append, List.mem_singleton, h2, hrep, eq_comm (a := j)]
          exact or_congr_right ⟨fun h => ⟨hne, h⟩, fun h => h.2⟩

theorem exactGroup_eq_singleton {i : t.RowIndex} (h : ¬ 2 ≤ (exactGroup t i).length) : exactGroup t i = [i] := by
  have hmem := self_mem_exactGroup i
  match hg : exactGroup t i, h, hmem with
  | [], _, hm => cases hm
  | [x], _, hm => rw [List.mem_singleton.1 hm]
  | _ :: _ :: _, h, _ => exact absurd (by simp) h

/-- **The candidates are the representatives, each once, in increasing order.** -/
theorem candidateIndices_spec (limits : MatchLimits) :
    (∀ j, j ∈ candidateIndices (stage1 t limits).2 ↔ representative j = j) ∧
      (candidateIndices (stage1 t limits).2).Pairwise (· < ·) := by
  have hreps := (stage1_spec (t := t) limits).2
  obtain ⟨hmem, -, hnd⟩ := @candidateStep_fold _ (stage1 t limits).2 representative
    (fun i hi => by
      rw [hreps] at hi
      have hlen : ¬ 2 ≤ (exactGroup t i).length := fun h => by rw [if_pos h] at hi; cases hi
      have hsing := exactGroup_eq_singleton hlen
      refine ⟨?_, fun j hj => ?_⟩
      · unfold representative
        simp only [hsing, List.head_cons]
      · have hrow : t.row j = t.row i := by rw [← representative_row j, hj]
        have hj' : j ∈ exactGroup t i := mem_exactGroup.2 hrow
        rw [hsing] at hj'
        exact List.mem_singleton.1 hj')
    (fun i r hr => by
      rw [hreps] at hr
      split at hr
      · exact (Option.some.inj hr).symm
      · cases hr)
    (List.finRange t.rows.length) (List.nodup_finRange _)
  unfold candidateIndices
  refine ⟨fun j => ?_, ?_⟩
  · rw [List.mem_insertionSort, hmem]
    constructor
    · rintro ⟨i, -, rfl⟩
      exact representative_representative i
    · exact fun h => ⟨j, List.mem_finRange j, h⟩
  · have hsorted := List.pairwise_insertionSort (· ≤ ·)
      ((List.finRange t.rows.length).foldl (candidateStep (stage1 t limits).2) ([], [])).1
    have hnd' := ((List.perm_insertionSort (· ≤ ·) _).nodup_iff).2 hnd
    exact (hsorted.and hnd').imp (fun h => lt_of_le_of_ne h.1 h.2)

end

end Matching
end DataOps

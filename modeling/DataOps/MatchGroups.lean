import DataOps.MatchGraph
/-!
# MatchGroups — what `match` returns

From the sets the two stages leave: the groups are the classes of at least two rows, and the confidence of a group is
the least score of an edge inside it.
-/
namespace DataOps
namespace Matching

open Relation (EqvGen)

/-! ## The clustering of any state -/

section
variable {n : Nat}

/-- The elements with one root, in order. -/
def classOf (uf : UnionFind n) (r : Fin n) : List (Fin n) := (List.finRange n).filter (fun x => uf.root x = r)

theorem mem_classOf {uf : UnionFind n} {r x : Fin n} : x ∈ classOf uf r ↔ uf.root x = r := by
  simp [classOf]

theorem classOf_sorted (uf : UnionFind n) (r : Fin n) : (classOf uf r).Pairwise (· < ·) := finRange_filter_sorted _

theorem mem_duplicateComponents {uf : UnionFind n} {c : Fin n × List (Fin n)} :
    c ∈ duplicateComponents uf ↔ c.2 = classOf uf c.1 ∧ 2 ≤ c.2.length := by
  unfold duplicateComponents
  rw [List.mem_filter, List.mem_insertionSort, decide_eq_true_eq]
  constructor
  · rintro ⟨hmem, hlen⟩
    exact ⟨(UnionFind.mem_components.1 hmem).1, hlen⟩
  · rintro ⟨hc, hlen⟩
    refine ⟨UnionFind.mem_components.2 ⟨hc, fun hnil => ?_⟩, hlen⟩
    rw [hnil] at hlen
    exact absurd hlen (by simp)

/-- No component is listed twice. -/
theorem duplicateComponents_nodup (uf : UnionFind n) : ((duplicateComponents uf).map Prod.fst).Nodup := by
  unfold duplicateComponents
  refine List.Nodup.sublist (List.filter_sublist.map _) ?_
  rw [((List.perm_insertionSort _ uf.components).map Prod.fst).nodup_iff, UnionFind.components_eq]
  exact Dict.nodup_keys_collect _ _

/-- **The confidences under a root are those of the edges with that root.** -/
theorem confidencesByRoot_get? (uf : UnionFind n) (edges : List (DuplicateEdge n)) (r : Fin n) :
    ((Dict.get? (confidencesByRoot uf edges) r).getD [] =
        (edges.filter (fun e => uf.root e.a = r)).map (·.confidence)) ∧
      (Dict.get? (confidencesByRoot uf edges) r = none ↔ edges.filter (fun e => uf.root e.a = r) = []) := by
  induction edges using List.reverseRecOn with
  | nil => simp [confidencesByRoot, Dict.get?]
  | append_singleton edges e ih =>
    have hpush : confidencesByRoot uf (edges ++ [e]) =
        Dict.push (confidencesByRoot uf edges) (uf.root e.a) e.confidence := by simp [confidencesByRoot]
    rw [hpush, Dict.get?_push, List.filter_append]
    by_cases h : uf.root e.a = r
    · subst h
      simp [ih.1]
    · simp [h, ih]

/-- **A group's confidence is the least of its edges'.** -/
theorem groupConfidence_isLeast {s : MatchState n} {canonical : Fin n}
    (hne : ∃ e ∈ s.duplicateEdges, s.uf.root e.a = s.uf.root canonical) :
    IsLeast {q | ∃ e ∈ s.duplicateEdges, s.uf.root e.a = s.uf.root canonical ∧ q = e.confidence}
      (groupConfidence s canonical) := by
  obtain ⟨hget, hnone⟩ := confidencesByRoot_get? s.uf s.duplicateEdges (s.uf.root canonical)
  obtain ⟨e₀, he₀, hroot₀⟩ := hne
  have hmem₀ : e₀ ∈ s.duplicateEdges.filter (fun e => s.uf.root e.a = s.uf.root canonical) :=
    List.mem_filter.2 ⟨he₀, by simpa using hroot₀⟩
  unfold groupConfidence
  cases hl : Dict.get? (confidencesByRoot s.uf s.duplicateEdges) (s.uf.root canonical) with
  | none => exact absurd (hnone.1 hl) (List.ne_nil_of_mem hmem₀)
  | some l =>
    rw [hl, Option.getD_some] at hget
    rw [Option.getD_some]
    have hmem : ∀ q, q ∈ l ↔ ∃ e ∈ s.duplicateEdges, s.uf.root e.a = s.uf.root canonical ∧ q = e.confidence := by
      intro q
      rw [hget]
      simp only [List.mem_map, List.mem_filter, decide_eq_true_eq, and_assoc, eq_comm (a := q)]
    cases hmin : l.min? with
    | none =>
      rw [List.min?_eq_none_iff] at hmin
      exact absurd ((hmem e₀.confidence).2 ⟨e₀, he₀, hroot₀, rfl⟩) (by rw [hmin]; exact List.not_mem_nil)
    | some q =>
      rw [List.min?_eq_some_iff] at hmin
      rw [Option.getD_some]
      exact ⟨(hmem q).1 hmin.1, fun q' hq' => hmin.2 q' ((hmem q').2 hq')⟩

/-- The group of a component. -/
theorem groupOf_component {s : MatchState n} {c : Fin n × List (Fin n)} (h : c ∈ duplicateComponents s.uf) :
    ∃ canonical, c.2.min? = some canonical ∧
      groupOf s c.2 = some ⟨canonical, classOf s.uf c.1, groupConfidence s canonical⟩ := by
  obtain ⟨hc, hlen⟩ := mem_duplicateComponents.1 h
  cases hmin : c.2.min? with
  | none =>
    rw [List.min?_eq_none_iff] at hmin
    rw [hmin] at hlen
    exact absurd hlen (by simp)
  | some canonical =>
    refine ⟨canonical, rfl, ?_⟩
    unfold groupOf selectCanonical
    rw [hmin, Option.map_some, hc]
    congr 2
    exact List.Pairwise.insertionSort_eq ((classOf_sorted s.uf c.1).imp (fun h => le_of_lt h))

/-- **The groups `match` returns**, in terms of the sets it clusters. -/
theorem mem_groups {s : MatchState n} {g : Group n} :
    g ∈ (matchResult s).groups ↔
      ∃ r, g.memberRowIndices = classOf s.uf r ∧ 2 ≤ g.memberRowIndices.length ∧
        g.memberRowIndices.min? = some g.canonicalRowIndex ∧
        g.confidenceScore = groupConfidence s g.canonicalRowIndex := by
  show g ∈ (duplicateComponents s.uf).filterMap (fun c => groupOf s c.2) ↔ _
  rw [List.mem_filterMap]
  constructor
  · rintro ⟨c, hc, hg⟩
    obtain ⟨canonical, hmin, hgroup⟩ := groupOf_component hc
    obtain ⟨hmem, hlen⟩ := mem_duplicateComponents.1 hc
    rw [hgroup] at hg
    cases hg
    exact ⟨c.1, rfl, by rw [← hmem]; exact hlen, by rw [← hmem]; exact hmin, rfl⟩
  · rintro ⟨r, hmem, hlen, hmin, hconf⟩
    have hc : (r, g.memberRowIndices) ∈ duplicateComponents s.uf := mem_duplicateComponents.2 ⟨hmem, hlen⟩
    refine ⟨_, hc, ?_⟩
    obtain ⟨canonical, hmin', hgroup⟩ := groupOf_component hc
    obtain rfl : g.canonicalRowIndex = canonical := Option.some.inj (hmin.symm.trans hmin')
    obtain ⟨gc, gm, gconf⟩ := g
    dsimp only at hmem hconf
    rw [hgroup]
    subst hmem hconf
    rfl

/-- No two groups share a row. -/
theorem groups_disjoint (s : MatchState n) :
    (matchResult s).groups.Pairwise (fun g g' => ∀ i ∈ g.memberRowIndices, i ∉ g'.memberRowIndices) := by
  show ((duplicateComponents s.uf).filterMap (fun c => groupOf s c.2)).Pairwise _
  rw [List.pairwise_filterMap]
  have hnd := List.pairwise_map.1 (duplicateComponents_nodup s.uf)
  refine List.Pairwise.imp_of_mem (fun {c c'} hc hc' hne g hg g' hg' i hi hi' => ?_) hnd
  obtain ⟨canonical, -, hgroup⟩ := groupOf_component hc
  obtain ⟨canonical', -, hgroup'⟩ := groupOf_component hc'
  rw [hgroup] at hg
  rw [hgroup'] at hg'
  cases hg
  cases hg'
  exact hne ((mem_classOf.1 hi).symm.trans (mem_classOf.1 hi'))

end

/-! ## The state after both stages -/

section
variable (casefold : Str → Str) (t : Table) (ruleSet : Option MatchRuleSetConfig) (limits : MatchLimits)

/-- The state `match` clusters. -/
def matchState : MatchState t.rows.length :=
  stage2 casefold t ruleSet limits (stage1 t limits).2 (stage1 t limits).1

theorem matchRows_eq : matchRows casefold t ruleSet limits = matchResult (matchState casefold t ruleSet limits) := rfl

theorem matchState_records :
    Records limits (matchState casefold t ruleSet limits) (allDecisions casefold t ruleSet limits) :=
  stage2_records ruleSet (stage1_spec limits).1

variable {casefold t ruleSet limits}

theorem matchState_edges : (matchState casefold t ruleSet limits).duplicateEdges = allEdges casefold t ruleSet limits :=
  (matchState_records casefold t ruleSet limits).edges

/-- **Two rows end up in one set exactly when the duplicate graph connects them.** -/
theorem root_eq_iff_reachable {i j : t.RowIndex} :
    (matchState casefold t ruleSet limits).uf.root i = (matchState casefold t ruleSet limits).uf.root j ↔
      (matchGraph casefold t ruleSet limits.maxBlockSize).Reachable i j := by
  rw [(matchState_records casefold t ruleSet limits).uf, UnionFind.root_unions_eq_iff, matchState_edges]
  exact united_iff_reachable

/-- The class of a row is the connected component it lies in. -/
theorem classOf_eq_supp (r : t.RowIndex) (hr : (matchState casefold t ruleSet limits).uf.root r = r) :
    {i | i ∈ classOf (matchState casefold t ruleSet limits).uf r} =
      ((matchGraph casefold t ruleSet limits.maxBlockSize).connectedComponentMk r).supp := by
  ext i
  rw [Set.mem_ofPred_eq, mem_classOf, SimpleGraph.ConnectedComponent.mem_supp_iff, SimpleGraph.ConnectedComponent.eq,
    ← root_eq_iff_reachable, hr]

/-- Two rows of one class lie on edges with that root. -/
theorem exists_edge_of_class {r i j : t.RowIndex} (hi : (matchState casefold t ruleSet limits).uf.root i = r)
    (hj : (matchState casefold t ruleSet limits).uf.root j = r) (hne : i ≠ j) :
    ∃ e ∈ allEdges casefold t ruleSet limits, (matchState casefold t ruleSet limits).uf.root e.a = r := by
  have hreach := root_eq_iff_reachable.1 (hi.trans hj.symm)
  rw [SimpleGraph.reachable_iff_reflTransGen] at hreach
  rcases Relation.ReflTransGen.cases_head hreach with heq | ⟨k, hadj, -⟩
  · exact absurd heq hne
  · obtain ⟨-, e, he, hconn, -⟩ := edge_complete hadj
    exact ⟨e, he, (root_eq_iff_reachable.2 (united_iff_reachable.1 hconn)).symm.trans hi⟩

/-- The confidence of a group, over the edges of the duplicate graph inside it. -/
theorem confidence_isLeast {g : Group t.rows.length} (hg : g ∈ (matchRows casefold t ruleSet limits).groups) :
    IsLeast {q | ∃ i ∈ g.memberRowIndices, ∃ j ∈ g.memberRowIndices,
        (matchGraph casefold t ruleSet limits.maxBlockSize).Adj i j ∧ q = edgeScore casefold t ruleSet i j}
      g.confidenceScore := by
  rw [matchRows_eq] at hg
  obtain ⟨r, hmem, hlen, hmin, hconf⟩ := mem_groups.1 hg
  have hmemr : ∀ i, i ∈ g.memberRowIndices ↔ (matchState casefold t ruleSet limits).uf.root i = r := fun i => by
    rw [hmem, mem_classOf]
  have hcanon := (hmemr _).1 (List.min?_eq_some_iff.1 hmin).1
  have hedge : ∃ e ∈ (matchState casefold t ruleSet limits).duplicateEdges,
      (matchState casefold t ruleSet limits).uf.root e.a =
        (matchState casefold t ruleSet limits).uf.root g.canonicalRowIndex := by
    obtain ⟨i, hi, j, hj, hne⟩ := exists_ne_of_two_le_length
      (by rw [hmem]; exact (classOf_sorted _ r).imp (fun h => ne_of_lt h)) hlen
    obtain ⟨e, he, hroot⟩ := exists_edge_of_class ((hmemr i).1 hi) ((hmemr j).1 hj) hne
    exact ⟨e, by rw [matchState_edges]; exact he, hroot.trans hcanon.symm⟩
  obtain ⟨⟨e, he, hroot, heq⟩, hle⟩ := groupConfidence_isLeast hedge
  rw [← hconf] at heq hle
  constructor
  · rw [matchState_edges] at he
    obtain ⟨hadj, hscore⟩ := edge_sound he
    have ha : (matchState casefold t ruleSet limits).uf.root e.a = r := hroot.trans hcanon
    refine ⟨e.a, (hmemr _).2 ha, e.b, (hmemr _).2 ?_, hadj, heq.trans hscore⟩
    exact (root_eq_iff_reachable.2 hadj.reachable).symm.trans ha
  · rintro q ⟨i, hi, j, -, hadj, rfl⟩
    obtain ⟨-, e, he, hconn, hscore⟩ := edge_complete hadj
    refine hle ⟨e, by rw [matchState_edges]; exact he, ?_, hscore.symm⟩
    exact ((root_eq_iff_reachable.2 (united_iff_reachable.1 hconn)).symm.trans ((hmemr i).1 hi)).trans hcanon.symm

/-- A decision of the ambiguous band is on no edge. -/
theorem ambiguous_not_adj {d : Decision t.rows.length} (h : d ∈ allDecisions casefold t ruleSet limits)
    (hamb : d.decision = .ambiguous) :
    ¬ (matchGraph casefold t ruleSet limits.maxBlockSize).Adj d.recordARowIndex d.recordBRowIndex := by
  obtain ⟨-, -, ⟨-, hdup, -⟩ | ⟨hrow, -, hiff⟩⟩ := mem_allDecisions h
  · rw [hamb] at hdup; cases hdup
  · rintro ⟨-, hadj⟩
    have := hiff.2 (hadj.resolve_left hrow)
    rw [hamb] at this; cases this

end

/-- **The engine refines the naive definition of a duplicate**: its groups are the connected components of at least two
rows of the duplicate graph on all rows, pairwise disjoint; each has its least row as canonical row, and the least score
of an edge inside it as confidence; and a pair scored below the duplicate threshold is no edge. -/
theorem match_groups_components (casefold : Str → Str) (t : Table) (ruleSet : Option MatchRuleSetConfig)
    (limits : MatchLimits) :
    let G := matchGraph casefold t ruleSet limits.maxBlockSize
    let result := matchRows casefold t ruleSet limits
    {S : Set t.RowIndex | ∃ g ∈ result.groups, S = {i | i ∈ g.memberRowIndices}} =
      {S : Set t.RowIndex | ∃ C : G.ConnectedComponent, S = C.supp ∧ S.Nontrivial} ∧
    result.groups.Pairwise (fun g g' => ∀ i ∈ g.memberRowIndices, i ∉ g'.memberRowIndices) ∧
    (∀ g ∈ result.groups,
      g.memberRowIndices.Nodup ∧ IsLeast {i | i ∈ g.memberRowIndices} g.canonicalRowIndex ∧
      IsLeast {q | ∃ i ∈ g.memberRowIndices, ∃ j ∈ g.memberRowIndices, G.Adj i j ∧ q = edgeScore casefold t ruleSet i j}
        g.confidenceScore) ∧
    (∀ rs, ruleSet = some rs → ∀ i j, t.row i ≠ t.row j →
      (comparePair casefold t i j rs.fields).2 < rs.duplicateThreshold → ¬ G.Adj i j) ∧
    (∀ d ∈ allDecisions casefold t ruleSet limits, d.decision = .ambiguous →
      ¬ G.Adj d.recordARowIndex d.recordBRowIndex) := by
  refine ⟨?_, groups_disjoint _, fun g hg => ⟨?_, ?_, confidence_isLeast hg⟩, ?_, fun d hd => ambiguous_not_adj hd⟩
  · rw [matchRows_eq]
    ext S
    constructor
    · rintro ⟨g, hg, rfl⟩
      obtain ⟨r, hmem, hlen, -, -⟩ := mem_groups.1 hg
      obtain ⟨i, hi, j, hj, hne⟩ := exists_ne_of_two_le_length
        (by rw [hmem]; exact (classOf_sorted _ r).imp (fun h => ne_of_lt h)) hlen
      have hr : (matchState casefold t ruleSet limits).uf.root r = r := by
        rw [hmem, mem_classOf] at hi
        rw [← hi, UnionFind.root_root]
      refine ⟨(matchGraph casefold t ruleSet limits.maxBlockSize).connectedComponentMk r, ?_, i, hi, j, hj, hne⟩
      rw [hmem]
      exact classOf_eq_supp r hr
    · rintro ⟨C, rfl, hnon⟩
      obtain ⟨i, hi, j, hj, hne⟩ := hnon
      let r := (matchState casefold t ruleSet limits).uf.root i
      have hr : (matchState casefold t ruleSet limits).uf.root r = r := UnionFind.root_root _ _
      have hC : C = (matchGraph casefold t ruleSet limits.maxBlockSize).connectedComponentMk r := by
        rw [← hi, SimpleGraph.ConnectedComponent.eq, ← root_eq_iff_reachable]
        exact hr.symm
      have hsupp : C.supp = {i | i ∈ classOf (matchState casefold t ruleSet limits).uf r} := by
        rw [hC, classOf_eq_supp r hr]
      have hlen : 2 ≤ (classOf (matchState casefold t ruleSet limits).uf r).length :=
        two_le_length_of_nontrivial ⟨i, by rw [hsupp] at hi; exact hi, j, by rw [hsupp] at hj; exact hj, hne⟩
      have hc : (r, classOf (matchState casefold t ruleSet limits).uf r) ∈
          duplicateComponents (matchState casefold t ruleSet limits).uf := mem_duplicateComponents.2 ⟨rfl, hlen⟩
      obtain ⟨canonical, -, hgroup⟩ := groupOf_component hc
      exact ⟨_, List.mem_filterMap.2 ⟨_, hc, hgroup⟩, hsupp⟩
  · rw [matchRows_eq] at hg
    obtain ⟨r, hmem, -⟩ := mem_groups.1 hg
    rw [hmem]
    exact (classOf_sorted _ r).imp (fun h => ne_of_lt h)
  · rw [matchRows_eq] at hg
    obtain ⟨r, -, -, hmin, -⟩ := mem_groups.1 hg
    rw [List.min?_eq_some_iff] at hmin
    exact ⟨hmin.1, fun i hi => hmin.2 i hi⟩
  · rintro rs rfl i j hrow hlt ⟨-, hadj⟩
    obtain ⟨rs', field, hblocked, -, -, -, hle⟩ := hadj.resolve_left hrow
    obtain ⟨f, fs, hrs, -, -⟩ := blockedBy_some hblocked
    cases hrs
    exact absurd hlt (not_lt.2 hle)

end Matching
end DataOps

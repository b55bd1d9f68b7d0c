import DataOps.MatchStorable
/-!
# MatchOnce — no pair is decided twice

The first stage decides each later row of a set of identical rows once; the second compares representatives, each pair in
the one block of its value (`allDecisions_pairs`).  So the rows of a decision, and the first row of a group, tell them
apart.
-/
namespace DataOps
namespace Matching

/-- The two rows of a decision. -/
def Decision.pair {n : Nat} (d : Decision n) : Fin n × Fin n := (d.recordARowIndex, d.recordBRowIndex)

theorem nodup_pairsOf {α : Type} : ∀ {l : List α}, l.Nodup → (pairsOf l).Nodup
  | [], _      => List.nodup_nil
  | a :: l, hl => by
    obtain ⟨ha, hl⟩ := List.nodup_cons.1 hl
    have hfst : ∀ (l : List α) (p : α × α), p ∈ pairsOf l → p.1 ∈ l := by
      intro l
      induction l with
      | nil => intro p hp; cases hp
      | cons b l ih =>
        intro p hp
        rcases List.mem_append.1 hp with hp | hp
        · obtain ⟨c, -, rfl⟩ := List.mem_map.1 hp
          exact List.mem_cons_self
        · exact List.mem_cons_of_mem _ (ih p hp)
    rw [pairsOf, List.nodup_append]
    refine ⟨hl.map (fun _ _ h => congrArg Prod.snd h), nodup_pairsOf hl, ?_⟩
    rintro p hp q hq rfl
    obtain ⟨b, -, rfl⟩ := List.mem_map.1 hp
    exact ha (hfst l (a, b) hq)

variable {casefold : Str → Str} {t : Table} {ruleSet : Option MatchRuleSetConfig} {limits : MatchLimits}

/-- A block decides some of its pairs, in their order. -/
theorem blockDecisions_pairs {rs : MatchRuleSetConfig} {field : MatchRuleFieldSpec} {key : Str} :
    ((blockDecisions casefold t rs limits field key).map Decision.pair).Sublist
      (pairsOf (blockMembers casefold t field key)) := by
  unfold blockDecisions
  split
  · exact List.nil_sublist _
  · have hpair : ∀ p : t.RowIndex × t.RowIndex, (scoredDecision casefold t rs key p.1 p.2).map Decision.pair =
        Option.guard (fun p => (scoredDecision casefold t rs key p.1 p.2).isSome) p := by
      intro p
      cases hd : scoredDecision casefold t rs key p.1 p.2 with
      | none => simp [Option.guard, hd]
      | some d =>
        obtain ⟨ha, hb, -⟩ := scoredDecision_spec hd
        simp [Option.guard, hd, Decision.pair, ha, hb]
    rw [List.map_filterMap, funext hpair, List.filterMap_eq_filter]
    exact List.filter_sublist

theorem scoredDecisions_pairs : ((scoredDecisions casefold t ruleSet limits).map Decision.pair).Nodup := by
  cases h : blockedBy ruleSet with
  | none =>
    rw [scoredDecisions_eq_nil h]
    exact List.nodup_nil
  | some block =>
    obtain ⟨rs, field⟩ := block
    rw [scoredDecisions_eq h, List.map_flatMap, List.nodup_flatMap]
    have hmember : ∀ {key : Str} {p : t.RowIndex × t.RowIndex},
        p ∈ (blockDecisions casefold t rs limits field key).map Decision.pair →
          blockingValue casefold t field p.1 = key := by
      intro key p hp
      have hp := (mem_pairsOf (blockMembers_sorted field key)).1 (blockDecisions_pairs.subset hp)
      exact (mem_blockMembers.1 hp.1).2
    refine ⟨fun key _ => ?_, (blockingKeys_sorted field).imp (fun {key key'} hlt p hp hp' => ?_)⟩
    · exact (nodup_pairsOf ((blockMembers_sorted field key).imp (fun h => ne_of_lt h))).sublist blockDecisions_pairs
    · exact ne_of_lt hlt ((hmember hp).symm.trans (hmember hp'))

/-- The pairs of the second stage are of different rows. -/
theorem scoredDecisions_row_ne {d : Decision t.rows.length} (h : d ∈ scoredDecisions casefold t ruleSet limits) :
    t.row d.recordARowIndex ≠ t.row d.recordBRowIndex := by
  cases hblocked : blockedBy ruleSet with
  | none =>
    rw [scoredDecisions_eq_nil hblocked] at h
    cases h
  | some block =>
    obtain ⟨rs, field⟩ := block
    rw [scoredDecisions_eq hblocked] at h
    obtain ⟨key, -, hd⟩ := List.mem_flatMap.1 h
    obtain ⟨ha, hb, hlt⟩ := (mem_pairsOf (blockMembers_sorted field key)).1
      (blockDecisions_pairs.subset (List.mem_map_of_mem hd))
    intro hrow
    refine ne_of_lt hlt ?_
    rw [← (mem_blockMembers.1 ha).1, ← (mem_blockMembers.1 hb).1]
    exact representative_congr hrow

/-- **No pair is decided twice**, neither in one stage nor in both. -/
theorem allDecisions_pairs : ((allDecisions casefold t ruleSet limits).map Decision.pair).Nodup := by
  unfold allDecisions
  rw [List.map_append, List.nodup_append]
  refine ⟨?_, scoredDecisions_pairs, ?_⟩
  · have hlater := exactDecisions_nodup (t := t)
    rw [show Decision.recordBRowIndex = fun d : Decision t.rows.length => d.pair.2 from rfl] at hlater
    exact (List.Nodup.of_map Prod.snd (by rw [List.map_map]; exact hlater))
  · rintro p hp q hq rfl
    obtain ⟨d, hd, rfl⟩ := List.mem_map.1 hp
    obtain ⟨d', hd', heq⟩ := List.mem_map.1 hq
    obtain ⟨i, r, hr, rfl⟩ := mem_exactDecisions.1 hd
    obtain ⟨h1, h2, -⟩ := mem_zip_tail (exactGroup_sorted i) hr
    have hne := scoredDecisions_row_ne hd'
    rw [show d'.recordARowIndex = r.1 from congrArg Prod.fst heq,
      show d'.recordBRowIndex = r.2 from congrArg Prod.snd heq] at hne
    exact hne ((mem_exactGroup.1 h1).trans (mem_exactGroup.1 h2).symm)

theorem matchRows_pairs : ((matchRows casefold t ruleSet limits).decisions.map Decision.pair).Nodup := by
  have hwired : ∀ d : Decision t.rows.length, (wired (matchState casefold t ruleSet limits) d).pair = d.pair := by
    intro d
    obtain ⟨ha, hb, -⟩ := wired_columns (matchState casefold t ruleSet limits) d
    exact Prod.ext ha hb
  rw [matchRows_decisions, List.map_map, show Decision.pair ∘ wired (matchState casefold t ruleSet limits) = Decision.pair
    from funext hwired]
  exact allDecisions_pairs.sublist ((List.take_sublist _ _).map _)

theorem matchRows_canonical : ((matchRows casefold t ruleSet limits).groups.map Group.canonicalRowIndex).Nodup := by
  rw [matchRows_eq]
  refine List.pairwise_map.2 ((groups_disjoint (matchState casefold t ruleSet limits)).imp_of_mem ?_)
  intro g g' hg hg' hdisjoint heq
  obtain ⟨r, -, -, hmin, -⟩ := mem_groups.1 hg
  obtain ⟨r', -, -, hmin', -⟩ := mem_groups.1 hg'
  exact hdisjoint _ (List.min?_mem hmin) (heq ▸ List.min?_mem hmin')

end Matching
end DataOps

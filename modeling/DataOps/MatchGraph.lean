import DataOps.MatchPairs
import Mathlib.Combinatorics.SimpleGraph.Connectivity.Connected
import Mathlib.Order.Bounds.Basic
/-!
# MatchGraph — the groups are the connected components of the duplicate graph

`matchGraph` says what a duplicate is, on all pairs of rows: identical, or scored at the threshold within one block.
The engine looks at few of these pairs.  Each pair it unites is an edge with the same score (`edge_sound`), and each
edge is covered by the pairs it unites (`edge_complete`): a row is linked to its representative by a chain of identical
rows, and two representatives are compared whenever their rows are.
-/
namespace DataOps
namespace Matching

open Relation (EqvGen)

variable (casefold : Str → Str) (t : Table)

/-! ## What a duplicate is -/

/-- The contents of the rows with a blocking value. -/
def distinctRows (field : MatchRuleFieldSpec) (key : Str) : Finset (List Str) :=
  (Finset.univ.filter (fun i => blockingValue casefold t field i = key)).image t.row

/-- The rule set the second stage works with, and its blocking field. -/
def blockedBy : Option MatchRuleSetConfig → Option (MatchRuleSetConfig × MatchRuleFieldSpec)
  | none         => none
  | some ruleSet =>
    match ruleSet.fields with
    | []              => none
    | field :: fields => some (ruleSet, selectBlockingField field fields)

/-- Two rows of one block, not too large, that score the duplicate threshold. -/
def ScoredDuplicates (ruleSet : Option MatchRuleSetConfig) (maxBlockSize : Nat) (i j : t.RowIndex) : Prop :=
  ∃ rs field, blockedBy ruleSet = some (rs, field) ∧
    blockingValue casefold t field i ≠ [] ∧ blockingValue casefold t field i = blockingValue casefold t field j ∧
    (distinctRows casefold t field (blockingValue casefold t field i)).card ≤ maxBlockSize ∧
    rs.duplicateThreshold ≤ (comparePair casefold t i j rs.fields).2

variable {casefold t} in
theorem ScoredDuplicates.symm {ruleSet : Option MatchRuleSetConfig} {maxBlockSize : Nat} {i j : t.RowIndex}
    (h : ScoredDuplicates casefold t ruleSet maxBlockSize i j) :
    ScoredDuplicates casefold t ruleSet maxBlockSize j i := by
  obtain ⟨rs, field, hrs, hne, heq, hsize, hscore⟩ := h
  exact ⟨rs, field, hrs, heq ▸ hne, heq.symm, heq ▸ hsize, by rw [comparePair_symm]; exact hscore⟩

/-- **The duplicate graph**, on all rows. -/
def matchGraph (ruleSet : Option MatchRuleSetConfig) (maxBlockSize : Nat) : SimpleGraph t.RowIndex where
  Adj i j := i ≠ j ∧ (t.row i = t.row j ∨ ScoredDuplicates casefold t ruleSet maxBlockSize i j)
  symm := ⟨fun _ _ h => ⟨h.1.symm, h.2.imp Eq.symm ScoredDuplicates.symm⟩⟩
  loopless := ⟨fun _ h => h.1 rfl⟩

/-- The score of an edge; identical rows score one. -/
def edgeScore (ruleSet : Option MatchRuleSetConfig) (i j : t.RowIndex) : ℚ :=
  if t.row i = t.row j then 1
  else
    match ruleSet with
    | some rs => (comparePair casefold t i j rs.fields).2
    | none    => 0

variable {casefold t}

theorem blockedBy_some {ruleSet : Option MatchRuleSetConfig} {rs : MatchRuleSetConfig} {field : MatchRuleFieldSpec}
    (h : blockedBy ruleSet = some (rs, field)) :
    ∃ f fs, ruleSet = some rs ∧ rs.fields = f :: fs ∧ field = selectBlockingField f fs := by
  unfold blockedBy at h
  split at h
  · cases h
  · rename_i rs'
    split at h
    · cases h
    · rename_i f fs hf
      cases h
      exact ⟨f, fs, rfl, hf, rfl⟩

theorem blockedBy_none {ruleSet : Option MatchRuleSetConfig} (h : blockedBy ruleSet = none) :
    ruleSet = none ∨ ∃ rs, ruleSet = some rs ∧ rs.fields = [] := by
  unfold blockedBy at h
  split at h
  · exact .inl rfl
  · rename_i rs
    split at h
    · rename_i hfields
      exact .inr ⟨rs, rfl, hfields⟩
    · cases h

/-- **A block has one member for each distinct row with its value.** -/
theorem blockMembers_length (field : MatchRuleFieldSpec) (key : Str) :
    (blockMembers casefold t field key).length = (distinctRows casefold t field key).card := by
  have hnd : ((blockMembers casefold t field key).map t.row).Nodup := by
    refine List.Nodup.map_on (fun i hi j hj hrow => ?_) ((blockMembers_sorted field key).imp (fun h => ne_of_lt h))
    rw [← (mem_blockMembers.1 hi).1, ← (mem_blockMembers.1 hj).1]
    exact representative_congr hrow
  have heq : ((blockMembers casefold t field key).map t.row).toFinset = distinctRows casefold t field key := by
    ext row
    simp only [distinctRows, List.mem_toFinset, List.mem_map, Finset.mem_image, Finset.mem_filter, Finset.mem_univ,
      true_and, mem_blockMembers]
    constructor
    · rintro ⟨i, ⟨-, hi⟩, rfl⟩
      exact ⟨i, hi, rfl⟩
    · rintro ⟨i, hi, rfl⟩
      refine ⟨representative i, ⟨representative_representative i, ?_⟩, representative_row i⟩
      rw [blockingValue_congr (representative_row i), hi]
  rw [← heq, List.toFinset_card_of_nodup hnd, List.length_map]

/-! ## Chains -/

/-- **A chain connects all its elements.** -/
theorem chain_connects {α : Type} {r : α → α → Prop} : ∀ {x : α} {l : List α},
    (∀ p ∈ (x :: l).zip l, r p.1 p.2) → ∀ y ∈ x :: l, EqvGen r x y
  | x, [], _, y, hy => by
    rw [List.mem_singleton.1 hy]
    exact .refl x
  | x, z :: l, h, y, hy => by
    rcases List.mem_cons.1 hy with rfl | hy
    · exact .refl y
    · refine .trans _ z _ (.rel _ _ (h (x, z) List.mem_cons_self)) ?_
      exact chain_connects (fun p hp => h p (List.mem_cons_of_mem _ hp)) y hy

/-! ## The pairs the engine unites -/

variable (casefold t)

/-- Every decision `match` records, the persisted ones and the others. -/
def allDecisions (ruleSet : Option MatchRuleSetConfig) (limits : MatchLimits) : List (Decision t.rows.length) :=
  exactDecisions t ++ scoredDecisions casefold t ruleSet limits

/-- Every pair `match` unites. -/
def allEdges (ruleSet : Option MatchRuleSetConfig) (limits : MatchLimits) : List (DuplicateEdge t.rows.length) :=
  duplicateEdgesOf (allDecisions casefold t ruleSet limits)

/-- United by `match`, in one pair. -/
def United (ruleSet : Option MatchRuleSetConfig) (limits : MatchLimits) (i j : t.RowIndex) : Prop :=
  (i, j) ∈ (allEdges casefold t ruleSet limits).map (fun e => (e.a, e.b))

variable {casefold t}

theorem mem_exactDecisions {d : Decision t.rows.length} :
    d ∈ exactDecisions t ↔ ∃ i, ∃ p ∈ (exactGroup t i).zip (exactGroup t i).tail,
      d = exactDecision t (exactGroup t i).length p.1 p.2 := by
  unfold exactDecisions chainDecisions
  rw [List.mem_flatMap]
  constructor
  · rintro ⟨l, hl, hd⟩
    obtain ⟨i, rfl⟩ := mem_values_exactGroups.1 hl
    obtain ⟨p, hp, rfl⟩ := List.mem_map.1 hd
    exact ⟨i, p, hp, rfl⟩
  · rintro ⟨i, p, hp, rfl⟩
    exact ⟨_, mem_values_exactGroups.2 ⟨i, rfl⟩, List.mem_map.2 ⟨p, hp, rfl⟩⟩

theorem exactGroup_sorted (i : t.RowIndex) : (exactGroup t i).Pairwise (· < ·) := finRange_filter_sorted _

/-- **Every decision relates two different rows**, the lesser first: identical ones, or two distinct rows of one block
within the limit. -/
theorem mem_allDecisions {ruleSet : Option MatchRuleSetConfig} {limits : MatchLimits} {d : Decision t.rows.length}
    (h : d ∈ allDecisions casefold t ruleSet limits) :
    d.recordARowIndex < d.recordBRowIndex ∧ d.groupIndex = none ∧
      ((t.row d.recordARowIndex = t.row d.recordBRowIndex ∧ d.decision = .duplicate ∧ d.totalScore = 1) ∨
        (t.row d.recordARowIndex ≠ t.row d.recordBRowIndex ∧
          d.totalScore = edgeScore casefold t ruleSet d.recordARowIndex d.recordBRowIndex ∧
          (d.decision = .duplicate ↔
            ScoredDuplicates casefold t ruleSet limits.maxBlockSize d.recordARowIndex d.recordBRowIndex))) := by
  rcases List.mem_append.1 h with h | h
  · obtain ⟨i, p, hp, rfl⟩ := mem_exactDecisions.1 h
    obtain ⟨h1, h2, hlt⟩ := mem_zip_tail (exactGroup_sorted i) hp
    exact ⟨hlt, rfl, .inl ⟨(mem_exactGroup.1 h1).trans (mem_exactGroup.1 h2).symm, rfl, rfl⟩⟩
  · cases ruleSet with
    | none => cases h
    | some rs =>
      cases hf : rs.fields with
      | nil => simp [scoredDecisions, hf] at h
      | cons f fs =>
        obtain ⟨key, a, b, hkey, hsize, ha, hb, hlt, hd⟩ := (mem_scoredDecisions hf).1 h
        obtain ⟨rfl, rfl, hscore, hgroup, hdup⟩ := scoredDecision_spec hd
        obtain ⟨hra, hba⟩ := mem_blockMembers.1 ha
        obtain ⟨hrb, hbb⟩ := mem_blockMembers.1 hb
        have hrow : t.row d.recordARowIndex ≠ t.row d.recordBRowIndex := fun hrow =>
          ne_of_lt hlt (by rw [← hra, ← hrb]; exact representative_congr hrow)
        refine ⟨hlt, hgroup, .inr ⟨hrow, ?_, ?_⟩⟩
        · unfold edgeScore
          rw [if_neg hrow, hscore]
        · rw [hdup]
          constructor
          · intro hle
            refine ⟨rs, selectBlockingField f fs, by simp [blockedBy, hf], ?_, ?_, ?_, hle⟩
            · rw [hba]; exact hkey
            · rw [hba, hbb]
            · rw [hba, ← blockMembers_length]; exact hsize
          · rintro ⟨rs', field, hblocked, -, -, -, hle⟩
            obtain ⟨f', fs', hrs, -, -⟩ := blockedBy_some hblocked
            cases hrs
            exact hle

theorem mem_allEdges {ruleSet : Option MatchRuleSetConfig} {limits : MatchLimits} {e : DuplicateEdge t.rows.length} :
    e ∈ allEdges casefold t ruleSet limits ↔
      ∃ d ∈ allDecisions casefold t ruleSet limits, d.decision = .duplicate ∧ d.edge = e := by
  simp [allEdges, duplicateEdgesOf, and_assoc]

/-- **Every united pair is an edge of the duplicate graph, with the edge's score.** -/
theorem edge_sound {ruleSet : Option MatchRuleSetConfig} {limits : MatchLimits} {e : DuplicateEdge t.rows.length}
    (h : e ∈ allEdges casefold t ruleSet limits) :
    (matchGraph casefold t ruleSet limits.maxBlockSize).Adj e.a e.b ∧
      e.confidence = edgeScore casefold t ruleSet e.a e.b := by
  obtain ⟨d, hd, hdup, rfl⟩ := mem_allEdges.1 h
  obtain ⟨hlt, -, ⟨hrow, -, hscore⟩ | ⟨-, hscore, hiff⟩⟩ := mem_allDecisions hd
  · refine ⟨⟨ne_of_lt hlt, .inl hrow⟩, ?_⟩
    show d.totalScore = edgeScore casefold t ruleSet d.recordARowIndex d.recordBRowIndex
    unfold edgeScore
    rw [if_pos hrow, hscore]
  · exact ⟨⟨ne_of_lt hlt, .inr (hiff.1 hdup)⟩, hscore⟩

/-- Identical rows are united along their chain. -/
theorem united_of_identical {ruleSet : Option MatchRuleSetConfig} {limits : MatchLimits} {i j : t.RowIndex}
    (h : t.row i = t.row j) : EqvGen (United casefold t ruleSet limits) i j := by
  have hlink : ∀ p ∈ (exactGroup t i).zip (exactGroup t i).tail, United casefold t ruleSet limits p.1 p.2 := by
    intro p hp
    refine List.mem_map.2
      ⟨(exactDecision t (exactGroup t i).length p.1 p.2).edge, mem_allEdges.2 ⟨_, ?_, rfl, rfl⟩, rfl⟩
    exact List.mem_append_left _ (mem_exactDecisions.2 ⟨i, p, hp, rfl⟩)
  have hi := self_mem_exactGroup i
  have hj : j ∈ exactGroup t i := mem_exactGroup.2 h.symm
  cases hg : exactGroup t i with
  | nil => rw [hg] at hi; cases hi
  | cons x l =>
    rw [hg] at hlink hi hj
    have hconn := chain_connects hlink
    exact .trans _ x _ (.symm _ _ (hconn i hi)) (hconn j hj)

/-- **Every edge of the duplicate graph is covered**: the united pairs connect its rows, and one of them, connected to
both, has its score. -/
theorem edge_complete {ruleSet : Option MatchRuleSetConfig} {limits : MatchLimits} {i j : t.RowIndex}
    (h : (matchGraph casefold t ruleSet limits.maxBlockSize).Adj i j) :
    EqvGen (United casefold t ruleSet limits) i j ∧
      ∃ e ∈ allEdges casefold t ruleSet limits, EqvGen (United casefold t ruleSet limits) i e.a ∧
        e.confidence = edgeScore casefold t ruleSet i j := by
  obtain ⟨hne, hadj⟩ := h
  by_cases hrow : t.row i = t.row j
  · refine ⟨united_of_identical hrow, ?_⟩
    have hlen : 2 ≤ (exactGroup t i).length := by
      by_contra hlen
      have hj : j ∈ exactGroup t i := mem_exactGroup.2 hrow.symm
      rw [exactGroup_eq_singleton hlen, List.mem_singleton] at hj
      exact hne hj.symm
    have hpair : ∃ p, p ∈ (exactGroup t i).zip (exactGroup t i).tail := by
      match exactGroup t i, hlen with
      | x :: y :: l, _ => exact ⟨(x, y), List.mem_cons_self⟩
    obtain ⟨p, hp⟩ := hpair
    refine ⟨(exactDecision t (exactGroup t i).length p.1 p.2).edge, mem_allEdges.2 ⟨_, ?_, rfl, rfl⟩, ?_, ?_⟩
    · exact List.mem_append_left _ (mem_exactDecisions.2 ⟨i, p, hp, rfl⟩)
    · exact united_of_identical (mem_exactGroup.1 (mem_zip_tail (exactGroup_sorted i) hp).1).symm
    · unfold edgeScore
      rw [if_pos hrow]; rfl
  · obtain ⟨rs, field, hblocked, hkey, heq, hsize, hscore⟩ := hadj.resolve_left hrow
    obtain ⟨f, fs, rfl, hf, rfl⟩ := blockedBy_some hblocked
    have hi := representative_row i
    have hj := representative_row j
    have hmi : representative i ∈ blockMembers casefold t (selectBlockingField f fs)
        (blockingValue casefold t (selectBlockingField f fs) i) :=
      mem_blockMembers.2 ⟨representative_representative i, blockingValue_congr hi _⟩
    have hmj : representative j ∈ blockMembers casefold t (selectBlockingField f fs)
        (blockingValue casefold t (selectBlockingField f fs) i) :=
      mem_blockMembers.2 ⟨representative_representative j, (blockingValue_congr hj _).trans heq.symm⟩
    rw [← blockMembers_length] at hsize
    have hrep : (comparePair casefold t (representative i) (representative j) rs.fields).2 =
        (comparePair casefold t i j rs.fields).2 := comparePair_congr hi hj _
    have hnerep : representative i ≠ representative j := fun h => hrow (by rw [← hi, ← hj, h])
    have hedge : edgeScore casefold t (some rs) i j = (comparePair casefold t i j rs.fields).2 := by
      unfold edgeScore
      rw [if_neg hrow]
    -- the representatives are compared in the order of their indices
    have hcompared : ∀ a b, a ∈ blockMembers casefold t (selectBlockingField f fs)
          (blockingValue casefold t (selectBlockingField f fs) i) →
        b ∈ blockMembers casefold t (selectBlockingField f fs)
          (blockingValue casefold t (selectBlockingField f fs) i) → a < b →
        (comparePair casefold t a b rs.fields).2 = (comparePair casefold t i j rs.fields).2 →
        ∃ e ∈ allEdges casefold t (some rs) limits, e.a = a ∧ e.b = b ∧
          e.confidence = edgeScore casefold t (some rs) i j := by
      intro a b ha hb hlt hsc
      obtain ⟨d, hd⟩ : ∃ d, scoredDecision casefold t rs
          (blockingValue casefold t (selectBlockingField f fs) i) a b = some d :=
        scoredDecision_isSome (hsc ▸ hscore)
      obtain ⟨hda, hdb, hds, -, hdup⟩ := scoredDecision_spec hd
      refine ⟨d.edge, mem_allEdges.2 ⟨d, List.mem_append_right _ ?_, hdup.2 (hsc ▸ hscore), rfl⟩, hda, hdb, ?_⟩
      · exact (mem_scoredDecisions hf).2 ⟨_, a, b, hkey, hsize, ha, hb, hlt, hd⟩
      · rw [hedge, ← hsc]
        exact hds
    have hui : EqvGen (United casefold t (some rs) limits) i (representative i) := united_of_identical hi.symm
    have huj : EqvGen (United casefold t (some rs) limits) (representative j) j := united_of_identical hj
    rcases lt_or_gt_of_ne hnerep with hlt | hgt
    · obtain ⟨e, he, ha, hb, hc⟩ := hcompared _ _ hmi hmj hlt hrep
      have hmid : United casefold t (some rs) limits (representative i) (representative j) :=
        List.mem_map.2 ⟨e, he, by rw [ha, hb]⟩
      exact ⟨(hui.trans _ _ _ (.rel _ _ hmid)).trans _ _ _ huj, e, he, by rw [ha]; exact hui, hc⟩
    · obtain ⟨e, he, ha, hb, hc⟩ := hcompared _ _ hmj hmi hgt (by rw [comparePair_symm]; exact hrep)
      have hmid : United casefold t (some rs) limits (representative j) (representative i) :=
        List.mem_map.2 ⟨e, he, by rw [ha, hb]⟩
      have hback := hui.trans _ _ _ (.symm _ _ (.rel _ _ hmid))
      exact ⟨hback.trans _ _ _ huj, e, he, by rw [ha]; exact hback, hc⟩

/-- **The united pairs connect exactly the rows the duplicate graph connects.** -/
theorem united_iff_reachable {ruleSet : Option MatchRuleSetConfig} {limits : MatchLimits} {i j : t.RowIndex} :
    EqvGen (United casefold t ruleSet limits) i j ↔
      (matchGraph casefold t ruleSet limits.maxBlockSize).Reachable i j := by
  constructor
  · intro h
    induction h with
    | rel x y hxy =>
      obtain ⟨e, he, heq⟩ := List.mem_map.1 hxy
      cases heq
      exact (edge_sound he).1.reachable
    | refl x => exact .refl x
    | symm _ _ _ ih => exact ih.symm
    | trans _ _ _ _ _ ih₁ ih₂ => exact ih₁.trans ih₂
  · intro h
    rw [SimpleGraph.reachable_iff_reflTransGen] at h
    induction h with
    | refl => exact .refl _
    | tail _ hadj ih => exact ih.trans _ _ _ (edge_complete hadj).1

end Matching
end DataOps

import DataOps.MatchGroups
/-!
# MatchPersist — the rows `MatchHandler` writes

`match` gives its persisted duplicates the position of their group, and `MatchHandler` turns positions into the ids of
the group rows.  `groupDecisions_iff` is what can be read back from the tables: under the id of a group, the persisted
pairs united in its component, and nothing else.
-/
namespace DataOps
namespace Matching

variable {n : Nat}

/-! ## The tables -/

/-- A row of `match_groups`. -/
structure MatchGroupRow where
  id                : Nat
  organizationId    : Nat
  matchRunId        : Nat
  canonicalRowIndex : Nat
  recordCount       : Nat
  confidenceScore   : ℚ

/-- A row of `match_decisions`. -/
structure MatchDecisionRow where
  organizationId   : Nat
  matchRunId       : Nat
  matchGroupId     : Option Nat
  recordARowIndex  : Nat
  recordBRowIndex  : Nat
  blockingKey      : Option Str
  ruleName         : String
  fieldComparisons : Dict Str FieldComparison
  totalScore       : ℚ
  thresholdUsed    : ℚ
  decision         : DecisionLabel
  confidenceScore  : ℚ
  reason           : String
  ruleVersion      : String

/-- Both tables.  `uuid4()` is a supply that never repeats: every id in them is below `nextId`. -/
structure MatchTables where
  nextId         : Nat
  matchGroups    : List MatchGroupRow
  matchDecisions : List MatchDecisionRow
  groupsDrawn    : ∀ g ∈ matchGroups, g.matchRunId < nextId ∧ g.id < nextId
  decisionsDrawn : ∀ d ∈ matchDecisions, ∀ id, d.matchGroupId = some id → id < nextId

def MatchTables.empty : MatchTables := ⟨0, [], [], by simp, by simp⟩

/-- The id drawn for the match run. -/
def MatchTables.matchRunId (db : MatchTables) : Nat := db.nextId

/-- The id drawn for its group at a position. -/
def MatchTables.groupId (db : MatchTables) (k : Nat) : Nat := db.nextId + 1 + k

def groupModel (db : MatchTables) (organizationId : Nat) (p : Group n × Nat) : MatchGroupRow where
  id := db.groupId p.2
  organizationId := organizationId
  matchRunId := db.matchRunId
  canonicalRowIndex := p.1.canonicalRowIndex
  recordCount := p.1.recordCount
  confidenceScore := p.1.confidenceScore

/-- `group_models`. -/
def groupModels (db : MatchTables) (organizationId : Nat) (groups : List (Group n)) : List MatchGroupRow :=
  groups.zipIdx.map (groupModel db organizationId)

/-- `group_models[decision.group_index].id`; no index is out of range (`groupIndex_lt`). -/
def matchGroupIdOf (models : List MatchGroupRow) (d : Decision n) : Option Nat :=
  d.groupIndex.bind (fun k => models[k]?.map (·.id))

def decisionModel (db : MatchTables) (organizationId : Nat) (models : List MatchGroupRow) (d : Decision n) :
    MatchDecisionRow where
  organizationId := organizationId
  matchRunId := db.matchRunId
  matchGroupId := matchGroupIdOf models d
  recordARowIndex := d.recordARowIndex
  recordBRowIndex := d.recordBRowIndex
  blockingKey := d.blockingKey
  ruleName := d.ruleName
  fieldComparisons := d.fieldComparisons
  totalScore := d.totalScore
  thresholdUsed := d.thresholdUsed
  decision := d.decision
  confidenceScore := d.confidenceScore
  reason := d.reason
  ruleVersion := d.ruleVersion

/-- What is made of the elements and their positions. -/
theorem mem_map_zipIdx {α β : Type} {f : α × Nat → β} {l : List α} {b : β} :
    b ∈ l.zipIdx.map f ↔ ∃ k a, l[k]? = some a ∧ b = f (a, k) := by
  rw [List.mem_map]
  constructor
  · rintro ⟨⟨a, k⟩, hmem, rfl⟩
    exact ⟨k, a, List.mem_zipIdx_iff_getElem?.1 hmem, rfl⟩
  · rintro ⟨k, a, hk, rfl⟩
    exact ⟨(a, k), List.mem_zipIdx_iff_getElem?.2 hk, rfl⟩

theorem mem_groupModels {db : MatchTables} {organizationId : Nat} {groups : List (Group n)} {m : MatchGroupRow} :
    m ∈ groupModels db organizationId groups ↔
      ∃ k g, groups[k]? = some g ∧ m = groupModel db organizationId (g, k) :=
  mem_map_zipIdx

theorem matchGroupIdOf_eq_some {db : MatchTables} {organizationId : Nat} {groups : List (Group n)} {d : Decision n}
    {id : Nat} :
    matchGroupIdOf (groupModels db organizationId groups) d = some id ↔
      ∃ k, d.groupIndex = some k ∧ k < groups.length ∧ id = db.groupId k := by
  unfold matchGroupIdOf groupModels
  rw [Option.bind_eq_some_iff]
  constructor
  · rintro ⟨k, hk, hid⟩
    rw [List.getElem?_map, List.getElem?_zipIdx] at hid
    cases hg : groups[k]? with
    | none => rw [hg] at hid; cases hid
    | some g =>
      rw [hg] at hid
      obtain ⟨hlt, -⟩ := List.getElem?_eq_some_iff.1 hg
      refine ⟨k, hk, hlt, ?_⟩
      simpa [groupModel] using hid.symm
  · rintro ⟨k, hk, hlt, rfl⟩
    refine ⟨k, hk, ?_⟩
    rw [List.getElem?_map, List.getElem?_zipIdx, List.getElem?_eq_getElem hlt]
    simp [groupModel]

/-- What `MatchHandler.execute` adds to the tables. -/
def MatchTables.persist (db : MatchTables) (organizationId : Nat) (result : MatchResult n) : MatchTables where
  nextId := db.nextId + 1 + result.groups.length
  matchGroups := db.matchGroups ++ groupModels db organizationId result.groups
  matchDecisions := db.matchDecisions ++
    result.decisions.map (decisionModel db organizationId (groupModels db organizationId result.groups))
  groupsDrawn := by
    intro m hm
    rcases List.mem_append.1 hm with hm | hm
    · obtain ⟨h1, h2⟩ := db.groupsDrawn m hm
      exact ⟨by omega, by omega⟩
    · obtain ⟨k, g, hk, rfl⟩ := mem_groupModels.1 hm
      obtain ⟨hlt, -⟩ := List.getElem?_eq_some_iff.1 hk
      simp only [groupModel, MatchTables.matchRunId, MatchTables.groupId]
      omega
  decisionsDrawn := by
    intro m hm id hid
    rcases List.mem_append.1 hm with hm | hm
    · have := db.decisionsDrawn m hm id hid
      omega
    · obtain ⟨d, -, rfl⟩ := List.mem_map.1 hm
      obtain ⟨k, -, hlt, rfl⟩ := matchGroupIdOf_eq_some.1 hid
      simp only [MatchTables.groupId]
      omega

/-! ## The groups by position -/

/-- **The group at a position is the component at that position.** -/
theorem groups_getElem? (s : MatchState n) (k : Nat) :
    (matchResult s).groups[k]? = (duplicateComponents s.uf)[k]?.bind (fun c => groupOf s c.2) := by
  refine filterMap_getElem? (fun c hc => ?_) k
  obtain ⟨canonical, -, hgroup⟩ := groupOf_component hc
  rw [hgroup]
  rfl

/-- `root_to_group_index`. -/
def rootToGroupIndex (uf : UnionFind n) : Dict (Fin n) Nat := (duplicateComponents uf).zipIdx.map (fun c => (c.1.1, c.2))

theorem rootToGroupIndex_get? {uf : UnionFind n} {r : Fin n} {k : Nat} :
    Dict.get? (rootToGroupIndex uf) r = some k ↔ ∃ c, (duplicateComponents uf)[k]? = some c ∧ c.1 = r := by
  have hnd : (Dict.keys (rootToGroupIndex uf)).Nodup := by
    have hkeys : Dict.keys (rootToGroupIndex uf) = (duplicateComponents uf).map Prod.fst := by
      unfold Dict.keys rootToGroupIndex
      rw [List.map_map]
      conv_rhs => rw [← List.zipIdx_map_fst 0 (duplicateComponents uf), List.map_map]
      rfl
    rw [hkeys]
    exact duplicateComponents_nodup uf
  rw [Dict.get?_eq_some_iff hnd]
  unfold rootToGroupIndex
  rw [List.mem_map]
  constructor
  · rintro ⟨⟨c, k'⟩, hmem, heq⟩
    cases heq
    exact ⟨c, List.mem_zipIdx_iff_getElem?.1 hmem, rfl⟩
  · rintro ⟨c, hc, rfl⟩
    exact ⟨(c, k), List.mem_zipIdx_iff_getElem?.2 hc, rfl⟩

/-! ## The decisions by group -/

def assignGroup (s : MatchState n) (d : Decision n) : Decision n :=
  { d with groupIndex := Dict.get? (rootToGroupIndex s.uf) (s.uf.root d.recordARowIndex) }

/-- A decision as `match` returns it. -/
def wired (s : MatchState n) (d : Decision n) : Decision n := if d.decision = .duplicate then assignGroup s d else d

/-- **Every persisted duplicate gets the position of its group**, and no other decision changes. -/
theorem decisions_eq {limits : MatchLimits} {s : MatchState n} {all : List (Decision n)} (h : Records limits s all) :
    (matchResult s).decisions = s.decisions.map (wired s) := by
  have hfold : (matchResult s).decisions =
      s.pendingDuplicateEdgePositions.foldl (fun l pos => l.modify pos (assignGroup s)) s.decisions := rfl
  have hidem : ∀ d, assignGroup s (assignGroup s d) = assignGroup s d := fun d => rfl
  rw [hfold]
  refine List.ext_getElem? (fun k => ?_)
  rw [foldl_modify_getElem? hidem, List.getElem?_map]
  cases hd : s.decisions[k]? with
  | none => simp
  | some d =>
    have hpend := h.pending k
    rw [hd] at hpend
    unfold wired
    by_cases hdup : d.decision = .duplicate
    · have hmem : k ∈ s.pendingDuplicateEdgePositions := hpend.2 ⟨d, rfl, hdup⟩
      simp [hmem, hdup]
    · have hmem : k ∉ s.pendingDuplicateEdgePositions := by
        intro hmem
        obtain ⟨d', hd', hdup'⟩ := hpend.1 hmem
        cases hd'
        exact hdup hdup'
      simp [hmem, hdup]

variable {casefold : Str → Str} {t : Table} {ruleSet : Option MatchRuleSetConfig} {limits : MatchLimits}

/-- The decisions `match` keeps before it knows the groups. -/
theorem matchState_decisions : (matchState casefold t ruleSet limits).decisions =
    (allDecisions casefold t ruleSet limits).take limits.maxPersistedDecisions :=
  (matchState_records casefold t ruleSet limits).decisions

/-- **Under the position of a group stand the kept pairs united in its component.** -/
theorem groupDecisions_iff {k : Nat} {c : t.RowIndex × List t.RowIndex}
    (hc : (duplicateComponents (matchState casefold t ruleSet limits).uf)[k]? = some c) (a b : t.RowIndex) :
    (∃ d ∈ (matchRows casefold t ruleSet limits).decisions,
        d.groupIndex = some k ∧ d.recordARowIndex = a ∧ d.recordBRowIndex = b) ↔
      ∃ d ∈ (allDecisions casefold t ruleSet limits).take limits.maxPersistedDecisions,
        d.decision = .duplicate ∧ d.recordARowIndex = a ∧ d.recordBRowIndex = b ∧
          (matchState casefold t ruleSet limits).uf.root a = c.1 := by
  rw [matchRows_eq, decisions_eq (matchState_records casefold t ruleSet limits), matchState_decisions]
  constructor
  · rintro ⟨d', hmem, hk, rfl, rfl⟩
    obtain ⟨d, hd, rfl⟩ := List.mem_map.1 hmem
    obtain ⟨-, hnone, -⟩ := mem_allDecisions (List.mem_of_mem_take hd)
    unfold wired at hk ⊢
    by_cases hdup : d.decision = .duplicate
    · rw [if_pos hdup] at hk ⊢
      obtain ⟨c', hc', hroot⟩ := rootToGroupIndex_get?.1 hk
      obtain rfl : c = c' := Option.some.inj (hc.symm.trans hc')
      exact ⟨d, hd, hdup, rfl, rfl, hroot.symm⟩
    · rw [if_neg hdup, hnone] at hk
      cases hk
  · rintro ⟨d, hd, hdup, rfl, rfl, hroot⟩
    refine ⟨_, List.mem_map_of_mem hd, ?_⟩
    unfold wired
    rw [if_pos hdup]
    exact ⟨rootToGroupIndex_get?.2 ⟨c, hc, hroot.symm⟩, rfl, rfl⟩

/-- A kept decision with a position has one of a group: `group_models[decision.group_index]` is never out of range. -/
theorem groupIndex_lt {d : Decision t.rows.length} (hd : d ∈ (matchRows casefold t ruleSet limits).decisions) {k : Nat}
    (hk : d.groupIndex = some k) : k < (matchRows casefold t ruleSet limits).groups.length := by
  rw [matchRows_eq, decisions_eq (matchState_records casefold t ruleSet limits), matchState_decisions] at hd
  obtain ⟨d₀, hd₀, rfl⟩ := List.mem_map.1 hd
  obtain ⟨-, hnone, -⟩ := mem_allDecisions (List.mem_of_mem_take hd₀)
  unfold wired at hk
  by_cases hdup : d₀.decision = .duplicate
  · rw [if_pos hdup] at hk
    obtain ⟨c, hc, -⟩ := rootToGroupIndex_get?.1 hk
    obtain ⟨canonical, -, hgroup⟩ := groupOf_component (List.mem_of_getElem? hc)
    have hget := groups_getElem? (matchState casefold t ruleSet limits) k
    rw [hc, Option.bind_some, hgroup] at hget
    exact (List.getElem?_eq_some_iff.1 hget).1
  · rw [if_neg hdup, hnone] at hk
    cases hk

end Matching
end DataOps

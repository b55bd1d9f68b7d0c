import DataOps.ExportEngine
import DataOps.MatchPersist
/-!
# ExportGroups — reading the groups back

The tables hold no members: `_load_groups` rebuilds them from the pairs kept under each group's id, and compares their
number with the one the group row records.  What it rebuilds lies in the group (`groupMembers_subset`), so the numbers
agree only when it is the whole group; and no group is short of a row when no pair was cut (`mem_groupMembers`).
-/
namespace DataOps
namespace Export

open Matching
open Relation (EqvGen)

structure PermanentExecutionError where
  message : String
deriving DecidableEq, Repr

/-- `members`. -/
def groupMembers (dbGroup : MatchGroupRow) (decisions : List MatchDecisionRow) : List Nat :=
  (dbGroup.canonicalRowIndex :: decisions.flatMap (fun d => [d.recordARowIndex, d.recordBRowIndex])).dedup

theorem groupMembers_nodup (dbGroup : MatchGroupRow) (decisions : List MatchDecisionRow) :
    (groupMembers dbGroup decisions).Nodup := List.nodup_dedup _

def membershipError (dbGroup : MatchGroupRow) (reconstructed : Nat) : PermanentExecutionError where
  message := "export cannot reconstruct full membership for match group " ++ toString dbGroup.id ++ " (expected " ++
    toString dbGroup.recordCount ++ " members, reconstructed " ++ toString reconstructed ++
    " from persisted match decisions -- the group's decisions may have been capped by MATCH_MAX_PERSISTED_DECISIONS)"

/-- The decisions the query for a group returns. -/
def decisionsOf (matchDecisions : List MatchDecisionRow) (organizationId : Nat) (dbGroup : MatchGroupRow) :
    List MatchDecisionRow :=
  matchDecisions.filter (fun d => d.matchGroupId = some dbGroup.id ∧ d.organizationId = organizationId)

def loadGroup (matchDecisions : List MatchDecisionRow) (organizationId : Nat) (dbGroup : MatchGroupRow) :
    Except PermanentExecutionError GroupInput :=
  let members := groupMembers dbGroup (decisionsOf matchDecisions organizationId dbGroup)
  if members.length ≠ dbGroup.recordCount then .error (membershipError dbGroup members.length)
  else .ok ⟨dbGroup.id, dbGroup.canonicalRowIndex, dbGroup.recordCount, members.insertionSort (· ≤ ·)⟩

/-- A group is loaded exactly when as many rows are rebuilt as it has. -/
theorem loadGroup_eq_ok_iff {matchDecisions : List MatchDecisionRow} {organizationId : Nat} {dbGroup : MatchGroupRow}
    {input : GroupInput} :
    loadGroup matchDecisions organizationId dbGroup = .ok input ↔
      (groupMembers dbGroup (decisionsOf matchDecisions organizationId dbGroup)).length = dbGroup.recordCount ∧
        input = ⟨dbGroup.id, dbGroup.canonicalRowIndex, dbGroup.recordCount,
          (groupMembers dbGroup (decisionsOf matchDecisions organizationId dbGroup)).insertionSort (· ≤ ·)⟩ := by
  unfold loadGroup
  dsimp only
  split
  · rename_i hne
    exact ⟨fun h => (by cases h), fun h => absurd h.1 hne⟩
  · rename_i heq
    rw [Except.ok.injEq, eq_comm]
    exact ⟨fun h => ⟨not_not.1 heq, h⟩, fun h => h.2⟩

/-- `ExportHandler._load_groups`, on the rows of both tables in the order the database has them. -/
def loadGroups (matchGroups : List MatchGroupRow) (matchDecisions : List MatchDecisionRow)
    (organizationId matchRunId : Nat) : Except PermanentExecutionError (List GroupInput) :=
  (matchGroups.filter (fun g => g.matchRunId = matchRunId ∧ g.organizationId = organizationId)).mapM
    (loadGroup matchDecisions organizationId)

/-- The group at a position, as the engine takes it. -/
def groupInput {n : Nat} (db : MatchTables) (p : Group n × Nat) : GroupInput where
  matchGroupId := db.groupId p.2
  canonicalRowIndex := p.1.canonicalRowIndex
  recordCount := p.1.recordCount
  memberRowIndices := p.1.memberRowIndices.map Fin.val

section
variable {casefold : Str → Str} {t : Table} {ruleSet : Option MatchRuleSetConfig} {limits : MatchLimits}
variable {db : MatchTables} {organizationId : Nat}

/-- The group rows of the run, whatever else the table holds. -/
theorem persist_groups_filter (result : MatchResult t.rows.length) :
    (db.persist organizationId result).matchGroups.filter
        (fun g => g.matchRunId = db.matchRunId ∧ g.organizationId = organizationId) =
      groupModels db organizationId result.groups := by
  show (db.matchGroups ++ groupModels db organizationId result.groups).filter _ = _
  rw [List.filter_append]
  have hold : db.matchGroups.filter
      (fun g => g.matchRunId = db.matchRunId ∧ g.organizationId = organizationId) = [] := by
    rw [List.filter_eq_nil_iff]
    intro g hg
    have hlt := (db.groupsDrawn g hg).1
    have hne : g.matchRunId ≠ db.matchRunId := Nat.ne_of_lt hlt
    simp [hne]
  have hnew : (groupModels db organizationId result.groups).filter
      (fun g => g.matchRunId = db.matchRunId ∧ g.organizationId = organizationId) =
        groupModels db organizationId result.groups := by
    rw [List.filter_eq_self]
    intro g hg
    obtain ⟨k, g, -, rfl⟩ := mem_groupModels.1 hg
    simp [groupModel]
  rw [hold, hnew, List.nil_append]

/-- **The decision rows under a group's id** are those of the kept pairs united in its component. -/
theorem mem_decisionsOf {k : Nat} {c : t.RowIndex × List t.RowIndex}
    (hc : (duplicateComponents (matchState casefold t ruleSet limits).uf)[k]? = some c) {dbGroup : MatchGroupRow}
    (hid : dbGroup.id = db.groupId k) {x : Nat} :
    (∃ row ∈ decisionsOf (db.persist organizationId (matchRows casefold t ruleSet limits)).matchDecisions
        organizationId dbGroup, x = row.recordARowIndex ∨ x = row.recordBRowIndex) ↔
      ∃ d ∈ (allDecisions casefold t ruleSet limits).take limits.maxPersistedDecisions,
        d.decision = .duplicate ∧ (matchState casefold t ruleSet limits).uf.root d.recordARowIndex = c.1 ∧
          (x = d.recordARowIndex ∨ x = d.recordBRowIndex) := by
  constructor
  · rintro ⟨row, hrow, hx⟩
    obtain ⟨hmem, hrow⟩ := List.mem_filter.1 hrow
    have hgroup : row.matchGroupId = some (db.groupId k) := by
      rw [← hid]
      exact (of_decide_eq_true hrow).1
    rcases List.mem_append.1 hmem with hold | hnew
    · have hlt := db.decisionsDrawn row hold _ hgroup
      simp only [MatchTables.groupId] at hlt
      omega
    · obtain ⟨d, hd, rfl⟩ := List.mem_map.1 hnew
      obtain ⟨k', hk', -, heq⟩ := matchGroupIdOf_eq_some.1 hgroup
      have hkk : k' = k := by
        simp only [MatchTables.groupId] at heq
        omega
      rw [hkk] at hk'
      obtain ⟨d', hd', hdup, ha, hb, hroot⟩ := (groupDecisions_iff hc d.recordARowIndex d.recordBRowIndex).1
        ⟨d, hd, hk', rfl, rfl⟩
      rw [← ha] at hroot
      refine ⟨d', hd', hdup, hroot, ?_⟩
      rw [ha, hb]
      exact hx
  · rintro ⟨d, hd, hdup, hroot, hx⟩
    obtain ⟨d', hd', hk, ha, hb⟩ := (groupDecisions_iff hc d.recordARowIndex d.recordBRowIndex).2
      ⟨d, hd, hdup, rfl, rfl, hroot⟩
    refine ⟨_, List.mem_filter.2 ⟨List.mem_append_right _ (List.mem_map_of_mem hd'), ?_⟩, ?_⟩
    · have hgroup : matchGroupIdOf (groupModels db organizationId (matchRows casefold t ruleSet limits).groups) d' =
          some (db.groupId k) := matchGroupIdOf_eq_some.2 ⟨k, hk, groupIndex_lt hd' hk, rfl⟩
      have horg : (decisionModel db organizationId
          (groupModels db organizationId (matchRows casefold t ruleSet limits).groups) d').organizationId =
            organizationId := rfl
      simp only [decide_eq_true_eq]
      exact ⟨by rw [hid]; exact hgroup, horg⟩
    · show x = (d'.recordARowIndex : Nat) ∨ x = (d'.recordBRowIndex : Nat)
      rw [ha, hb]
      exact hx

/-- Two different elements that a relation connects both stand in it. -/
theorem eqvGen_ends {α : Type} {r : α → α → Prop} {x y : α} (h : EqvGen r x y) :
    x ≠ y → (∃ z, r x z ∨ r z x) ∧ ∃ z, r y z ∨ r z y := by
  induction h with
  | rel x y hxy => exact fun _ => ⟨⟨y, .inl hxy⟩, ⟨x, .inr hxy⟩⟩
  | refl x => exact fun hne => absurd rfl hne
  | symm x y _ ih => exact fun hne => ⟨(ih hne.symm).2, (ih hne.symm).1⟩
  | trans x y z _ _ ih1 ih2 =>
    intro hne
    by_cases hxy : x = y
    · subst hxy
      exact ih2 hne
    · by_cases hyz : y = z
      · subst hyz
        exact ih1 hxy
      · exact ⟨(ih1 hxy).1, (ih2 hyz).2⟩

/-- A row connected to another one is on a united pair. -/
theorem exists_edge_at {x y : t.RowIndex} (h : EqvGen (United casefold t ruleSet limits) x y) (hne : x ≠ y) :
    ∃ d ∈ allDecisions casefold t ruleSet limits,
      d.decision = .duplicate ∧ (x = d.recordARowIndex ∨ x = d.recordBRowIndex) := by
  have hmem : ∀ {a b : t.RowIndex}, United casefold t ruleSet limits a b → ∃ d ∈ allDecisions casefold t ruleSet limits,
      d.decision = .duplicate ∧ a = d.recordARowIndex ∧ b = d.recordBRowIndex := by
    intro a b hab
    obtain ⟨e, he, heq⟩ := List.mem_map.1 hab
    obtain ⟨d, hd, hdup, rfl⟩ := mem_allEdges.1 he
    cases heq
    exact ⟨d, hd, hdup, rfl, rfl⟩
  obtain ⟨⟨z, hz | hz⟩, -⟩ := eqvGen_ends h hne
  · obtain ⟨d, hd, hdup, ha, -⟩ := hmem hz
    exact ⟨d, hd, hdup, .inl ha⟩
  · obtain ⟨d, hd, hdup, -, hb⟩ := hmem hz
    exact ⟨d, hd, hdup, .inr hb⟩

/-- A united pair lies in one class. -/
theorem root_eq_of_duplicate {d : Decision t.rows.length} (hd : d ∈ allDecisions casefold t ruleSet limits)
    (hdup : d.decision = .duplicate) :
    (matchState casefold t ruleSet limits).uf.root d.recordARowIndex =
      (matchState casefold t ruleSet limits).uf.root d.recordBRowIndex :=
  root_eq_iff_reachable.2 (edge_sound (mem_allEdges.2 ⟨d, hd, hdup, rfl⟩)).1.reachable

variable {k : Nat} {g : Group t.rows.length}

/-- The group at a position, with its component. -/
theorem component_of_group (hg : (matchRows casefold t ruleSet limits).groups[k]? = some g) :
    ∃ c, (duplicateComponents (matchState casefold t ruleSet limits).uf)[k]? = some c ∧
      g.memberRowIndices = classOf (matchState casefold t ruleSet limits).uf c.1 ∧
      2 ≤ g.memberRowIndices.length ∧ g.canonicalRowIndex ∈ g.memberRowIndices := by
  rw [matchRows_eq, groups_getElem?] at hg
  obtain ⟨c, hc, hgroup⟩ := Option.bind_eq_some_iff.1 hg
  obtain ⟨canonical, hmin, hgroup'⟩ := groupOf_component (List.mem_of_getElem? hc)
  obtain ⟨hmem, hlen⟩ := mem_duplicateComponents.1 (List.mem_of_getElem? hc)
  rw [hgroup'] at hgroup
  cases hgroup
  rw [List.min?_eq_some_iff, hmem] at hmin
  rw [hmem] at hlen
  exact ⟨c, hc, rfl, hlen, hmin.1⟩

variable {matchDecisions : List MatchDecisionRow}

/-- The rows rebuilt for a group, in terms of the kept pairs. -/
theorem mem_groupMembers
    (hdecisions : matchDecisions.Perm (db.persist organizationId (matchRows casefold t ruleSet limits)).matchDecisions)
    (hg : (matchRows casefold t ruleSet limits).groups[k]? = some g) (x : Nat) :
    x ∈ groupMembers (groupModel db organizationId (g, k))
        (decisionsOf matchDecisions organizationId (groupModel db organizationId (g, k))) ↔
      x = g.canonicalRowIndex ∨
        ∃ d ∈ (allDecisions casefold t ruleSet limits).take limits.maxPersistedDecisions,
          d.decision = .duplicate ∧ d.recordARowIndex ∈ g.memberRowIndices ∧
            (x = d.recordARowIndex ∨ x = d.recordBRowIndex) := by
  obtain ⟨c, hc, hmem, -⟩ := component_of_group hg
  have hrows := @mem_decisionsOf casefold t ruleSet limits db organizationId k c hc
    (groupModel db organizationId (g, k)) rfl x
  have hperm : (decisionsOf matchDecisions organizationId (groupModel db organizationId (g, k))).Perm
      (decisionsOf (db.persist organizationId (matchRows casefold t ruleSet limits)).matchDecisions organizationId
        (groupModel db organizationId (g, k))) := hdecisions.filter _
  unfold groupMembers
  rw [List.mem_dedup, List.mem_cons, List.mem_flatMap]
  simp only [List.mem_cons, List.not_mem_nil, or_false, hperm.mem_iff, hrows, hmem, mem_classOf]
  rfl

/-- **What is rebuilt lies in the group.** -/
theorem groupMembers_subset
    (hdecisions : matchDecisions.Perm (db.persist organizationId (matchRows casefold t ruleSet limits)).matchDecisions)
    (hg : (matchRows casefold t ruleSet limits).groups[k]? = some g) {x : Nat}
    (hx : x ∈ groupMembers (groupModel db organizationId (g, k))
      (decisionsOf matchDecisions organizationId (groupModel db organizationId (g, k)))) :
    x ∈ g.memberRowIndices.map Fin.val := by
  obtain ⟨c, -, hmem, -, hcanon⟩ := component_of_group hg
  rcases (mem_groupMembers hdecisions hg x).1 hx with rfl | ⟨d, hd, hdup, ha, hx⟩
  · exact List.mem_map_of_mem hcanon
  · have hb : d.recordBRowIndex ∈ g.memberRowIndices := by
      rw [hmem, mem_classOf] at ha ⊢
      rw [← root_eq_of_duplicate (List.mem_of_mem_take hd) hdup]
      exact ha
    rcases hx with rfl | rfl
    · exact List.mem_map_of_mem ha
    · exact List.mem_map_of_mem hb

/-- **Nothing is missing when no pair was cut.** -/
theorem subset_groupMembers
    (hdecisions : matchDecisions.Perm (db.persist organizationId (matchRows casefold t ruleSet limits)).matchDecisions)
    (hg : (matchRows casefold t ruleSet limits).groups[k]? = some g)
    (hcap : (allDecisions casefold t ruleSet limits).length ≤ limits.maxPersistedDecisions) {x : Nat}
    (hx : x ∈ g.memberRowIndices.map Fin.val) :
    x ∈ groupMembers (groupModel db organizationId (g, k))
      (decisionsOf matchDecisions organizationId (groupModel db organizationId (g, k))) := by
  obtain ⟨c, -, hmem, hlen, -⟩ := component_of_group hg
  obtain ⟨i, hi, rfl⟩ := List.mem_map.1 hx
  rw [mem_groupMembers hdecisions hg, List.take_of_length_le hcap]
  have hroot : ∀ j, j ∈ g.memberRowIndices ↔ (matchState casefold t ruleSet limits).uf.root j = c.1 := fun j => by
    rw [hmem, mem_classOf]
  -- a group has a second row, so the pairs that connect it to this one touch this one
  have hother : ∃ j ∈ g.memberRowIndices, i ≠ j := by
    obtain ⟨a, ha, b, hb, hne⟩ := exists_ne_of_two_le_length
      (by rw [hmem]; exact (classOf_sorted _ _).imp (fun h => ne_of_lt h)) hlen
    by_cases hia : i = a
    · exact ⟨b, hb, hia ▸ hne⟩
    · exact ⟨a, ha, hia⟩
  obtain ⟨j, hj, hne⟩ := hother
  have hreach := root_eq_iff_reachable.1 (((hroot i).1 hi).trans ((hroot j).1 hj).symm)
  obtain ⟨d, hd, hdup, hid⟩ := exists_edge_at (united_iff_reachable.2 hreach) hne
  refine .inr ⟨d, hd, hdup, ?_, ?_⟩
  · rcases hid with rfl | rfl
    · exact hi
    · rw [hroot] at hi ⊢
      rw [root_eq_of_duplicate hd hdup]
      exact hi
  · rcases hid with h | h
    · exact .inl (congrArg Fin.val h)
    · exact .inr (congrArg Fin.val h)

end

end Export
end DataOps

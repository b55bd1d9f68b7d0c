import DataOps.RemediateOrder
/-!
# RemediatePartition — every issue ends in one bucket

An issue leaves the loop by one of three early exits or with a proposed change, and a change over the ceiling is turned
back into a skipped issue.  `changedIssues` and `passedOver` are the issues of the two buckets; together they are the
issues the engine was given, each as often as it was given.
-/
namespace DataOps
namespace Remediation

open Detection (IssueType)

section
variable (py : Python) (dataset : Table) (columnConfig : Dict Str RemediationColumnConfig)
  (datasetConfig : RemediationDatasetConfigInput) (limits : RemediationLimits) (issues : List RemediationIssueInput)

/-- The issues that keep their change: the first proposing ones in the engine's order. -/
def changedIssues : List RemediationIssueInput :=
  (sortedProposing py dataset columnConfig datasetConfig issues).take limits.maxPersistedChanges

/-- The issues that are skipped: those without a proposal, and the proposing ones over the ceiling. -/
def passedOver : List RemediationIssueInput :=
  issues.filter (fun issue => !(pendingChange py dataset columnConfig datasetConfig issue).isSome) ++
    (sortedProposing py dataset columnConfig datasetConfig issues).drop limits.maxPersistedChanges

end

/-- What a skipped entry keeps of its issue. -/
def SkippedIssue.origin (s : SkippedIssue) : Nat × Nat × Option Str × IssueType :=
  (s.sourceIssueId, s.rowNumber, s.columnName, s.issueType)
def RemediationIssueInput.origin (issue : RemediationIssueInput) : Nat × Nat × Option Str × IssueType :=
  (issue.issueId, issue.rowNumber, issue.columnName, issue.issueType)

variable {py : Python} {dataset : Table} {columnConfig : Dict Str RemediationColumnConfig}
  {datasetConfig : RemediationDatasetConfigInput} {limits : RemediationLimits} {issues : List RemediationIssueInput}

/-- **Each exit of the loop keeps the issue it is about.** -/
theorem considerIssue_cases (py : Python) (dataset : Table) (columnConfig : Dict Str RemediationColumnConfig)
    (datasetConfig : RemediationDatasetConfigInput) (issue : RemediationIssueInput) :
    (∃ reason, considerIssue py dataset columnConfig datasetConfig issue = .error (skip issue reason)) ∨
    ∃ pending, considerIssue py dataset columnConfig datasetConfig issue = .ok pending ∧
      (overLimit pending).origin = issue.origin := by
  cases houtcome : considerIssue py dataset columnConfig datasetConfig issue with
  | ok pending =>
    obtain ⟨rule, v, reason, -, -, -, -, rfl⟩ := considerIssue_eq_ok.1 houtcome
    exact .inr ⟨_, rfl, rfl⟩
  | error skipped =>
    refine .inl ?_
    unfold considerIssue at houtcome
    split at houtcome
    · cases houtcome
      exact ⟨_, rfl⟩
    · split at houtcome
      · cases houtcome
        exact ⟨_, rfl⟩
      · split at houtcome
        · cases houtcome
          exact ⟨_, rfl⟩
        · cases houtcome

theorem changedIssues_passedOver_perm :
    (changedIssues py dataset columnConfig datasetConfig limits issues ++
      passedOver py dataset columnConfig datasetConfig limits issues).Perm issues := by
  have hsorted := (stablySorts_sortedProposing py dataset columnConfig datasetConfig issues).perm
  have hsplit := List.filter_append_perm
    (fun issue => (pendingChange py dataset columnConfig datasetConfig issue).isSome) issues
  unfold changedIssues passedOver
  have hswap := ((List.perm_append_comm : (issues.filter (fun issue =>
    !(pendingChange py dataset columnConfig datasetConfig issue).isSome) ++
      (sortedProposing py dataset columnConfig datasetConfig issues).drop limits.maxPersistedChanges).Perm _)).append_left
    ((sortedProposing py dataset columnConfig datasetConfig issues).take limits.maxPersistedChanges)
  rw [← List.append_assoc, ← List.append_assoc, List.take_append_drop, List.append_assoc] at hswap
  exact hswap.trans ((hsorted.append_right _).trans hsplit)

/-- **The changes, issue by issue.** -/
theorem changes_forall₂ (py : Python) (dataset : Table) (columnConfig : Dict Str RemediationColumnConfig)
    (datasetConfig : RemediationDatasetConfigInput) (limits : RemediationLimits) (issues : List RemediationIssueInput) :
    List.Forall₂ (fun issue change => ∃ pending, pendingChange py dataset columnConfig datasetConfig issue = some pending ∧
        pending.proposal = change)
      (changedIssues py dataset columnConfig datasetConfig limits issues)
      (remediate py dataset issues columnConfig datasetConfig limits).changes := by
  have hproposing : ∀ l : List RemediationIssueInput,
      (∀ issue ∈ l, (pendingChange py dataset columnConfig datasetConfig issue).isSome = true) →
      List.Forall₂ (fun issue change => ∃ pending,
        pendingChange py dataset columnConfig datasetConfig issue = some pending ∧
          pending.proposal = change) l
        ((l.filterMap (pendingChange py dataset columnConfig datasetConfig)).map (fun pending => pending.proposal)) := by
    intro l hl
    induction l with
    | nil => exact .nil
    | cons issue l ih =>
      obtain ⟨pending, hpending⟩ := Option.isSome_iff_exists.1 (hl issue List.mem_cons_self)
      rw [List.filterMap_cons_some hpending]
      exact .cons ⟨pending, hpending, rfl⟩ (ih (fun issue' hmem => hl issue' (List.mem_cons_of_mem _ hmem)))
  have hkept := hproposing (changedIssues py dataset columnConfig datasetConfig limits issues)
    (fun issue hmem => (List.mem_filter.1 (List.mem_of_mem_take hmem)).2)
  have hchanges : (remediate py dataset issues columnConfig datasetConfig limits).changes =
      ((changedIssues py dataset columnConfig datasetConfig limits issues).filterMap
        (pendingChange py dataset columnConfig datasetConfig)).map (fun pending => pending.proposal) := by
    unfold remediate
    simp only [applyPersistedChangeCeiling_eq, List.filterMap_map]
    rw [(take_filterMap _ _ _).1]
    rfl
  rw [hchanges]
  exact hkept

/-- **The skipped entries are those of the issues passed over**, in some order. -/
theorem skipped_perm (py : Python) (dataset : Table) (columnConfig : Dict Str RemediationColumnConfig)
    (datasetConfig : RemediationDatasetConfigInput) (limits : RemediationLimits) (issues : List RemediationIssueInput) :
    ((remediate py dataset issues columnConfig datasetConfig limits).skipped.map SkippedIssue.origin).Perm
      ((passedOver py dataset columnConfig datasetConfig limits issues).map RemediationIssueInput.origin) := by
  have hearly : ∀ l : List RemediationIssueInput,
      (l.filterMap (fun issue => skippedOf (considerIssue py dataset columnConfig datasetConfig issue))).map
          SkippedIssue.origin =
        (l.filter (fun issue => !(pendingChange py dataset columnConfig datasetConfig issue).isSome)).map
          RemediationIssueInput.origin := by
    intro l
    induction l with
    | nil => rfl
    | cons issue l ih =>
      rcases considerIssue_cases py dataset columnConfig datasetConfig issue with ⟨reason, herror⟩ | ⟨pending, hok, -⟩
      · simp only [List.filterMap_cons, List.filter_cons, pendingChange, herror, skippedOf, pendingOf]
        exact congrArg _ ih
      · simp only [List.filterMap_cons, List.filter_cons, pendingChange, hok, skippedOf, pendingOf]
        exact ih
  have hover : ∀ l : List RemediationIssueInput,
      (∀ issue ∈ l, (pendingChange py dataset columnConfig datasetConfig issue).isSome = true) →
      ((l.filterMap (pendingChange py dataset columnConfig datasetConfig)).map overLimit).map SkippedIssue.origin =
        l.map RemediationIssueInput.origin := by
    intro l hl
    induction l with
    | nil => rfl
    | cons issue l ih =>
      have hrest := ih (fun issue' hmem => hl issue' (List.mem_cons_of_mem _ hmem))
      rcases considerIssue_cases py dataset columnConfig datasetConfig issue with ⟨reason, herror⟩ |
        ⟨pending, hok, horigin⟩
      · have hsome := hl issue List.mem_cons_self
        simp only [pendingChange, herror, pendingOf, Option.isSome_none] at hsome
        cases hsome
      · have hpending : pendingChange py dataset columnConfig datasetConfig issue = some pending := by
          simp only [pendingChange, hok, pendingOf]
        rw [List.filterMap_cons_some hpending, List.map_cons, List.map_cons, List.map_cons, horigin, hrest]
  unfold remediate passedOver
  simp only [applyPersistedChangeCeiling_eq, List.filterMap_map]
  rw [(take_filterMap _ _ _).2]
  refine ((List.perm_insertionSort _ _).map _).trans ?_
  rw [List.map_append, List.map_append]
  refine List.Perm.append ?_ (List.Perm.of_eq ?_)
  · -- sorting first does not matter to which issues are skipped early
    refine (List.Perm.of_eq (hearly _)).trans (((List.perm_insertionSort _ issues).filter _).map _)
  · exact hover _ (fun issue hmem => (List.mem_filter.1 (List.mem_of_mem_drop hmem)).2)

/-- **`remediate` partitions its input.**  Every issue given is changed or passed over, once for each time it was given;
the changes are, one by one, the proposals of the first proposing issues in the engine's order; the counts are the
lengths of the lists; and no more are changed than the ceiling allows. -/
theorem remediate_partitions (py : Python) (dataset : Table) (issues : List RemediationIssueInput)
    (columnConfig : Dict Str RemediationColumnConfig) (datasetConfig : RemediationDatasetConfigInput)
    (limits : RemediationLimits) :
    let result := remediate py dataset issues columnConfig datasetConfig limits
    let changed := changedIssues py dataset columnConfig datasetConfig limits issues
    let passed := passedOver py dataset columnConfig datasetConfig limits issues
    (changed ++ passed).Perm issues ∧
    List.Forall₂ (fun issue change => ∃ pending,
      pendingChange py dataset columnConfig datasetConfig issue = some pending ∧ pending.proposal = change)
      changed result.changes ∧
    (result.skipped.map SkippedIssue.origin).Perm (passed.map RemediationIssueInput.origin) ∧
    (result.changes.map (fun p => p.sourceIssueId) ++ result.skipped.map (fun s => s.sourceIssueId)).Perm
      (issues.map (fun issue => issue.issueId)) ∧
    (result.issuesConsideredCount = issues.length ∧ result.totalChangesCount = result.changes.length ∧
      result.issuesSkippedCount = result.skipped.length ∧
      result.changes.length + result.skipped.length = issues.length) ∧
    result.changes.length ≤ limits.maxPersistedChanges := by
  intro result changed passed
  have hperm : (changed ++ passed).Perm issues := changedIssues_passedOver_perm
  have hchanges := changes_forall₂ py dataset columnConfig datasetConfig limits issues
  have hskipped := skipped_perm py dataset columnConfig datasetConfig limits issues
  have hids : result.changes.map (fun p => p.sourceIssueId) = changed.map (fun issue => issue.issueId) := by
    have hid : List.Forall₂ (fun a b => a = b) (changed.map (fun issue => issue.issueId))
        (result.changes.map (fun p => p.sourceIssueId)) := by
      rw [List.forall₂_map_left_iff, List.forall₂_map_right_iff]
      refine hchanges.imp (fun issue change h => ?_)
      obtain ⟨pending, hpending, rfl⟩ := h
      exact (pendingChange_issueId hpending).symm
    rw [List.forall₂_eq_eq_eq] at hid
    exact hid.symm
  have hskippedIds : (result.skipped.map (fun s => s.sourceIssueId)).Perm (passed.map (fun issue => issue.issueId)) := by
    have h := hskipped.map (fun o : IssueId × Nat × Option Str × IssueType => o.1)
    rw [List.map_map, List.map_map] at h
    exact h
  have hreconciles := remediate_reconciles py dataset issues columnConfig datasetConfig limits
  refine ⟨hperm, hchanges, hskipped, ?_, ⟨rfl, rfl, rfl, hreconciles⟩, ?_⟩
  · rw [hids]
    have h := ((hskippedIds.append_left _).trans (List.Perm.of_eq List.map_append.symm)).trans (hperm.map _)
    exact h
  · rw [← hchanges.length_eq]
    exact List.length_take_le _ _

end Remediation
end DataOps

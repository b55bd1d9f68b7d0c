import DataOps.AuditLogs
import DataOps.ChangeOrder
import DataOps.MatchOnce
/-!
# AuditLogPages — reading the log of a run page by page

The change logs are listed by data row alone, and a data row may have several changes: they page without loss exactly
where no page ends between two changes of one data row.  The order of groups and of decisions leaves no ties, and their
pages lose nothing (`audit_logs_page_iff`).
-/
namespace DataOps
namespace AuditLogs

open Api (OrganizationId TaskId TaskRunId User HTTPException TaskTables foundOr404_eq_ok getTaskRunOr404)
open Pages (Lossless EndsBetween)

/-- **The pages of a list endpoint yield every row exactly once**, whichever way each of its queries is answered. -/
def PagesWithoutLoss {α : Type} (respond : PaginationParams → Except HTTPException (PaginatedResponse α) → Prop)
    (rows : List α) (limit : Limit) : Prop :=
  ∀ pages : Nat → PaginatedResponse α, (∀ k, respond ⟨limit, k * limit.val⟩ (.ok (pages k))) →
    ∀ n, rows.length ≤ n * limit.val → (Pages.concatenated (fun k => (pages k).items) n).Perm rows

section
variable {α κ : Type} [LinearOrder κ] {found : Except HTTPException ResultRun} {rows : ResultRun → List α} {key : α → κ}
  {run : ResultRun}

/-- The pages of an endpoint are those of its query. -/
theorem pagesWithoutLoss_iff (hfound : found = .ok run) {l : List α} (hrows : rows run = l) (limit : Limit) :
    PagesWithoutLoss (Responds found rows key) l limit ↔ Lossless key l limit.val := by
  subst hrows
  constructor
  · intro h pages hpages n hn
    exact h (fun k => ⟨pages k, (rows run).length, limit.val, k * limit.val⟩)
      (fun k => ⟨run, hfound, hpages k, rfl, rfl, rfl⟩) n hn
  · intro h pages hpages n hn
    refine h (fun k => (pages k).items) (fun k => ?_) n hn
    obtain ⟨run', hfound', hitems, -⟩ := hpages k
    obtain rfl : run = run' := Except.ok.inj (hfound.symm.trans hfound')
    exact hitems

end

/-- What the lookup finds. -/
theorem getResultRunOr404_ok {detail : String} {tasks : TaskTables} {runs : List ResultRun} {taskId : TaskId}
    {runId : TaskRunId} {orgId : OrganizationId} {run : ResultRun}
    (h : getResultRunOr404 detail tasks runs taskId runId orgId = .ok run) : run ∈ runs ∧ run.organizationId = orgId := by
  unfold getResultRunOr404 at h
  cases hvisible : getTaskRunOr404 tasks taskId runId orgId with
  | error e =>
    rw [hvisible] at h
    cases h
  | ok u =>
    rw [hvisible] at h
    have hfind := foundOr404_eq_ok.1 h
    have hrun := List.find?_some hfind
    exact ⟨List.mem_of_find?_eq_some hfind, (of_decide_eq_true hrun).2.2⟩

/-! ## The change logs -/

section
variable {α : Type} {Returned : List α → Prop} {db : LogTables α Returned} {run : ResultRun}

theorem LogTables.nodup_rowsOf (db : LogTables α Returned) (run : ResultRun) : (db.rowsOf run).Nodup :=
  List.Nodup.of_map _ (db.distinct.sublist (List.filter_sublist.map _))

/-- The log of a result is what its engine returned, in the rows of its organization. -/
theorem LogTables.rowsOf_written (hrun : run ∈ db.runs) :
    Returned ((db.rowsOf run).map (fun r => r.entry)) ∧ ∀ r ∈ db.rowsOf run, r.organizationId = run.organizationId := by
  obtain ⟨entries, hreturned, hwritten⟩ := db.written run hrun
  have hentries : (db.rowsOf run).map (fun r => r.entry) = entries := by
    have h := congrArg (List.map Prod.snd) hwritten
    rw [List.map_map, List.map_map] at h
    exact h.trans (List.map_id _)
  refine ⟨hentries ▸ hreturned, fun r hr => ?_⟩
  have hmem : (r.organizationId, r.entry) ∈ entries.map (fun entry => (run.organizationId, entry)) :=
    hwritten ▸ List.mem_map_of_mem hr
  obtain ⟨entry, -, heq⟩ := List.mem_map.1 hmem
  exact (congrArg Prod.fst heq).symm

/-- **A change log pages without loss exactly where no page ends between two changes of one data row.** -/
theorem listChanges_iff {rowIndex : α → Nat}
    (hsorted : ∀ entries, Returned entries → entries.Pairwise (fun a b => rowIndex a ≤ rowIndex b)) (currentUser : User)
    {found : Except HTTPException ResultRun} (hfound : found = .ok run) (hrun : run ∈ db.runs)
    (horg : run.organizationId = currentUser.organizationId) (limit : Limit) :
    PagesWithoutLoss (fun pagination => ListChanges pagination currentUser found db rowIndex) (db.rowsOf run) limit ↔
      EndsBetween rowIndex ((db.rowsOf run).map (fun r => r.entry)) limit.val := by
  obtain ⟨hreturned, horgs⟩ := LogTables.rowsOf_written hrun
  have hfilter : db.rows.filter (fun r => r.runId = run.id ∧ r.organizationId = currentUser.organizationId) =
      db.rowsOf run := by
    refine List.filter_congr (fun r hr => ?_)
    rw [decide_eq_decide]
    refine and_iff_left_of_imp (fun hid => ?_)
    exact (horgs r (List.mem_filter.2 ⟨hr, decide_eq_true hid⟩)).trans horg
  refine (pagesWithoutLoss_iff hfound hfilter limit).trans
    ((Pages.lossless_iff_endsBetween (db.nodup_rowsOf run) ?_).trans Pages.endsBetween_map)
  have hrows := List.pairwise_map.1 (hsorted _ hreturned)
  exact hrows

end

/-! ## Groups and decisions -/

section
variable {casefold : Str → Str} {db : MatchLog casefold} {run : ResultRun}

/-- The groups of a match run. -/
def MatchLog.groupsOf (db : MatchLog casefold) (run : ResultRun) : List Matching.MatchGroupRow :=
  db.tables.matchGroups.filter (fun g => g.matchRunId = run.id)

/-- The decisions of a match run. -/
def MatchLog.decisionsOf (db : MatchLog casefold) (run : ResultRun) : List Matching.MatchDecisionRow :=
  db.tables.matchDecisions.filter (fun d => d.matchRunId = run.id)

/-- The first row of a group is that of no other group of the run. -/
theorem MatchLog.groupsOf_written (hrun : run ∈ db.runs) :
    ((db.groupsOf run).map (fun g => g.canonicalRowIndex)).Nodup ∧
      ∀ g ∈ db.groupsOf run, g.organizationId = run.organizationId := by
  obtain ⟨before, t, ruleSet, limits, hgroups, -⟩ := db.written run hrun
  unfold MatchLog.groupsOf
  rw [hgroups]
  constructor
  · have hindices : (Matching.groupModels before run.organizationId
      (Matching.matchRows casefold t ruleSet limits).groups).map
        (fun g => g.canonicalRowIndex) =
          ((Matching.matchRows casefold t ruleSet limits).groups.map Matching.Group.canonicalRowIndex).map Fin.val := by
      unfold Matching.groupModels
      conv => rhs; rw [← List.zipIdx_map_fst 0 (Matching.matchRows casefold t ruleSet limits).groups]
      rw [List.map_map, List.map_map, List.map_map]
      rfl
    rw [hindices]
    exact Matching.matchRows_canonical.map Fin.val_injective
  · intro g hg
    obtain ⟨k, group, -, rfl⟩ := Matching.mem_groupModels.1 hg
    rfl

/-- The rows of a decision are those of no other decision of the run. -/
theorem MatchLog.decisionsOf_written (hrun : run ∈ db.runs) :
    ((db.decisionsOf run).map (fun d => (d.recordARowIndex, d.recordBRowIndex))).Nodup ∧
      ∀ d ∈ db.decisionsOf run, d.organizationId = run.organizationId := by
  obtain ⟨before, t, ruleSet, limits, -, hdecisions⟩ := db.written run hrun
  unfold MatchLog.decisionsOf
  rw [hdecisions]
  constructor
  · rw [List.map_map]
    have hpairs := @Matching.matchRows_pairs casefold t ruleSet limits
    have hvals := hpairs.map (f := fun p => (p.1.val, p.2.val))
      (fun p q h => Prod.ext (Fin.val_injective (congrArg Prod.fst h)) (Fin.val_injective (congrArg Prod.snd h)))
    rw [List.map_map] at hvals
    exact hvals
  · intro d hd
    obtain ⟨decision, -, rfl⟩ := List.mem_map.1 hd
    rfl

variable (tasks : TaskTables) {taskId : TaskId} {runId : TaskRunId} (currentUser : User)

theorem listGroups_lossless (hfound : getMatchRunOr404 tasks db.runs taskId runId currentUser.organizationId = .ok run)
    (limit : Limit) :
    PagesWithoutLoss (fun pagination => ListTaskRunMatchingGroups tasks taskId runId pagination currentUser db)
      (db.groupsOf run) limit := by
  obtain ⟨hrun, horg⟩ := getResultRunOr404_ok hfound
  obtain ⟨hindices, horgs⟩ := MatchLog.groupsOf_written hrun
  have hfilter : db.tables.matchGroups.filter
      (fun g => g.matchRunId = run.id ∧ g.organizationId = currentUser.organizationId) = db.groupsOf run := by
    refine List.filter_congr (fun g hg => ?_)
    rw [decide_eq_decide]
    exact and_iff_left_of_imp (fun hid => (horgs g (List.mem_filter.2 ⟨hg, decide_eq_true hid⟩)).trans horg)
  refine (pagesWithoutLoss_iff hfound hfilter limit).2 (Pages.lossless_of_injOn (fun a ha b hb heq => ?_))
  exact List.inj_on_of_nodup_map hindices ha hb heq

theorem listDecisions_lossless (hfound : getMatchRunOr404 tasks db.runs taskId runId currentUser.organizationId = .ok run)
    (filters : DecisionFilters) (limit : Limit) :
    PagesWithoutLoss (fun pagination => ListTaskRunMatchingDecisions tasks taskId runId pagination currentUser db filters)
      ((db.decisionsOf run).filter filters.keeps) limit := by
  obtain ⟨hrun, horg⟩ := getResultRunOr404_ok hfound
  obtain ⟨hpairs, horgs⟩ := MatchLog.decisionsOf_written hrun
  by_cases hcheck : filters.check run = .ok run
  · have hfilter : db.tables.matchDecisions.filter (fun d =>
        d.matchRunId = run.id ∧ d.organizationId = currentUser.organizationId ∧ filters.keeps d = true) =
          (db.decisionsOf run).filter filters.keeps := by
      unfold MatchLog.decisionsOf
      rw [List.filter_filter]
      refine List.filter_congr (fun d hd => ?_)
      rw [Bool.eq_iff_iff, Bool.and_eq_true, decide_eq_true_iff, decide_eq_true_iff]
      constructor
      · exact fun h => ⟨h.2.2, h.1⟩
      · exact fun h => ⟨h.2, (horgs d (List.mem_filter.2 ⟨hd, decide_eq_true h.2⟩)).trans horg, h.1⟩
    have hnamed : (getMatchRunOr404 tasks db.runs taskId runId currentUser.organizationId >>= filters.check) =
      .ok run := by
      rw [hfound]
      exact hcheck
    refine (pagesWithoutLoss_iff hnamed hfilter limit).2 (Pages.lossless_of_injOn (fun a ha b hb heq => ?_))
    exact List.inj_on_of_nodup_map hpairs (List.mem_of_mem_filter ha) (List.mem_of_mem_filter hb) (toLex.injective heq)
  · -- a parameter that names no decision gets no page at all
    intro pages hpages
    obtain ⟨run', hok, -⟩ := hpages 0
    rw [hfound] at hok
    refine absurd ?_ hcheck
    have hok : filters.check run = .ok run' := hok
    unfold DecisionFilters.check at hok ⊢
    split at hok
    · rename_i hnamed
      rw [if_pos hnamed]
    · cases hok

end

/-! ## All four -/

/-- **When the logs of a run page without loss**: the groups and the decisions always do, the changes of a cleaning or a
standardization run exactly where no page ends between two changes of one data row. -/
theorem audit_logs_page_iff (py : PythonValues) (tasks : TaskTables) (taskId : TaskId)
    (runId : TaskRunId) (currentUser : User) (limit : Limit) :
    (∀ (db : CleaningLog py) (run : ResultRun),
      getCleaningRunOr404 tasks db.runs taskId runId currentUser.organizationId = .ok run →
        CleaningReturned py ((db.rowsOf run).map (fun r => r.entry)) ∧
        (PagesWithoutLoss (fun pagination => ListTaskRunCleaningChanges tasks taskId runId pagination currentUser db)
            (db.rowsOf run) limit ↔
          EndsBetween Cleaning.Change.rowIndex ((db.rowsOf run).map (fun r => r.entry)) limit.val)) ∧
    (∀ (db : StandardizationLog py) (run : ResultRun),
      getStandardizationRunOr404 tasks db.runs taskId runId currentUser.organizationId = .ok run →
        StandardizationReturned py ((db.rowsOf run).map (fun r => r.entry)) ∧
        (PagesWithoutLoss
            (fun pagination => ListTaskRunStandardizationChanges tasks taskId runId pagination currentUser db)
            (db.rowsOf run) limit ↔
          EndsBetween Standardization.Change.rowIndex ((db.rowsOf run).map (fun r => r.entry)) limit.val)) ∧
    (∀ (db : MatchLog py.casefold) (run : ResultRun),
      getMatchRunOr404 tasks db.runs taskId runId currentUser.organizationId = .ok run →
        PagesWithoutLoss (fun pagination => ListTaskRunMatchingGroups tasks taskId runId pagination currentUser db)
          (db.groupsOf run) limit ∧
        ∀ filters : DecisionFilters,
          PagesWithoutLoss (fun pagination =>
            ListTaskRunMatchingDecisions tasks taskId runId pagination currentUser db filters)
            ((db.decisionsOf run).filter filters.keeps) limit) := by
  refine ⟨fun db run hfound => ?_, fun db run hfound => ?_, fun db run hfound => ?_⟩
  · obtain ⟨hrun, horg⟩ := getResultRunOr404_ok hfound
    refine ⟨(LogTables.rowsOf_written hrun).1, listChanges_iff ?_ currentUser hfound hrun horg limit⟩
    rintro changes ⟨rows, headers, columnTypes, limits, result, hclean, rfl⟩
    exact Cleaning.clean_inOrder hclean
  · obtain ⟨hrun, horg⟩ := getResultRunOr404_ok hfound
    refine ⟨(LogTables.rowsOf_written hrun).1, listChanges_iff ?_ currentUser hfound hrun horg limit⟩
    rintro changes ⟨lookupTables, config, rows, headers, fieldTypes, limits, result, hstandardize, rfl⟩
    exact Standardization.standardize_inOrder hstandardize
  · exact ⟨listGroups_lossless tasks currentUser hfound limit,
      fun filters => listDecisions_lossless tasks currentUser hfound filters limit⟩

/-- A data row with two names to trim. -/
def paddedRow : List (List Str) := [[" Ada".toList, " Paris".toList]]

/-- The two changes of its cleaning run. -/
def paddedChanges : List Cleaning.Change :=
  [⟨0, "name".toList, " Ada".toList, "Ada".toList, .trimWhitespace, Cleaning.ruleReason .trimWhitespace,
      Cleaning.ruleConfidence .trimWhitespace⟩,
    ⟨0, "city".toList, " Paris".toList, "Paris".toList, .trimWhitespace, Cleaning.ruleReason .trimWhitespace,
      Cleaning.ruleConfidence .trimWhitespace⟩]

theorem paddedChanges_returned : CleaningReturned asciiValues paddedChanges :=
  ⟨paddedRow, ["name".toList, "city".toList], [.string, .string], ⟨1000⟩,
    ⟨[["Ada".toList, "Paris".toList]], paddedChanges, 2, [(.trimWhitespace, 2)], 0, 1⟩, by decide +kernel, rfl⟩

/-- Its run, of the organization 1. -/
def paddedLog : CleaningLog asciiValues := LogTables.empty.persist 1 5 4 paddedChanges paddedChanges_returned

def oneTaskRun : TaskTables :=
  ⟨fun id => if id = 4 then some ⟨1, true⟩ else none, fun id => if id = 5 then some ⟨4, 1⟩ else none⟩

def reader : User := ⟨7, 1, "a@b.c", none, false⟩

/-- **Pages of one change**: the second query may take the two changes the other way round, and then the first change comes
twice and the second not at all. -/
theorem changes_page_with_loss : ∃ pages : Nat → PaginatedResponse (LogRow Cleaning.Change),
    (∀ k, ListTaskRunCleaningChanges oneTaskRun 4 5 ⟨⟨1, by decide⟩, k * 1⟩ reader paddedLog (.ok (pages k))) ∧
      (paddedLog.rows.map (fun r => r.id)) = [1, 2] ∧
      (Pages.concatenated (fun k => (pages k).items) 2).map (fun r => r.id) = [1, 1] := by
  refine ⟨fun k => ⟨((if k = 1 then paddedLog.rows.reverse else paddedLog.rows).drop (k * 1)).take 1, 2, 1, k * 1⟩,
    fun k => ?_, by decide, by decide⟩
  refine ⟨⟨0, 1, 5, 4⟩, by decide, ⟨if k = 1 then paddedLog.rows.reverse else paddedLog.rows, ?_, ?_, rfl⟩,
    rfl, rfl, rfl⟩
  · split
    · exact (List.reverse_perm _).trans (by decide)
    · decide
  · split <;> decide

/-- In one page of fifty, nothing is lost. -/
theorem audit_logs_page_iff_fifty :
    PagesWithoutLoss (fun pagination => ListTaskRunCleaningChanges oneTaskRun 4 5 pagination reader paddedLog)
      (paddedLog.rowsOf ⟨0, 1, 5, 4⟩) ⟨50, by decide⟩ := by
  have hlog := (audit_logs_page_iff asciiValues oneTaskRun 4 5 reader ⟨50, by decide⟩).1 paddedLog ⟨0, 1, 5, 4⟩ (by decide)
  refine hlog.2.2 ?_
  intro k a b hpos ha hb
  have hlast := (List.getElem?_eq_some_iff.1 hb).1
  have hlength : ((paddedLog.rowsOf ⟨0, 1, 5, 4⟩).map (fun r => r.entry)).length = 2 := by decide
  rw [hlength] at hlast
  dsimp only at hpos hlast
  omega

end AuditLogs
end DataOps

import Mathlib.Data.Prod.Lex
import DataOps.ApiTables
import DataOps.CleaningEngine
import DataOps.LibPages
import DataOps.MatchPersist
import DataOps.StandardizationEngine
/-!
# AuditLogs — the logs of a run, and the endpoints that list them

A handler writes a result's row with its log, one row an entry, in one commit; a second result for a task run is rolled
back. So in the tables the log of a run is what its engine returned (`LogTables.written`, `MatchLog.written`).  An
endpoint finds the result behind the 404 chain and lists its log by pages, in the order its query asks for.
-/
namespace DataOps
namespace AuditLogs

open Api (OrganizationId TaskId TaskRunId User HTTPException RunKind TaskTables foundOr404 getTaskRunOr404)
open Matching (MatchTables MatchGroupRow MatchDecisionRow MatchRuleSetConfig MatchLimits DecisionLabel matchRows
  groupModels decisionModel)

/-! ## The tables -/

/-- The columns of `cleaning_runs`, `standardization_runs` and `match_runs` that the lookups read. -/
structure ResultRun where
  id             : Nat
  organizationId : OrganizationId
  taskRunId      : TaskRunId
  taskId         : TaskId
deriving DecidableEq, Repr

/-- A row of a log. -/
structure LogRow (α : Type) where
  id             : Nat
  organizationId : OrganizationId
  runId          : Nat
  entry          : α
deriving DecidableEq

/-- The results of one kind with their logs, all of them written from what the engine `Returned`.  `uuid4()` is a supply
that never repeats: every id in them is below `nextId`. -/
structure LogTables (α : Type) (Returned : List α → Prop) where
  nextId    : Nat
  runs      : List ResultRun
  rows      : List (LogRow α)
  runsDrawn : ∀ run ∈ runs, run.id < nextId
  rowsDrawn : ∀ r ∈ rows, r.id < nextId ∧ r.runId < nextId
  distinct  : (rows.map (fun r => r.id)).Nodup
  once      : (runs.map (fun run => run.taskRunId)).Nodup
  written   : ∀ run ∈ runs, ∃ entries, Returned entries ∧
                (rows.filter (fun r => r.runId = run.id)).map (fun r => (r.organizationId, r.entry)) =
                  entries.map (fun entry => (run.organizationId, entry))

section
variable {α : Type} {Returned : List α → Prop}

def LogTables.empty : LogTables α Returned := ⟨0, [], [], by simp, by simp, by simp, by simp, by simp⟩

/-- The log of a result. -/
def LogTables.rowsOf (db : LogTables α Returned) (run : ResultRun) : List (LogRow α) :=
  db.rows.filter (fun r => r.runId = run.id)

/-- `db.add` for each entry, under the id drawn for the result. -/
def logRows (nextId : Nat) (organizationId : OrganizationId) (entries : List α) : List (LogRow α) :=
  entries.zipIdx.map (fun p => ⟨nextId + 1 + p.2, organizationId, nextId, p.1⟩)

theorem mem_logRows {nextId : Nat} {organizationId : OrganizationId} {entries : List α} {r : LogRow α}
    (h : r ∈ logRows nextId organizationId entries) :
    nextId < r.id ∧ r.id < nextId + 1 + entries.length ∧ r.runId = nextId := by
  obtain ⟨⟨entry, k⟩, hmem, rfl⟩ := List.mem_map.1 h
  have hk := (List.getElem?_eq_some_iff.1 (List.mem_zipIdx_iff_getElem?.1 hmem)).1
  dsimp only at hk ⊢
  omega

theorem map_id_logRows (nextId : Nat) (organizationId : OrganizationId) (entries : List α) :
    (logRows nextId organizationId entries).map (fun r => r.id) =
      (List.range' 0 entries.length).map (fun k => nextId + 1 + k) := by
  unfold logRows
  rw [List.map_map, ← List.zipIdx_map_snd 0 entries, List.map_map]
  rfl

theorem map_entry_logRows (nextId : Nat) (organizationId : OrganizationId) (entries : List α) :
    (logRows nextId organizationId entries).map (fun r => (r.organizationId, r.entry)) =
      entries.map (fun entry => (organizationId, entry)) := by
  unfold logRows
  conv => rhs; rw [← List.zipIdx_map_fst 0 entries]
  rw [List.map_map, List.map_map]
  rfl

/-- The commit of `CleaningHandler.execute` and of `StandardizationHandler.execute`: the result and its log, or nothing
where the task run has a result (`uq_.._task_run_id`). -/
def LogTables.persist (db : LogTables α Returned) (organizationId : OrganizationId)
    (taskRunId : TaskRunId) (taskId : TaskId) (entries : List α) (hentries : Returned entries) : LogTables α Returned :=
  if honce : taskRunId ∈ db.runs.map (fun run => run.taskRunId) then db
  else
    { nextId := db.nextId + 1 + entries.length
      runs := db.runs ++ [⟨db.nextId, organizationId, taskRunId, taskId⟩]
      rows := db.rows ++ logRows db.nextId organizationId entries
      runsDrawn := by
        intro run hrun
        rcases List.mem_append.1 hrun with hrun | hrun
        · have := db.runsDrawn run hrun
          omega
        · rw [List.mem_singleton.1 hrun]
          dsimp only
          omega
      rowsDrawn := by
        intro r hr
        rcases List.mem_append.1 hr with hr | hr
        · have := db.rowsDrawn r hr
          omega
        · have := mem_logRows hr
          omega
      distinct := by
        rw [List.map_append, List.nodup_append]
        refine ⟨db.distinct, ?_, ?_⟩
        · rw [map_id_logRows]
          exact List.Nodup.map (fun _ _ h => Nat.add_left_cancel h) List.nodup_range'
        · intro id hid id' hid' heq
          obtain ⟨r, hr, rfl⟩ := List.mem_map.1 hid
          obtain ⟨r', hr', rfl⟩ := List.mem_map.1 hid'
          have hold := (db.rowsDrawn r hr).1
          have hnew := (mem_logRows hr').1
          omega
      once := by
        rw [List.map_append, List.map_singleton, ← List.concat_eq_append]
        exact List.Nodup.concat honce db.once
      written := by
        intro run hrun
        rw [List.filter_append]
        rcases List.mem_append.1 hrun with hrun | hrun
        · have hnone : (logRows db.nextId organizationId entries).filter (fun r => r.runId = run.id) = [] := by
            refine List.filter_eq_nil_iff.2 (fun r hr heq => ?_)
            have hnew := (mem_logRows hr).2.2
            have hold := db.runsDrawn run hrun
            have heq : r.runId = run.id := of_decide_eq_true heq
            omega
          rw [hnone, List.append_nil]
          exact db.written run hrun
        · rw [List.mem_singleton.1 hrun]
          have hnone : db.rows.filter (fun r => r.runId = db.nextId) = [] := by
            refine List.filter_eq_nil_iff.2 (fun r hr heq => ?_)
            have hold := (db.rowsDrawn r hr).2
            have heq : r.runId = db.nextId := of_decide_eq_true heq
            omega
          have hall : (logRows db.nextId organizationId entries).filter (fun r => r.runId = db.nextId) =
              logRows db.nextId organizationId entries :=
            List.filter_eq_self.2 (fun r hr => decide_eq_true (mem_logRows hr).2.2)
          rw [hnone, hall, List.nil_append]
          exact ⟨entries, hentries, map_entry_logRows _ _ _⟩ }

end

/-- The changes of a cleaning run. -/
def CleaningReturned (py : PythonValues) (changes : List Cleaning.Change) : Prop :=
  ∃ rows headers columnTypes limits result, Cleaning.clean py rows headers columnTypes limits = some result ∧
    result.changes = changes

/-- The changes of a standardization run. -/
def StandardizationReturned (py : PythonValues) (changes : List Standardization.Change) : Prop :=
  ∃ lookupTables config rows headers fieldTypes limits result,
    Standardization.standardize py lookupTables config rows headers fieldTypes limits = some result ∧
      result.changes = changes

/-- `cleaning_runs` and `cleaning_changes`. -/
abbrev CleaningLog (py : PythonValues) := LogTables Cleaning.Change (CleaningReturned py)

/-- `standardization_runs` and `standardization_changes`. -/
abbrev StandardizationLog (py : PythonValues) := LogTables Standardization.Change (StandardizationReturned py)

/-- `match_runs` with `match_groups` and `match_decisions`. -/
structure MatchLog (casefold : Str → Str) where
  tables         : MatchTables
  runs           : List ResultRun
  runsDrawn      : ∀ run ∈ runs, run.id < tables.nextId
  decisionsDrawn : ∀ d ∈ tables.matchDecisions, d.matchRunId < tables.nextId
  once           : (runs.map (fun run => run.taskRunId)).Nodup
  written        : ∀ run ∈ runs, ∃ (before : MatchTables) (t : Table) (ruleSet : Option MatchRuleSetConfig)
    (limits : MatchLimits),
                     tables.matchGroups.filter (fun g => g.matchRunId = run.id) =
                       groupModels before run.organizationId (matchRows casefold t ruleSet limits).groups ∧
                     tables.matchDecisions.filter (fun d => d.matchRunId = run.id) =
                       (matchRows casefold t ruleSet limits).decisions.map (decisionModel before run.organizationId
                         (groupModels before run.organizationId (matchRows casefold t ruleSet limits).groups))

section
variable {casefold : Str → Str}

def MatchLog.empty : MatchLog casefold := ⟨.empty, [], by simp, by simp [MatchTables.empty], by simp, by simp⟩

/-- The commit of `MatchHandler.execute`. -/
def MatchLog.persist (db : MatchLog casefold) (organizationId : OrganizationId) (taskRunId : TaskRunId) (taskId : TaskId)
    (t : Table) (ruleSet : Option MatchRuleSetConfig) (limits : MatchLimits) : MatchLog casefold :=
  if honce : taskRunId ∈ db.runs.map (fun run => run.taskRunId) then db
  else
    { tables := db.tables.persist organizationId (matchRows casefold t ruleSet limits)
      runs := db.runs ++ [⟨db.tables.matchRunId, organizationId, taskRunId, taskId⟩]
      runsDrawn := by
        intro run hrun
        rcases List.mem_append.1 hrun with hrun | hrun
        · have := db.runsDrawn run hrun
          dsimp only [MatchTables.persist]
          omega
        · rw [List.mem_singleton.1 hrun]
          dsimp only [MatchTables.persist, MatchTables.matchRunId]
          omega
      decisionsDrawn := by
        intro d hd
        rcases List.mem_append.1 hd with hd | hd
        · have := db.decisionsDrawn d hd
          dsimp only [MatchTables.persist]
          omega
        · obtain ⟨decision, -, rfl⟩ := List.mem_map.1 hd
          dsimp only [MatchTables.persist, decisionModel, MatchTables.matchRunId]
          omega
      once := by
        rw [List.map_append, List.map_singleton, ← List.concat_eq_append]
        exact List.Nodup.concat honce db.once
      written := by
        intro run hrun
        dsimp only [MatchTables.persist]
        rw [List.filter_append, List.filter_append]
        have hgroup : ∀ g ∈ groupModels db.tables organizationId (matchRows casefold t ruleSet limits).groups,
            g.matchRunId = db.tables.nextId := by
          intro g hg
          obtain ⟨k, group, -, rfl⟩ := Matching.mem_groupModels.1 hg
          rfl
        have hdecision : ∀ d ∈ (matchRows casefold t ruleSet limits).decisions.map (decisionModel db.tables organizationId
            (groupModels db.tables organizationId (matchRows casefold t ruleSet limits).groups)),
            d.matchRunId = db.tables.nextId := by
          intro d hd
          obtain ⟨decision, -, rfl⟩ := List.mem_map.1 hd
          rfl
        rcases List.mem_append.1 hrun with hrun | hrun
        · have hne : run.id ≠ db.tables.nextId := Nat.ne_of_lt (db.runsDrawn run hrun)
          obtain ⟨before, t', ruleSet', limits', hgroups, hdecisions⟩ := db.written run hrun
          refine ⟨before, t', ruleSet', limits', ?_, ?_⟩
          · rw [hgroups, List.filter_eq_nil_iff.2
              (fun g hg heq => hne ((of_decide_eq_true heq).symm.trans (hgroup g hg))), List.append_nil]
          · rw [hdecisions, List.filter_eq_nil_iff.2
              (fun d hd heq => hne ((of_decide_eq_true heq).symm.trans (hdecision d hd))), List.append_nil]
        · rw [List.mem_singleton.1 hrun]
          refine ⟨db.tables, t, ruleSet, limits, ?_, ?_⟩
          · rw [List.filter_eq_nil_iff.2 (fun g hg heq =>
              Nat.lt_irrefl _ ((of_decide_eq_true heq) ▸ (db.tables.groupsDrawn g hg).1)), List.nil_append]
            exact List.filter_eq_self.2 (fun g hg => decide_eq_true (hgroup g hg))
          · rw [List.filter_eq_nil_iff.2 (fun d hd heq =>
              Nat.lt_irrefl _ ((of_decide_eq_true heq) ▸ db.decisionsDrawn d hd)), List.nil_append]
            exact List.filter_eq_self.2 (fun d hd => decide_eq_true (hdecision d hd)) }

end

/-! ## The endpoints -/

/-- `limit: int = Query(default=50, ge=1, le=100)`. -/
structure Limit where
  val    : Nat
  bounds : 1 ≤ val ∧ val ≤ 100

structure PaginationParams where
  limit  : Limit
  offset : Nat

structure PaginatedResponse (α : Type) where
  items  : List α
  total  : Nat
  limit  : Nat
  offset : Nat

/-- The last two steps of `_get_cleaning_run_or_404`, `_get_standardization_run_or_404` and `_get_match_run_or_404`: the
run of the task, and its result. -/
def getResultRunOr404 (detail : String) (tasks : TaskTables) (runs : List ResultRun) (taskId : TaskId) (runId : TaskRunId)
    (orgId : OrganizationId) : Except HTTPException ResultRun := do
  let _ ← getTaskRunOr404 tasks taskId runId orgId
  foundOr404 detail
    (runs.find? (fun run => run.taskRunId = runId ∧ run.taskId = taskId ∧ run.organizationId = orgId))

def getCleaningRunOr404 := getResultRunOr404 RunKind.cleaning.notFound

def getStandardizationRunOr404 := getResultRunOr404 RunKind.standardization.notFound

def getMatchRunOr404 := getResultRunOr404 RunKind.matching.notFound

section
variable {α κ : Type} [LinearOrder κ]

/-- What a list endpoint may respond with: the error of its lookup, or the count of the rows and a page of them. -/
def Responds (found : Except HTTPException ResultRun) (rows : ResultRun → List α) (key : α → κ)
    (pagination : PaginationParams) :
    Except HTTPException (PaginatedResponse α) → Prop
  | .error e     => found = .error e
  | .ok response =>
    ∃ run, found = .ok run ∧
      Relations.Answers (fun a b => key a ≤ key b) (rows run) pagination.limit.val pagination.offset response.items ∧
      response.total = (rows run).length ∧ response.limit = pagination.limit.val ∧ response.offset = pagination.offset

end

section
variable (tasks : TaskTables) (taskId : TaskId) (runId : TaskRunId) (pagination : PaginationParams) (currentUser : User)

/-- The filters and the order of the two change logs. -/
def ListChanges {α : Type} {Returned : List α → Prop} (found : Except HTTPException ResultRun) (db : LogTables α Returned)
    (rowIndex : α → Nat) : Except HTTPException (PaginatedResponse (LogRow α)) → Prop :=
  Responds found
    (fun run => db.rows.filter (fun r => r.runId = run.id ∧ r.organizationId = currentUser.organizationId))
    (fun r => rowIndex r.entry) pagination

def ListTaskRunCleaningChanges {py : PythonValues} (db : CleaningLog py) :
    Except HTTPException (PaginatedResponse (LogRow Cleaning.Change)) → Prop :=
  ListChanges pagination currentUser (getCleaningRunOr404 tasks db.runs taskId runId currentUser.organizationId) db
    (fun change => change.rowIndex)

def ListTaskRunStandardizationChanges {py : PythonValues} (db : StandardizationLog py) :
    Except HTTPException (PaginatedResponse (LogRow Standardization.Change)) → Prop :=
  ListChanges pagination currentUser (getStandardizationRunOr404 tasks db.runs taskId runId currentUser.organizationId) db
    (fun change => change.rowIndex)

def ListTaskRunMatchingGroups {casefold : Str → Str} (db : MatchLog casefold) :
    Except HTTPException (PaginatedResponse MatchGroupRow) → Prop :=
  Responds (getMatchRunOr404 tasks db.runs taskId runId currentUser.organizationId)
    (fun run => db.tables.matchGroups.filter
      (fun g => g.matchRunId = run.id ∧ g.organizationId = currentUser.organizationId))
    (fun g => g.canonicalRowIndex) pagination

/-- The query parameters of the decisions. -/
structure DecisionFilters where
  decision     : Option String := none
  matchGroupId : Option Nat := none
  blockingKey  : Option Str := none

def decisionValue : DecisionLabel → String
  | .duplicate => "duplicate"
  | .ambiguous => "ambiguous"

def DecisionFilters.keeps (filters : DecisionFilters) (d : MatchDecisionRow) : Bool :=
  (filters.decision = none ∨ filters.decision = some (decisionValue d.decision)) ∧
    (filters.matchGroupId = none ∨ d.matchGroupId = filters.matchGroupId) ∧
    (filters.blockingKey = none ∨ d.blockingKey = filters.blockingKey)

/-- The result, once the parameter names a decision. -/
def DecisionFilters.check (filters : DecisionFilters) (run : ResultRun) : Except HTTPException ResultRun :=
  if filters.decision = none ∨ filters.decision = some "duplicate" ∨ filters.decision = some "ambiguous" then .ok run
  else .error ⟨400, "decision must be 'duplicate' or 'ambiguous'"⟩

def ListTaskRunMatchingDecisions {casefold : Str → Str} (db : MatchLog casefold) (filters : DecisionFilters) :
    Except HTTPException (PaginatedResponse MatchDecisionRow) → Prop :=
  Responds (getMatchRunOr404 tasks db.runs taskId runId currentUser.organizationId >>= filters.check)
    (fun run => db.tables.matchDecisions.filter (fun d =>
      d.matchRunId = run.id ∧ d.organizationId = currentUser.organizationId ∧ filters.keeps d = true))
    (fun d => toLex (d.recordARowIndex, d.recordBRowIndex)) pagination

end

end AuditLogs
end DataOps

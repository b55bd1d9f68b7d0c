import DataOps.ReadTables
/-!
# ReadEndpoints — the GET endpoints of tasks and data sources

One definition for each endpoint.  Two kinds of request: for a page of a list (`ListRequest`) and for one thing
(`GetRequest`).  Where a query leaves the database a choice, of an order or of the order of groups, a response is any
that some choice gives.
-/
namespace DataOps
namespace Reads

open Api (Time OrganizationId TaskId TaskRunId User HTTPException ChangeId DecisionRow DecisionSummary
  scalarOneOrNone)
open AuditLogs (PaginationParams PaginatedResponse)

variable {C : Type} (db : Tables C) (currentUser : User)

/-! ## Lists -/

def listTasks (includeInactive : Bool) : Listing (ActiveRow C) (ActiveRow C) :=
  activeRows db.tasks currentUser.organizationId includeInactive

def listDataSources (includeInactive : Bool) : Listing (ActiveRow C) (ActiveRow C) :=
  activeRows db.dataSources currentUser.organizationId includeInactive

def listStandardizationColumnMappings (includeInactive : Bool) : Listing (ActiveRow C) (ActiveRow C) :=
  activeRows db.standardizationMappings currentUser.organizationId includeInactive

def listStandardizationLookupEntries (includeInactive : Bool) : Listing (ActiveRow C) (ActiveRow C) :=
  activeRows db.standardizationLookupEntries currentUser.organizationId includeInactive

def listMatchRuleSets (includeInactive : Bool) : Listing (ActiveRow C) (ActiveRow C) :=
  activeRows db.matchRuleSets currentUser.organizationId includeInactive

def listTaskRuns (taskId : TaskId) : Except HTTPException (Listing (TaskRunRow C) (TaskRunRow C)) := do
  let task ← getActiveTaskOr404 db currentUser.organizationId taskId
  return .plain (db.taskRuns.filter (fun r => r.taskId = task.id ∧ r.organizationId = currentUser.organizationId))
    (orderBy (fun r => newestFirst r.toRow))

/-- The events of a run whose task need not be active. -/
def listTaskRunEvents (taskId : TaskId) (runId : TaskRunId) :
    Except HTTPException (Listing (ChildRow C) (ChildRow C)) := do
  let _ ← taskRunOr404 db currentUser.organizationId taskId runId
  return .plain (childRows id db.taskRunEvents runId currentUser.organizationId (fun _ => true))
    (orderBy (fun e => e.createdAt))

def listTaskRunCleaningChanges (taskId : TaskId) (runId : TaskRunId) :
    Except HTTPException (Listing (CellChangeRow C) (CellChangeRow C)) := do
  let run ← getCleaningRunOr404 db currentUser.organizationId taskId runId
  return .plain (childRows (·.toChildRow) db.cleaningChanges run.id currentUser.organizationId (fun _ => true))
    (orderBy (fun c => c.rowIndex))

def listTaskRunStandardizationChanges (taskId : TaskId) (runId : TaskRunId) :
    Except HTTPException (Listing (CellChangeRow C) (CellChangeRow C)) := do
  let run ← getStandardizationRunOr404 db currentUser.organizationId taskId runId
  return .plain (childRows (·.toChildRow) db.standardizationChanges run.id currentUser.organizationId (fun _ => true))
    (orderBy (fun c => c.rowIndex))

def listTaskRunMatchingGroups (taskId : TaskId) (runId : TaskRunId) :
    Except HTTPException (Listing (MatchGroupRow C) (MatchGroupRow C)) := do
  let run ← getMatchRunOr404 db currentUser.organizationId taskId runId
  return .plain (childRows (·.toChildRow) db.matchGroups run.id currentUser.organizationId (fun _ => true))
    (orderBy (fun g => g.canonicalRowIndex))

structure DecisionFilters where
  decision     : Option String := none
  matchGroupId : Option RowId := none
  blockingKey  : Option Str := none

def listTaskRunMatchingDecisions (taskId : TaskId) (runId : TaskRunId) (filters : DecisionFilters) :
    Except HTTPException (Listing (MatchDecisionRow C) (MatchDecisionRow C)) := do
  let run ← getMatchRunOr404 db currentUser.organizationId taskId runId
  if ¬ (filters.decision.all (fun v => v = "duplicate" ∨ v = "ambiguous") = true) then
    throw ⟨400, "decision must be 'duplicate' or 'ambiguous'"⟩
  return .plain
    (childRows (·.toChildRow) db.matchDecisions run.id currentUser.organizationId (fun d =>
      matches? filters.decision (some (AuditLogs.decisionValue d.decision)) ∧
        matches? filters.matchGroupId d.matchGroupId ∧ matches? filters.blockingKey d.blockingKey))
    (orderBy (fun d => toLex (d.recordARowIndex, d.recordBRowIndex)))

def listTaskRunMatchingSkippedBlocks (taskId : TaskId) (runId : TaskRunId) :
    Except HTTPException (Listing (MatchSkippedBlockRow C) (MatchSkippedBlockRow C)) := do
  let run ← getMatchRunOr404 db currentUser.organizationId taskId runId
  return .plain (childRows (·.toChildRow) db.matchSkippedBlocks run.id currentUser.organizationId (fun _ => true))
    (orderBy (fun b => b.blockingKey))

def listTaskRunExportExclusions (taskId : TaskId) (runId : TaskRunId) (matchGroupId : Option RowId) :
    Except HTTPException (Listing (ExportRowExclusionRow C) (ExportRowExclusionRow C)) := do
  let run ← getExportRunOr404 db currentUser.organizationId taskId runId
  return .plain
    (childRows (·.toChildRow) db.exportRowExclusions run.id currentUser.organizationId
      (fun e => matches? matchGroupId (some e.matchGroupId)))
    (orderBy (fun e => e.rowIndex))

structure IssueFilters where
  severity   : Option Str := none
  issueType  : Option Str := none
  columnName : Option Str := none
  rowNumber  : Option Nat := none

/-- `_apply_issue_filters`. -/
def IssueFilters.keeps (filters : IssueFilters) (issue : IssueRow C) : Bool :=
  matches? filters.severity (some issue.severity.name) ∧ matches? filters.issueType (some issue.issueType.name) ∧
    matches? filters.columnName issue.columnName ∧ matches? filters.rowNumber (some issue.rowNumber)

/-- An issue with the data source of its run. -/
structure IssueRead (C : Type) extends IssueRow C where
  datasetId : RowId

def listTaskRunDetectionIssues (taskId : TaskId) (runId : TaskRunId) (filters : IssueFilters) :
    Except HTTPException (Listing (IssueRow C) (IssueRead C)) := do
  let run ← getIssueDetectionRunOr404 db currentUser.organizationId taskId runId
  checkOneOf "severity" issueSeverities (tupleRepr issueSeverities) filters.severity
  checkOneOf "issue_type" issueTypes (tupleRepr issueTypes) filters.issueType
  return {
    rows := childRows (·.toChildRow) db.issues run.id currentUser.organizationId filters.keeps
    before := orderBy (fun issue => toLex (issue.rowNumber, issue.id))
    present := fun page items => items = page.map (fun issue => ⟨issue, run.dataSourceId⟩) }

structure RemediationChangeFilters where
  action     : Option Str := none
  columnName : Option Str := none
  rowNumber  : Option Nat := none

/-- `_apply_remediation_change_filters`. -/
def RemediationChangeFilters.keeps (filters : RemediationChangeFilters) (change : RemediationChangeRow C) : Bool :=
  matches? filters.action (some change.action.name) ∧ matches? filters.columnName change.columnName ∧
    matches? filters.rowNumber (some change.rowNumber)

/-- A change with its effective decision. -/
structure RemediationChangeRead (C : Type) extends RemediationChangeRow C where
  decisionStatus : String

def listTaskRunRemediationChanges (taskId : TaskId) (runId : TaskRunId) (filters : RemediationChangeFilters) :
    Except HTTPException (Listing (RemediationChangeRow C) (RemediationChangeRead C)) := do
  let (run, _) ← getRemediationRunOr404 db currentUser.organizationId taskId runId
  checkOneOf "action" remediationActions (tupleRepr remediationActions) filters.action
  return {
    rows := childRows (·.toChildRow) db.remediationChanges run.id currentUser.organizationId filters.keeps
    before := orderBy (fun change => toLex (change.rowNumber, change.id))
    -- the decisions of the page are one more query
    present := fun page items => ∃ out,
      Api.Returns db.remediationChangeDecisions
        (Api.decisionsOf (page.map (fun change => change.id)) currentUser.organizationId)
        Api.timestampDesc out ∧
      items = page.map (fun change =>
        ⟨change, (((Api.getDecisionStatusMap out).get? change.id).map (·.value)).getD "pending"⟩) }

structure ValidationResultFilters where
  outcome        : Option Str := none
  validationRule : Option Str := none
  columnName     : Option Str := none

/-- The filters on the row itself. -/
def ValidationResultFilters.keeps (filters : ValidationResultFilters) (result : ValidationResultRow C) : Bool :=
  matches? filters.outcome (some (outcomeName result.outcome)) ∧
    -- a result without a rule has the empty name
    matches? filters.validationRule (some ((result.validationRule.map Quality.validationRuleName).getD []))

/-- The column is that of the result's change: with the filter on it comes a join, on the id alone. -/
def validationResultsOf (run : ResultRow C) (filters : ValidationResultFilters) : List (ValidationResultRow C) :=
  match filters.columnName with
  | some columnName =>
    ((Relations.join (fun result change => change.id = result.remediationChangeId) db.validationResults
        db.remediationChanges).filter (fun p =>
      (p.1.parentId = run.id ∧ p.1.organizationId = currentUser.organizationId ∧ filters.keeps p.1 = true) ∧
        p.2.columnName = some columnName)).map Prod.fst
  | none => childRows (·.toChildRow) db.validationResults run.id currentUser.organizationId filters.keeps

def listTaskRunValidationResults (taskId : TaskId) (runId : TaskRunId) (filters : ValidationResultFilters) :
    Except HTTPException (Listing (ValidationResultRow C) (ValidationResultRow C)) := do
  let (run, _) ← getValidationRunOr404 db currentUser.organizationId taskId runId
  checkOneOf "outcome" outcomes (tupleRepr outcomes) filters.outcome
  checkOneOf "validation_rule" validationRuleNames (tupleRepr validationRuleNames) filters.validationRule
  return .plain (validationResultsOf db currentUser run filters)
    (orderBy (fun result => toLex (result.createdAt, result.id)))

structure QualityFindingFilters where
  category       : Option Str := none
  severity       : Option Str := none
  outcome        : Option Str := none
  ruleName       : Option Str := none
  affectedColumn : Option Str := none

def QualityFindingFilters.keeps (filters : QualityFindingFilters) (finding : QualityFindingRow C) : Bool :=
  matches? filters.category (some finding.category.name) ∧
    matches? filters.severity (some (findingSeverityName finding.severity)) ∧
    matches? filters.outcome (some (outcomeName finding.outcome)) ∧
      matches? filters.ruleName (some finding.ruleName.name) ∧
    matches? filters.affectedColumn finding.affectedColumn

def listTaskRunQualityControlFindings (taskId : TaskId) (runId : TaskRunId) (filters : QualityFindingFilters) :
    Except HTTPException (Listing (QualityFindingRow C) (QualityFindingRow C)) := do
  let (run, _) ← getQualityControlRunOr404 db currentUser.organizationId taskId runId
  checkOneOf "category" qualityCategories (sortedRepr qualityCategories) filters.category
  checkOneOf "severity" qualityFindingSeverities (sortedRepr qualityFindingSeverities) filters.severity
  checkOneOf "outcome" outcomes (sortedRepr outcomes) filters.outcome
  return .plain (childRows (·.toChildRow) db.qualityFindings run.id currentUser.organizationId filters.keeps)
    (orderBy (fun finding => toLex (finding.createdAt, finding.id)))

/-- The list endpoints, with the rows they select and the items they show. -/
inductive ListRequest (C : Type) : Type → Type → Type 1
  | listTasks (includeInactive : Bool) : ListRequest C (ActiveRow C) (ActiveRow C)
  | listDataSources (includeInactive : Bool) : ListRequest C (ActiveRow C) (ActiveRow C)
  | listStandardizationColumnMappings (includeInactive : Bool) : ListRequest C (ActiveRow C) (ActiveRow C)
  | listStandardizationLookupEntries (includeInactive : Bool) : ListRequest C (ActiveRow C) (ActiveRow C)
  | listMatchRuleSets (includeInactive : Bool) : ListRequest C (ActiveRow C) (ActiveRow C)
  | listTaskRuns (taskId : TaskId) : ListRequest C (TaskRunRow C) (TaskRunRow C)
  | listTaskRunEvents (taskId : TaskId) (runId : TaskRunId) : ListRequest C (ChildRow C) (ChildRow C)
  | listTaskRunCleaningChanges (taskId : TaskId) (runId : TaskRunId) : ListRequest C (CellChangeRow C) (CellChangeRow C)
  | listTaskRunStandardizationChanges (taskId : TaskId) (runId : TaskRunId) :
    ListRequest C (CellChangeRow C) (CellChangeRow C)
  | listTaskRunMatchingGroups (taskId : TaskId) (runId : TaskRunId) : ListRequest C (MatchGroupRow C) (MatchGroupRow C)
  | listTaskRunMatchingDecisions (taskId : TaskId) (runId : TaskRunId) (filters : DecisionFilters) :
    ListRequest C (MatchDecisionRow C) (MatchDecisionRow C)
  | listTaskRunMatchingSkippedBlocks (taskId : TaskId) (runId : TaskRunId) :
    ListRequest C (MatchSkippedBlockRow C) (MatchSkippedBlockRow C)
  | listTaskRunExportExclusions (taskId : TaskId) (runId : TaskRunId) (matchGroupId : Option RowId) :
    ListRequest C (ExportRowExclusionRow C) (ExportRowExclusionRow C)
  | listTaskRunDetectionIssues (taskId : TaskId) (runId : TaskRunId) (filters : IssueFilters) :
    ListRequest C (IssueRow C) (IssueRead C)
  | listTaskRunRemediationChanges (taskId : TaskId) (runId : TaskRunId) (filters : RemediationChangeFilters) :
    ListRequest C (RemediationChangeRow C) (RemediationChangeRead C)
  | listTaskRunValidationResults (taskId : TaskId) (runId : TaskRunId) (filters : ValidationResultFilters) :
    ListRequest C (ValidationResultRow C) (ValidationResultRow C)
  | listTaskRunQualityControlFindings (taskId : TaskId) (runId : TaskRunId) (filters : QualityFindingFilters) :
    ListRequest C (QualityFindingRow C) (QualityFindingRow C)

/-- The query of a request, or the error of its lookups and checks. -/
def ListRequest.query {α β : Type} : ListRequest C α β → Except HTTPException (Listing α β)
  | .listTasks includeInactive => .ok (Reads.listTasks db currentUser includeInactive)
  | .listDataSources includeInactive => .ok (Reads.listDataSources db currentUser includeInactive)
  | .listStandardizationColumnMappings includeInactive =>
    .ok (Reads.listStandardizationColumnMappings db currentUser includeInactive)
  | .listStandardizationLookupEntries includeInactive =>
    .ok (Reads.listStandardizationLookupEntries db currentUser includeInactive)
  | .listMatchRuleSets includeInactive => .ok (Reads.listMatchRuleSets db currentUser includeInactive)
  | .listTaskRuns taskId => Reads.listTaskRuns db currentUser taskId
  | .listTaskRunEvents taskId runId => Reads.listTaskRunEvents db currentUser taskId runId
  | .listTaskRunCleaningChanges taskId runId => Reads.listTaskRunCleaningChanges db currentUser taskId runId
  | .listTaskRunStandardizationChanges taskId runId => Reads.listTaskRunStandardizationChanges db currentUser taskId runId
  | .listTaskRunMatchingGroups taskId runId => Reads.listTaskRunMatchingGroups db currentUser taskId runId
  | .listTaskRunMatchingDecisions taskId runId filters =>
    Reads.listTaskRunMatchingDecisions db currentUser taskId runId filters
  | .listTaskRunMatchingSkippedBlocks taskId runId => Reads.listTaskRunMatchingSkippedBlocks db currentUser taskId runId
  | .listTaskRunExportExclusions taskId runId matchGroupId =>
    Reads.listTaskRunExportExclusions db currentUser taskId runId matchGroupId
  | .listTaskRunDetectionIssues taskId runId filters =>
    Reads.listTaskRunDetectionIssues db currentUser taskId runId filters
  | .listTaskRunRemediationChanges taskId runId filters =>
    Reads.listTaskRunRemediationChanges db currentUser taskId runId filters
  | .listTaskRunValidationResults taskId runId filters =>
    Reads.listTaskRunValidationResults db currentUser taskId runId filters
  | .listTaskRunQualityControlFindings taskId runId filters =>
    Reads.listTaskRunQualityControlFindings db currentUser taskId runId filters

/-- **What a list endpoint may respond with.** -/
def Lists {α β : Type} (request : ListRequest C α β) (pagination : PaginationParams) :
    Except HTTPException (PaginatedResponse β) → Prop
  | .error e     => request.query db currentUser = .error e
  | .ok response => ∃ q, request.query db currentUser = .ok q ∧ q.Responds pagination response

/-! ## One thing -/

def getTask (taskId : TaskId) : Except HTTPException (ActiveRow C) :=
  getActiveTaskOr404 db currentUser.organizationId taskId

def getDataSource (dataSourceId : RowId) : Except HTTPException (ActiveRow C) :=
  getActiveOr404 db currentUser.organizationId dataSourceId

def getTaskRun (taskId : TaskId) (runId : TaskRunId) : Except HTTPException (TaskRunRow C) := do
  let task ← getActiveTaskOr404 db currentUser.organizationId taskId
  taskRunOr404 db currentUser.organizationId task.id runId

def getTaskRunProfile (taskId : TaskId) (runId : TaskRunId) : Except HTTPException (ResultRow C) := do
  return (← getResultOr404 db currentUser.organizationId "Data profile not found" id db.dataProfiles taskId runId).1

def getTaskRunCleaning := getCleaningRunOr404 db currentUser.organizationId
def getTaskRunStandardization := getStandardizationRunOr404 db currentUser.organizationId
def getTaskRunMatching := getMatchRunOr404 db currentUser.organizationId
def getTaskRunExport := getExportRunOr404 db currentUser.organizationId
def getTaskRunDetection := getIssueDetectionRunOr404 db currentUser.organizationId

section
-- `round((finished_at - started_at).total_seconds() * 1000)`
variable (durationMs : Time → Time → Int)

def processingDurationMs (taskRun : TaskRunRow C) : Option Int :=
  match taskRun.startedAt, taskRun.finishedAt with
  | some startedAt, some finishedAt => some (durationMs startedAt finishedAt)
  | _, _                            => none

structure RemediationRunRead (C : Type) extends RemediationRunRow C where
  changesByColumn      : Dict Str Nat
  datasetSha256        : Option String
  processingDurationMs : Option Int
  decisionSummary      : DecisionSummary

/-- What the summary looks up: the run, its task run and the detection run it was verified against. -/
def remediationSummaryRows (taskId : TaskId) (runId : TaskRunId) :
    Except HTTPException (RemediationRunRow C × TaskRunRow C × Option (IssueDetectionRunRow C)) := do
  let (run, taskRun) ← getRemediationRunOr404 db currentUser.organizationId taskId runId
  let detectionRun ← scalarOneOrNone (db.issueDetectionRuns.filter
    (fun r => r.taskRunId = run.sourceTaskRunId ∧ r.organizationId = currentUser.organizationId))
  return (run, taskRun, detectionRun)

/-- The columns of the changes, which the query takes by the run alone. -/
def changedColumns (run : RemediationRunRow C) : List Str :=
  (db.remediationChanges.filter (fun c => c.parentId = run.id)).filterMap (fun c => c.columnName)

def decisionsOn (run : RemediationRunRow C) : List Api.Decision :=
  (db.remediationChangeDecisions.rows.filter
    (fun d => d.remediationRunId = run.id ∧ d.organizationId = currentUser.organizationId)).map (fun d => d.decision)

def GetTaskRunRemediation (taskId : TaskId) (runId : TaskRunId) : Except HTTPException (RemediationRunRead C) → Prop
  | .error e     => remediationSummaryRows db currentUser taskId runId = .error e
  | .ok response => ∃ run taskRun detectionRun columnCounts decided,
    remediationSummaryRows db currentUser taskId runId = .ok (run, taskRun, detectionRun) ∧
      Relations.GroupedCounts (changedColumns db run) columnCounts ∧
      Relations.GroupedCounts (decisionsOn db currentUser run) decided ∧
      response = {
        run with
        changesByColumn := columnCounts
        datasetSha256 := detectionRun.bind (fun r => r.sourceSha256)
        processingDurationMs := processingDurationMs durationMs taskRun
        decisionSummary := {
          pending := run.totalChangesCount - (Dict.get? decided .approved).getD 0 - (Dict.get? decided .rejected).getD 0
          approved := (Dict.get? decided .approved).getD 0
          rejected := (Dict.get? decided .rejected).getD 0 } }

/-- The latest decision of a change, whichever of several that are equally late comes first. -/
def GetRemediationChangeDecision (taskId : TaskId) (runId : TaskRunId) (changeId : ChangeId)
    (response : Except HTTPException DecisionRow) : Prop :=
  match getRemediationChangeOr404 db currentUser.organizationId taskId runId changeId with
  | .error e          => response = .error e
  | .ok (change, _) => ∃ out,
    Api.Returns db.remediationChangeDecisions
      (Api.decisionsOf [change.id] currentUser.organizationId) Api.timestampDesc out ∧
      response = match Api.existingDecision out with
        | some decision => .ok decision
        | none          => .error ⟨404, "No decision has been recorded for this remediation change yet"⟩

/-- `get_task_run_validation` and `get_task_run_quality_control` show a run and how long it took. -/
structure TimedRunRead (C : Type) extends ResultRow C where
  processingDurationMs : Option Int

def getTaskRunValidation (taskId : TaskId) (runId : TaskRunId) : Except HTTPException (TimedRunRead C) := do
  let (run, taskRun) ← getValidationRunOr404 db currentUser.organizationId taskId runId
  return ⟨run, processingDurationMs durationMs taskRun⟩

def getTaskRunQualityControl (taskId : TaskId) (runId : TaskRunId) : Except HTTPException (TimedRunRead C) := do
  let (run, taskRun) ← getQualityControlRunOr404 db currentUser.organizationId taskId runId
  return ⟨run, processingDurationMs durationMs taskRun⟩

/-- The endpoints that respond with one thing. -/
inductive GetRequest (C : Type) : Type → Type 1
  | getTask (taskId : TaskId) : GetRequest C (ActiveRow C)
  | getDataSource (dataSourceId : RowId) : GetRequest C (ActiveRow C)
  | getTaskRun (taskId : TaskId) (runId : TaskRunId) : GetRequest C (TaskRunRow C)
  | getTaskRunProfile (taskId : TaskId) (runId : TaskRunId) : GetRequest C (ResultRow C)
  | getTaskRunCleaning (taskId : TaskId) (runId : TaskRunId) : GetRequest C (ResultRow C)
  | getTaskRunStandardization (taskId : TaskId) (runId : TaskRunId) : GetRequest C (ResultRow C)
  | getTaskRunMatching (taskId : TaskId) (runId : TaskRunId) : GetRequest C (ResultRow C)
  | getTaskRunExport (taskId : TaskId) (runId : TaskRunId) : GetRequest C (ResultRow C)
  | getTaskRunDetection (taskId : TaskId) (runId : TaskRunId) : GetRequest C (IssueDetectionRunRow C)
  | getTaskRunRemediation (taskId : TaskId) (runId : TaskRunId) : GetRequest C (RemediationRunRead C)
  | getRemediationChangeDecision (taskId : TaskId) (runId : TaskRunId) (changeId : ChangeId) : GetRequest C DecisionRow
  | getTaskRunValidation (taskId : TaskId) (runId : TaskRunId) : GetRequest C (TimedRunRead C)
  | getTaskRunQualityControl (taskId : TaskId) (runId : TaskRunId) : GetRequest C (TimedRunRead C)

/-- **What such an endpoint may respond with.** -/
def Gets {β : Type} : GetRequest C β → Except HTTPException β → Prop
  | .getTask taskId, response => response = getTask db currentUser taskId
  | .getDataSource dataSourceId, response => response = getDataSource db currentUser dataSourceId
  | .getTaskRun taskId runId, response => response = getTaskRun db currentUser taskId runId
  | .getTaskRunProfile taskId runId, response => response = getTaskRunProfile db currentUser taskId runId
  | .getTaskRunCleaning taskId runId, response => response = getTaskRunCleaning db currentUser taskId runId
  | .getTaskRunStandardization taskId runId, response => response = getTaskRunStandardization db currentUser taskId runId
  | .getTaskRunMatching taskId runId, response => response = getTaskRunMatching db currentUser taskId runId
  | .getTaskRunExport taskId runId, response => response = getTaskRunExport db currentUser taskId runId
  | .getTaskRunDetection taskId runId, response => response = getTaskRunDetection db currentUser taskId runId
  | .getTaskRunRemediation taskId runId, response => GetTaskRunRemediation db currentUser durationMs taskId runId response
  | .getRemediationChangeDecision taskId runId changeId, response =>
    GetRemediationChangeDecision db currentUser taskId runId changeId response
  | .getTaskRunValidation taskId runId, response => response = getTaskRunValidation db currentUser durationMs taskId runId
  | .getTaskRunQualityControl taskId runId, response =>
    response = getTaskRunQualityControl db currentUser durationMs taskId runId

end

end Reads
end DataOps

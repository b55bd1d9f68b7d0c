import DataOps.ApiDecisionReaders
import DataOps.AuditLogs
import DataOps.DetectStorable
import DataOps.QualityEngine
/-!
# ReadTables — what the GET endpoints look up

A row has the columns some query reads; the others, which a response only copies, are one value.  Every lookup goes down
a chain of 404s, each query of it within the caller's organization, and a list endpoint is a `Listing`: the rows its
filters keep, its order, and what it shows of a page.
-/
namespace DataOps
namespace Reads

open Api (Time OrganizationId TaskId TaskRunId HTTPException ChangeId DecisionTable RunKind changeNotFound
  dataSourceNotFound foundOr404 remediationNotFound scalarOneOrNone taskNotFound taskRunNotFound)
open AuditLogs (PaginationParams PaginatedResponse)

abbrev RowId := Nat

/-! ## The tables -/

/-- The columns of every table; `columns` is what a response copies and no query reads. -/
structure Row (C : Type) where
  id             : RowId
  organizationId : OrganizationId
  createdAt      : Time
  columns        : C

/-- A row of `tasks`, `data_sources`, `match_rule_sets`, `standardization_column_mappings` or
`standardization_lookup_entries`. -/
structure ActiveRow (C : Type) extends Row C where
  isActive : Bool

structure TaskRunRow (C : Type) extends Row C where
  taskId     : TaskId
  startedAt  : Option Time
  finishedAt : Option Time

/-- What a handler wrote for a task run. -/
structure ResultRow (C : Type) extends Row C where
  taskRunId : TaskRunId
  taskId    : TaskId

structure IssueDetectionRunRow (C : Type) extends ResultRow C where
  dataSourceId : RowId
  sourceSha256 : Option String

structure RemediationRunRow (C : Type) extends ResultRow C where
  sourceTaskRunId   : TaskRunId
  totalChangesCount : Nat

/-- A row of a task run or of a result: `parentId` is `task_run_id`, `cleaning_run_id` and so on. -/
structure ChildRow (C : Type) extends Row C where
  parentId : RowId

/-- A row of `cleaning_changes` or `standardization_changes`. -/
structure CellChangeRow (C : Type) extends ChildRow C where
  rowIndex : Nat

structure MatchGroupRow (C : Type) extends ChildRow C where
  canonicalRowIndex : Nat

structure MatchDecisionRow (C : Type) extends ChildRow C where
  decision        : Matching.DecisionLabel
  matchGroupId    : Option RowId
  blockingKey     : Option Str
  recordARowIndex : Nat
  recordBRowIndex : Nat

structure MatchSkippedBlockRow (C : Type) extends ChildRow C where
  blockingKey : Str

structure ExportRowExclusionRow (C : Type) extends ChildRow C where
  rowIndex     : Nat
  matchGroupId : RowId

structure IssueRow (C : Type) extends ChildRow C where
  rowNumber  : Nat
  columnName : Option Str
  issueType  : Detection.IssueType
  severity   : Detection.Severity

structure RemediationChangeRow (C : Type) extends ChildRow C where
  rowNumber  : Nat
  columnName : Option Str
  action     : Remediation.Action

structure ValidationResultRow (C : Type) extends ChildRow C where
  remediationChangeId : ChangeId
  validationRule      : Option Validation.RuleName
  outcome             : Validation.Outcome

structure QualityFindingRow (C : Type) extends ChildRow C where
  category       : Quality.CategoryName
  ruleName       : Quality.FindingRule
  severity       : Quality.FindingSeverity
  outcome        : Validation.Outcome
  affectedColumn : Option Str

structure Tables (C : Type) where
  dataSources                  : List (ActiveRow C)
  tasks                        : List (ActiveRow C)
  taskRuns                     : List (TaskRunRow C)
  taskRunEvents                : List (ChildRow C)
  dataProfiles                 : List (ResultRow C)
  cleaningRuns                 : List (ResultRow C)
  cleaningChanges              : List (CellChangeRow C)
  standardizationRuns          : List (ResultRow C)
  standardizationChanges       : List (CellChangeRow C)
  standardizationMappings      : List (ActiveRow C)
  standardizationLookupEntries : List (ActiveRow C)
  matchRuleSets                : List (ActiveRow C)
  matchRuns                    : List (ResultRow C)
  matchGroups                  : List (MatchGroupRow C)
  matchDecisions               : List (MatchDecisionRow C)
  matchSkippedBlocks           : List (MatchSkippedBlockRow C)
  exportRuns                   : List (ResultRow C)
  exportRowExclusions          : List (ExportRowExclusionRow C)
  issueDetectionRuns           : List (IssueDetectionRunRow C)
  issues                       : List (IssueRow C)
  remediationRuns              : List (RemediationRunRow C)
  remediationChanges           : List (RemediationChangeRow C)
  remediationChangeDecisions   : DecisionTable
  validationRuns               : List (ResultRow C)
  validationResults            : List (ValidationResultRow C)
  qualityControlRuns           : List (ResultRow C)
  qualityFindings              : List (QualityFindingRow C)

/-! ## The lookups -/

/-- The one row of a query, or a 404. -/
def oneOr404 {α : Type} (detail : String) (rows : List α) : Except HTTPException α := do
  foundOr404 detail (← scalarOneOrNone rows)

section
variable {C : Type} (db : Tables C) (orgId : OrganizationId)

def getActiveTaskOr404 (taskId : TaskId) : Except HTTPException (ActiveRow C) :=
  oneOr404 taskNotFound
    (db.tasks.filter (fun t => t.id = taskId ∧ t.organizationId = orgId ∧ t.isActive = true))

/-- `_get_active_or_404` of the data sources. -/
def getActiveOr404 (dataSourceId : RowId) : Except HTTPException (ActiveRow C) :=
  oneOr404 dataSourceNotFound
    (db.dataSources.filter (fun s => s.id = dataSourceId ∧ s.organizationId = orgId ∧ s.isActive = true))

/-- The run, of the task and the organization. -/
def taskRunOr404 (taskId : TaskId) (runId : TaskRunId) : Except HTTPException (TaskRunRow C) :=
  oneOr404 taskRunNotFound
    (db.taskRuns.filter (fun r => r.id = runId ∧ r.taskId = taskId ∧ r.organizationId = orgId))

/-- The 404 chain of every result: the task, the run, and what the handler wrote for it. -/
def getResultOr404 {α : Type} (detail : String) (row : α → ResultRow C) (rows : List α)
    (taskId : TaskId) (runId : TaskRunId) :
    Except HTTPException (α × TaskRunRow C) := do
  let task ← getActiveTaskOr404 db orgId taskId
  let taskRun ← taskRunOr404 db orgId task.id runId
  let result ← oneOr404 detail (rows.filter
    (fun r => (row r).taskRunId = runId ∧ (row r).taskId = task.id ∧ (row r).organizationId = orgId))
  return (result, taskRun)

def getCleaningRunOr404 (taskId : TaskId) (runId : TaskRunId) : Except HTTPException (ResultRow C) := do
  return (← getResultOr404 db orgId RunKind.cleaning.notFound id db.cleaningRuns taskId runId).1

def getStandardizationRunOr404 (taskId : TaskId) (runId : TaskRunId) : Except HTTPException (ResultRow C) := do
  return (← getResultOr404 db orgId RunKind.standardization.notFound id db.standardizationRuns taskId runId).1

def getMatchRunOr404 (taskId : TaskId) (runId : TaskRunId) : Except HTTPException (ResultRow C) := do
  return (← getResultOr404 db orgId RunKind.matching.notFound id db.matchRuns taskId runId).1

def getExportRunOr404 (taskId : TaskId) (runId : TaskRunId) : Except HTTPException (ResultRow C) := do
  return (← getResultOr404 db orgId RunKind.export.notFound id db.exportRuns taskId runId).1

def getIssueDetectionRunOr404 (taskId : TaskId) (runId : TaskRunId) : Except HTTPException (IssueDetectionRunRow C) := do
  return (← getResultOr404 db orgId "Issue detection result not found"
    (·.toResultRow) db.issueDetectionRuns taskId runId).1

def getRemediationRunOr404 (taskId : TaskId) (runId : TaskRunId) :
    Except HTTPException (RemediationRunRow C × TaskRunRow C) :=
  getResultOr404 db orgId remediationNotFound (·.toResultRow) db.remediationRuns taskId runId

/-- The chain, and the change in the run. -/
def getRemediationChangeOr404 (taskId : TaskId) (runId : TaskRunId) (changeId : ChangeId) :
    Except HTTPException (RemediationChangeRow C × RemediationRunRow C) := do
  let (run, _) ← getRemediationRunOr404 db orgId taskId runId
  let change ← oneOr404 changeNotFound
    (db.remediationChanges.filter (fun c => c.id = changeId ∧ c.parentId = run.id ∧ c.organizationId = orgId))
  return (change, run)

def getValidationRunOr404 (taskId : TaskId) (runId : TaskRunId) : Except HTTPException (ResultRow C × TaskRunRow C) :=
  getResultOr404 db orgId "Validation result not found" id db.validationRuns taskId runId

def getQualityControlRunOr404 (taskId : TaskId) (runId : TaskRunId) : Except HTTPException (ResultRow C × TaskRunRow C) :=
  getResultOr404 db orgId "Quality control result not found" id db.qualityControlRuns taskId runId

end

/-! ## The list endpoints -/

/-- A list endpoint up to its pagination: its rows, their order, and the items it may show of a page of them. -/
structure Listing (α β : Type) where
  rows    : List α
  before  : α → α → Prop
  present : List α → List β → Prop

/-- Rows that are shown as they are. -/
def Listing.plain {α : Type} (rows : List α) (before : α → α → Prop) : Listing α α :=
  ⟨rows, before, fun page items => items = page⟩

/-- `ORDER BY`. -/
def orderBy {α κ : Type} [LE κ] (key : α → κ) (a b : α) : Prop := key a ≤ key b

/-- `.order_by(created_at.desc())`. -/
def newestFirst {C : Type} (r : Row C) : Timeᵒᵈ := OrderDual.toDual r.createdAt

/-- The count of the rows and a page of them, in an order the query permits. -/
def Listing.Responds {α β : Type} (q : Listing α β) (pagination : PaginationParams)
    (response : PaginatedResponse β) : Prop :=
  (∃ page, Relations.Answers q.before q.rows pagination.limit.val pagination.offset page ∧ q.present page response.items) ∧
    response.total = q.rows.length ∧ response.limit = pagination.limit.val ∧ response.offset = pagination.offset

/-- A filter of a query parameter that may be left out; `NULL` equals nothing. -/
def matches? {κ : Type} [DecidableEq κ] (value column : Option κ) : Bool := value = none ∨ column = value

/-- The rows of a parent that a list keeps. -/
def childRows {C α : Type} (child : α → ChildRow C) (rows : List α) (parentId : RowId) (orgId : OrganizationId)
    (keeps : α → Bool) : List α :=
  rows.filter (fun r => (child r).parentId = parentId ∧ (child r).organizationId = orgId ∧ keeps r = true)

/-- The rows of an organization, those that are not active only on request. -/
def activeRows {C : Type} (rows : List (ActiveRow C)) (orgId : OrganizationId) (includeInactive : Bool) :
    Listing (ActiveRow C) (ActiveRow C) :=
  .plain (rows.filter (fun r => r.organizationId = orgId ∧ (includeInactive = true ∨ r.isActive = true)))
    (orderBy (fun r => newestFirst r.toRow))

/-! ## The vocabularies -/

def quoted (s : Str) : String := "'" ++ String.ofList s ++ "'"

/-- The `repr` of a tuple of texts. -/
def tupleRepr (names : List Str) : String := "(" ++ ", ".intercalate (names.map quoted) ++ ")"

/-- The `repr` of `sorted(names)`. -/
def sortedRepr (names : List Str) : String :=
  "[" ++ ", ".intercalate ((names.insertionSort (· ≤ ·)).map quoted) ++ "]"

/-- A parameter that must be one of the names where it is given. -/
def checkOneOf (parameter : String) (names : List Str) (shown : String) (value : Option Str) : Except HTTPException Unit :=
  if value.all (fun v => v ∈ names) = true then .ok () else .error ⟨422, parameter ++ " must be one of " ++ shown⟩

def issueTypes : List Str :=
  [Detection.IssueType.missingValue, .emptyString, .nullValue, .duplicateRow, .duplicatePrimaryKey,
  .invalidEmail, .invalidPhone, .invalidDate, .invalidNumeric, .requiredFieldViolation,
    .leadingWhitespace, .trailingWhitespace,
  .multipleInternalSpaces, .inconsistentCapitalization, .booleanInconsistency, .invalidEnumValue, .outlier,
  .brokenFkReference].map Detection.IssueType.name

def issueSeverities : List Str := [Detection.Severity.info, .low, .medium, .high, .critical].map Detection.Severity.name

def remediationActions : List Str :=
  [Remediation.Action.trimWhitespace, .collapseMultipleSpaces, .standardizeCapitalization,
  .normalizeBoolean, .normalizeDate, .normalizePhone, .normalizeNumeric, .normalizeEnumValue, .removeDuplicateRow,
  .removeDuplicatePrimaryKey].map Remediation.Action.name

def outcomeName : Validation.Outcome → Str
  | .passed  => "passed".toList
  | .failed  => "failed".toList
  | .skipped => "skipped".toList

/-- `VALIDATION_OUTCOMES` and `QUALITY_FINDING_OUTCOMES`. -/
def outcomes : List Str := [Validation.Outcome.passed, .failed, .skipped].map outcomeName

def validationRuleNames : List Str := [Validation.RuleName.validateTrimWhitespace, .validateCollapseMultipleSpaces,
  .validateStandardizeCapitalization, .validateNormalizeBoolean, .validateNormalizeDate, .validateNormalizePhone,
  .validateNormalizeNumeric, .validateNormalizeEnumValue, .validateRemoveDuplicateRow,
  .validateRemoveDuplicatePrimaryKey].map Quality.validationRuleName

/-- `QUALITY_CATEGORIES`; the engine's own category is not one of them. -/
def qualityCategories : List Str := [Quality.CategoryName.completeness, .uniqueness, .validity, .consistency,
  .referentialIntegrity, .businessRuleCompliance, .unresolvedRisk, .validationCoverage].map Quality.CategoryName.name

def findingSeverityName : Quality.FindingSeverity → Str
  | .info     => "info".toList
  | .warning  => "warning".toList
  | .blocking => "blocking".toList

def qualityFindingSeverities : List Str := [Quality.FindingSeverity.info, .warning, .blocking].map findingSeverityName

end Reads
end DataOps

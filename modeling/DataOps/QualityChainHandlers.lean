import DataOps.QualityControlHandler
import DataOps.ScheduleTasks
/-!
# QualityChainHandlers — what each handler asks of the runs before it

A handler reads its run and the rows that earlier runs persisted, and persists one row of its own.  Of a row only the
columns that lead to another run are kept: the run that wrote it, the organization and the links.
-/
namespace DataOps
namespace QualityChain

open Api (OrganizationId TaskRunId)
open Schedule (DataSourceId TaskType TaskRunRow)
open Quality (QualityThresholdConfig validThresholdConfig)

abbrev RowId := Nat
abbrev Sha256 := String

inductive SourceType
  | postgres | mysql | restApi | csvUpload | s3 | other
deriving DecidableEq, Repr

def SourceType.value : SourceType → String
  | .postgres  => "postgres"
  | .mysql     => "mysql"
  | .restApi   => "rest_api"
  | .csvUpload => "csv_upload"
  | .s3        => "s3"
  | .other     => "other"

/-! ## The rows -/

/-- The columns every result row has. -/
structure ResultRow where
  id             : RowId
  organizationId : OrganizationId
  taskRunId      : TaskRunId
  dataSourceId   : DataSourceId
deriving DecidableEq, Repr

abbrev DataProfile := ResultRow

structure IssueDetectionRun extends ResultRow where
  sourceSha256 : Option Sha256
deriving DecidableEq, Repr

structure RemediationRun extends ResultRow where
  sourceTaskRunId : TaskRunId
deriving DecidableEq, Repr

structure ValidationRun extends ResultRow where
  remediationRunId : RowId
deriving DecidableEq, Repr

structure QualityControlRun extends ResultRow where
  validationRunId     : RowId
  remediationRunId    : RowId
  issueDetectionRunId : RowId
  dataProfileId       : RowId
deriving DecidableEq, Repr

structure QualityThreshold (py : Python) where
  organizationId : OrganizationId
  dataSourceId   : Option DataSourceId
  isActive       : Bool
  config         : QualityThresholdConfig py

structure ResultTables (py : Python) where
  dataProfiles       : List DataProfile
  issueDetectionRuns : List IssueDetectionRun
  remediationRuns    : List RemediationRun
  validationRuns     : List ValidationRun
  qualityControlRuns : List QualityControlRun
  qualityThresholds  : List (QualityThreshold py)

/-- Nothing was executed yet. -/
def ResultTables.empty (py : Python) : ResultTables py := ⟨[], [], [], [], [], []⟩

/-- The row a run persisted, of an organization; `task_run_id` is unique. -/
def ofTaskRun {α : Type} (row : α → ResultRow) (rows : List α) (taskRunId : TaskRunId)
    (organizationId : OrganizationId) : Option α :=
  rows.find? (fun r => (row r).taskRunId = taskRunId ∧ (row r).organizationId = organizationId)

/-- The row a run has persisted before, as each handler looks for it. -/
def existing {α : Type} (row : α → ResultRow) (rows : List α) (taskRunId : TaskRunId) : Option α :=
  rows.find? (fun r => (row r).taskRunId = taskRunId)

/-- The one transaction; after an `IntegrityError` the row of the run is fetched again. -/
def persist {α : Type} (row : α → ResultRow) (rows : List α) (new : α) : Except String (List α) :=
  match existing row rows (row new).taskRunId with
  | some _ => .ok rows
  | none   => if rows.any (fun r => (row r).id = (row new).id) then .error "IntegrityError" else .ok (rows ++ [new])

/-! ## What a handler is given -/

/-- A data source as the handler finds it, with what `load_csv` of its file comes to: the file's hash or an error. -/
structure DataSourceRead where
  id               : DataSourceId
  sourceType       : SourceType
  filePathIsString : Bool
  loaded           : Except String Sha256

/-- `rowId` is the `uuid4` of the row to persist; `rest` is what a handler that touches none of these tables comes to. -/
structure ExecutionContext where
  taskRun    : TaskRunRow
  dataSource : Option DataSourceRead
  rowId      : RowId
  rest       : Except String Unit

/-- `if value is None: raise PermanentExecutionError(message)`. -/
def require {α : Type} (value : Option α) (message : String) : Except String α :=
  match value with
  | some value => .ok value
  | none       => .error message

def ExecutionContext.requireDataSource (context : ExecutionContext) (handler : String) : Except String DataSourceRead :=
  require context.dataSource (handler ++ " requires a data source")

def ExecutionContext.requireCsvUpload (context : ExecutionContext) (handler taskType : String) :
    Except String DataSourceRead := do
  let dataSource ← context.requireDataSource handler
  if dataSource.sourceType ≠ .csvUpload then
    .error (taskType ++ " is not implemented for source_type=" ++ dataSource.sourceType.value)
  else .ok dataSource

def ExecutionContext.requireSource (context : ExecutionContext) (handler : String) : Except String TaskRunId :=
  require context.taskRun.sourceTaskRunId (handler ++ " requires source_task_run_id on the TaskRun")

def DataSourceRead.load (dataSource : DataSourceRead) : Except String Sha256 :=
  if dataSource.filePathIsString then dataSource.loaded
  else .error "CSV data source requires string connection_metadata.file_path"

/-- The row of this execution. -/
def ExecutionContext.row (context : ExecutionContext) (dataSource : DataSourceRead) : ResultRow :=
  ⟨context.rowId, context.taskRun.organizationId, context.taskRun.id, dataSource.id⟩

section
variable {py : Python}

/-! ## The handlers of the chain -/

def CsvProfilingHandler.execute (db : ResultTables py) (context : ExecutionContext) : Except String (ResultTables py) := do
  let dataSource ← context.requireCsvUpload "CSV profiling" "SYNC"
  let _ ← dataSource.load
  let dataProfiles ← persist id db.dataProfiles (context.row dataSource)
  .ok { db with dataProfiles := dataProfiles }

def IssueDetectionHandler.execute (db : ResultTables py) (context : ExecutionContext) :
    Except String (ResultTables py) := do
  let dataSource ← context.requireCsvUpload "issue detection" "DETECT"
  let sourceSha256 ← dataSource.load
  let issueDetectionRuns ← persist IssueDetectionRun.toResultRow db.issueDetectionRuns
    ⟨context.row dataSource, some sourceSha256⟩
  .ok { db with issueDetectionRuns := issueDetectionRuns }

def RemediationHandler.execute (db : ResultTables py) (context : ExecutionContext) : Except String (ResultTables py) := do
  let dataSource ← context.requireCsvUpload "remediation" "REMEDIATE"
  let sourceTaskRunId ← context.requireSource "remediation"
  let detectionRun ← require
    (ofTaskRun IssueDetectionRun.toResultRow db.issueDetectionRuns sourceTaskRunId context.taskRun.organizationId)
    "remediation requires a completed issue detection run for source_task_run_id"
  let sourceSha256 ← require detectionRun.sourceSha256
    "issue detection run predates source hash tracking; re-run detection before remediation"
  match existing RemediationRun.toResultRow db.remediationRuns context.taskRun.id with
  | some _ => .ok db
  | none   =>
    let loaded ← dataSource.load
    if loaded ≠ sourceSha256 then
      .error "source data has changed since detection; re-run detection before remediation"
    else
      let remediationRuns ← persist RemediationRun.toResultRow db.remediationRuns
        ⟨context.row dataSource, sourceTaskRunId⟩
      .ok { db with remediationRuns := remediationRuns }

def ValidationHandler.execute (db : ResultTables py) (context : ExecutionContext) : Except String (ResultTables py) := do
  let dataSource ← context.requireDataSource "validation"
  let sourceTaskRunId ← context.requireSource "validation"
  let remediationRun ← require
    (ofTaskRun RemediationRun.toResultRow db.remediationRuns sourceTaskRunId context.taskRun.organizationId)
    "validation requires a completed remediation run for source_task_run_id"
  let validationRuns ← persist ValidationRun.toResultRow db.validationRuns ⟨context.row dataSource, remediationRun.id⟩
  .ok { db with validationRuns := validationRuns }

/-! ## Quality control -/

/-- The four rows a quality-control run names. -/
structure Provenance where
  validationRun     : ValidationRun
  remediationRun    : RemediationRun
  issueDetectionRun : IssueDetectionRun
  dataProfile       : DataProfile
deriving DecidableEq, Repr

/-- A run by its id, within the organization. -/
def taskRunOf (runs : List TaskRunRow) (id : TaskRunId) (organizationId : OrganizationId) : Option TaskRunRow :=
  runs.find? (fun r => r.id = id ∧ r.organizationId = organizationId)

/-- Steps 4a to 4f: from the validation run back to the profile. -/
def QualityControlHandler.provenance (runs : List TaskRunRow) (db : ResultTables py) (organizationId : OrganizationId)
    (validationRun : ValidationRun) : Except String Provenance := do
  let remediationRun ← require
    (db.remediationRuns.find? (fun r => r.id = validationRun.remediationRunId ∧ r.organizationId = organizationId))
    (s!"quality_control: could not resolve RemediationRun id={validationRun.remediationRunId} " ++
      s!"for organization_id={organizationId}")
  let remediateTaskRun ← require (taskRunOf runs remediationRun.taskRunId organizationId)
    (s!"quality_control: could not resolve REMEDIATE TaskRun id={remediationRun.taskRunId} " ++
      s!"for organization_id={organizationId}")
  let detectTaskRunId ← require remediateTaskRun.sourceTaskRunId
    "quality_control: REMEDIATE TaskRun has no source_task_run_id; cannot resolve DETECT TaskRun"
  let detectTaskRun ← require (taskRunOf runs detectTaskRunId organizationId)
    (s!"quality_control: could not resolve DETECT TaskRun id={detectTaskRunId} " ++
      s!"for organization_id={organizationId}")
  let issueDetectionRun ← require
    (ofTaskRun IssueDetectionRun.toResultRow db.issueDetectionRuns detectTaskRun.id organizationId)
    (s!"quality_control: could not resolve IssueDetectionRun for DETECT TaskRun id={detectTaskRun.id} " ++
      s!"organization_id={organizationId}")
  let syncTaskRunId ← require detectTaskRun.sourceTaskRunId
    "quality_control: DETECT TaskRun has no source_task_run_id; cannot resolve SYNC TaskRun"
  let syncTaskRun ← require (taskRunOf runs syncTaskRunId organizationId)
    (s!"quality_control: could not resolve SYNC TaskRun id={syncTaskRunId} for organization_id={organizationId}")
  let dataProfile ← require (ofTaskRun id db.dataProfiles syncTaskRun.id organizationId)
    (s!"quality_control: missing DataProfile for SYNC TaskRun id={syncTaskRun.id}; re-run the SYNC task before " ++
      "attempting quality control")
  .ok ⟨validationRun, remediationRun, issueDetectionRun, dataProfile⟩

/-- `_resolve_threshold`: the source's own row, else the organization's. -/
def resolveThreshold (db : ResultTables py) (organizationId : OrganizationId) (dataSourceId : DataSourceId) :
    Except String (QualityThresholdConfig py) :=
  let active (scope : Option DataSourceId) := db.qualityThresholds.find? (fun row =>
    row.organizationId = organizationId ∧ row.dataSourceId = scope ∧ row.isActive = true)
  (require ((active (some dataSourceId)).or (active none))
    (s!"quality_control: no active QualityThreshold found for organization_id={organizationId} " ++
      s!"data_source_id={dataSourceId}. Create a data-source-specific or org-wide threshold before " ++
      "running quality control.")).map (fun row => row.config)

/-- `_validate_threshold_config`; `describe` joins what it finds wrong. -/
def validateThresholdConfig (describe : QualityThresholdConfig py → String) (cfg : QualityThresholdConfig py) :
    Except String Unit :=
  if validThresholdConfig cfg then .ok ()
  else .error ("quality_control: invalid threshold configuration: " ++ describe cfg)

/-- The one transaction; a validation run has one quality-control run, and a second one returns the first. -/
def persistQualityControl (rows : List QualityControlRun) (new : QualityControlRun) :
    Except String (List QualityControlRun) :=
  if rows.any (fun r => r.validationRunId = new.validationRunId) then .ok rows
  else persist QualityControlRun.toResultRow rows new

def QualityControlHandler.execute (describe : QualityThresholdConfig py → String) (runs : List TaskRunRow)
    (db : ResultTables py) (context : ExecutionContext) : Except String (ResultTables py) := do
  let dataSource ← context.requireDataSource "quality_control"
  let sourceTaskRunId ← context.requireSource "quality_control"
  let validationRun ← require
    (ofTaskRun ValidationRun.toResultRow db.validationRuns sourceTaskRunId context.taskRun.organizationId)
    "quality_control requires a completed validation run for source_task_run_id"
  match existing QualityControlRun.toResultRow db.qualityControlRuns context.taskRun.id with
  | some _ => .ok db
  | none   =>
    let cfg ← resolveThreshold db context.taskRun.organizationId dataSource.id
    validateThresholdConfig describe cfg
    let p ← QualityControlHandler.provenance runs db context.taskRun.organizationId validationRun
    let qualityControlRuns ← persistQualityControl db.qualityControlRuns
      ⟨context.row dataSource, p.validationRun.id, p.remediationRun.id, p.issueDetectionRun.id, p.dataProfile.id⟩
    .ok { db with qualityControlRuns := qualityControlRuns }

/-! ## The registry -/

/-- A handler of the export chain up to its own work, which touches none of these tables. -/
def exportChainHandler (handler taskType : String) (db : ResultTables py) (context : ExecutionContext) :
    Except String (ResultTables py) := do
  let _ ← context.requireCsvUpload handler taskType
  let _ ← context.requireSource handler
  context.rest
  .ok db

/-- `HANDLER_REGISTRY[task_type].execute(context)`. -/
def execute (describe : QualityThresholdConfig py → String) (runs : List TaskRunRow) (taskType : TaskType)
    (db : ResultTables py) (context : ExecutionContext) : Except String (ResultTables py) :=
  match taskType with
  | .sync        => CsvProfilingHandler.execute db context
  | .transform   => exportChainHandler "cleaning" "TRANSFORM" db context
  | .standardize => exportChainHandler "standardization" "STANDARDIZE" db context
  | .match       => exportChainHandler "matching" "MATCH" db context
  | .export      => exportChainHandler "export" "EXPORT" db context
  | .detect      => IssueDetectionHandler.execute db context
  | .remediate   => RemediationHandler.execute db context
  | .validate    => ValidationHandler.execute db context
  | .qualityCtrl => QualityControlHandler.execute describe runs db context
  | .other       => context.rest.map (fun _ => db)

end
end QualityChain
end DataOps

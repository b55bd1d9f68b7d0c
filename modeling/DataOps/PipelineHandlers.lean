import DataOps.PipelineWorld
/-!
# PipelineHandlers — the five stages, statement by statement

Each `execute` is a program: its queries and its reads of files are looks at the world as it is then, and its write of a
file and its commit are acts, in the order of the source.
-/
namespace DataOps
namespace Pipeline

open Api (OrganizationId TaskRunId)
open Programs (Contract Program)
open Profiling (CsvLoadError LoadedCsv profileCsv serializeCsv)
open Schedule (DataSourceId TaskRunRow TaskType)

/-- What `execute` ends in; the line it returns for the log is left out. -/
inductive Outcome
  | created
  | existing
  | permanentError (message : String)
  | unexpectedError
deriving DecidableEq, Repr

/-- What a look at the world is after. -/
inductive Query (py : Python)
  | rows
  | size (path : FilePath)
  | file (path : FilePath)
  | profiledFile (profile : DataProfile py) (path : FilePath)

structure ExecutionContext where
  taskRun    : TaskRunRow
  dataSource : Option DataSource
deriving DecidableEq, Repr

/-- A row of a run, of an organization. -/
def ofTaskRun {α : Type} (row : α → RunRow) (rows : List α) (taskRunId : TaskRunId) (organizationId : OrganizationId) :
    Option α :=
  rows.find? (fun r => (row r).taskRunId = taskRunId ∧ (row r).organizationId = organizationId)

/-- The columns a handler takes from its context. -/
def ExecutionContext.row (context : ExecutionContext) (dataSource : DataSource) : RunRow :=
  ⟨context.taskRun.organizationId, context.taskRun.id, context.taskRun.taskId, dataSource.id⟩

section
variable {py : PythonValues} (dep : Deployment py)

abbrev Execution (py : Python) := Program (World py) (Query py) (Effect py) Outcome

/-! ## Common statements -/

/-- `if value is None: raise PermanentExecutionError(message)`. -/
def require {α : Type} (value : Option α) (message : String) (next : α → Execution py.toPython) : Execution py.toPython :=
  match value with
  | some a => next a
  | none   => .halt (.permanentError message)

def requireCsvUpload (context : ExecutionContext) (handler taskType : String)
    (next : DataSource → Execution py.toPython) : Execution py.toPython :=
  require context.dataSource (handler ++ " requires a data source") fun dataSource =>
    if dataSource.sourceType = .csvUpload then next dataSource
    else .halt (.permanentError (taskType ++ " is not implemented for source_type=" ++ dataSource.sourceType.value))

def requireSource (context : ExecutionContext) (handler : String) (next : TaskRunId → Execution py.toPython) :
    Execution py.toPython :=
  require context.taskRun.sourceTaskRunId (handler ++ " requires source_task_run_id on the TaskRun") next

def requirePath (dataSource : DataSource) (next : Str → Execution py.toPython) : Execution py.toPython :=
  require dataSource.filePath "CSV data source requires string connection_metadata.file_path" next

/-- One `SELECT .. scalar_one_or_none()` whose row must be there. -/
def select {α : Type} (query : World py.toPython → Option α) (message : String) (next : α → Execution py.toPython) :
    Execution py.toPython :=
  .observe .rows fun w => require (query w) message next

/-- The query for a row this run has persisted before. -/
def unlessExisting (taskRunId : TaskRunId) (rows : World py.toPython → List RunRow) (next : Execution py.toPython) :
    Execution py.toPython :=
  .observe .rows fun w => if (rows w).any (fun r => r.taskRunId = taskRunId) then .halt .existing else next

/-- `load_csv`, of a file that may be gone. -/
def readCsv (query : Query py.toPython) (path : FilePath)
    (next : (source : ByteArray) → (loaded : LoadedCsv) → dep.loadCsv source = .ok loaded → Execution py.toPython) :
    Execution py.toPython :=
  .observe query fun w =>
    match w.files path with
    | none        => .halt .unexpectedError
    | some source =>
      match h : dep.loadCsv source with
      | .error e   => .halt (.permanentError e.message)
      | .ok loaded => next source loaded h

/-- `resolve_source_path`, then `load_csv`. -/
def readSource (query : FilePath → Query py.toPython) (organizationId : OrganizationId) (configuredPath : Str)
    (next : (source : ByteArray) → (loaded : LoadedCsv) → dep.loadCsv source = .ok loaded → Execution py.toPython) :
    Execution py.toPython :=
  .observe .rows fun w =>
    match resolveSourcePath dep w organizationId configuredPath with
    | .error e => .halt (.permanentError e.message)
    | .ok path => readCsv dep (query path) path next

/-- The columns on the file a handler wrote. -/
def outputRow (context : ExecutionContext) (dataSource : DataSource) (sourceTaskRunId : TaskRunId) (root : OutputRoot)
    (content : ByteArray) (rowCount : Nat) : OutputRow where
  toRunRow := context.row dataSource
  sourceTaskRunId := sourceTaskRunId
  outputFilePath := .output root dataSource.organizationId context.taskRun.id
  outputSha256 := dep.sha256 content
  rowCount := rowCount

/-- The transaction, and the row of the run fetched again after an `IntegrityError`. -/
def persist (c : Commit py.toPython) : Execution py.toPython :=
  .act (.commit c) fun accepted =>
    if accepted then .halt .created
    else .observe .rows fun w => .halt (if w.recorded c then .existing else .unexpectedError)

/-! ## The handlers -/

def CsvProfilingHandler.execute (context : ExecutionContext) : Execution py.toPython :=
  requireCsvUpload context "CSV profiling" "SYNC" fun dataSource =>
  requirePath dataSource fun configuredPath =>
  readSource dep .file dataSource.organizationId configuredPath fun source loaded _ =>
  match profileCsv py dep.round4 loaded dep.csvLimits with
  | none        => .halt .unexpectedError
  | some result =>
    unlessExisting context.taskRun.id (fun w => w.dataProfiles.map (fun r => r.toRunRow)) <|
    persist (.dataProfile ⟨context.row dataSource, result⟩ source)

/-- `[column["inferred_type"] for column in column_profiles]`. -/
def DataProfile.columnTypes {py : Python} (profile : DataProfile py) : List Cleaning.InferredType :=
  profile.result.columnProfiles.map (fun column => column.inferredType)

/-- `_serialize_csv`'s bytes as they would load again. -/
def postCleanLoaded (loaded : LoadedCsv) (content : ByteArray) (cleanedRows : List (List Str)) : LoadedCsv :=
  { loaded with
    sourceSizeBytes := content.size
    sourceSha256 := dep.sha256 content
    rows := cleanedRows
    structuralIssues := [] }

/-- `CleaningHandler.execute` from its write on. -/
def CleaningHandler.write (context : ExecutionContext) (dataSource : DataSource) (sourceTaskRunId : TaskRunId)
    (profile : DataProfile py.toPython) (source : ByteArray) (loaded : LoadedCsv) (result : Cleaning.CleaningResult) :
    Execution py.toPython :=
  let inputs : CleaningInputs := ⟨profile.columnTypes, source⟩
  let content := serializeCsv loaded.headers result.cleanedRows
  let row := outputRow dep context dataSource sourceTaskRunId .csvOutputRoot content result.cleanedRows.length
  .act (.writeFile row.outputFilePath content (.cleaned inputs)) fun _ =>
  match profileCsv py dep.round4 (postCleanLoaded dep loaded content result.cleanedRows) dep.csvLimits with
  | none           => .halt .unexpectedError
  | some postClean =>
    persist (.cleaningRun { row with result := result, postClean := postClean, status := .pendingReview } profile inputs)

def CleaningHandler.execute (context : ExecutionContext) : Execution py.toPython :=
  requireCsvUpload context "cleaning" "TRANSFORM" fun dataSource =>
  requireSource context "cleaning" fun sourceTaskRunId =>
  requirePath dataSource fun configuredPath =>
  select (fun w => ofTaskRun DataProfile.toRunRow w.dataProfiles sourceTaskRunId context.taskRun.organizationId)
    "cleaning requires a completed profile for source_task_run_id" fun profile =>
  unlessExisting context.taskRun.id (fun w => w.cleaningRuns.map (fun r => r.toRunRow)) <|
  readSource dep (.profiledFile profile) dataSource.organizationId configuredPath fun source loaded _ =>
  if profile.columnTypes.length ≠ loaded.headers.length then
    .halt (.permanentError ("profiled column count does not match the current source file " ++
      "-- the file may have changed since it was profiled"))
  else
    match Cleaning.clean py loaded.rows loaded.headers profile.columnTypes dep.cleaningLimits with
    | none        => .halt .unexpectedError
    | some result => CleaningHandler.write dep context dataSource sourceTaskRunId profile source loaded result

/-- `if run.status != "approved"`. -/
def requireApproved (run sourceName : String) (status : Api.ApprovalStatus) (next : Execution py.toPython) :
    Execution py.toPython :=
  if status = .approved then next
  else
    .halt (.permanentError (run ++ " requires an APPROVED " ++ sourceName ++
      " for source_task_run_id (current status: " ++ status.value ++ ")"))

def StandardizationHandler.execute (context : ExecutionContext) : Execution py.toPython :=
  requireCsvUpload context "standardization" "STANDARDIZE" fun dataSource =>
  requireSource context "standardization" fun sourceTaskRunId =>
  select (fun w => ofTaskRun (fun r => r.toRunRow) w.cleaningRuns sourceTaskRunId context.taskRun.organizationId)
    "standardization requires a completed cleaning run for source_task_run_id" fun cleaningRun =>
  requireApproved "standardization" "cleaning run" cleaningRun.status <|
  unlessExisting context.taskRun.id (fun w => w.standardizationRuns.map (fun r => r.toRunRow)) <|
  readCsv dep (.file cleaningRun.outputFilePath) cleaningRun.outputFilePath fun source loaded _ =>
  .observe .rows fun w =>
  let columnOverrides := Standardization.loadColumnOverrides py.toPython w.configuration.columnMappings
    context.taskRun.organizationId dataSource.id
  .observe .rows fun w =>
  let lookupTables := Standardization.loadLookupTables py.toPython w.configuration.lookupEntries
    context.taskRun.organizationId
  match Standardization.standardize py lookupTables standardizationConfig loaded.rows loaded.headers
      (Standardization.classifyColumns py.toPython loaded.headers columnOverrides) dep.standardizationLimits with
  | none        => .halt .unexpectedError
  | some result =>
    let content := serializeCsv loaded.headers result.standardizedRows
    let row := outputRow dep context dataSource sourceTaskRunId .csvStandardizedRoot content result.standardizedRows.length
    .act (.writeFile row.outputFilePath content (.standardized ⟨source, columnOverrides, lookupTables⟩)) fun _ =>
    persist (.standardizationRun { row with result := result, status := .pendingReview } cleaningRun
      ⟨source, columnOverrides, lookupTables⟩)

/-- `_load_rule_set`: the rule set of the data source, or else the organization's, and its configuration if it has
fields. -/
def loadRuleSet (rows : List MatchRuleSetRow) (organizationId : OrganizationId) (dataSourceId : DataSourceId) :
    Option MatchRuleSetRow × Option Matching.MatchRuleSetConfig :=
  let rows := rows.filter (fun row => row.organizationId = organizationId ∧ row.isActive = true)
  let ruleSetRow := (rows.find? (fun row => row.dataSourceId = some dataSourceId)).or
    (rows.find? (fun row => row.dataSourceId = none))
  (ruleSetRow, (ruleSetRow.map (fun row => row.config)).filter (fun config => config.fields ≠ []))

theorem loadCsv_width {source : ByteArray} {loaded : LoadedCsv} (h : dep.loadCsv source = .ok loaded) :
    ∀ row ∈ loaded.rows, row.length = loaded.headers.length := (Profiling.loadable_of_loadCsv h).width

def MatchHandler.execute (context : ExecutionContext) : Execution py.toPython :=
  requireCsvUpload context "matching" "MATCH" fun dataSource =>
  requireSource context "matching" fun sourceTaskRunId =>
  select (fun w => ofTaskRun (fun r => r.toRunRow) w.standardizationRuns sourceTaskRunId context.taskRun.organizationId)
    "matching requires a completed standardization run for source_task_run_id" fun standardizationRun =>
  requireApproved "matching" "standardization run" standardizationRun.status <|
  unlessExisting context.taskRun.id (fun w => w.matchRuns.map (fun r => r.toRunRow)) <|
  readCsv dep (.file standardizationRun.outputFilePath) standardizationRun.outputFilePath fun source loaded h =>
  .observe .rows fun w =>
  let (ruleSetRow, ruleSetConfig) := loadRuleSet w.configuration.matchRuleSets context.taskRun.organizationId dataSource.id
  let table : Table := ⟨loaded.headers, loaded.rows, loadCsv_width dep h⟩
  let result := Matching.matchRows py.casefold table ruleSetConfig dep.matchLimits
  persist (.matchRun
    { toRunRow := context.row dataSource
      id := 0
      sourceTaskRunId := sourceTaskRunId
      ruleSetId := ruleSetRow.map (fun row => row.id)
      ruleSetVersion := ruleSetRow.map (fun row => row.version)
      rowCount := result.rowCount
      status := .pendingReview } standardizationRun source result)

def rowCountError (standardized matchRun : Nat) : String :=
  "export found a row-count mismatch between the standardized input and the match run being exported (standardized=" ++
    toString standardized ++ ", match_run=" ++ toString matchRun ++ ")"

def collisionError (collisions : List Str) : String :=
  "export cannot proceed: the standardized input already contains reserved column name(s) " ++
    ", ".intercalate (collisions.map (fun c => "'" ++ String.ofList c ++ "'")) ++
    " -- rename the conflicting column upstream before exporting"

/-- The size of a file just written. -/
def statSize (path : FilePath) (next : Nat → Execution py.toPython) : Execution py.toPython :=
  .observe (.size path) fun w =>
    match w.files path with
    | none         => .halt .unexpectedError
    | some content => next content.size

def ExportHandler.execute (context : ExecutionContext) : Execution py.toPython :=
  requireCsvUpload context "export" "EXPORT" fun dataSource =>
  requireSource context "export" fun sourceTaskRunId =>
  select (fun w => ofTaskRun MatchRun.toRunRow w.matchRuns sourceTaskRunId context.taskRun.organizationId)
    "export requires a completed match run for source_task_run_id" fun matchRun =>
  requireApproved "export" "match run" matchRun.status <|
  unlessExisting context.taskRun.id (fun w => w.exportRuns.map (fun r => r.toRunRow)) <|
  select (fun w => ofTaskRun (fun r => r.toRunRow) w.standardizationRuns matchRun.sourceTaskRunId
      context.taskRun.organizationId)
    "export requires the matched standardization run to still exist" fun standardizationRun =>
  readCsv dep (.file standardizationRun.outputFilePath) standardizationRun.outputFilePath fun source loaded _ =>
  if loaded.rows.length ≠ matchRun.rowCount then
    .halt (.permanentError (rowCountError loaded.rows.length matchRun.rowCount))
  else if Export.findReservedColumnCollisions loaded.headers ≠ [] then
    .halt (.permanentError (collisionError (Export.findReservedColumnCollisions loaded.headers)))
  else
    -- one look: the rows of a match run's groups and decisions are inserted with it and never change
    .observe .rows fun w =>
    match Export.loadGroups w.matchTables.matchGroups w.matchTables.matchDecisions context.taskRun.organizationId
        matchRun.id with
    | .error e   => .halt (.permanentError e.message)
    | .ok groups =>
      let result := Export.materialize loaded.rows loaded.headers groups dep.exportLimits
      let content := serializeCsv result.outputHeaders result.outputRows
      let row := outputRow dep context dataSource sourceTaskRunId .csvExportedRoot content result.rowCount
      .act (.writeFile row.outputFilePath content (.exported ⟨source, groups⟩)) fun _ =>
      statSize row.outputFilePath fun size =>
      persist (.exportRun
        { row with
          matchRunId := matchRun.id
          sourceRowCount := loaded.rows.length
          outputFileSizeBytes := size
          result := result
          status := .pendingReview } matchRun standardizationRun ⟨source, groups⟩)

/-- `get_handler`, for the stages that read and write files of rows. -/
def getHandler : TaskType → Option (ExecutionContext → Execution py.toPython)
  | .sync        => some (CsvProfilingHandler.execute dep)
  | .transform   => some (CleaningHandler.execute dep)
  | .standardize => some (StandardizationHandler.execute dep)
  | .match       => some (MatchHandler.execute dep)
  | .export      => some (ExportHandler.execute dep)
  | _            => none

end

end Pipeline
end DataOps

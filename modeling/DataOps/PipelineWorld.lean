import DataOps.ApiApprovals
import DataOps.CleaningEngine
import DataOps.CsvHandOff
import DataOps.ExportGroups
import DataOps.LibPrograms
import DataOps.ProfileEngine
import DataOps.QualityChainHandlers
import DataOps.StandardizationColumns
/-!
# PipelineWorld — the files and the tables the stages share

Profiling, cleaning, standardization, matching and export read each other's rows and files.  The input root and the three
output roots are directories of their own, so a path says which root it lies under.  `writes` and `commits` are history:
who wrote a file or committed a row last does not matter to the code, and no handler reads them.
-/
namespace DataOps
namespace Pipeline

open Api (ApprovalStatus OrganizationId ReviewAction RunKind TaskId TaskRunId User)
open Cleaning (CleaningLimits CleaningResult InferredType)
open Export (ExportLimits GroupInput MaterializeResult)
open Matching (MatchLimits MatchResult MatchRuleSetConfig MatchTables)
open Profiling (CsvLoadError LoadedCsv ProfileLimits ProfileResult Sniffed)
open QualityChain (Sha256 SourceType)
open Schedule (DataSourceId Tables TaskRunRow TaskType)
open Standardization (FieldType LookupTables StandardizationColumnMapping StandardizationLimits StandardizationLookupEntry
  StandardizationResult)

/-! ## Paths -/

inductive OutputRoot
  | csvOutputRoot | csvStandardizedRoot | csvExportedRoot
deriving DecidableEq, Repr

/-- A resolved path below a root and the organization's directory in it. -/
inductive FilePath
  | input (organizationId : OrganizationId) (relative : List Str)
  | output (root : OutputRoot) (organizationId : OrganizationId) (taskRunId : TaskRunId)
deriving DecidableEq, Repr

/-- The file is the output of a run. -/
def FilePath.isOutputOf (id : TaskRunId) : FilePath → Bool
  | .input _ _           => false
  | .output _ _ taskRunId => decide (taskRunId = id)

/-! ## Rows -/

/-- A data source as a handler finds it; `filePath` is its `connection_metadata.get("file_path")` if that is a string. -/
structure DataSource where
  id             : DataSourceId
  organizationId : OrganizationId
  sourceType     : SourceType
  filePath       : Option Str
deriving DecidableEq, Repr

/-- The columns every run row has. -/
structure RunRow where
  organizationId : OrganizationId
  taskRunId      : TaskRunId
  taskId         : TaskId
  dataSourceId   : DataSourceId
deriving DecidableEq, Repr

structure DataProfile (py : Python) extends RunRow where
  result : ProfileResult py

/-- The columns of a run that wrote a file. -/
structure OutputRow extends RunRow where
  sourceTaskRunId : TaskRunId
  outputFilePath  : FilePath
  outputSha256    : Sha256
  rowCount        : Nat
deriving DecidableEq, Repr

structure CleaningRun (py : Python) extends OutputRow where
  result    : CleaningResult
  postClean : ProfileResult py
  status    : ApprovalStatus

structure StandardizationRun extends OutputRow where
  result : StandardizationResult
  status : ApprovalStatus

/-- The id is drawn at the commit. -/
structure MatchRun extends RunRow where
  id              : Nat
  sourceTaskRunId : TaskRunId
  ruleSetId       : Option Nat
  ruleSetVersion  : Option Nat
  rowCount        : Nat
  status          : ApprovalStatus

structure ExportRun extends OutputRow where
  matchRunId          : Nat
  sourceRowCount      : Nat
  outputFileSizeBytes : Nat
  result              : MaterializeResult
  status              : ApprovalStatus

/-- A row of `match_rule_sets`, with its fields. -/
structure MatchRuleSetRow where
  id             : Nat
  organizationId : OrganizationId
  dataSourceId   : Option DataSourceId
  version        : Nat
  isActive       : Bool
  config         : MatchRuleSetConfig

/-- What an organization configures. -/
structure Configuration where
  columnMappings : List StandardizationColumnMapping
  lookupEntries  : List StandardizationLookupEntry
  matchRuleSets  : List MatchRuleSetRow

/-! ## What an output is made from -/

structure CleaningInputs where
  columnTypes : List InferredType
  source      : ByteArray

structure StandardizationInputs where
  source          : ByteArray
  columnOverrides : Dict Str FieldType
  lookupTables    : LookupTables

structure ExportInputs where
  source : ByteArray
  groups : List GroupInput

inductive Made
  | cleaned (inputs : CleaningInputs)
  | standardized (inputs : StandardizationInputs)
  | exported (inputs : ExportInputs)

/-- A commit of a run's row: the row, the rows it was made from, and what was read of them. -/
inductive Commit (py : Python)
  | dataProfile (row : DataProfile py) (source : ByteArray)
  | cleaningRun (row : CleaningRun py) (profile : DataProfile py) (inputs : CleaningInputs)
  | standardizationRun (row : StandardizationRun) (cleaningRun : CleaningRun py) (inputs : StandardizationInputs)
  | matchRun (row : MatchRun) (standardizationRun : StandardizationRun) (source : ByteArray) {n : Nat}
      (result : MatchResult n)
  | exportRun (row : ExportRun) (matchRun : MatchRun) (standardizationRun : StandardizationRun) (inputs : ExportInputs)

def Commit.row {py : Python} : Commit py → RunRow
  | .dataProfile row _          => row.toRunRow
  | .cleaningRun row _ _        => row.toRunRow
  | .standardizationRun row _ _ => row.toRunRow
  | .matchRun row _ _ _         => row.toRunRow
  | .exportRun row _ _ _        => row.toRunRow

/-- The columns on the file of a run that wrote one, and what the file was made from. -/
def Commit.output {py : Python} : Commit py → Option (OutputRow × Made)
  | .dataProfile _ _                 => none
  | .cleaningRun row _ inputs        => some (row.toOutputRow, .cleaned inputs)
  | .standardizationRun row _ inputs => some (row.toOutputRow, .standardized inputs)
  | .matchRun _ _ _ _                => none
  | .exportRun row _ _ inputs        => some (row.toOutputRow, .exported inputs)

/-- What a handler does to the files and the tables. -/
inductive Effect (py : Python)
  | writeFile (path : FilePath) (content : ByteArray) (made : Made)
  | commit (c : Commit py)

/-! ## The world -/

structure World (py : Python) where
  files               : FilePath → Option ByteArray
  tables              : Tables
  connections         : DataSourceId → SourceType × Option Str
  configuration       : Configuration
  dataProfiles        : List (DataProfile py)
  cleaningRuns        : List (CleaningRun py)
  standardizationRuns : List StandardizationRun
  matchRuns           : List MatchRun
  matchTables         : MatchTables
  exportRuns          : List ExportRun
  -- the execution that holds a run's lease
  leases              : TaskRunId → Option Nat
  writes              : List (FilePath × Made)
  commits             : List (Commit py)

section
variable {py : Python}

/-- A data source, with the columns the handlers read. -/
def World.dataSource (w : World py) (id : DataSourceId) : Option DataSource :=
  (w.tables.dataSources.get? id).map (fun row => ⟨id, row.organizationId, (w.connections id).1, (w.connections id).2⟩)

/-- What the last write to a file was made from. -/
def World.lastMade (w : World py) (path : FilePath) : Option Made :=
  (w.writes.find? (fun entry => entry.1 = path)).map Prod.snd

/-- The holder of a run's lease replaced. -/
def World.lease (w : World py) (id : TaskRunId) (holder : Option Nat) : World py :=
  { w with leases := fun id' => if id' = id then holder else w.leases id' }

/-- The rows of the runs that clean and standardize. -/
def World.outputRows (w : World py) : List OutputRow :=
  w.cleaningRuns.map (fun row => row.toOutputRow) ++ w.standardizationRuns.map (fun row => row.toOutputRow)

/-- `task_run_id` is unique in the table of the commit. -/
def World.recorded (w : World py) : Commit py → Bool
  | .dataProfile row _          => w.dataProfiles.any (fun r => r.taskRunId = row.taskRunId)
  | .cleaningRun row _ _        => w.cleaningRuns.any (fun r => r.taskRunId = row.taskRunId)
  | .standardizationRun row _ _ => w.standardizationRuns.any (fun r => r.taskRunId = row.taskRunId)
  | .matchRun row _ _ _         => w.matchRuns.any (fun r => r.taskRunId = row.taskRunId)
  | .exportRun row _ _ _        => w.exportRuns.any (fun r => r.taskRunId = row.taskRunId)

/-- The tables after the transaction. -/
def World.insert (w : World py) : Commit py → World py
  | .dataProfile row _          => { w with dataProfiles := w.dataProfiles ++ [row] }
  | .cleaningRun row _ _        => { w with cleaningRuns := w.cleaningRuns ++ [row] }
  | .standardizationRun row _ _ => { w with standardizationRuns := w.standardizationRuns ++ [row] }
  | .matchRun row _ _ result    => { w with
      matchRuns := w.matchRuns ++ [{ row with id := w.matchTables.matchRunId }]
      matchTables := w.matchTables.persist row.organizationId result }
  | .exportRun row _ _ _        => { w with exportRuns := w.exportRuns ++ [row] }

/-- A write replaces the file; a commit of a second row of a run is an `IntegrityError`. -/
def World.perform (w : World py) : Effect py → World py × Bool
  | .writeFile path content made =>
    ({ w with
       files := fun p => if p = path then some content else w.files p
       writes := (path, made) :: w.writes }, true)
  | .commit c =>
    if w.recorded c then (w, false) else ({ w.insert c with commits := w.commits ++ [c] }, true)

end

/-! ## The settings and the environment of a worker -/

structure Deployment (py : PythonValues) where
  -- `hashlib.sha256(..).hexdigest()`
  sha256                : ByteArray → Sha256
  -- `csv.Sniffer().sniff`; `none` is `csv.Error`
  sniff                 : Str → Option Sniffed
  -- `round(x, 4)`
  round4                : py.Float → py.Float
  -- `(root / candidate).resolve().relative_to(root)`; `none` is `ValueError`
  relativeTo            : OrganizationId → Str → Option (List Str)
  csvLimits             : ProfileLimits
  cleaningLimits        : CleaningLimits
  standardizationLimits : StandardizationLimits
  matchLimits           : MatchLimits
  exportLimits          : ExportLimits

section
variable {py : PythonValues} (dep : Deployment py)

def Deployment.loadCsv (source : ByteArray) : Except CsvLoadError LoadedCsv :=
  Profiling.loadCsv py.casefold dep.sha256 dep.sniff dep.csvLimits.toCsvLimits source

/-- `resolve_source_path`, below the root of the organization. -/
def resolveSourcePath (w : World py.toPython) (organizationId : OrganizationId) (configuredPath : Str) :
    Except CsvLoadError FilePath :=
  if Str.strip configuredPath = [] then .error ⟨"CSV data source requires connection_metadata.file_path"⟩
  else if configuredPath.head? = some '/' then .error ⟨"Absolute CSV paths are not allowed"⟩
  else
    match dep.relativeTo organizationId configuredPath with
    | none          => .error ⟨"CSV path escapes the configured input root"⟩
    | some relative =>
      if (w.files (.input organizationId relative)).isSome then .ok (.input organizationId relative)
      else .error ⟨"CSV source file was not found"⟩

/-- What `clean` and `_serialize_csv` make of what was read; `none` where one of the steps raises. -/
def CleaningInputs.output (inputs : CleaningInputs) : Option ByteArray :=
  match dep.loadCsv inputs.source with
  | .error _   => none
  | .ok loaded =>
    (Cleaning.clean py loaded.rows loaded.headers inputs.columnTypes dep.cleaningLimits).map
      (fun result => Profiling.serializeCsv loaded.headers result.cleanedRows)

/-- `StandardizationConfig()`. -/
def standardizationConfig : Standardization.StandardizationConfig := ⟨none, none, none, none, none⟩

def StandardizationInputs.output (inputs : StandardizationInputs) : Option ByteArray :=
  match dep.loadCsv inputs.source with
  | .error _   => none
  | .ok loaded =>
    (Standardization.standardize py inputs.lookupTables standardizationConfig loaded.rows loaded.headers
      (Standardization.classifyColumns py.toPython loaded.headers inputs.columnOverrides) dep.standardizationLimits).map
      (fun result => Profiling.serializeCsv loaded.headers result.standardizedRows)

def ExportInputs.output (inputs : ExportInputs) : Option ByteArray :=
  match dep.loadCsv inputs.source with
  | .error _   => none
  | .ok loaded =>
    let result := Export.materialize loaded.rows loaded.headers inputs.groups dep.exportLimits
    some (Profiling.serializeCsv result.outputHeaders result.outputRows)

def Made.output : Made → Option ByteArray
  | .cleaned inputs      => inputs.output dep
  | .standardized inputs => inputs.output dep
  | .exported inputs     => inputs.output dep

end

end Pipeline
end DataOps

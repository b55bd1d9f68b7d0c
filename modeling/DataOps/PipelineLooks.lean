import DataOps.LibProgramRules
import DataOps.PipelineRules
/-!
# PipelineLooks — what a stage has found when it acts

A property shown look by look holds of a stage once it holds of what is left at its first act, whatever its looks found on
the way: its upstream row, no row of the run itself, and a file that loads.
-/
namespace DataOps
namespace Pipeline

open Api (ApprovalStatus OrganizationId TaskRunId)
open Programs (Closed)
open Profiling (LoadedCsv profileCsv serializeCsv)

/-! ## The stages from their first act on -/

section
variable {py : PythonValues} (dep : Deployment py)

/-- `StandardizationHandler.execute` from its write on. -/
def StandardizationHandler.write (context : ExecutionContext) (dataSource : DataSource) (sourceTaskRunId : TaskRunId)
    (cleaningRun : CleaningRun py.toPython) (inputs : StandardizationInputs) (loaded : LoadedCsv)
    (result : Standardization.StandardizationResult) : Execution py.toPython :=
  let content := serializeCsv loaded.headers result.standardizedRows
  let row := outputRow dep context dataSource sourceTaskRunId .csvStandardizedRoot content result.standardizedRows.length
  .act (.writeFile row.outputFilePath content (.standardized inputs)) fun _ =>
  persist (.standardizationRun { row with result := result, status := .pendingReview } cleaningRun inputs)

/-- `MatchHandler.execute` from its matching on. -/
def MatchHandler.write (context : ExecutionContext) (dataSource : DataSource) (sourceTaskRunId : TaskRunId)
    (standardizationRun : StandardizationRun) (source : ByteArray) {loaded : LoadedCsv}
    (hload : dep.loadCsv source = .ok loaded) (ruleSetRow : Option MatchRuleSetRow)
    (ruleSetConfig : Option Matching.MatchRuleSetConfig) : Execution py.toPython :=
  let table : Table := ⟨loaded.headers, loaded.rows, loadCsv_width dep hload⟩
  let result := Matching.matchRows py.casefold table ruleSetConfig dep.matchLimits
  persist (.matchRun
    { toRunRow := context.row dataSource
      id := 0
      sourceTaskRunId := sourceTaskRunId
      ruleSetId := ruleSetRow.map (fun row => row.id)
      ruleSetVersion := ruleSetRow.map (fun row => row.version)
      rowCount := result.rowCount
      status := .pendingReview } standardizationRun source result)

/-- `ExportHandler.execute` from its write on. -/
def ExportHandler.write (context : ExecutionContext) (dataSource : DataSource) (sourceTaskRunId : TaskRunId)
    (matchRun : MatchRun) (standardizationRun : StandardizationRun) (inputs : ExportInputs) (loaded : LoadedCsv) :
    Execution py.toPython :=
  let result := Export.materialize loaded.rows loaded.headers inputs.groups dep.exportLimits
  let content := serializeCsv result.outputHeaders result.outputRows
  let row := outputRow dep context dataSource sourceTaskRunId .csvExportedRoot content result.rowCount
  .act (.writeFile row.outputFilePath content (.exported inputs)) fun _ =>
  statSize row.outputFilePath fun size =>
  persist (.exportRun
    { row with
      matchRunId := matchRun.id
      sourceRowCount := loaded.rows.length
      outputFileSizeBytes := size
      result := result
      status := .pendingReview } matchRun standardizationRun inputs)

end

section
variable {py : PythonValues} {dep : Deployment py}
variable {asked : Query py.toPython → Prop} {seen : World py.toPython → Query py.toPython → World py.toPython → Prop}
variable {Φ : Execution py.toPython → World py.toPython → Prop} {w : World py.toPython}

/-- The look at an upstream row, and the one after it, which finds no row of the run. -/
structure Started {α : Type} (seen : World py.toPython → Query py.toPython → World py.toPython → Prop)
    (w : World py.toPython) (query : World py.toPython → Option α) (rows : World py.toPython → List RunRow)
    (taskRunId : TaskRunId) (upstream : α) (w₁ w₂ : World py.toPython) : Prop where
  looks    : seen w .rows w₁
  upstream : query w₁ = some upstream
  again    : seen w₁ .rows w₂
  new      : ∀ row ∈ rows w₂, row.taskRunId ≠ taskRunId

/-! ## The statements -/

variable (hΦ : Closed asked seen Φ)
include hΦ

theorem require_closed {α : Type} {value : Option α} {message : String} {next : α → Execution py.toPython}
    (h : ∀ a, value = some a → Φ (next a) w) : Φ (require value message next) w := by
  unfold require
  split
  · rename_i a
    exact h a rfl
  · exact hΦ.halt _ w

theorem requireCsvUpload_closed {context : ExecutionContext} {handler taskType : String}
    {next : DataSource → Execution py.toPython}
    (h : ∀ dataSource, context.dataSource = some dataSource → Φ (next dataSource) w) :
    Φ (requireCsvUpload context handler taskType next) w := by
  refine require_closed hΦ (fun dataSource hdataSource => ?_)
  split
  · exact h dataSource hdataSource
  · exact hΦ.halt _ w

theorem requireApproved_closed {run sourceName : String} {status : ApprovalStatus} {next : Execution py.toPython}
    (h : status = .approved → Φ next w) : Φ (requireApproved run sourceName status next) w := by
  unfold requireApproved
  split
  · rename_i happroved
    exact h happroved
  · exact hΦ.halt _ w

variable (hrows : asked .rows)
include hrows

theorem select_closed {α : Type} {query : World py.toPython → Option α} {message : String}
    {next : α → Execution py.toPython} (h : ∀ w' a, seen w .rows w' → query w' = some a → Φ (next a) w') :
    Φ (select query message next) w :=
  hΦ.observe _ _ w hrows (fun w' hseen => require_closed hΦ (fun a ha => h w' a hseen ha))

theorem unlessExisting_closed {taskRunId : TaskRunId} {rows : World py.toPython → List RunRow}
    {next : Execution py.toPython}
    (h : ∀ w', seen w .rows w' → (∀ row ∈ rows w', row.taskRunId ≠ taskRunId) → Φ next w') :
    Φ (unlessExisting taskRunId rows next) w := by
  refine hΦ.observe _ _ w hrows (fun w' hseen => ?_)
  split
  · exact hΦ.halt _ w'
  · rename_i hnew
    exact h w' hseen (by simpa using hnew)

/-- **An upstream row and no row of the run**, when the status of the upstream row is not asked for. -/
theorem start_closed {α : Type} {query : World py.toPython → Option α} {message : String} {taskRunId : TaskRunId}
    {rows : World py.toPython → List RunRow} {next : α → Execution py.toPython}
    (h : ∀ a w₁ w₂, Started seen w query rows taskRunId a w₁ w₂ → Φ (next a) w₂) :
    Φ (select query message fun a => unlessExisting taskRunId rows (next a)) w :=
  select_closed hΦ hrows (fun w₁ a hseen ha =>
    unlessExisting_closed hΦ hrows (fun w₂ hseen' hnew => h a w₁ w₂ ⟨hseen, ha, hseen', hnew⟩))

/-- When it must be approved. -/
theorem startApproved_closed {α : Type} {query : World py.toPython → Option α} {message run sourceName : String}
    {status : α → ApprovalStatus} {taskRunId : TaskRunId} {rows : World py.toPython → List RunRow}
    {next : α → Execution py.toPython}
    (h : ∀ a w₁ w₂, Started seen w query rows taskRunId a w₁ w₂ → status a = .approved → Φ (next a) w₂) :
    Φ (select query message fun a =>
      requireApproved run sourceName (status a) (unlessExisting taskRunId rows (next a))) w :=
  select_closed hΦ hrows (fun w₁ a hseen ha => requireApproved_closed hΦ (fun happroved =>
    unlessExisting_closed hΦ hrows (fun w₂ hseen' hnew => h a w₁ w₂ ⟨hseen, ha, hseen', hnew⟩ happroved)))

omit hrows in
theorem readCsv_closed {query : Query py.toPython} {path : FilePath}
    {next : (source : ByteArray) → (loaded : LoadedCsv) → dep.loadCsv source = .ok loaded → Execution py.toPython}
    (hasked : asked query)
    (h : ∀ w' source loaded hload, seen w query w' → w'.files path = some source → Φ (next source loaded hload) w') :
    Φ (readCsv dep query path next) w := by
  refine hΦ.observe _ _ w hasked (fun w' hseen => ?_)
  split
  · exact hΦ.halt _ w'
  · rename_i source hsource
    split
    · exact hΦ.halt _ w'
    · rename_i loaded hload
      exact h w' source loaded hload hseen hsource

theorem readSource_closed {query : FilePath → Query py.toPython} {organizationId : OrganizationId} {configuredPath : Str}
    {next : (source : ByteArray) → (loaded : LoadedCsv) → dep.loadCsv source = .ok loaded → Execution py.toPython}
    (hasked : ∀ w₁ path, resolveSourcePath dep w₁ organizationId configuredPath = .ok path → asked (query path))
    (h : ∀ w₁ path w₂ source loaded hload, seen w .rows w₁ →
      resolveSourcePath dep w₁ organizationId configuredPath = .ok path → seen w₁ (query path) w₂ →
      w₂.files path = some source → Φ (next source loaded hload) w₂) :
    Φ (readSource dep query organizationId configuredPath next) w := by
  refine hΦ.observe _ _ w hrows (fun w₁ hseen => ?_)
  split
  · exact hΦ.halt _ w₁
  · rename_i path hpath
    exact readCsv_closed hΦ (hasked w₁ path hpath)
      (fun w₂ source loaded hload hseen' hfile => h w₁ path w₂ source loaded hload hseen hpath hseen' hfile)

/-- What follows a commit: at most a look. -/
theorem persisted_closed (c : Commit py.toPython) (accepted : Bool) :
    Φ (if accepted then .halt .created
      else .observe .rows fun w => .halt (if w.recorded c then .existing else .unexpectedError)) w := by
  cases accepted with
  | true => exact hΦ.halt _ w
  | false => exact hΦ.observe _ _ w hrows (fun w' _ => hΦ.halt _ w')

omit hrows in
theorem statSize_closed {path : FilePath} {next : Nat → Execution py.toPython} (hasked : asked (.size path))
    (h : ∀ w' size, seen w (.size path) w' → Φ (next size) w') : Φ (statSize path next) w := by
  refine hΦ.observe _ _ w hasked (fun w' hseen => ?_)
  split
  · exact hΦ.halt _ w'
  · exact h w' _ hseen

/-! ## The handlers -/

theorem CsvProfilingHandler.execute_closed {context : ExecutionContext}
    (hasked : ∀ dataSource configuredPath w₁ path, context.dataSource = some dataSource →
      resolveSourcePath dep w₁ dataSource.organizationId configuredPath = .ok path → asked (.file path))
    (h : ∀ dataSource w₁ path w₂ source loaded result w₃, context.dataSource = some dataSource → seen w .rows w₁ →
      seen w₁ (.file path) w₂ → w₂.files path = some source → dep.loadCsv source = .ok loaded →
      profileCsv py dep.round4 loaded dep.csvLimits = some result → seen w₂ .rows w₃ →
      (∀ row ∈ w₃.dataProfiles, row.taskRunId ≠ context.taskRun.id) →
      Φ (persist (.dataProfile ⟨context.row dataSource, result⟩ source)) w₃) :
    Φ (CsvProfilingHandler.execute dep context) w := by
  refine requireCsvUpload_closed hΦ (fun dataSource hdataSource => require_closed hΦ (fun configuredPath _ => ?_))
  refine readSource_closed hΦ hrows (fun w₁ path hpath => hasked dataSource configuredPath w₁ path hdataSource hpath)
    (fun w₁ path w₂ source loaded hload hseen _ hseen' hfile => ?_)
  split
  · exact hΦ.halt _ w₂
  · rename_i result hresult
    refine unlessExisting_closed hΦ hrows (fun w₃ hseen'' hnew => ?_)
    refine h dataSource w₁ path w₂ source loaded result w₃ hdataSource hseen hseen' hfile hload hresult hseen'' ?_
    exact fun row hrow => hnew row.toRunRow (List.mem_map_of_mem hrow)

theorem CleaningHandler.execute_closed {context : ExecutionContext}
    (hasked : ∀ dataSource configuredPath w₁ path profile, context.dataSource = some dataSource →
      resolveSourcePath dep w₁ dataSource.organizationId configuredPath = .ok path → asked (.profiledFile profile path))
    (h : ∀ dataSource sourceTaskRunId profile w₁ w₂ w₃ path w₄ source loaded result,
      context.dataSource = some dataSource → context.taskRun.sourceTaskRunId = some sourceTaskRunId →
      Started seen w
        (fun w => ofTaskRun DataProfile.toRunRow w.dataProfiles sourceTaskRunId context.taskRun.organizationId)
        (fun w => w.cleaningRuns.map (fun r => r.toRunRow)) context.taskRun.id profile w₁ w₂ →
      seen w₂ .rows w₃ → seen w₃ (.profiledFile profile path) w₄ → w₄.files path = some source →
      dep.loadCsv source = .ok loaded →
      Cleaning.clean py loaded.rows loaded.headers profile.columnTypes dep.cleaningLimits = some result →
      Φ (CleaningHandler.write dep context dataSource sourceTaskRunId profile source loaded result) w₄) :
    Φ (CleaningHandler.execute dep context) w := by
  refine requireCsvUpload_closed hΦ (fun dataSource hdataSource => require_closed hΦ (fun sourceTaskRunId hsource => ?_))
  refine require_closed hΦ (fun configuredPath _ => start_closed hΦ hrows (fun profile w₁ w₂ hstarted => ?_))
  refine readSource_closed hΦ hrows
    (fun w₁ path hpath => hasked dataSource configuredPath w₁ path profile hdataSource hpath)
    (fun w₃ path w₄ source loaded hload hseen _ hseen' hfile => ?_)
  split
  · exact hΦ.halt _ w₄
  · split
    · exact hΦ.halt _ w₄
    · rename_i result hresult
      exact h dataSource sourceTaskRunId profile w₁ w₂ w₃ path w₄ source loaded result hdataSource hsource hstarted hseen
        hseen' hfile hload hresult

theorem StandardizationHandler.execute_closed {context : ExecutionContext}
    (hasked : ∀ sourceTaskRunId w₁ cleaningRun, seen w .rows w₁ →
      ofTaskRun (fun r => r.toRunRow) w₁.cleaningRuns sourceTaskRunId context.taskRun.organizationId = some cleaningRun →
      asked (.file cleaningRun.outputFilePath))
    (h : ∀ dataSource sourceTaskRunId cleaningRun w₁ w₂ w₃ source w₄ w₅ columnOverrides lookupTables loaded result,
      context.dataSource = some dataSource → context.taskRun.sourceTaskRunId = some sourceTaskRunId →
      Started seen w
        (fun w => ofTaskRun (fun r => r.toRunRow) w.cleaningRuns sourceTaskRunId context.taskRun.organizationId)
        (fun w => w.standardizationRuns.map (fun r => r.toRunRow)) context.taskRun.id cleaningRun w₁ w₂ →
      cleaningRun.status = .approved → seen w₂ (.file cleaningRun.outputFilePath) w₃ →
      w₃.files cleaningRun.outputFilePath = some source → dep.loadCsv source = .ok loaded → seen w₃ .rows w₄ →
      seen w₄ .rows w₅ →
      columnOverrides = Standardization.loadColumnOverrides py.toPython w₄.configuration.columnMappings
        context.taskRun.organizationId dataSource.id →
      lookupTables = Standardization.loadLookupTables py.toPython w₅.configuration.lookupEntries
        context.taskRun.organizationId →
      (Made.standardized ⟨source, columnOverrides, lookupTables⟩).output dep =
        some (serializeCsv loaded.headers result.standardizedRows) →
      Φ (StandardizationHandler.write dep context dataSource sourceTaskRunId cleaningRun
        ⟨source, columnOverrides, lookupTables⟩ loaded result) w₅) :
    Φ (StandardizationHandler.execute dep context) w := by
  refine requireCsvUpload_closed hΦ (fun dataSource hdataSource => require_closed hΦ (fun sourceTaskRunId hsource => ?_))
  refine startApproved_closed hΦ hrows (fun cleaningRun w₁ w₂ hstarted happroved => ?_)
  refine readCsv_closed hΦ (hasked sourceTaskRunId w₁ cleaningRun hstarted.looks hstarted.upstream)
    (fun w₃ source loaded hload hseen hfile => ?_)
  refine hΦ.observe _ _ w₃ hrows (fun w₄ hseen₄ => hΦ.observe _ _ w₄ hrows (fun w₅ hseen₅ => ?_))
  dsimp only
  split
  · exact hΦ.halt _ w₅
  · rename_i result hresult
    exact h dataSource sourceTaskRunId cleaningRun w₁ w₂ w₃ source w₄ w₅ _ _ loaded result hdataSource hsource hstarted
      happroved hseen hfile hload hseen₄ hseen₅ rfl rfl (Made.output_standardized hload hresult)

theorem MatchHandler.execute_closed {context : ExecutionContext}
    (hasked : ∀ sourceTaskRunId w₁ standardizationRun, seen w .rows w₁ →
      ofTaskRun (fun r => r.toRunRow) w₁.standardizationRuns sourceTaskRunId context.taskRun.organizationId =
        some standardizationRun → asked (.file standardizationRun.outputFilePath))
    (h : ∀ dataSource sourceTaskRunId standardizationRun w₁ w₂ w₃ source w₄ ruleSetRow ruleSet loaded
      (hload : dep.loadCsv source = .ok loaded), context.dataSource = some dataSource →
      context.taskRun.sourceTaskRunId = some sourceTaskRunId →
      Started seen w
        (fun w => ofTaskRun (fun r => r.toRunRow) w.standardizationRuns sourceTaskRunId context.taskRun.organizationId)
        (fun w => w.matchRuns.map MatchRun.toRunRow) context.taskRun.id standardizationRun w₁ w₂ →
      standardizationRun.status = .approved → seen w₂ (.file standardizationRun.outputFilePath) w₃ →
      w₃.files standardizationRun.outputFilePath = some source → seen w₃ .rows w₄ →
      loadRuleSet w₄.configuration.matchRuleSets context.taskRun.organizationId dataSource.id =
        (ruleSetRow, ruleSet) →
      Φ (MatchHandler.write dep context dataSource sourceTaskRunId standardizationRun source hload ruleSetRow ruleSet)
        w₄) :
    Φ (MatchHandler.execute dep context) w := by
  refine requireCsvUpload_closed hΦ (fun dataSource hdataSource => require_closed hΦ (fun sourceTaskRunId hsource => ?_))
  refine startApproved_closed hΦ hrows (fun standardizationRun w₁ w₂ hstarted happroved => ?_)
  refine readCsv_closed hΦ (hasked sourceTaskRunId w₁ standardizationRun hstarted.looks hstarted.upstream)
    (fun w₃ source loaded hload hseen hfile => hΦ.observe _ _ w₃ hrows (fun w₄ hseen₄ => ?_))
  exact h dataSource sourceTaskRunId standardizationRun w₁ w₂ w₃ source w₄ _ _ loaded hload hdataSource hsource hstarted
    happroved hseen hfile hseen₄ rfl

theorem ExportHandler.execute_closed {context : ExecutionContext}
    (hasked : ∀ w' (matchRun : MatchRun) standardizationRun,
      ofTaskRun (fun r => r.toRunRow) w'.standardizationRuns matchRun.sourceTaskRunId context.taskRun.organizationId =
        some standardizationRun → (∃ w'', seen w'' .rows w') → asked (.file standardizationRun.outputFilePath))
    (h : ∀ dataSource sourceTaskRunId matchRun w₁ w₂ w₃ standardizationRun w₄ source w₅ groups loaded,
      context.dataSource = some dataSource → context.taskRun.sourceTaskRunId = some sourceTaskRunId →
      Started seen w
        (fun w => ofTaskRun MatchRun.toRunRow w.matchRuns sourceTaskRunId context.taskRun.organizationId)
        (fun w => w.exportRuns.map (fun r => r.toRunRow)) context.taskRun.id matchRun w₁ w₂ →
      matchRun.status = .approved → seen w₂ .rows w₃ →
      ofTaskRun (fun r => r.toRunRow) w₃.standardizationRuns matchRun.sourceTaskRunId context.taskRun.organizationId =
        some standardizationRun →
      seen w₃ (.file standardizationRun.outputFilePath) w₄ → w₄.files standardizationRun.outputFilePath = some source →
      dep.loadCsv source = .ok loaded → loaded.rows.length = matchRun.rowCount → seen w₄ .rows w₅ →
      Export.loadGroups w₅.matchTables.matchGroups w₅.matchTables.matchDecisions context.taskRun.organizationId
        matchRun.id = .ok groups →
      Φ (ExportHandler.write dep context dataSource sourceTaskRunId matchRun standardizationRun ⟨source, groups⟩ loaded)
        w₅) :
    Φ (ExportHandler.execute dep context) w := by
  refine requireCsvUpload_closed hΦ (fun dataSource hdataSource => require_closed hΦ (fun sourceTaskRunId hsource => ?_))
  refine startApproved_closed hΦ hrows (fun matchRun w₁ w₂ hstarted happroved => ?_)
  refine select_closed hΦ hrows (fun w₃ standardizationRun hseen₃ hstandardization => ?_)
  refine readCsv_closed hΦ (hasked w₃ matchRun standardizationRun hstandardization ⟨_, hseen₃⟩)
    (fun w₄ source loaded hload hseen₄ hfile => ?_)
  split
  · exact hΦ.halt _ w₄
  · rename_i hcount
    split
    · exact hΦ.halt _ w₄
    · refine hΦ.observe _ _ w₄ hrows (fun w₅ hseen₅ => ?_)
      dsimp only
      split
      · exact hΦ.halt _ w₅
      · rename_i groups hgroups
        exact h dataSource sourceTaskRunId matchRun w₁ w₂ w₃ standardizationRun w₄ source
          w₅ groups loaded hdataSource hsource
          hstarted happroved hseen₃ hstandardization hseen₄ hfile hload (not_not.1 hcount) hseen₅ hgroups

end

end Pipeline
end DataOps

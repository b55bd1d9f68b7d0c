import DataOps.PipelineHandlers
/-!
# PipelineRules — what is to be shown of a stage

One rule for each statement and, from them, one for each handler: an execution is sound when its acts meet the contract
for whatever its looks may have found, each in a world that grew from the one before.
-/
namespace DataOps
namespace Pipeline

open Api (ApprovalStatus OrganizationId TaskRunId)
open Programs (Contract Program)
open Profiling (CsvLoadError LoadedCsv serializeCsv)
open Standardization (FieldType LookupTables StandardizationResult)

section
variable {py : PythonValues} {dep : Deployment py} {source : ByteArray} {loaded : LoadedCsv}

/-! ## The hash of what was read -/

theorem loadRecords_sourceSha256 {casefold : Str → Str} {sha256 : ByteArray → String} {limits : Profiling.CsvLimits}
    {encoding : String} {D : Csv.Dialect} {items : List (Except Csv.Error (List Str))}
    (h : Profiling.loadRecords casefold sha256 limits source encoding D items = .ok loaded) :
    loaded.sourceSha256 = sha256 source := by
  unfold Profiling.loadRecords at h
  split at h
  · cases h
  · cases h
  · split at h
    · cases h
    · split at h
      · cases h
      · dsimp only at h
        split at h
        · cases h
        · cases h
          rfl

theorem loadCsv_sourceSha256 (h : dep.loadCsv source = .ok loaded) : loaded.sourceSha256 = dep.sha256 source := by
  unfold Deployment.loadCsv Profiling.loadCsv at h
  split at h
  · cases h
  · split at h
    · cases h
    · split at h
      · cases h
      · exact loadRecords_sourceSha256 h

theorem profileCsv_sourceSha256 {limits : Profiling.ProfileLimits} {result : Profiling.ProfileResult py.toPython}
    (h : Profiling.profileCsv py dep.round4 loaded limits = some result) : result.sourceSha256 = loaded.sourceSha256 := by
  unfold Profiling.profileCsv at h
  dsimp only at h
  split at h
  · cases h
  · cases h
    rfl

/-! ## What an engine's result is written as -/

theorem Made.output_cleaned (hload : dep.loadCsv source = .ok loaded) {columnTypes : List Cleaning.InferredType}
    {result : Cleaning.CleaningResult}
    (hresult : Cleaning.clean py loaded.rows loaded.headers columnTypes dep.cleaningLimits = some result) :
    (Made.cleaned ⟨columnTypes, source⟩).output dep = some (serializeCsv loaded.headers result.cleanedRows) := by
  simp only [Made.output, CleaningInputs.output, hload, hresult, Option.map_some]

theorem Made.output_standardized (hload : dep.loadCsv source = .ok loaded) {columnOverrides : Dict Str FieldType}
    {lookupTables : LookupTables} {result : StandardizationResult}
    (hresult : Standardization.standardize py lookupTables standardizationConfig loaded.rows loaded.headers
      (Standardization.classifyColumns py.toPython loaded.headers columnOverrides) dep.standardizationLimits =
        some result) :
    (Made.standardized ⟨source, columnOverrides, lookupTables⟩).output dep =
      some (serializeCsv loaded.headers result.standardizedRows) := by
  simp only [Made.output, StandardizationInputs.output, hload, hresult, Option.map_some]

theorem Made.output_exported (hload : dep.loadCsv source = .ok loaded) {groups : List Export.GroupInput} :
    (Made.exported ⟨source, groups⟩).output dep =
      some (serializeCsv (Export.materialize loaded.rows loaded.headers groups dep.exportLimits).outputHeaders
        (Export.materialize loaded.rows loaded.headers groups dep.exportLimits).outputRows) := by
  simp only [Made.output, ExportInputs.output, hload]

end

section
variable {py : PythonValues} {dep : Deployment py} {ι η : Type}
variable {c : Contract (World py.toPython) (Query py.toPython) (Effect py.toPython) ι η} {w : World py.toPython}

/-! ## The statements -/

theorem require_sound {α : Type} {value : Option α} {message : String} {next : α → Execution py.toPython}
    (h : ∀ a, value = some a → (next a).Sound c w) : (require value message next).Sound c w := by
  unfold require
  split
  · rename_i a
    exact h a rfl
  · trivial

theorem requireCsvUpload_sound {context : ExecutionContext} {handler taskType : String}
    {next : DataSource → Execution py.toPython}
    (h : ∀ dataSource, context.dataSource = some dataSource → (next dataSource).Sound c w) :
    (requireCsvUpload context handler taskType next).Sound c w := by
  refine require_sound (fun dataSource hdataSource => ?_)
  split
  · exact h dataSource hdataSource
  · trivial

theorem requireSource_sound {context : ExecutionContext} {handler : String} {next : TaskRunId → Execution py.toPython}
    (h : ∀ id, context.taskRun.sourceTaskRunId = some id → (next id).Sound c w) :
    (requireSource context handler next).Sound c w := require_sound h

theorem requirePath_sound {dataSource : DataSource} {next : Str → Execution py.toPython}
    (h : ∀ path, (next path).Sound c w) : (requirePath dataSource next).Sound c w := require_sound (fun path _ => h path)

theorem requireApproved_sound {run sourceName : String} {status : ApprovalStatus} {next : Execution py.toPython}
    (h : status = .approved → next.Sound c w) : (requireApproved run sourceName status next).Sound c w := by
  unfold requireApproved
  split
  · rename_i happroved
    exact h happroved
  · trivial

theorem select_sound {α : Type} {query : World py.toPython → Option α} {message : String}
    {next : α → Execution py.toPython}
    (h : ∀ w' a, c.grows w w' → c.invariant w' → query w' = some a → (next a).Sound c w') :
    (select query message next).Sound c w :=
  fun w' hgrows hinv _ => require_sound (fun a ha => h w' a hgrows hinv ha)

theorem unlessExisting_sound {taskRunId : TaskRunId} {rows : World py.toPython → List RunRow}
    {next : Execution py.toPython} (h : ∀ w', c.grows w w' → c.invariant w' → next.Sound c w') :
    (unlessExisting taskRunId rows next).Sound c w := by
  intro w' hgrows hinv _
  dsimp only
  split
  · trivial
  · exact h w' hgrows hinv

theorem readCsv_sound {query : Query py.toPython} {path : FilePath}
    {next : (source : ByteArray) → (loaded : LoadedCsv) → dep.loadCsv source = .ok loaded → Execution py.toPython}
    (h : ∀ w' source loaded hload, c.grows w w' → c.invariant w' → c.looks w' query → w'.files path = some source →
      (next source loaded hload).Sound c w') : (readCsv dep query path next).Sound c w := by
  intro w' hgrows hinv hlooks
  dsimp only
  split
  · trivial
  · rename_i source hsource
    split
    · trivial
    · rename_i loaded hload
      exact h w' source loaded hload hgrows hinv hlooks hsource

theorem persist_sound {commit : Commit py.toPython} (h : c.meets w (.commit commit)) : (persist commit).Sound c w := by
  refine ⟨h, fun accepted => ?_⟩
  cases accepted with
  | true => trivial
  | false => exact fun _ _ _ _ => trivial

theorem statSize_sound {path : FilePath} {next : Nat → Execution py.toPython}
    (h : ∀ w' size, c.grows w w' → (next size).Sound c w') : (statSize path next).Sound c w := by
  intro w' hgrows _ _
  dsimp only
  split
  · trivial
  · exact h w' _ hgrows

theorem readSource_sound (htrans : ∀ {a b d}, c.grows a b → c.grows b d → c.grows a d)
    {query : FilePath → Query py.toPython} {organizationId : OrganizationId} {configuredPath : Str}
    {next : (source : ByteArray) → (loaded : LoadedCsv) → dep.loadCsv source = .ok loaded → Execution py.toPython}
    (h : ∀ w' path source loaded hload, c.grows w w' → c.invariant w' → c.looks w' (query path) →
      w'.files path = some source → (next source loaded hload).Sound c w') :
    (readSource dep query organizationId configuredPath next).Sound c w := by
  intro w₁ hgrows _ _
  dsimp only
  split
  · trivial
  · rename_i path _
    exact readCsv_sound (fun w₂ source loaded hload hgrows' => h w₂ path source loaded hload (htrans hgrows hgrows'))

/-! ## The handlers -/

/-- What is to be shown of a handler that writes a file and commits a row on it. -/
structure Writes (dep : Deployment py) (c : Contract (World py.toPython) (Query py.toPython) (Effect py.toPython) ι η)
    (w : World py.toPython) (row : OutputRow) (content : ByteArray) (made : Made)
    (commits : OutputRow → Commit py.toPython → Prop) : Prop where
  write  : c.meets w (.writeFile row.outputFilePath content made)
  commit : ∀ commit, commits row commit → c.meets w (.commit commit)

variable (htrans : ∀ {a b d}, c.grows a b → c.grows b d → c.grows a d)
  (hstable : ∀ {a b effect}, c.meets a effect → c.grows a b → c.meets b effect)
include htrans

theorem CsvProfilingHandler.execute_sound {context : ExecutionContext}
    (h : ∀ dataSource w₁ source loaded result, context.dataSource = some dataSource → c.grows w w₁ →
      dep.loadCsv source = .ok loaded → Profiling.profileCsv py dep.round4 loaded dep.csvLimits = some result →
      ∀ w₂, c.grows w₁ w₂ → c.meets w₂ (.commit (.dataProfile ⟨context.row dataSource, result⟩ source))) :
    (CsvProfilingHandler.execute dep context).Sound c w := by
  refine requireCsvUpload_sound (fun dataSource hdataSource => requirePath_sound (fun configuredPath => ?_))
  refine readSource_sound htrans (fun w₁ path source loaded hload hgrows _ _ _ => ?_)
  split
  · trivial
  · rename_i result hresult
    exact unlessExisting_sound (fun w₂ hgrows' _ =>
      persist_sound (h dataSource w₁ source loaded result hdataSource hgrows hload hresult w₂ hgrows'))

theorem CleaningHandler.execute_sound {context : ExecutionContext}
    (h : ∀ dataSource sourceTaskRunId w₁ profile w₂ path source loaded content rowCount,
      context.dataSource = some dataSource → context.taskRun.sourceTaskRunId = some sourceTaskRunId →
      c.grows w w₁ → c.invariant w₁ →
      ofTaskRun DataProfile.toRunRow w₁.dataProfiles sourceTaskRunId context.taskRun.organizationId = some profile →
      c.grows w₁ w₂ → c.invariant w₂ → c.looks w₂ (.profiledFile profile path) → w₂.files path = some source →
      dep.loadCsv source = .ok loaded → profile.columnTypes.length = loaded.headers.length →
      (Made.cleaned ⟨profile.columnTypes, source⟩).output dep = some content →
      Writes dep c w₂ (outputRow dep context dataSource sourceTaskRunId .csvOutputRoot content rowCount) content
        (.cleaned ⟨profile.columnTypes, source⟩) (fun row commit =>
          ∃ run : CleaningRun py.toPython, run.toOutputRow = row ∧
            commit = .cleaningRun run profile ⟨profile.columnTypes, source⟩)) :
    (CleaningHandler.execute dep context).Sound c w := by
  refine requireCsvUpload_sound (fun dataSource hdataSource => requireSource_sound (fun sourceTaskRunId hsource => ?_))
  refine requirePath_sound (fun configuredPath => select_sound (fun w₁ profile hgrows hinv hprofile => ?_))
  refine unlessExisting_sound (fun w₂ hgrows₂ _ => ?_)
  refine readSource_sound htrans (fun w₃ path source loaded hload hgrows₃ hinv₃ hlooks hfile => ?_)
  split
  · trivial
  · rename_i hlength
    split
    · trivial
    · rename_i result hresult
      have hwrites := h dataSource sourceTaskRunId w₁ profile w₃ path source loaded _ result.cleanedRows.length hdataSource
        hsource hgrows hinv hprofile (htrans hgrows₂ hgrows₃) hinv₃ hlooks hfile hload (not_not.1 hlength)
        (Made.output_cleaned hload hresult)
      refine ⟨hwrites.write, fun _ => ?_⟩
      split
      · trivial
      · exact persist_sound (hwrites.commit _ ⟨_, rfl, rfl⟩)

theorem StandardizationHandler.execute_sound {context : ExecutionContext}
    (h : ∀ dataSource sourceTaskRunId w₁ cleaningRun w₂ source w₃ columnOverrides lookupTables content rowCount,
      context.dataSource = some dataSource → context.taskRun.sourceTaskRunId = some sourceTaskRunId →
      c.grows w w₁ → c.invariant w₁ →
      ofTaskRun (fun r => r.toRunRow) w₁.cleaningRuns sourceTaskRunId context.taskRun.organizationId = some cleaningRun →
      cleaningRun.status = .approved →
      c.grows w₁ w₂ → c.invariant w₂ → c.looks w₂ (.file cleaningRun.outputFilePath) →
      w₂.files cleaningRun.outputFilePath = some source → c.grows w₂ w₃ →
      (Made.standardized ⟨source, columnOverrides, lookupTables⟩).output dep = some content →
      Writes dep c w₃ (outputRow dep context dataSource sourceTaskRunId .csvStandardizedRoot content rowCount) content
        (.standardized ⟨source, columnOverrides, lookupTables⟩) (fun row commit =>
          ∃ run : StandardizationRun, run.toOutputRow = row ∧
            commit = .standardizationRun run cleaningRun ⟨source, columnOverrides, lookupTables⟩)) :
    (StandardizationHandler.execute dep context).Sound c w := by
  refine requireCsvUpload_sound (fun dataSource hdataSource => requireSource_sound (fun sourceTaskRunId hsource => ?_))
  refine select_sound (fun w₁ cleaningRun hgrows hinv hrun => requireApproved_sound (fun happroved => ?_))
  refine unlessExisting_sound (fun w₂ hgrows₂ _ => ?_)
  refine readCsv_sound (fun w₃ source loaded hload hgrows₃ hinv₃ hlooks hfile => ?_)
  intro w₄ hgrows₄ _ _ w₅ hgrows₅ _ _
  dsimp only
  split
  · trivial
  · rename_i result hresult
    have hwrites := h dataSource sourceTaskRunId w₁ cleaningRun w₃ source w₅ _ _ _ result.standardizedRows.length
      hdataSource hsource hgrows hinv hrun happroved (htrans hgrows₂ hgrows₃) hinv₃ hlooks hfile
        (htrans hgrows₄ hgrows₅)
      (Made.output_standardized hload hresult)
    exact ⟨hwrites.write, fun _ => persist_sound (hwrites.commit _ ⟨_, rfl, rfl⟩)⟩

theorem MatchHandler.execute_sound {context : ExecutionContext}
    (h : ∀ dataSource sourceTaskRunId w₁ standardizationRun w₂ source w₃ (row : MatchRun) (n : Nat)
      (result : Matching.MatchResult n),
      context.dataSource = some dataSource → context.taskRun.sourceTaskRunId = some sourceTaskRunId →
      c.grows w w₁ → c.invariant w₁ →
      ofTaskRun (fun r => r.toRunRow) w₁.standardizationRuns sourceTaskRunId context.taskRun.organizationId =
        some standardizationRun →
      standardizationRun.status = .approved →
      c.grows w₁ w₂ → c.invariant w₂ → c.looks w₂ (.file standardizationRun.outputFilePath) →
      w₂.files standardizationRun.outputFilePath = some source → c.grows w₂ w₃ →
      row.toRunRow = context.row dataSource → row.sourceTaskRunId = sourceTaskRunId →
      c.meets w₃ (.commit (.matchRun row standardizationRun source result))) :
    (MatchHandler.execute dep context).Sound c w := by
  refine requireCsvUpload_sound (fun dataSource hdataSource => requireSource_sound (fun sourceTaskRunId hsource => ?_))
  refine select_sound (fun w₁ standardizationRun hgrows hinv hrun => requireApproved_sound (fun happroved => ?_))
  refine unlessExisting_sound (fun w₂ hgrows₂ _ => ?_)
  refine readCsv_sound (fun w₃ source loaded hload hgrows₃ hinv₃ hlooks hfile => ?_)
  intro w₄ hgrows₄ _ _
  exact persist_sound
    (h dataSource sourceTaskRunId w₁ standardizationRun w₃ source w₄ _ _ _ hdataSource hsource hgrows hinv
    hrun happroved (htrans hgrows₂ hgrows₃) hinv₃ hlooks hfile hgrows₄ rfl rfl)

include hstable in
theorem ExportHandler.execute_sound {context : ExecutionContext}
    (h : ∀ dataSource sourceTaskRunId w₁ matchRun w₂ standardizationRun w₃ source w₄ groups content rowCount,
      context.dataSource = some dataSource → context.taskRun.sourceTaskRunId = some sourceTaskRunId →
      c.grows w w₁ → c.invariant w₁ →
      ofTaskRun MatchRun.toRunRow w₁.matchRuns sourceTaskRunId context.taskRun.organizationId = some matchRun →
      matchRun.status = .approved → c.grows w₁ w₂ → c.invariant w₂ →
      ofTaskRun (fun r => r.toRunRow) w₂.standardizationRuns matchRun.sourceTaskRunId context.taskRun.organizationId =
        some standardizationRun →
      c.grows w₂ w₃ → c.invariant w₃ → c.looks w₃ (.file standardizationRun.outputFilePath) →
      w₃.files standardizationRun.outputFilePath = some source → c.grows w₃ w₄ →
      (Made.exported ⟨source, groups⟩).output dep = some content →
      Writes dep c w₄ (outputRow dep context dataSource sourceTaskRunId .csvExportedRoot content rowCount) content
        (.exported ⟨source, groups⟩) (fun row commit =>
          ∃ run : ExportRun, run.toOutputRow = row ∧
            commit = .exportRun run matchRun standardizationRun ⟨source, groups⟩)) :
    (ExportHandler.execute dep context).Sound c w := by
  refine requireCsvUpload_sound (fun dataSource hdataSource => requireSource_sound (fun sourceTaskRunId hsource => ?_))
  refine select_sound (fun w₁ matchRun hgrows hinv hrun => requireApproved_sound (fun happroved => ?_))
  refine unlessExisting_sound (fun w₂ hgrows₂ _ => ?_)
  refine select_sound (fun w₃ standardizationRun hgrows₃ hinv₃ hstandardization => ?_)
  refine readCsv_sound (fun w₄ source loaded hload hgrows₄ hinv₄ hlooks hfile => ?_)
  split
  · trivial
  · split
    · trivial
    · intro w₅ hgrows₅ _ _
      dsimp only
      split
      · trivial
      · rename_i groups _
        have hwrites := h dataSource sourceTaskRunId w₁ matchRun w₃ standardizationRun w₄ source w₅ groups _
          (Export.materialize loaded.rows loaded.headers groups dep.exportLimits).rowCount hdataSource hsource hgrows hinv
          hrun happroved (htrans hgrows₂ hgrows₃) hinv₃ hstandardization hgrows₄ hinv₄ hlooks hfile hgrows₅
          (Made.output_exported hload)
        refine ⟨hwrites.write, fun _ => statSize_sound (fun w₆ size hgrows₆ => persist_sound ?_)⟩
        exact hstable (hwrites.commit _ ⟨_, rfl, rfl⟩) hgrows₆

end

end Pipeline
end DataOps

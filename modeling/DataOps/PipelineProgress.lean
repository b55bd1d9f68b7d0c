import DataOps.PipelineHandlers
/-!
# PipelineProgress — an execution that nothing refuses

One lemma for each statement: what an execution is left with when the look finds what it is after.  From them, that a
profiling execution comes to its commit and a cleaning execution to its write.
-/
namespace DataOps
namespace Pipeline

open Api (OrganizationId TaskRunId)
open Programs (Looks)
open Profiling (LoadedCsv profileCsv serializeCsv)

section
variable {py : PythonValues} {dep : Deployment py} {w : World py.toPython} {n : Nat}
variable {Q : Query py.toPython → Prop} {program : Execution py.toPython}

/-! ## The statements -/

theorem looks_select {α : Type} {query : World py.toPython → Option α} {message : String}
    {next : α → Execution py.toPython} {a : α} (h : query w = some a) (hrows : Q .rows)
    (hnext : Looks w Q n (next a) program) : Looks w Q (n + 1) (select query message next) program :=
  .cons hrows (by simpa only [h, require] using hnext)

theorem looks_unlessExisting {taskRunId : TaskRunId} {rows : World py.toPython → List RunRow}
    {next : Execution py.toPython} (h : ∀ row ∈ rows w, row.taskRunId ≠ taskRunId) (hrows : Q .rows)
    (hnext : Looks w Q n next program) : Looks w Q (n + 1) (unlessExisting taskRunId rows next) program := by
  have hnew : ¬ (rows w).any (fun r => r.taskRunId = taskRunId) = true := by simpa using h
  exact .cons hrows (by simpa only [if_neg hnew] using hnext)

theorem looks_readSource {query : FilePath → Query py.toPython} {organizationId : OrganizationId}
    {configuredPath : Str}
    {next : (source : ByteArray) → (loaded : LoadedCsv) → dep.loadCsv source = .ok loaded → Execution py.toPython}
    {path : FilePath} (h : resolveSourcePath dep w organizationId configuredPath = .ok path) (hrows : Q .rows)
    (hnext : Looks w Q n (readCsv dep (query path) path next) program) :
    Looks w Q (n + 1) (readSource dep query organizationId configuredPath next) program :=
  .cons hrows (by simpa only [h] using hnext)

theorem looks_readCsv {query : Query py.toPython} {path : FilePath}
    {next : (source : ByteArray) → (loaded : LoadedCsv) → dep.loadCsv source = .ok loaded → Execution py.toPython}
    {source : ByteArray} {loaded : LoadedCsv} (hfile : w.files path = some source)
    (hload : dep.loadCsv source = .ok loaded) (hquery : Q query) (hnext : Looks w Q n (next source loaded hload) program) :
    Looks w Q (n + 1) (readCsv dep query path next) program := by
  refine .cons hquery ?_
  simp only [hfile]
  split
  · rename_i error herror
    rw [hload] at herror
    cases herror
  · rename_i loaded' hload'
    rw [hload] at hload'
    cases hload'
    exact hnext

/-- A relative path to a file below the root resolves. -/
theorem resolveSourcePath_eq_ok {organizationId : OrganizationId} {configuredPath : Str} {relative : List Str}
    (hblank : Str.strip configuredPath ≠ []) (habsolute : configuredPath.head? ≠ some '/')
    (hrelative : dep.relativeTo organizationId configuredPath = some relative)
    (hfile : (w.files (.input organizationId relative)).isSome = true) :
    resolveSourcePath dep w organizationId configuredPath = .ok (.input organizationId relative) := by
  unfold resolveSourcePath
  rw [if_neg hblank, if_neg habsolute, hrelative]
  exact if_pos hfile

/-! ## The handlers -/

/-- The context's data source is a CSV upload with a path, which resolves to a file that loads. -/
structure Sourced (dep : Deployment py) (w : World py.toPython) (context : ExecutionContext) (dataSource : DataSource)
    (path : FilePath) (source : ByteArray) (loaded : LoadedCsv) : Prop where
  found     : context.dataSource = some dataSource
  csvUpload : dataSource.sourceType = .csvUpload
  resolved  : ∃ configuredPath, dataSource.filePath = some configuredPath ∧
    resolveSourcePath dep w dataSource.organizationId configuredPath = .ok path
  file      : w.files path = some source
  loads     : dep.loadCsv source = .ok loaded

/-- **A profiling execution that nothing refuses** comes to its commit. -/
theorem CsvProfilingHandler.looks {context : ExecutionContext} {dataSource : DataSource} {path : FilePath}
    {source : ByteArray} {loaded : LoadedCsv} {result : Profiling.ProfileResult py.toPython}
    (h : Sourced dep w context dataSource path source loaded)
    (hresult : profileCsv py dep.round4 loaded dep.csvLimits = some result)
    (hnew : ∀ row ∈ w.dataProfiles, row.taskRunId ≠ context.taskRun.id) (hrows : Q .rows) (hread : Q (.file path)) :
    Looks w Q 3 (CsvProfilingHandler.execute dep context)
      (persist (.dataProfile ⟨context.row dataSource, result⟩ source)) := by
  obtain ⟨configuredPath, hpath, hresolved⟩ := h.resolved
  have hexisting : ∀ row ∈ w.dataProfiles.map (fun r => r.toRunRow), row.taskRunId ≠ context.taskRun.id := by
    intro row hrow
    obtain ⟨profile, hprofile, rfl⟩ := List.mem_map.1 hrow
    exact hnew profile hprofile
  simp only [CsvProfilingHandler.execute, requireCsvUpload, requirePath, require, h.found, h.csvUpload, if_true, hpath]
  refine looks_readSource hresolved hrows (looks_readCsv h.file h.loads hread ?_)
  simp only [hresult]
  exact looks_unlessExisting hexisting hrows .none

/-- **A cleaning execution that nothing refuses** comes to its write. -/
theorem CleaningHandler.looks {context : ExecutionContext} {dataSource : DataSource} {path : FilePath}
    {source : ByteArray} {loaded : LoadedCsv} {sourceTaskRunId : TaskRunId} {profile : DataProfile py.toPython}
    {result : Cleaning.CleaningResult} (h : Sourced dep w context dataSource path source loaded)
    (hsource : context.taskRun.sourceTaskRunId = some sourceTaskRunId)
    (hprofile : ofTaskRun DataProfile.toRunRow w.dataProfiles sourceTaskRunId context.taskRun.organizationId =
      some profile)
    (hnew : ∀ row ∈ w.cleaningRuns, row.taskRunId ≠ context.taskRun.id)
    (hcolumns : profile.columnTypes.length = loaded.headers.length)
    (hresult : Cleaning.clean py loaded.rows loaded.headers profile.columnTypes dep.cleaningLimits = some result)
    (hrows : Q .rows) (hread : Q (.profiledFile profile path)) :
    Looks w Q 4 (CleaningHandler.execute dep context)
      (CleaningHandler.write dep context dataSource sourceTaskRunId profile source loaded result) := by
  obtain ⟨configuredPath, hpath, hresolved⟩ := h.resolved
  have hexisting : ∀ row ∈ w.cleaningRuns.map (fun r => r.toRunRow), row.taskRunId ≠ context.taskRun.id := by
    intro row hrow
    obtain ⟨run, hrun, rfl⟩ := List.mem_map.1 hrow
    exact hnew run hrun
  simp only [CleaningHandler.execute, requireCsvUpload, requireSource, requirePath, require, h.found, h.csvUpload, if_true,
    hsource, hpath]
  refine looks_select hprofile hrows (looks_unlessExisting hexisting hrows
    (looks_readSource hresolved hrows (looks_readCsv h.file h.loads hread ?_)))
  simp only [ne_eq, hcolumns, not_true_eq_false, if_false, hresult]
  exact .none

/-- **Its write, and the commit it comes to.** -/
theorem CleaningHandler.write_eq {context : ExecutionContext} {dataSource : DataSource} {sourceTaskRunId : TaskRunId}
    {profile : DataProfile py.toPython} {source : ByteArray} {loaded : LoadedCsv} {result : Cleaning.CleaningResult}
    {content : ByteArray} {postClean : Profiling.ProfileResult py.toPython} {row : OutputRow}
    (hcontent : serializeCsv loaded.headers result.cleanedRows = content)
    (hrow : outputRow dep context dataSource sourceTaskRunId .csvOutputRoot content result.cleanedRows.length = row)
    (hpostClean : profileCsv py dep.round4 (postCleanLoaded dep loaded content result.cleanedRows) dep.csvLimits =
      some postClean) :
    CleaningHandler.write dep context dataSource sourceTaskRunId profile source loaded result =
      .act (.writeFile row.outputFilePath content (.cleaned ⟨profile.columnTypes, source⟩)) (fun _ =>
        persist (.cleaningRun { row with result := result, postClean := postClean, status := .pendingReview } profile
          ⟨profile.columnTypes, source⟩)) := by
  simp only [CleaningHandler.write, hcontent, hrow, hpostClean]

end

end Pipeline
end DataOps

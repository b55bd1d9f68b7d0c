import DataOps.PipelineHistory
import DataOps.PipelineProgress
import DataOps.ProfileReconcile
/-!
# PipelineProfiling — one profiling handler, told twice

Quality control's chain keeps of a profile only whose it is, and its handler makes each step at once.  What that handler
makes of the tables is what the profiling execution, left alone, makes of the world (`CsvProfilingHandler.simulates`).
-/
namespace DataOps
namespace Pipeline

open Api (TaskRunId)
open Programs (Label State step)
open Profiling (profileCsv)
open QualityChain (DataSourceRead ResultRow ResultTables RowId)
open Trace (exec)

section
variable {py : PythonValues} (dep : Deployment py)

/-- The data source as the handler of the chain finds it: what `load_csv` of its file comes to now. -/
def World.sourceRead (w : World py.toPython) (dataSource : DataSource) : DataSourceRead where
  id := dataSource.id
  sourceType := dataSource.sourceType
  filePathIsString := dataSource.filePath.isSome
  loaded :=
    match resolveSourcePath dep w dataSource.organizationId (dataSource.filePath.getD []) with
    | .error e => .error e.message
    | .ok path =>
      match dep.loadCsv ((w.files path).getD .empty) with
      | .error e   => .error e.message
      | .ok loaded => .ok loaded.sourceSha256

/-- The same profiles, of the columns that both keep. -/
def SameProfiles (w : World py.toPython) (db : ResultTables py.toPython) : Prop :=
  w.dataProfiles.map (fun r => (r.organizationId, r.taskRunId, r.dataSourceId)) =
    db.dataProfiles.map (fun r => (r.organizationId, r.taskRunId, r.dataSourceId))

/-- The execution, alone, ends as the handler of the chain does. -/
def Simulates (run : World py.toPython × Outcome) (w : World py.toPython) : Except String (ResultTables py.toPython) → Prop
  | .error message => run = (w, .permanentError message)
  | .ok db         => SameProfiles run.1 db ∧ (run.2 = .created ∨ run.2 = .existing)

end

section
variable {py : PythonValues} {dep : Deployment py} {w : World py.toPython} {db : ResultTables py.toPython}

theorem SameProfiles.any_iff (h : SameProfiles w db) (id : TaskRunId) :
    (∃ r ∈ w.dataProfiles, r.taskRunId = id) ↔ ∃ r ∈ db.dataProfiles, r.taskRunId = id := by
  have hmap := congrArg (List.map (fun p : Api.OrganizationId × TaskRunId × Schedule.DataSourceId => p.2.1)) h
  rw [List.map_map, List.map_map] at hmap
  have hmem : id ∈ w.dataProfiles.map (fun r => r.taskRunId) ↔ id ∈ db.dataProfiles.map (fun r => r.taskRunId) := by
    have hsame : w.dataProfiles.map (fun r => r.taskRunId) = db.dataProfiles.map (fun r => r.taskRunId) := hmap
    rw [hsame]
  rw [List.mem_map, List.mem_map] at hmem
  exact hmem

/-- A file that resolves is there. -/
theorem file_of_resolveSourcePath {organizationId : Api.OrganizationId} {configuredPath : Str} {path : FilePath}
    (h : resolveSourcePath dep w organizationId configuredPath = .ok path) : ∃ source, w.files path = some source := by
  unfold resolveSourcePath at h
  split at h
  · cases h
  · split at h
    · cases h
    · split at h
      · cases h
      · split at h
        · rename_i hsome
          cases h
          exact Option.isSome_iff_exists.1 hsome
        · cases h

/-- What is left once the file is profiled. -/
theorem persistProfile_simulates (hsame : SameProfiles w db) {context : ExecutionContext} {dataSource : DataSource}
    {result : Profiling.ProfileResult py.toPython} {source : ByteArray} {rowId : RowId}
    (hfresh : ∀ r ∈ db.dataProfiles, r.id ≠ rowId) :
    Simulates
      ((unlessExisting context.taskRun.id (fun w => w.dataProfiles.map (fun r => r.toRunRow))
        (persist (.dataProfile ⟨context.row dataSource, result⟩ source))).run World.perform w) w
      (QualityChain.persist id db.dataProfiles
          ⟨rowId, context.taskRun.organizationId, context.taskRun.id, dataSource.id⟩ >>=
        fun dataProfiles => .ok { db with dataProfiles := dataProfiles }) := by
  by_cases hthere : ∃ r ∈ db.dataProfiles, r.taskRunId = context.taskRun.id
  · have hany : (w.dataProfiles.map (fun r => r.toRunRow)).any (fun r => r.taskRunId = context.taskRun.id) = true := by
      obtain ⟨r, hr, hid⟩ := (hsame.any_iff _).2 hthere
      simpa using ⟨r, hr, hid⟩
    obtain ⟨r, hr, hid⟩ := hthere
    have hfound : (QualityChain.existing id db.dataProfiles context.taskRun.id).isSome = true := by
      rw [QualityChain.existing, List.find?_isSome]
      exact ⟨r, hr, decide_eq_true hid⟩
    obtain ⟨found, hfound⟩ := Option.isSome_iff_exists.1 hfound
    simp only [QualityChain.persist, id, hfound, bind, Except.bind, unlessExisting, Programs.Program.run, hany, if_true]
    exact ⟨hsame, .inr rfl⟩
  · have hnone : ¬ (w.dataProfiles.map (fun r => r.toRunRow)).any (fun r => r.taskRunId = context.taskRun.id) = true := by
      intro hany
      refine hthere ((hsame.any_iff _).1 ?_)
      simpa using hany
    have hfound : QualityChain.existing id db.dataProfiles context.taskRun.id = none := by
      rw [QualityChain.existing, List.find?_eq_none]
      intro r hr hid
      exact hthere ⟨r, hr, of_decide_eq_true hid⟩
    have hid : ¬ db.dataProfiles.any (fun r => r.id = rowId) = true := by simpa using hfresh
    have hrecorded : w.recorded (.dataProfile ⟨context.row dataSource, result⟩ source) = false := by
      simp only [World.recorded, List.any_eq_false, decide_eq_true_eq]
      exact fun r hr hid => hthere ((hsame.any_iff _).1 ⟨r, hr, hid⟩)
    simp only [QualityChain.persist, id, hfound, hid, if_false, bind, Except.bind, unlessExisting, Programs.Program.run,
      hnone, persist, World.perform, hrecorded, Bool.false_eq_true, if_true]
    refine ⟨?_, .inl rfl⟩
    unfold SameProfiles
    simp only [World.insert, List.map_append, List.map_singleton]
    rw [hsame]
    rfl

/-- **The profiling execution, left alone, makes of the world what the handler of the chain makes of the tables.** -/
theorem CsvProfilingHandler.simulates (hsame : SameProfiles w db) (context : ExecutionContext) {rowId : RowId}
    (hfresh : ∀ r ∈ db.dataProfiles, r.id ≠ rowId) (rest : Except String Unit) :
    Simulates ((CsvProfilingHandler.execute dep context).run World.perform w) w
      (QualityChain.CsvProfilingHandler.execute db
        ⟨context.taskRun, context.dataSource.map (w.sourceRead dep), rowId, rest⟩) := by
  unfold QualityChain.CsvProfilingHandler.execute QualityChain.ExecutionContext.requireCsvUpload
    QualityChain.ExecutionContext.requireDataSource CsvProfilingHandler.execute requireCsvUpload requirePath
  cases hsource : context.dataSource with
  | none => rfl
  | some dataSource =>
    simp only [Option.map_some, QualityChain.require, require, bind, Except.bind]
    by_cases hcsv : dataSource.sourceType = .csvUpload
    · simp only [World.sourceRead, hcsv, ne_eq, not_true_eq_false, if_false, if_true, QualityChain.DataSourceRead.load]
      cases hpath : dataSource.filePath with
      | none => rfl
      | some configuredPath =>
        simp only [Option.isSome_some, if_true, Option.getD_some, readSource, readCsv, Programs.Program.run]
        cases hresolve : resolveSourcePath dep w dataSource.organizationId configuredPath with
        | error e => rfl
        | ok path =>
          obtain ⟨source, hfile⟩ := file_of_resolveSourcePath hresolve
          simp only [hfile, Option.getD_some, Programs.Program.run]
          split
          · rename_i e herror
            simp only [herror]
            rfl
          · rename_i loaded hload
            obtain ⟨result, hresult, -⟩ :=
              @Profiling.profileCsv_some py dep.round4 dep.csvLimits _ (Profiling.loadable_of_loadCsv hload).width
            simp only [hload, hresult]
            exact persistProfile_simulates hsame hfresh
    · simp only [World.sourceRead, hcsv, ne_eq, not_false_eq_true, if_true, if_false]
      rfl

/-- In the pipeline: undisturbed, its steps end there. -/
theorem CsvProfilingHandler.steps_simulate
    {s : State (World py.toPython) (Query py.toPython) (Effect py.toPython) Outcome} (hsame : SameProfiles s.shared db)
    (e : Nat) (context : ExecutionContext) {rowId : RowId} (hfresh : ∀ r ∈ db.dataProfiles, r.id ≠ rowId)
    (rest : Except String Unit) :
    ∃ n run, exec (step (pipeline dep)) (s.set s.shared e (some (CsvProfilingHandler.execute dep context)))
        (List.replicate n (Label.advance e)) = s.set run.1 e (some (.halt run.2)) ∧
      Simulates run s.shared (QualityChain.CsvProfilingHandler.execute db
        ⟨context.taskRun, context.dataSource.map (s.shared.sourceRead dep), rowId, rest⟩) := by
  obtain ⟨n, hn⟩ := Programs.Program.exec_run (m := pipeline dep) (s := s) (e := e)
    (CsvProfilingHandler.execute dep context) s.shared
  exact ⟨n, _, hn, CsvProfilingHandler.simulates hsame context hfresh rest⟩

end

end Pipeline
end DataOps

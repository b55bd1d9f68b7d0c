import DataOps.PipelineRecords
/-!
# PipelineTenants — an execution and the organization of its run

What a stage looks at and does is its run's organization's: the rows it selects, the path of its data source, and the
output paths of its upstream rows.  The last is an invariant of every execution's commits.
-/
namespace DataOps
namespace Pipeline

open Api (OrganizationId TaskRunId)
open Programs (AllConfined Label Program State step)
open Schedule (Tables TaskRunRow TaskType)
open Trace (exec)

section
variable {py : Python}

/-- The organization whose directory a path is in. -/
def FilePath.organizationId : FilePath → OrganizationId
  | .input organizationId _    => organizationId
  | .output _ organizationId _ => organizationId

/-- The rows a commit was made from. -/
def Commit.upstream : Commit py → List RunRow
  | .dataProfile _ _                          => []
  | .cleaningRun _ profile _                  => [profile.toRunRow]
  | .standardizationRun _ cleaned _           => [cleaned.toRunRow]
  | .matchRun _ standardized _ _              => [standardized.toRunRow]
  | .exportRun _ matched standardized _       => [matched.toRunRow, standardized.toRunRow]

/-- A file of the organization. -/
def Query.Within (organizationId : OrganizationId) : Query py → Prop
  | .rows                => True
  | .size path           => path.organizationId = organizationId
  | .file path           => path.organizationId = organizationId
  | .profiledFile _ path => path.organizationId = organizationId

/-- A file of the organization, or a row of it on such a file, made from its rows. -/
def Effect.Within (organizationId : OrganizationId) : Effect py → Prop
  | .writeFile path _ _ => path.organizationId = organizationId
  | .commit c           => c.row.organizationId = organizationId ∧
    (∀ row ∈ c.upstream, row.organizationId = organizationId) ∧
    ∀ row made, c.output = some (row, made) → row.outputFilePath.organizationId = organizationId

/-- What the execution does next is within the organization. -/
def WithinOrganization (organizationId : OrganizationId) (program : Option (Execution py)) : Prop :=
  (∀ query next, program = some (.observe query next) → query.Within organizationId) ∧
    ∀ effect next, program = some (.act effect next) → effect.Within organizationId

/-- `fk_tasks_org_data_source`. -/
def OwnDataSources (tables : Tables) : Prop :=
  ∀ taskId task, tables.tasks.get? taskId = some task → ∀ id, task.dataSourceId = some id →
    ∀ row, tables.dataSources.get? id = some row → row.organizationId = task.organizationId

/-- Rows are on files of their organization, and runs, tasks and data sources of one. -/
structure Housed (w : World py) : Prop where
  rows    : ∀ row ∈ w.outputRows, row.outputFilePath.organizationId = row.organizationId
  runs    : ∀ run ∈ w.tables.runs, ∀ task, w.tables.tasks.get? run.taskId = some task →
    task.organizationId = run.organizationId
  sources : OwnDataSources w.tables

end

section
variable {py : PythonValues} {dep : Deployment py} {w : World py.toPython} {organizationId : OrganizationId}

/-! ## What keeps the invariant -/

theorem Housed.perform (h : Housed w) {effect : Effect py.toPython} (hwithin : effect.Within organizationId) :
    Housed (w.perform effect).1 := by
  cases effect with
  | writeFile path content made => exact ⟨h.rows, h.runs, h.sources⟩
  | commit c =>
    simp only [World.perform]
    split
    · exact h
    · have htables := insert_tables (w := w) c
      refine ⟨fun row hrow => ?_, ?_, ?_⟩
      · rcases mem_outputRows_insert hrow with hold | ⟨made, hnew⟩
        · exact h.rows row hold
        · obtain ⟨horganization, -, hpath⟩ := hwithin
          rw [(Commit.row_of_output hnew).1] at horganization
          exact (hpath row made hnew).trans horganization.symm
      · dsimp only
        rw [htables]
        exact h.runs
      · dsimp only
        rw [htables]
        exact h.sources

theorem Housed.happen (h : Housed w) (event : Event) : Housed (w.happen event) := by
  cases event with
  | createRun taskId sourceTaskRunId currentUser id =>
    simp only [World.happen]
    split
    · rename_i run hplan
      unfold Schedule.Tables.insertRun
      split
      · rename_i hchecked
        refine ⟨h.rows, fun run' hrun task htask => ?_, h.sources⟩
        rcases List.mem_append.1 hrun with hold | hnew
        · exact h.runs run' hold task htask
        · -- the insert is checked against the run's task
          rw [List.mem_singleton.1 hnew] at htask ⊢
          have hfound := hchecked.1
          have htask : w.tables.tasks.get? run.taskId = some task := htask
          rw [htask, Option.any_some] at hfound
          exact of_decide_eq_true hfound
      · exact h
    · exact h
  | replaceFile organizationId relative content => exact ⟨h.rows, h.runs, h.sources⟩
  | review kind taskRunId action =>
    have htables : (w.review kind taskRunId action).tables = w.tables := by cases kind <;> rfl
    refine ⟨?_, ?_, ?_⟩ <;> simp only [World.happen]
    · rw [review_outputRows]
      exact h.rows
    · rw [htables]
      exact h.runs
    · rw [htables]
      exact h.sources
  | configure configuration => exact ⟨h.rows, h.runs, h.sources⟩
  | loseLease id => exact ⟨h.rows, h.runs, h.sources⟩

/-! ## The handlers -/

theorem resolveSourcePath_organizationId {configuredPath : Str} {path : FilePath}
    (h : resolveSourcePath dep w organizationId configuredPath = .ok path) : path.organizationId = organizationId := by
  unfold resolveSourcePath at h
  split at h
  · cases h
  · split at h
    · cases h
    · split at h
      · cases h
      · split at h
        · cases h
          rfl
        · cases h

/-- The file of a row that a stage selects. -/
theorem Housed.outputFilePath (h : Housed w) {row : OutputRow} (hrow : row ∈ w.outputRows)
    (horganization : row.organizationId = organizationId) : row.outputFilePath.organizationId = organizationId :=
  (h.rows row hrow).trans horganization

/-- **A stage whose data source is of its run's organization stays within it.** -/
theorem getHandler_within (w : World py.toPython) {taskType : TaskType}
    {handler : ExecutionContext → Execution py.toPython} (hhandler : getHandler dep taskType = some handler)
    (context : ExecutionContext)
    (hsource : ∀ dataSource, context.dataSource = some dataSource →
      dataSource.organizationId = context.taskRun.organizationId) :
    (handler context).Confined Housed (Query.Within context.taskRun.organizationId)
      (Effect.Within context.taskRun.organizationId) := by
  have hclosed : Programs.Closed (Query.Within context.taskRun.organizationId)
      (fun _ _ w => Housed w) (fun (program : Execution py.toPython) (_ : World py.toPython) =>
        program.Confined Housed (Query.Within context.taskRun.organizationId)
          (Effect.Within context.taskRun.organizationId)) := Programs.confined_closed
  have hpersist : ∀ c : Commit py.toPython, (Effect.commit c).Within context.taskRun.organizationId →
      (persist c).Confined Housed (Query.Within context.taskRun.organizationId)
        (Effect.Within context.taskRun.organizationId) :=
    fun c hc => ⟨hc, fun accepted => persisted_closed (w := w) hclosed trivial c accepted⟩
  have hcommit : ∀ (c : Commit py.toPython) (row : OutputRow) (made : Made), c.output = some (row, made) →
      row.organizationId = context.taskRun.organizationId →
      row.outputFilePath.organizationId = context.taskRun.organizationId →
      (∀ upstream ∈ c.upstream, upstream.organizationId = context.taskRun.organizationId) →
      (Effect.commit c).Within context.taskRun.organizationId := by
    intro c row made hrow horganization hpath hupstream
    refine ⟨(congrArg RunRow.organizationId (Commit.row_of_output hrow).1).trans horganization, hupstream,
      fun row' made' hrow' => ?_⟩
    rw [hrow] at hrow'
    cases hrow'
    exact hpath
  cases taskType <;> cases hhandler
  · refine CsvProfilingHandler.execute_closed (w := w) hclosed trivial ?_ ?_
    · intro dataSource configuredPath w₁ path hdataSource hpath
      exact (resolveSourcePath_organizationId hpath).trans (hsource dataSource hdataSource)
    · intro dataSource w₁ path w₂ source loaded result w₃ _ _ _ _ _ _ _ _
      refine hpersist _ ⟨rfl, fun row hrow => ?_, fun _ _ hrow => by cases hrow⟩
      cases hrow
  · refine CleaningHandler.execute_closed (w := w) hclosed trivial ?_ ?_
    · intro dataSource configuredPath w₁ path profile hdataSource hpath
      exact (resolveSourcePath_organizationId hpath).trans (hsource dataSource hdataSource)
    · intro dataSource sourceTaskRunId profile w₁ w₂ w₃ path w₄ source loaded result hdataSource _ hstarted _ _ _ _ _
      have hprofile := ofTaskRun_organizationId hstarted.upstream
      refine ⟨hsource dataSource hdataSource, fun _ => ?_⟩
      split
      · trivial
      · refine hpersist _ (hcommit _ _ _ rfl rfl (hsource dataSource hdataSource) (fun row hrow => ?_))
        rw [List.mem_singleton.1 hrow]
        exact hprofile
  · refine ExportHandler.execute_closed (w := w) hclosed trivial ?_ ?_
    · rintro w' matchRun standardizationRun hstandardization ⟨-, hhoused⟩
      have horganization := ofTaskRun_organizationId hstandardization
      exact hhoused.outputFilePath (mem_outputRows.2 (.inr ⟨_, (ofTaskRun_some hstandardization).1, rfl⟩)) horganization
    · intro dataSource sourceTaskRunId matchRun w₁ w₂ w₃ standardizationRun w₄ source w₅ groups loaded hdataSource _
        hstarted _ _ hstandardization _ _ _ _ _ _
      have hmatchRun := ofTaskRun_organizationId hstarted.upstream
      have hmatched := ofTaskRun_organizationId hstandardization
      refine ⟨hsource dataSource hdataSource, fun _ => ?_⟩
      refine statSize_closed hclosed (w := w) (hsource dataSource hdataSource) (fun w₆ size _ => ?_)
      refine hpersist _ (hcommit _ _ _ rfl rfl (hsource dataSource hdataSource) (fun row hrow => ?_))
      simp only [Commit.upstream, List.mem_cons, List.not_mem_nil, or_false] at hrow
      rcases hrow with rfl | rfl
      · exact hmatchRun
      · exact hmatched
  · refine StandardizationHandler.execute_closed (w := w) hclosed trivial ?_ ?_
    · intro sourceTaskRunId w₁ cleaningRun hhoused hrun
      have horganization := ofTaskRun_organizationId hrun
      exact hhoused.outputFilePath (mem_outputRows.2 (.inl ⟨_, (ofTaskRun_some hrun).1, rfl⟩)) horganization
    · intro dataSource sourceTaskRunId cleaningRun w₁ w₂ w₃ source w₄ w₅ columnOverrides lookupTables loaded result
        hdataSource _ hstarted _ _ _ _ _ _ _ _ _
      have hcleaned := ofTaskRun_organizationId hstarted.upstream
      refine ⟨hsource dataSource hdataSource, fun _ => ?_⟩
      refine hpersist _ (hcommit _ _ _ rfl rfl (hsource dataSource hdataSource) (fun row hrow => ?_))
      rw [List.mem_singleton.1 hrow]
      exact hcleaned
  · refine MatchHandler.execute_closed (w := w) hclosed trivial ?_ ?_
    · intro sourceTaskRunId w₁ standardizationRun hhoused hrun
      have horganization := ofTaskRun_organizationId hrun
      exact hhoused.outputFilePath (mem_outputRows.2 (.inr ⟨_, (ofTaskRun_some hrun).1, rfl⟩)) horganization
    · intro dataSource sourceTaskRunId standardizationRun w₁ w₂ w₃ source w₄ ruleSetRow ruleSet loaded hload hdataSource
        _ hstarted _ _ _ _ _
      have hstandardized := ofTaskRun_organizationId hstarted.upstream
      refine hpersist _ ⟨rfl, fun row hrow => ?_, fun _ _ hrow => by cases hrow⟩
      rw [List.mem_singleton.1 hrow]
      exact hstandardized

/-! ## Every run -/

theorem launched_source {run : TaskRunRow} {task : Schedule.TaskRow} (h : Housed w) (hrun : run ∈ w.tables.runs)
    (htask : w.tables.tasks.get? run.taskId = some task) {dataSource : DataSource}
    (hdataSource : task.dataSourceId.bind w.dataSource = some dataSource) :
    dataSource.organizationId = run.organizationId := by
  obtain ⟨dataSourceId, htaskSource, hfound⟩ := Option.bind_eq_some_iff.1 hdataSource
  obtain ⟨row, hrow, rfl⟩ := Option.map_eq_some_iff.1 hfound
  exact (h.sources run.taskId task htask dataSourceId htaskSource row hrow).trans (h.runs run hrun task htask)

/-- Every execution is within the organization of its run. -/
theorem execute_within {e : Nat} {id : TaskRunId} {w' : World py.toPython} {program : Execution py.toPython}
    (h : Housed w) (hlaunch : w.execute dep e id = some (w', program)) :
    ∃ run, w.tables.runs.find? (fun run => run.id = id) = some run ∧ Housed w' ∧
      program.Confined Housed (Query.Within run.organizationId) (Effect.Within run.organizationId) := by
  obtain ⟨run, task, handler, hrun, rfl, htask, hhandler, -, rfl, rfl⟩ := execute_some hlaunch
  refine ⟨run, hrun, ⟨h.rows, h.runs, h.sources⟩, ?_⟩
  exact getHandler_within w hhandler ⟨run, task.dataSourceId.bind w.dataSource⟩
    (fun dataSource hdataSource => launched_source h (List.mem_of_find?_eq_some hrun) htask hdataSource)

theorem allConfined_step {s : State (World py.toPython) (Query py.toPython) (Effect py.toPython) Outcome}
    (h : AllConfined Housed Query.Within Effect.Within s) (l : Label TaskRunId Event) :
    AllConfined Housed Query.Within Effect.Within (step (pipeline dep) s l) := by
  refine AllConfined.step (m := pipeline dep) (fun organizationId w effect hhoused hwithin => hhoused.perform hwithin) ?_
    (fun w event hhoused => hhoused.happen event) h l
  intro w e id w' program hhoused hlaunch
  obtain ⟨run, -, hhoused', hconfined⟩ := execute_within hhoused hlaunch
  exact ⟨hhoused', run.organizationId, hconfined⟩

/-- **An execution of a run looks only at files of the run's organization, and what it writes and commits is the
organization's**, made from its rows, whatever the other executions do. -/
theorem executions_within_organization (dep : Deployment py) (w : World py.toPython) (hown : OwnDataSources w.tables)
    (before after : List (Label TaskRunId Event)) (e : Nat) (id : TaskRunId) (run : TaskRunRow)
    (hrun : (exec (step (pipeline dep)) (State.initial w.unused) before).shared.tables.runs.find?
      (fun run => run.id = id) =
      some run)
    (hfree : (exec (step (pipeline dep)) (State.initial w.unused) before).programs e = none)
    (hafter : ∀ id', .launch e id' ∈ after → id' = id) :
    WithinOrganization run.organizationId
      ((exec (step (pipeline dep)) (State.initial w.unused) (before ++ after)).programs e) := by
  rw [Trace.exec_append]
  have hinitial : AllConfined Housed Query.Within Effect.Within
      (State.initial w.unused : State _ (Query py.toPython) (Effect py.toPython) Outcome) := by
    refine ⟨⟨fun row hrow => ?_, fun run hrun => ?_, hown⟩, fun e program hprogram => ?_⟩
    · cases hrow
    · cases hrun
    · cases hprogram
  have hbefore := Trace.exec_invariant (step (pipeline dep)) (I := AllConfined Housed Query.Within Effect.Within)
    (fun s l h => allConfined_step h l) before _ hinitial
  generalize exec (step (pipeline dep)) (State.initial w.unused) before = s at hrun hfree hbefore
  have hconfined : ∀ program, (exec (step (pipeline dep)) s after).programs e = some program →
      program.Confined Housed (Query.Within run.organizationId) (Effect.Within run.organizationId) := by
    refine Programs.Confined.exec (m := pipeline dep)
      (J := fun s' => AllConfined Housed Query.Within Effect.Within s' ∧ Extends s.shared s'.shared)
      (fun s' h => h.1.invariant) (fun s' l h => ⟨allConfined_step h.1 l, h.2.trans (extends_step s' l)⟩) ?_ after hafter
      ⟨hbefore, .refl s.shared⟩ (fun program hprogram => by rw [hfree] at hprogram; cases hprogram)
    rintro s' id' w' program ⟨hall, hext⟩ rfl hlaunch
    obtain ⟨run', hrun', -, hwithin⟩ := execute_within hall.invariant hlaunch
    have hsame := (hext.run hrun).symm.trans hrun'
    cases hsame
    exact hwithin
  refine ⟨fun query next hprogram => ?_, fun effect next hprogram => ?_⟩
  · exact (hconfined _ hprogram).1
  · exact (hconfined _ hprogram).1

end

/-- Two organizations, each with a data source and a task to profile it. -/
def tenantsWorld : World asciiValues.toPython :=
  { stagedWorld with tables :=
      ⟨[(1, ⟨1, true⟩), (2, ⟨2, true⟩)],
        [(1, stageTask .sync), (2, { stageTask .sync with organizationId := 2, dataSourceId := some 2 })], []⟩ }.unused

/-- The user of the other organization. -/
def neighbour : Api.User := ⟨2, 2, "neighbour@example.com", none, false⟩

theorem ownDataSources_tenantsWorld : OwnDataSources tenantsWorld.tables := by
  intro taskId task htask id hid row hrow
  have htasks : task.organizationId = id := by
    simp only [tenantsWorld, World.unused, Dict.get?] at htask
    split at htask
    · cases htask
      cases hid
      rfl
    · split at htask <;> cases htask
      cases hid
      rfl
  have hrows : row.organizationId = id := by
    simp only [tenantsWorld, World.unused, Dict.get?] at hrow
    split at hrow
    · rename_i hone
      cases hrow
      exact hone
    · split at hrow <;> cases hrow
      rename_i htwo
      exact htwo
  exact hrows.trans htasks.symm

/-- The other organization's run is executed at the same time. -/
theorem executions_within_organization_profiling :
    WithinOrganization 1 ((exec (step (pipeline headerDeployment)) (State.initial tenantsWorld)
      ([.disturb (.createRun 1 none operator 1), .disturb (.createRun 2 none neighbour 2), .launch 2 2, .advance 2] ++
        [.launch 1 1, .advance 2, .advance 1])).programs 1) :=
  executions_within_organization headerDeployment _ ownDataSources_tenantsWorld
    [.disturb (.createRun 1 none operator 1), .disturb (.createRun 2 none neighbour 2), .launch 2 2, .advance 2]
    [.launch 1 1, .advance 2, .advance 1] 1 1 ⟨1, 1, 1, some 1, none⟩ rfl rfl (by simp)

end Pipeline
end DataOps

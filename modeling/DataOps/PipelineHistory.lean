import DataOps.PipelineOutputs
/-!
# PipelineHistory — the stages over files that change

Runs are created, source files replaced and rows reviewed while the workers execute the stages, a run whenever its lease
is free; tasks and data sources stay as they are.  A stage works on what its upstream row describes when its run's source
is of its own data source and what it reads is still what was read, or written, when that row was made.
-/
namespace DataOps
namespace Pipeline

open Api (ApprovalStatus OrganizationId ReviewAction RunKind TaskId TaskRunId User)
open Profiling (LoadedCsv)
open Programs (Allowed Contract Label Machine Safe State step)
open Schedule (DataSourceId Tables TaskRunRow createTaskRun)
open Trace (exec Along)

/-! ## The history -/

/-- What happens besides the executions. -/
inductive Event
  | createRun (taskId : TaskId) (sourceTaskRunId : Option TaskRunId) (currentUser : User) (id : TaskRunId)
  | replaceFile (organizationId : OrganizationId) (relative : List Str) (content : Option ByteArray)
  | review (kind : RunKind) (taskRunId : TaskRunId) (action : ReviewAction)
  | configure (configuration : Configuration)
  | loseLease (id : TaskRunId)

/-- `UPDATE .. SET status = :target WHERE id = :id`, whatever became of the row since its status was checked. -/
def setStatus {α : Type} (row : α → RunRow) (set : α → ApprovalStatus → α) (taskRunId : TaskRunId)
    (action : ReviewAction) (rows : List α) : List α :=
  rows.map (fun r => if (row r).taskRunId = taskRunId then set r action.target else r)

section
variable {py : Python}

def World.review (w : World py) (kind : RunKind) (taskRunId : TaskRunId) (action : ReviewAction) : World py :=
  match kind with
  | .cleaning        => { w with
      cleaningRuns :=
        setStatus (fun r => r.toRunRow) (fun r status => { r with status := status }) taskRunId action w.cleaningRuns }
  | .standardization => { w with
      standardizationRuns :=
        setStatus (fun r => r.toRunRow) (fun r status => { r with status := status }) taskRunId action
          w.standardizationRuns }
  | .matching        => { w with
      matchRuns :=
        setStatus (fun r => r.toRunRow) (fun r status => { r with status := status }) taskRunId action w.matchRuns }
  | .export          => { w with
      exportRuns :=
        setStatus (fun r => r.toRunRow) (fun r status => { r with status := status }) taskRunId action w.exportRuns }

def World.happen (w : World py) : Event → World py
  | .createRun taskId sourceTaskRunId currentUser id   =>
    match createTaskRun w.tables taskId sourceTaskRunId currentUser id with
    | .ok (.insertRun run) => { w with tables := (w.tables.insertRun run).getD w.tables }
    | _                    => w
  | .replaceFile organizationId relative content =>
    { w with files := fun path => if path = .input organizationId relative then content else w.files path }
  | .review kind taskRunId action                => w.review kind taskRunId action
  | .configure configuration                     => { w with configuration := configuration }
  | .loseLease id                                => w.lease id none

/-- No run and no row yet. -/
def World.unused (w : World py) : World py :=
  { w with
    tables := { w.tables with runs := [] }
    dataProfiles := []
    cleaningRuns := []
    standardizationRuns := []
    matchRuns := []
    exportRuns := []
    leases := fun _ => none
    writes := []
    commits := [] }

/-- The data source of a run's task. -/
def boundTo (tables : Tables) (id : TaskRunId) : Option DataSourceId :=
  ((tables.runs.find? (fun run => run.id = id)).bind (fun run => tables.tasks.get? run.taskId)).bind
    (fun task => task.dataSourceId)

end

section
variable {py : PythonValues} (dep : Deployment py)

/-- A worker takes the lease of a run and executes its task's handler. -/
def World.execute (w : World py.toPython) (e : Nat) (id : TaskRunId) :
    Option (World py.toPython × Execution py.toPython) := do
  let run ← w.tables.runs.find? (fun run => run.id = id)
  let task ← w.tables.tasks.get? run.taskId
  let handler ← getHandler dep task.taskType
  if w.leases id = none then some (w.lease id (some e), handler ⟨run, task.dataSourceId.bind w.dataSource⟩) else none

def pipeline : Machine (World py.toPython) (Query py.toPython) (Effect py.toPython) Outcome TaskRunId Event where
  perform := World.perform
  launch := World.execute dep
  disturb := World.happen

/-! ## What a commit must say -/

/-- The upstream row is that of the run's source, and of the same data source. -/
structure BuiltOn (row : RunRow) (sourceTaskRunId : TaskRunId) (upstream : RunRow) : Prop where
  taskRun    : upstream.taskRunId = sourceTaskRunId
  dataSource : upstream.dataSourceId = row.dataSourceId

/-- **What was read is what the upstream row describes.** -/
def Described : Commit py.toPython → Prop
  | .dataProfile row source                                  => row.result.sourceSha256 = dep.sha256 source
  | .cleaningRun row profile inputs                          =>
    BuiltOn row.toRunRow row.sourceTaskRunId profile.toRunRow ∧ inputs.columnTypes = profile.columnTypes ∧
      dep.sha256 inputs.source = profile.result.sourceSha256
  | .standardizationRun row cleaningRun inputs               =>
    BuiltOn row.toRunRow row.sourceTaskRunId cleaningRun.toRunRow ∧ cleaningRun.status = .approved ∧
      dep.sha256 inputs.source = cleaningRun.outputSha256
  | .matchRun row standardizationRun source _                =>
    BuiltOn row.toRunRow row.sourceTaskRunId standardizationRun.toRunRow ∧ standardizationRun.status = .approved ∧
      dep.sha256 source = standardizationRun.outputSha256
  | .exportRun row matchRun standardizationRun inputs        =>
    BuiltOn row.toRunRow row.sourceTaskRunId matchRun.toRunRow ∧ matchRun.status = .approved ∧
      BuiltOn row.toRunRow matchRun.sourceTaskRunId standardizationRun.toRunRow ∧
      dep.sha256 inputs.source = standardizationRun.outputSha256

/-- **Every commit so far is of what its upstream row describes.** -/
def AllDescribed (w : World py.toPython) : Prop := ∀ c ∈ w.commits, Described dep c

/-! ## When it does -/

/-- The source of the run is of a task of the run's data source. -/
def SameSource (w : World py.toPython) (id : TaskRunId) : Prop :=
  ∀ run source, w.tables.runs.find? (fun run => run.id = id) = some run → run.sourceTaskRunId = some source →
    boundTo w.tables source = boundTo w.tables id

/-- An output file was last written from the inputs of its row, and a source file whose columns are as many as were
profiled is the file that was profiled. -/
def Unchanged (w : World py.toPython) : Query py.toPython → Prop
  | .rows                      => True
  | .size _                    => True
  | .file path                 =>
    ∀ c ∈ w.commits, ∀ row made, c.output = some (row, made) → row.outputFilePath = path → w.lastMade path = some made
  | .profiledFile profile path =>
    ∀ source, .dataProfile profile source ∈ w.commits → ∀ source' loaded, w.files path = some source' →
      dep.loadCsv source' = .ok loaded → profile.columnTypes.length = loaded.headers.length → source' = source

/-- A step that launches a run on a source of its own data source, and looks only at files that did not change. -/
def OnUnchanged (s : State (World py.toPython) (Query py.toPython) (Effect py.toPython) Outcome)
    (l : Label TaskRunId Event) : Prop :=
  (∀ e id, l = .launch e id → SameSource s.shared id) ∧
    ∀ e query next, l = .advance e → s.programs e = some (.observe query next) → Unchanged dep s.shared query

/-! ## The invariant -/

/-- The runs that a commit says are of its row's data source. -/
def Commit.runs {py : Python} : Commit py → List TaskRunId
  | .matchRun row _ _ _ => [row.taskRunId, row.sourceTaskRunId]
  | c                   => [c.row.taskRunId]

/-- A file is written below an output root, and a committed row is what it must be, of the data source of its run. -/
def Effect.Follows (w : World py.toPython) : Effect py.toPython → Prop
  | .writeFile path _ _ => ∃ id, path.isOutputOf id = true
  | .commit c           => Described dep c ∧ ∀ id ∈ c.runs, boundTo w.tables id = some c.row.dataSourceId

/-- The history only grows, and a run stays with its data source. -/
structure Grows (w w' : World py.toPython) : Prop where
  commits : ∀ c ∈ w.commits, c ∈ w'.commits
  bound   : ∀ id dataSourceId, boundTo w.tables id = some dataSourceId → boundTo w'.tables id = some dataSourceId

/-- **The rows are those of the history**, each of the data source of its run. -/
structure Recorded (w : World py.toPython) : Prop where
  described : AllDescribed dep w
  profiles  : ∀ row ∈ w.dataProfiles, boundTo w.tables row.taskRunId = some row.dataSourceId ∧
    ∃ source, .dataProfile row source ∈ w.commits
  outputs   : ∀ row ∈ w.outputRows, boundTo w.tables row.taskRunId = some row.dataSourceId ∧
    ∃ c ∈ w.commits, ∃ made, c.output = some (row, made)
  matchRuns : ∀ row ∈ w.matchRuns, boundTo w.tables row.taskRunId = some row.dataSourceId ∧
    boundTo w.tables row.sourceTaskRunId = some row.dataSourceId
  writes    : ∀ entry ∈ w.writes, ∃ id, entry.1.isOutputOf id = true

def historyContract : Contract (World py.toPython) (Query py.toPython) (Effect py.toPython) TaskRunId Event where
  grows := Grows
  invariant := fun w => Written dep w ∧ Recorded dep w
  launches := SameSource
  looks := Unchanged dep
  acts := fun _ _ => True
  changes := fun _ _ => True
  meets := fun w effect => effect.Computed dep ∧ effect.Follows dep w

end

section
variable {py : PythonValues} {dep : Deployment py} {w w' w'' : World py.toPython}

/-! ## What grows -/

theorem Grows.trans (h : Grows w w') (h' : Grows w' w'') : Grows w w'' where
  commits := fun c hc => h'.commits c (h.commits c hc)
  bound := fun id dataSourceId hid => h'.bound id dataSourceId (h.bound id dataSourceId hid)

/-- The same history and the same tables. -/
theorem Grows.of_eq (hcommits : w'.commits = w.commits) (htables : w'.tables = w.tables) : Grows w w' where
  commits := fun _ hc => hcommits ▸ hc
  bound := fun _ _ hid => htables ▸ hid

theorem boundTo_append (tables : Tables) (run : TaskRunRow) {id : TaskRunId} {dataSourceId : DataSourceId}
    (h : boundTo tables id = some dataSourceId) :
    boundTo { tables with runs := tables.runs ++ [run] } id = some dataSourceId := by
  unfold boundTo at h ⊢
  cases hfind : tables.runs.find? (fun run => run.id = id) with
  | none =>
    rw [hfind] at h
    cases h
  | some found =>
    rw [hfind] at h
    simp only [List.find?_append, hfind, Option.some_or]
    exact h

/-- A created run changes no other row. -/
theorem happen_createRun_eq (w : World py.toPython) (taskId : TaskId) (sourceTaskRunId : Option TaskRunId)
    (currentUser : User) (id : TaskRunId) :
    ∃ tables, w.happen (.createRun taskId sourceTaskRunId currentUser id) = { w with tables := tables } ∧
      Grows w { w with tables := tables } := by
  simp only [World.happen]
  cases hplan : createTaskRun w.tables taskId sourceTaskRunId currentUser id with
  | error e => exact ⟨w.tables, rfl, .of_eq rfl rfl⟩
  | ok write =>
    obtain rfl := Schedule.createTaskRun_ok hplan
    refine ⟨_, rfl, ⟨fun c hc => hc, fun id' dataSourceId hid => ?_⟩⟩
    unfold Schedule.Tables.insertRun
    split
    · exact boundTo_append w.tables _ hid
    · exact hid

theorem commit_grows (c : Commit py.toPython) : Grows w (w.perform (.commit c)).1 := by
  simp only [World.perform]
  split
  · exact .of_eq rfl rfl
  · refine ⟨fun c' hc' => List.mem_append_left _ hc', fun id dataSourceId hid => ?_⟩
    simpa only [insert_tables] using hid

/-! ## What keeps the invariant -/

/-- It is about the rows, but for their statuses, the data sources of runs and the files written. -/
theorem Recorded.of_eq (h : Recorded dep w) (hgrows : Grows w w') (hcommits : w'.commits = w.commits)
    (hprofiles : w'.dataProfiles = w.dataProfiles) (houtputs : w'.outputRows = w.outputRows)
    (hmatchRuns : ∀ row ∈ w'.matchRuns, ∃ old ∈ w.matchRuns, old.toRunRow = row.toRunRow ∧
      old.sourceTaskRunId = row.sourceTaskRunId) (hwrites : w'.writes = w.writes) : Recorded dep w' where
  described := fun c hc => h.described c (hcommits ▸ hc)
  profiles := fun row hrow => by
    obtain ⟨hbound, source, hsource⟩ := h.profiles row (hprofiles ▸ hrow)
    exact ⟨hgrows.bound _ _ hbound, source, hgrows.commits _ hsource⟩
  outputs := fun row hrow => by
    obtain ⟨hbound, c, hc, hmade⟩ := h.outputs row (houtputs ▸ hrow)
    exact ⟨hgrows.bound _ _ hbound, c, hgrows.commits c hc, hmade⟩
  matchRuns := fun row hrow => by
    obtain ⟨old, hold, hrun, hsource⟩ := hmatchRuns row hrow
    obtain ⟨hbound, hbound'⟩ := h.matchRuns old hold
    rw [hrun, hsource] at hbound'
    rw [hrun] at hbound
    exact ⟨hgrows.bound _ _ hbound, hgrows.bound _ _ hbound'⟩
  writes := hwrites ▸ h.writes

/-- A status is no part of what a handler wrote. -/
theorem map_setStatus {α β : Type} (row : α → RunRow) (set : α → ApprovalStatus → α) (f : α → β)
    (hf : ∀ r status, f (set r status) = f r) (taskRunId : TaskRunId) (action : ReviewAction) (rows : List α) :
    (setStatus row set taskRunId action rows).map f = rows.map f := by
  simp only [setStatus, List.map_map]
  refine List.map_congr_left (fun r _ => ?_)
  simp only [Function.comp_apply]
  split
  · exact hf r action.target
  · rfl

theorem review_outputRows (kind : RunKind) (taskRunId : TaskRunId) (action : ReviewAction) :
    (w.review kind taskRunId action).outputRows = w.outputRows := by
  cases kind with
  | cleaning =>
    simp only [World.review, World.outputRows]
    rw [map_setStatus]
    exact fun _ _ => rfl
  | standardization =>
    simp only [World.review, World.outputRows]
    rw [map_setStatus]
    exact fun _ _ => rfl
  | matching => rfl
  | «export» => rfl

theorem mem_review_matchRuns (kind : RunKind) (taskRunId : TaskRunId) (action : ReviewAction) {row : MatchRun}
    (h : row ∈ (w.review kind taskRunId action).matchRuns) :
    ∃ old ∈ w.matchRuns, old.toRunRow = row.toRunRow ∧ old.sourceTaskRunId = row.sourceTaskRunId := by
  cases kind with
  | cleaning => exact ⟨row, h, rfl, rfl⟩
  | standardization => exact ⟨row, h, rfl, rfl⟩
  | matching =>
    obtain ⟨old, hold, rfl⟩ := List.mem_map.1 h
    refine ⟨old, hold, ?_⟩
    split <;> exact ⟨rfl, rfl⟩
  | «export» => exact ⟨row, h, rfl, rfl⟩

/-- **Every event keeps the invariant.** -/
theorem happen_kept (hwritten : Written dep w) (hrecorded : Recorded dep w) (event : Event) :
    (Written dep (w.happen event) ∧ Recorded dep (w.happen event)) ∧ Grows w (w.happen event) := by
  have hself : ∀ row ∈ w.matchRuns, ∃ old ∈ w.matchRuns, old.toRunRow = row.toRunRow ∧
      old.sourceTaskRunId = row.sourceTaskRunId := fun row hrow => ⟨row, hrow, rfl, rfl⟩
  cases event with
  | createRun taskId sourceTaskRunId currentUser id =>
    obtain ⟨tables, htables, hgrows⟩ := happen_createRun_eq w taskId sourceTaskRunId currentUser id
    rw [htables]
    exact ⟨⟨hwritten.of_eq rfl rfl (fun _ _ => rfl), hrecorded.of_eq hgrows rfl rfl rfl hself rfl⟩, hgrows⟩
  | replaceFile organizationId relative content =>
    have hgrows : Grows w (w.happen (.replaceFile organizationId relative content)) := .of_eq rfl rfl
    refine ⟨⟨hwritten.of_eq rfl rfl (fun entry hentry => ?_), hrecorded.of_eq hgrows rfl rfl rfl hself rfl⟩, hgrows⟩
    -- an input file is no output
    obtain ⟨id, hid⟩ := hrecorded.writes entry hentry
    refine if_neg (fun hpath => ?_)
    rw [hpath] at hid
    cases hid
  | review kind taskRunId action =>
    have hsame : (w.review kind taskRunId action).commits = w.commits ∧
      (w.review kind taskRunId action).tables = w.tables ∧
        (w.review kind taskRunId action).writes = w.writes ∧ (w.review kind taskRunId action).files = w.files ∧
        (w.review kind taskRunId action).dataProfiles = w.dataProfiles := by
      cases kind <;> exact ⟨rfl, rfl, rfl, rfl, rfl⟩
    obtain ⟨hcommits, htables, hwrites, hfiles, hprofiles⟩ := hsame
    have hgrows : Grows w (w.review kind taskRunId action) := .of_eq hcommits htables
    refine ⟨⟨hwritten.of_eq hwrites hcommits (fun entry _ => by rw [World.happen, hfiles]), ?_⟩, hgrows⟩
    exact hrecorded.of_eq hgrows hcommits hprofiles (review_outputRows kind taskRunId action)
      (fun row hrow => mem_review_matchRuns kind taskRunId action hrow) hwrites
  | configure configuration =>
    have hgrows : Grows w (w.happen (.configure configuration)) := .of_eq rfl rfl
    exact ⟨⟨hwritten.of_eq rfl rfl (fun _ _ => rfl), hrecorded.of_eq hgrows rfl rfl rfl hself rfl⟩, hgrows⟩
  | loseLease id =>
    have hgrows : Grows w (w.happen (.loseLease id)) := .of_eq rfl rfl
    exact ⟨⟨hwritten.of_eq rfl rfl (fun _ _ => rfl), hrecorded.of_eq hgrows rfl rfl rfl hself rfl⟩, hgrows⟩

end

end Pipeline
end DataOps

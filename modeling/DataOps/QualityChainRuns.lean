import DataOps.QualityChainHandlers
import DataOps.SchedulePasses
/-!
# QualityChainRuns — no admitted run of a QUALITY_CTRL task resolves its chain

Requests on tasks, scheduler passes and worker executions interleave.  The endpoint takes a `source_task_run_id` for six
task types; quality control needs one on its own run, and on the DETECT run at the far end of its chain.
-/
namespace DataOps
namespace QualityChain

open Api (OrganizationId TaskId TaskRunId User HTTPException)
open Quality (QualityThresholdConfig)
open Schedule (DataSource DataSourceId Settings TaskRow TaskRunRow TaskType Tables Write chainedTypes createTaskRun
  createTaskRunRecord endpoints)
open Tickets (Ticket)
open Trace (exec Along)

/-- `succeeded` lists the runs in the order their executions returned; no step reads it. -/
structure World (py : Backend) where
  schedule  : Schedule.World
  results   : ResultTables py.toPython
  succeeded : List TaskRunId

/-- No tasks, no runs and no results yet. -/
def World.initial (py : Backend) (dataSources : Dict DataSourceId DataSource) : World py :=
  ⟨.initial dataSources, .empty py.toPython, []⟩

/-- What an execution finds outside the database. -/
structure Environment where
  read  : DataSourceId → DataSourceRead
  rowId : RowId
  rest  : Except String Unit

inductive Label (py : Backend)
  | schedule (l : Schedule.Label)
  | dataSources (rows : Dict DataSourceId DataSource)
  | qualityThresholds (rows : List (QualityThreshold py.toPython))
  | execute (id : TaskRunId) (env : Environment)

section
variable {py : Backend} (settings : Settings) (describe : QualityThresholdConfig py.toPython → String)

def World.tables (w : World py) : Tables := w.schedule.api.store

/-- The context of a run of a task. -/
def Environment.context (env : Environment) (run : TaskRunRow) (task : TaskRow) : ExecutionContext where
  taskRun := run
  dataSource := task.dataSourceId.map (fun id => { env.read id with id := id })
  rowId := env.rowId
  rest := env.rest

/-- A worker executes a run.  Which one, and how often, is left open. -/
def World.execute (w : World py) (id : TaskRunId) (env : Environment) : World py :=
  match w.tables.runs.find? (fun r => r.id = id) with
  | some run =>
    match w.tables.tasks.get? run.taskId with
    | some task =>
      match QualityChain.execute describe w.tables.runs task.taskType w.results (env.context run task) with
      | .ok results => { w with results := results, succeeded := w.succeeded ++ [id] }
      | .error _    => w
    | none => w
  | none => w

def step (w : World py) : Label py → World py
  | .schedule l             => { w with schedule := Schedule.step py settings w.schedule l }
  | .dataSources rows       => { w with
      schedule := { w.schedule with api := { w.schedule.api with store := { w.tables with dataSources := rows } } } }
  | .qualityThresholds rows => { w with results := { w.results with qualityThresholds := rows } }
  | .execute id env         => w.execute describe id env

/-! ## The chain -/

/-- SYNC, DETECT, REMEDIATE and VALIDATE runs of one data source of an organization succeeded in this order, each built on
the one before wherever its row has a column for it. -/
def ChainSucceeded (w : World py) : Prop :=
  ∃ profile ∈ w.results.dataProfiles, ∃ detection ∈ w.results.issueDetectionRuns,
    ∃ remediation ∈ w.results.remediationRuns, ∃ validation ∈ w.results.validationRuns,
      (∀ row ∈ [detection.toResultRow, remediation.toResultRow, validation.toResultRow],
        row.organizationId = profile.organizationId ∧ row.dataSourceId = profile.dataSourceId) ∧
      remediation.sourceTaskRunId = detection.taskRunId ∧ validation.remediationRunId = remediation.id ∧
      [profile.taskRunId, detection.taskRunId, remediation.taskRunId, validation.taskRunId].Sublist w.succeeded

/-- The handler, given the run, gets to the end of its chain. -/
def Resolves (w : World py) (run : TaskRunRow) : Prop :=
  ∃ dataSource rowId rest results,
    QualityControlHandler.execute describe w.tables.runs w.results ⟨run, dataSource, rowId, rest⟩ = .ok results

/-- A request for a run of a QUALITY_CTRL task is accepted, and after some further steps its run is there and resolves. -/
def ChainBuildable (w : World py) : Prop :=
  ∃ taskId task source currentUser id run ls,
    w.tables.tasks.get? taskId = some task ∧ task.taskType = .qualityCtrl ∧
      createTaskRun w.tables taskId source currentUser id = .ok (.insertRun run) ∧
      run ∈ (exec (step settings describe) w ls).tables.runs ∧
      Resolves describe (exec (step settings describe) w ls) run

/-! ## What the handler needs -/

theorem require_eq_ok {α : Type} {value : Option α} {message : String} {a : α} (h : require value message = .ok a) :
    value = some a := by
  unfold require at h
  split at h
  · cases h
    rfl
  · cases h

/-- **Without a source the handler raises**, whatever the tables hold. -/
theorem QualityControlHandler.execute_of_source_none (runs : List TaskRunRow) (db : ResultTables py.toPython)
    (context : ExecutionContext) (h : context.taskRun.sourceTaskRunId = none) :
    QualityControlHandler.execute describe runs db context =
      (context.requireDataSource "quality_control").bind
        (fun _ => .error "quality_control requires source_task_run_id on the TaskRun") := by
  unfold QualityControlHandler.execute ExecutionContext.requireSource
  rw [h]
  rfl

/-- **A resolved chain goes through a detection run with a source.** -/
theorem QualityControlHandler.provenance_ok {runs : List TaskRunRow} {db : ResultTables py.toPython}
    {organizationId : OrganizationId} {validationRun : ValidationRun} {p : Provenance}
    (h : QualityControlHandler.provenance runs db organizationId validationRun = .ok p) :
    p.issueDetectionRun ∈ db.issueDetectionRuns ∧
      ∃ run ∈ runs, run.id = p.issueDetectionRun.taskRunId ∧ run.sourceTaskRunId ≠ none := by
  unfold QualityControlHandler.provenance at h
  obtain ⟨remediationRun, -, h⟩ := Schedule.bind_eq_ok h
  obtain ⟨remediateTaskRun, -, h⟩ := Schedule.bind_eq_ok h
  obtain ⟨detectTaskRunId, -, h⟩ := Schedule.bind_eq_ok h
  obtain ⟨detectTaskRun, hrun, h⟩ := Schedule.bind_eq_ok h
  obtain ⟨issueDetectionRun, hdetection, h⟩ := Schedule.bind_eq_ok h
  obtain ⟨syncTaskRunId, hsource, h⟩ := Schedule.bind_eq_ok h
  obtain ⟨syncTaskRun, -, h⟩ := Schedule.bind_eq_ok h
  obtain ⟨dataProfile, -, h⟩ := Schedule.bind_eq_ok h
  cases h
  have hdetection := require_eq_ok hdetection
  have hfound := List.find?_some hdetection
  have hid : issueDetectionRun.taskRunId = detectTaskRun.id := (of_decide_eq_true hfound).1
  refine ⟨List.mem_of_find?_eq_some hdetection, detectTaskRun, ?_, hid.symm, ?_⟩
  · exact List.mem_of_find?_eq_some (require_eq_ok hrun)
  · rw [require_eq_ok hsource]
    exact Option.some_ne_none _

/-- **Everything an accepted execution of the handler can do**: find its result, or resolve the chain and add one. -/
theorem QualityControlHandler.execute_cases {runs : List TaskRunRow} {db db' : ResultTables py.toPython}
    {context : ExecutionContext} (h : QualityControlHandler.execute describe runs db context = .ok db') :
    (db.qualityControlRuns ≠ [] ∧ db' = db) ∨
      ∃ validationRun p qualityControlRuns,
        QualityControlHandler.provenance runs db context.taskRun.organizationId validationRun = .ok p ∧
        db' = { db with qualityControlRuns := qualityControlRuns } := by
  unfold QualityControlHandler.execute at h
  obtain ⟨dataSource, -, h⟩ := Schedule.bind_eq_ok h
  obtain ⟨sourceTaskRunId, -, h⟩ := Schedule.bind_eq_ok h
  obtain ⟨validationRun, -, h⟩ := Schedule.bind_eq_ok h
  split at h
  · rename_i row hrow
    cases h
    exact .inl ⟨List.ne_nil_of_mem (List.mem_of_find?_eq_some hrow), rfl⟩
  · obtain ⟨cfg, -, h⟩ := Schedule.bind_eq_ok h
    obtain ⟨-, -, h⟩ := Schedule.bind_eq_ok h
    obtain ⟨p, hp, h⟩ := Schedule.bind_eq_ok h
    obtain ⟨qualityControlRuns, -, h⟩ := Schedule.bind_eq_ok h
    cases h
    exact .inr ⟨validationRun, p, qualityControlRuns, hp, rfl⟩

theorem QualityControlHandler.execute_ok {runs : List TaskRunRow} {db db' : ResultTables py.toPython}
    {context : ExecutionContext} (h : QualityControlHandler.execute describe runs db context = .ok db') :
    db.qualityControlRuns ≠ [] ∨
      ∃ validationRun p, QualityControlHandler.provenance runs db context.taskRun.organizationId
        validationRun = .ok p := by
  rcases QualityControlHandler.execute_cases describe h with ⟨hne, -⟩ | ⟨validationRun, p, -, hp, -⟩
  · exact .inl hne
  · exact .inr ⟨validationRun, p, hp⟩

/-! ## The first break: the run of a QUALITY_CTRL task has no source -/

/-- **No state is left by a request that builds the chain.** -/
theorem not_chainBuildable (w : World py) : ¬ ChainBuildable settings describe w := by
  rintro ⟨taskId, task, source, currentUser, id, run, ls, htask, htype, haccepted, -,
    dataSource, rowId, rest, results, hok⟩
  have hrun : run = createTaskRunRecord id currentUser.organizationId taskId (some currentUser.id) source := by
    simpa using Schedule.createTaskRun_ok haccepted
  have hsource : source = none := by
    have hiff := Schedule.createTaskRun_source_iff haccepted htask
    rw [htype] at hiff
    exact Classical.byContradiction (fun hne => absurd (hiff.1 hne) (by decide))
  have hnone : run.sourceTaskRunId = none := by
    rw [hrun]
    exact hsource
  rw [QualityControlHandler.execute_of_source_none describe _ _ _ hnone] at hok
  cases dataSource <;> cases hok

/-! ## The second break: the DETECT run has no source either -/

/-- The step commits no PATCH that changes a task's type. -/
def KeepsTypes (w : World py) (l : Label py) : Prop :=
  ∀ i (ticket : Ticket Schedule.Request Write) id loaded edited, l = .schedule (.api (.commit i)) →
    w.schedule.api.pending[i]? = some ticket → ticket.write = .update id loaded edited →
      edited.taskType = loaded.taskType

/-- A run with a source is of a task whose type takes one. -/
def Admitted (db : Tables) (run : TaskRunRow) : Prop :=
  run.sourceTaskRunId ≠ none → ∃ task, db.tasks.get? run.taskId = some task ∧ task.taskType ∈ chainedTypes

/-- Every task is still there with its type, and the runs that were added are new and admitted. -/
structure Extends (db db' : Tables) : Prop where
  tasks : ∀ id task, db.tasks.get? id = some task →
    ∃ task', db'.tasks.get? id = some task' ∧ task'.taskType = task.taskType
  runs  : ∃ added : List TaskRunRow, db'.runs = db.runs ++ added ∧ (∀ run ∈ added, Admitted db' run) ∧
    ((db.runs.map (fun r => r.id)).Nodup → (db'.runs.map (fun r => r.id)).Nodup)

theorem Extends.of_tasks {db : Tables} {tasks : Dict TaskId TaskRow}
    (h : ∀ id task, db.tasks.get? id = some task → ∃ task', tasks.get? id = some task' ∧ task'.taskType = task.taskType) :
    Extends db { db with tasks := tasks } where
  tasks := h
  runs := ⟨[], (List.append_nil _).symm, fun _ hrun => (List.not_mem_nil hrun).elim, fun hids => hids⟩

theorem Extends.refl (db : Tables) : Extends db db := .of_tasks (fun _ task h => ⟨task, h, rfl⟩)

theorem Admitted.extend {db db' : Tables} (h : Extends db db') {run : TaskRunRow} (hrun : Admitted db run) :
    Admitted db' run := by
  intro hsource
  obtain ⟨task, htask, htype⟩ := hrun hsource
  obtain ⟨task', htask', htype'⟩ := h.tasks _ _ htask
  exact ⟨task', htask', htype' ▸ htype⟩

/-- Setting a row to one of the same type, or where there was none, keeps the tasks. -/
theorem tasks_set {db : Tables} {id : TaskId} {row : TaskRow}
    (hrow : ∀ current, db.tasks.get? id = some current → row.taskType = current.taskType) (id' : TaskId) (task : TaskRow)
    (htask : db.tasks.get? id' = some task) :
    ∃ task', (db.tasks.set id row).get? id' = some task' ∧ task'.taskType = task.taskType := by
  rw [Dict.get?_set]
  split
  · rename_i heq
    subst heq
    exact ⟨row, rfl, hrow task htask⟩
  · exact ⟨task, htask, rfl⟩

/-- A new id at the end leaves the ids without duplicates. -/
theorem nodup_ids_concat {runs : List TaskRunRow} {run : TaskRunRow} (hfresh : run.id ∉ runs.map (fun r => r.id))
    (h : (runs.map (fun r => r.id)).Nodup) : ((runs ++ [run]).map (fun r => r.id)).Nodup := by
  rw [List.map_append, List.map_singleton, ← List.concat_eq_append]
  exact h.concat hfresh

/-- **A commit that keeps the types extends the tables**, when the run it may insert is admitted. -/
theorem Extends.apply {w : Write} {db db' : Tables} (h : w.apply py db = some db')
    (htypes : ∀ id loaded edited, w = .update id loaded edited → edited.taskType = loaded.taskType)
    (hrun : ∀ run, w = .insertRun run → Admitted db run) : Extends db db' := by
  rcases w.apply_cases py h with
    ⟨id, row, rfl, hnone, -, rfl⟩ | ⟨id, loaded, edited, current, rfl, hcurrent, -, rfl⟩ | ⟨run, rfl, hfresh, rfl⟩
  · refine .of_tasks (tasks_set (fun current hcurrent => ?_))
    rw [hnone] at hcurrent
    cases hcurrent
  · refine .of_tasks (tasks_set (fun row hrow => ?_))
    rw [hcurrent] at hrow
    cases hrow
    -- the column is not among those the PATCH writes
    simp [TaskRow.updated, Schedule.setColumn, htypes id loaded edited rfl]
  · refine ⟨fun _ task htask => ⟨task, htask, rfl⟩, [run], rfl, fun r hr => ?_, nodup_ids_concat hfresh⟩
    rw [List.mem_singleton.1 hr]
    exact hrun run rfl

/-- A run without a source is admitted. -/
theorem Admitted.of_none {db : Tables} {run : TaskRunRow} (h : run.sourceTaskRunId = none) : Admitted db run :=
  fun hne => absurd h hne

/-- **What a request plans to insert is admitted.** -/
theorem endpoints_admitted {db : Tables} {r : Schedule.Request} {w : Write}
    (hplan : (endpoints py settings).plan r db = .ok w) (run : TaskRunRow) (hw : w = .insertRun run) :
    Admitted db run := by
  subst hw
  cases r with
  | create payload currentUser id now =>
    obtain ⟨row, hrow, -⟩ := Schedule.createTask_ok py settings hplan
    cases hrow
  | update taskId payload currentUser now =>
    obtain ⟨task, edited, hupdate, -⟩ := Schedule.updateTask_ok py settings hplan
    cases hupdate
  | delete taskId currentUser =>
    obtain ⟨task, -, hupdate⟩ := Schedule.deleteTask_ok hplan
    cases hupdate
  | run taskId source currentUser id =>
    have hrun : run = createTaskRunRecord id currentUser.organizationId taskId (some currentUser.id) source := by
      simpa using Schedule.createTaskRun_ok hplan
    subst hrun
    intro hsource
    obtain ⟨task, htask⟩ := Schedule.createTaskRun_task hplan
    exact ⟨task, htask, (Schedule.createTaskRun_source_iff hplan htask).1 hsource⟩

/-! ## The invariant -/

/-- **While no task changes its type**: runs have the sources their types admit, so those of DETECT tasks have none, and
quality control has persisted nothing. -/
structure TypeInv (w : World py) : Prop where
  ids        : (w.tables.runs.map (fun r => r.id)).Nodup
  runs       : ∀ run ∈ w.tables.runs, Admitted w.tables run
  pending    : ∀ ticket ∈ w.schedule.api.pending, ∀ run, ticket.write = .insertRun run → Admitted w.tables run
  passes     : Claims.Held Schedule.Pass.txn (fun _ txn => ∀ newNextRunAt run,
    txn.stage = .added newNextRunAt run → run.sourceTaskRunId = none) w.schedule.passes
  detections : ∀ row ∈ w.results.issueDetectionRuns,
    ∃ run ∈ w.tables.runs, run.id = row.taskRunId ∧ run.sourceTaskRunId = none
  unbuilt    : w.results.qualityControlRuns = []

theorem TypeInv.initial (dataSources : Dict DataSourceId DataSource) : TypeInv (World.initial py dataSources) where
  ids := List.nodup_nil
  runs := fun _ h => (List.not_mem_nil h).elim
  pending := fun _ h => (List.not_mem_nil h).elim
  passes := fun _ _ _ h => by simp [World.initial, Schedule.World.initial] at h
  detections := fun _ h => (List.not_mem_nil h).elim
  unbuilt := rfl

/-- **A change of the schedule keeps it** when the tables extend and the tickets and the passes are as they should be. -/
theorem TypeInv.scheduled {w : World py} (h : TypeInv w) {schedule : Schedule.World}
    (htables : Extends w.tables schedule.api.store)
    (hpending : ∀ ticket ∈ schedule.api.pending, ∀ run, ticket.write = .insertRun run → Admitted schedule.api.store run)
    (hpasses : Claims.Held Schedule.Pass.txn (fun _ txn => ∀ newNextRunAt run,
      txn.stage = .added newNextRunAt run → run.sourceTaskRunId = none) schedule.passes) :
    TypeInv { w with schedule := schedule } := by
  obtain ⟨added, hruns, hadded, hids⟩ := htables.runs
  refine ⟨hids h.ids, ?_, hpending, hpasses, ?_, h.unbuilt⟩
  · intro run hrun
    rw [World.tables, hruns] at hrun
    rcases List.mem_append.1 hrun with hold | hnew
    · exact (h.runs run hold).extend htables
    · exact hadded run hnew
  · intro row hrow
    obtain ⟨run, hrun, hid, hsource⟩ := h.detections row hrow
    refine ⟨run, ?_, hid, hsource⟩
    rw [World.tables, hruns]
    exact List.mem_append_left _ hrun

/-- The tickets of the next state are admitted. -/
theorem TypeInv.pending_step {w : World py} (h : TypeInv w) (l : Tickets.Label Schedule.Request)
    (htypes : KeepsTypes w (.schedule (.api l))) :
    ∀ t ∈ (Tickets.step (endpoints py settings) w.schedule.api l).pending, ∀ run, t.write = .insertRun run →
      Admitted (Tickets.step (endpoints py settings) w.schedule.api l).store run := by
  refine Tickets.step_tickets (T := fun store _ t => ∀ run, t.write = .insertRun run → Admitted store run)
    (C := fun _ t => ∀ id loaded edited, t.write = .update id loaded edited → edited.taskType = loaded.taskType)
    (fun r w hplan => endpoints_admitted settings hplan) ?_ h.pending l ?_
  · intro t t' ht ht' hkeeps hadmitted run hrun
    change Admitted ((t.write.apply py w.schedule.api.store).getD w.schedule.api.store) run
    cases hdb : t.write.apply py w.schedule.api.store with
    | none => exact hadmitted run hrun
    | some db => exact (hadmitted run hrun).extend (Extends.apply hdb hkeeps (h.pending t ht))
  · intro i t hl ht id loaded edited hwrite
    exact htypes i t id loaded edited (by rw [hl]) ht hwrite

/-- **A step of the requests and the passes preserves the invariant.** -/
theorem TypeInv.effect {w : World py} (h : TypeInv w) {l : Schedule.Label} {schedule : Schedule.World}
    (htypes : KeepsTypes w (.schedule l)) (he : Schedule.Effect py settings w.schedule l schedule) :
    TypeInv { w with schedule := schedule } := by
  cases he with
  | stay => exact h
  | request l hstore =>
    refine h.scheduled ?_ (h.pending_step settings l htypes) h.passes
    rw [hstore]
    exact .refl _
  | committed i ticket db hticket hfree hdb hstore =>
    refine h.scheduled ?_ (h.pending_step settings _ htypes) h.passes
    rw [hstore]
    refine Extends.apply hdb (fun id loaded edited => htypes i ticket id loaded edited rfl hticket) ?_
    exact h.pending ticket (List.mem_of_getElem? hticket)
  | started now batchSize pass htxn => exact h.scheduled (.refl _) h.pending (h.passes.append htxn)
  | released p a pass htxn => exact h.scheduled (.refl _) h.pending (h.passes.release htxn)
  | polled p id pass row interval nextRunAt hpass hidle hfree hrow hdue =>
    refine h.scheduled (.refl _) h.pending (h.passes.hold rfl ?_)
    intro newNextRunAt run hstage
    cases hstage
  | advanced p pass txn hpass htxn =>
    refine h.scheduled (.refl _) h.pending (h.passes.hold rfl ?_)
    intro newNextRunAt run hstage
    cases hstage
  | added p id pass txn newNextRunAt hpass htxn hstage =>
    refine h.scheduled (.refl _) h.pending (h.passes.hold rfl ?_)
    intro newNextRunAt run hstage
    cases hstage
    rfl
  | occurred p logged pass txn newNextRunAt run row hpass htxn hstage hrow hchecks hfresh =>
    have hsource := h.passes p pass txn hpass htxn newNextRunAt run hstage
    have hext : Extends w.tables
        { w.tables with
          tasks := w.tables.tasks.set txn.taskId { row with nextRunAt := some newNextRunAt }
          runs := w.tables.runs ++ [run] } := by
      refine ⟨tasks_set (fun current hcurrent => ?_), [run], rfl, fun r hr => ?_, nodup_ids_concat hfresh⟩
      · rw [World.tables, hrow] at hcurrent
        cases hcurrent
        rfl
      · rw [List.mem_singleton.1 hr]
        exact .of_none hsource
    exact h.scheduled hext (fun t ht run' hrun' => (h.pending t ht run' hrun').extend hext) (h.passes.release rfl)

/-! ## What an execution persists -/

/-- Nothing is persisted for a run but a row of that run. -/
theorem mem_of_persist {α : Type} {row : α → ResultRow} {rows rows' : List α} {new : α}
    (h : persist row rows new = .ok rows') {r : α} (hr : r ∈ rows') : r ∈ rows ∨ r = new := by
  unfold persist at h
  split at h
  · cases h
    exact .inl hr
  · split at h
    · cases h
    · cases h
      simpa using hr

/-- The two tables an execution of another handler leaves alone. -/
def SameChain (db db' : ResultTables py.toPython) : Prop :=
  db'.issueDetectionRuns = db.issueDetectionRuns ∧ db'.qualityControlRuns = db.qualityControlRuns

theorem CsvProfilingHandler.execute_same {db db' : ResultTables py.toPython} {context : ExecutionContext}
    (h : CsvProfilingHandler.execute db context = .ok db') : SameChain db db' := by
  unfold CsvProfilingHandler.execute at h
  obtain ⟨dataSource, -, h⟩ := Schedule.bind_eq_ok h
  obtain ⟨-, -, h⟩ := Schedule.bind_eq_ok h
  obtain ⟨dataProfiles, -, h⟩ := Schedule.bind_eq_ok h
  cases h
  exact ⟨rfl, rfl⟩

theorem exportChainHandler_same {handler taskType : String} {db db' : ResultTables py.toPython}
    {context : ExecutionContext} (h : exportChainHandler handler taskType db context = .ok db') : SameChain db db' := by
  unfold exportChainHandler at h
  obtain ⟨-, -, h⟩ := Schedule.bind_eq_ok h
  obtain ⟨-, -, h⟩ := Schedule.bind_eq_ok h
  obtain ⟨-, -, h⟩ := Schedule.bind_eq_ok h
  cases h
  exact ⟨rfl, rfl⟩

theorem RemediationHandler.execute_same {db db' : ResultTables py.toPython} {context : ExecutionContext}
    (h : RemediationHandler.execute db context = .ok db') : SameChain db db' := by
  unfold RemediationHandler.execute at h
  obtain ⟨dataSource, -, h⟩ := Schedule.bind_eq_ok h
  obtain ⟨sourceTaskRunId, -, h⟩ := Schedule.bind_eq_ok h
  obtain ⟨detectionRun, -, h⟩ := Schedule.bind_eq_ok h
  obtain ⟨sourceSha256, -, h⟩ := Schedule.bind_eq_ok h
  split at h
  · cases h
    exact ⟨rfl, rfl⟩
  · obtain ⟨loaded, -, h⟩ := Schedule.bind_eq_ok h
    split at h
    · cases h
    · obtain ⟨remediationRuns, -, h⟩ := Schedule.bind_eq_ok h
      cases h
      exact ⟨rfl, rfl⟩

theorem ValidationHandler.execute_same {db db' : ResultTables py.toPython} {context : ExecutionContext}
    (h : ValidationHandler.execute db context = .ok db') : SameChain db db' := by
  unfold ValidationHandler.execute at h
  obtain ⟨dataSource, -, h⟩ := Schedule.bind_eq_ok h
  obtain ⟨sourceTaskRunId, -, h⟩ := Schedule.bind_eq_ok h
  obtain ⟨remediationRun, -, h⟩ := Schedule.bind_eq_ok h
  obtain ⟨validationRuns, -, h⟩ := Schedule.bind_eq_ok h
  cases h
  exact ⟨rfl, rfl⟩

/-- Detection adds a row of its own run. -/
theorem IssueDetectionHandler.execute_adds {db db' : ResultTables py.toPython} {context : ExecutionContext}
    (h : IssueDetectionHandler.execute db context = .ok db') :
    (∀ row ∈ db'.issueDetectionRuns, row ∈ db.issueDetectionRuns ∨ row.taskRunId = context.taskRun.id) ∧
      db'.qualityControlRuns = db.qualityControlRuns := by
  unfold IssueDetectionHandler.execute at h
  obtain ⟨dataSource, -, h⟩ := Schedule.bind_eq_ok h
  obtain ⟨sourceSha256, -, h⟩ := Schedule.bind_eq_ok h
  obtain ⟨issueDetectionRuns, hrows, h⟩ := Schedule.bind_eq_ok h
  cases h
  refine ⟨fun row hrow => ?_, rfl⟩
  rcases mem_of_persist hrows hrow with hold | rfl
  · exact .inl hold
  · exact .inr rfl

theorem QualityControlHandler.execute_detections {runs : List TaskRunRow} {db db' : ResultTables py.toPython}
    {context : ExecutionContext} (h : QualityControlHandler.execute describe runs db context = .ok db') :
    db'.issueDetectionRuns = db.issueDetectionRuns := by
  rcases QualityControlHandler.execute_cases describe h with ⟨-, rfl⟩ | ⟨-, -, -, -, rfl⟩
  · rfl
  · rfl

/-- **What an execution leaves of the two tables**: a detection row is added for the run of a DETECT task only, and a
quality-control row only where the chain resolves. -/
theorem execute_ok {runs : List TaskRunRow} {taskType : TaskType} {db db' : ResultTables py.toPython}
    {context : ExecutionContext} (h : QualityChain.execute describe runs taskType db context = .ok db') :
    (∀ row ∈ db'.issueDetectionRuns, row ∈ db.issueDetectionRuns ∨
      (taskType = .detect ∧ row.taskRunId = context.taskRun.id)) ∧
    (db'.qualityControlRuns = db.qualityControlRuns ∨
      QualityControlHandler.execute describe runs db context = .ok db') := by
  have hquiet : SameChain db db' →
      (∀ row ∈ db'.issueDetectionRuns, row ∈ db.issueDetectionRuns ∨
        (taskType = .detect ∧ row.taskRunId = context.taskRun.id)) ∧
      (db'.qualityControlRuns = db.qualityControlRuns ∨
        QualityControlHandler.execute describe runs db context = .ok db') :=
    fun hsame => ⟨fun row hrow => .inl (hsame.1 ▸ hrow), .inl hsame.2⟩
  cases taskType with
  | sync => exact hquiet (CsvProfilingHandler.execute_same h)
  | transform => exact hquiet (exportChainHandler_same h)
  | standardize => exact hquiet (exportChainHandler_same h)
  | «match» => exact hquiet (exportChainHandler_same h)
  | «export» => exact hquiet (exportChainHandler_same h)
  | remediate => exact hquiet (RemediationHandler.execute_same h)
  | validate => exact hquiet (ValidationHandler.execute_same h)
  | detect =>
    obtain ⟨hadds, hsame⟩ := IssueDetectionHandler.execute_adds h
    exact ⟨fun row hrow => (hadds row hrow).imp_right (fun hid => ⟨rfl, hid⟩), .inl hsame⟩
  | qualityCtrl =>
    refine ⟨fun row hrow => .inl ?_, .inr h⟩
    rwa [QualityControlHandler.execute_detections describe h] at hrow
  | other =>
    simp only [execute] at h
    cases hrest : context.rest with
    | error e => rw [hrest] at h; cases h
    | ok u => rw [hrest] at h; cases h; exact hquiet ⟨rfl, rfl⟩

/-! ## Runs -/

/-- Under the invariant no run resolves, whatever its source. -/
theorem TypeInv.not_resolves {w : World py} (h : TypeInv w) (run : TaskRunRow) : ¬ Resolves describe w run := by
  rintro ⟨dataSource, rowId, rest, results, hok⟩
  rcases QualityControlHandler.execute_ok describe hok with hbuilt | ⟨validationRun, p, hp⟩
  · exact hbuilt h.unbuilt
  · obtain ⟨hrow, detect, hdetect, hid, hsource⟩ := QualityControlHandler.provenance_ok hp
    obtain ⟨detect', hdetect', hid', hnone⟩ := h.detections _ hrow
    have heq : detect' = detect := List.inj_on_of_nodup_map h.ids hdetect' hdetect (hid'.trans hid.symm)
    exact hsource (heq ▸ hnone)

theorem TypeInv.execute {w : World py} (h : TypeInv w) (id : TaskRunId) (env : Environment) :
    TypeInv (w.execute describe id env) := by
  unfold World.execute
  split
  · rename_i run hrun
    split
    · rename_i task htask
      split
      · rename_i results hok
        obtain ⟨hdetections, hbuilt⟩ := execute_ok describe hok
        refine ⟨h.ids, h.runs, h.pending, h.passes, fun row hrow => ?_, ?_⟩
        · rcases hdetections row hrow with hold | ⟨htype, hid⟩
          · exact h.detections row hold
          · -- the task is a DETECT task now, so it was one when the run was admitted
            refine ⟨run, List.mem_of_find?_eq_some hrun, hid.symm, Classical.byContradiction (fun hsource => ?_)⟩
            obtain ⟨task', htask', hchained⟩ := h.runs run (List.mem_of_find?_eq_some hrun) hsource
            rw [htask] at htask'
            cases htask'
            rw [htype] at hchained
            exact absurd hchained (by decide)
        · rcases hbuilt with hsame | hresolved
          · exact hsame.trans h.unbuilt
          · exact (h.not_resolves describe run ⟨_, _, _, _, hresolved⟩).elim
      · exact h
    · exact h
  · exact h

/-- **A step that commits no change of a type preserves the invariant.** -/
theorem TypeInv.step {w : World py} (h : TypeInv w) (l : Label py) (htypes : KeepsTypes w l) :
    TypeInv (step settings describe w l) := by
  cases l with
  | schedule l => exact h.effect settings htypes (Schedule.step_effect py settings w.schedule l)
  | dataSources rows =>
    have hext : Extends w.tables { w.tables with dataSources := rows } :=
      ⟨fun _ task htask => ⟨task, htask, rfl⟩, [], (List.append_nil _).symm, fun _ hrun => (List.not_mem_nil hrun).elim,
        fun hids => hids⟩
    exact h.scheduled hext (fun t ht run hrun => (h.pending t ht run hrun).extend hext) h.passes
  | qualityThresholds rows => exact ⟨h.ids, h.runs, h.pending, h.passes, h.detections, h.unbuilt⟩
  | execute id env => exact h.execute describe id env

/-- **While no PATCH changes a task's type, no quality-control run resolves at all**: not even one that was given a
source, since no DETECT run has one. -/
theorem unretyped_never_resolves (dataSources : Dict DataSourceId DataSource) (ls : List (Label py))
    (htypes : Along (step settings describe) KeepsTypes (World.initial py dataSources) ls) (run : TaskRunRow) :
    ¬ Resolves describe (exec (step settings describe) (World.initial py dataSources) ls) run :=
  TypeInv.not_resolves describe (Trace.exec_invariant_along (step settings describe)
    (fun _ l h hl => h.step settings describe l hl) ls _ (.initial dataSources) htypes) run

/-- **The quality-control chain cannot be built through the API**: after no history is there a request for a run of a
QUALITY_CTRL task that is accepted and whose run ever resolves. -/
theorem quality_chain_never_buildable (dataSources : Dict DataSourceId DataSource) (ls : List (Label py)) :
    ¬ ChainBuildable settings describe (exec (step settings describe) (World.initial py dataSources) ls) :=
  not_chainBuildable settings describe _

end

/-! ## A validated table that cannot go on -/

def caller : User := ⟨1, 7, "ana@example.com", none, false⟩

def chainSettings : Settings := ⟨60, 2592000, 20⟩

def oneSource : Dict DataSourceId DataSource := [(1, ⟨7, true⟩)]

/-- The file is there and does not change. -/
def unchanged (rowId : RowId) : Environment := ⟨fun id => ⟨id, .csvUpload, true, .ok "e3b0c442"⟩, rowId, .ok ()⟩

/-- A request with its commit. -/
def request (r : Schedule.Request) : List (Label asciiBackend) :=
  [.schedule (.api (.read r)), .schedule (.api (.commit 0))]

def newTask (id : TaskId) (name : String) (taskType : TaskType) : List (Label asciiBackend) :=
  request (.create { name := name.toList, dataSourceId := some 1, taskType := taskType } caller id 0)

/-- A run of a task is requested and, when it is there, executed. -/
def newRun (taskId : TaskId) (source : Option TaskRunId) (id : TaskRunId) : List (Label asciiBackend) :=
  request (.run taskId source caller id) ++ [.execute id (unchanged id)]

def validatedHistory : List (Label asciiBackend) :=
  newTask 1 "sync" .sync ++ newTask 2 "detect" .detect ++ newTask 3 "remediate" .remediate ++
    newTask 4 "validate" .validate ++ newTask 5 "quality" .qualityCtrl ++
    newRun 1 none 11 ++ newRun 2 none 12 ++ newRun 3 (some 12) 13 ++ newRun 4 (some 13) 14

theorem validatedHistory_not_buildable :
    ChainSucceeded (exec (step chainSettings (fun _ => "")) (World.initial asciiBackend oneSource) validatedHistory) ∧
      ¬ ChainBuildable chainSettings (fun _ => "")
        (exec (step chainSettings (fun _ => "")) (World.initial asciiBackend oneSource) validatedHistory) := by
  refine ⟨?_, not_chainBuildable chainSettings _ _⟩
  unfold ChainSucceeded
  decide +kernel

/-- The DETECT and the QUALITY_CTRL task get their runs while they are of types that take a source. -/
def retypedHistory : List (Label asciiBackend) :=
  newTask 1 "sync" .sync ++ newRun 1 none 11 ++
    newTask 2 "detect" .transform ++ request (.run 2 (some 11) caller 12) ++
    request (.update 2 { taskType := some .detect } caller 0) ++ [.execute 12 (unchanged 12)] ++
    newTask 3 "remediate" .remediate ++ newRun 3 (some 12) 13 ++ newTask 4 "validate" .validate ++ newRun 4 (some 13) 14 ++
    newTask 5 "quality" .validate ++ request (.run 5 (some 14) caller 15) ++
    request (.update 5 { taskType := some .qualityCtrl } caller 0) ++
    [.qualityThresholds [⟨7, none, true, {}⟩], .execute 15 (unchanged 15)]

-- with the types changed in between, the same handlers do resolve the chain
example : (exec (step chainSettings (fun _ => "")) (World.initial asciiBackend oneSource)
    retypedHistory).results.qualityControlRuns = [⟨⟨15, 7, 15, 1⟩, 14, 13, 12, 11⟩] := by decide +kernel

end QualityChain
end DataOps

import DataOps.ApiTables
import DataOps.LibDict
import DataOps.LibPython
import DataOps.LibTickets
import DataOps.WorkerTable
/-!
# ScheduleTasks — creating, changing and scheduling tasks

A PATCH loads the row, edits it in memory and later commits `UPDATE .. WHERE id = :id` with the columns it changed and no
others (`TaskRow.updated`).  The type and the interval are checked together on the edited row; in the table no constraint
ties them.
-/
namespace DataOps

/-- Python, and `lower(s)` of the database. -/
structure Backend extends Python where
  sqlLower : Str → Str

/-- Python and the database lower-case a text alike. -/
def Backend.Alike (py : Backend) (s : Str) : Prop := py.sqlLower s = py.lower s

/-- A database of ASCII texts. -/
def asciiBackend : Backend where
  toPython := asciiPython
  sqlLower := fun s => s.map Char.toLower

/-- Capital alpha and sigma: a database takes them one by one, and Python the sigma at the end for a final one. -/
def greekBackend : Backend where
  toPython := { asciiPython with lower := fun s => if s = ['Α', 'Σ'] then ['α', 'ς'] else s }
  sqlLower := fun s => s.map (fun c => if c = 'Α' then 'α' else if c = 'Σ' then 'σ' else c)

namespace Schedule

open Api (Time OrganizationId UserId TaskId TaskRunId User HTTPException activeOr404 activeOr404_eq_ok
  dataSourceNotFound taskNotFound)
open Worker (timedelta)

abbrev DataSourceId := Nat

inductive TaskType
  | sync | transform | export | other | standardize | match | detect | remediate | validate | qualityCtrl
deriving DecidableEq, Repr

structure DataSource where
  organizationId : OrganizationId
  isActive       : Bool
deriving DecidableEq, Repr

structure TaskRow where
  organizationId          : OrganizationId
  dataSourceId            : Option DataSourceId
  name                    : Str
  description             : Option Str
  taskType                : TaskType
  schedule                : Option Str
  scheduleIntervalSeconds : Option Nat
  nextRunAt               : Option Time
  maxAttempts             : Option Nat
  timeoutSeconds          : Option Nat
  isActive                : Bool := true
  createdBy               : Option UserId
deriving DecidableEq, Repr

structure TaskRunRow where
  id              : TaskRunId
  organizationId  : OrganizationId
  taskId          : TaskId
  triggeredBy     : Option UserId
  sourceTaskRunId : Option TaskRunId
deriving DecidableEq, Repr

structure Tables where
  dataSources : Dict DataSourceId DataSource
  tasks       : Dict TaskId TaskRow
  runs        : List TaskRunRow

structure Settings where
  minimumScheduleIntervalSeconds : Nat
  maximumScheduleIntervalSeconds : Nat
  schedulerClaimBatchSize        : Nat

/-! ## The constraints of the table -/

/-- `ck_tasks_schedule_interval_hard_floor` and `ck_tasks_schedule_consistency`. -/
def TaskRow.Checks (row : TaskRow) : Prop :=
  (∀ interval, row.scheduleIntervalSeconds = some interval → 30 ≤ interval) ∧
    (row.scheduleIntervalSeconds = none ↔ row.nextRunAt = none)

instance (row : TaskRow) : Decidable row.Checks :=
  inferInstanceAs (Decidable ((∀ interval, row.scheduleIntervalSeconds = some interval → 30 ≤ interval) ∧
    (row.scheduleIntervalSeconds = none ↔ row.nextRunAt = none)))

/-- SQL's `trim` takes off spaces only. -/
def sqlTrim (name : Str) : Str := (name.dropWhile (fun c => c = ' ')).rdropWhile (fun c => c = ' ')

section
variable (py : Backend) (settings : Settings)

/-- The active tasks of an organization under a key of `ix_tasks_org_name_active`, other than one. -/
def activeNamed (db : Tables) (orgId : OrganizationId) (key : Str) (excludeId : Option TaskId) : Bool :=
  db.tasks.any (fun entry => entry.2.organizationId = orgId ∧ py.sqlLower (sqlTrim entry.2.name) = key ∧
    entry.2.isActive = true ∧ some entry.1 ≠ excludeId)

/-- `_name_taken`. -/
def nameTaken (db : Tables) (orgId : OrganizationId) (name : Str) (excludeId : Option TaskId) : Bool :=
  activeNamed py db orgId (py.lower name.strip) excludeId

/-! ## What a request commits -/

/-- A column of an `UPDATE`: set where the edit changed it, left as it is elsewhere. -/
def setColumn {α : Type} [DecidableEq α] (loaded edited current : α) : α := if edited = loaded then current else edited

/-- The row after `UPDATE .. SET <changed columns> WHERE id = :id`. -/
def TaskRow.updated (current loaded edited : TaskRow) : TaskRow where
  organizationId := current.organizationId
  dataSourceId := setColumn loaded.dataSourceId edited.dataSourceId current.dataSourceId
  name := setColumn loaded.name edited.name current.name
  description := setColumn loaded.description edited.description current.description
  taskType := setColumn loaded.taskType edited.taskType current.taskType
  schedule := setColumn loaded.schedule edited.schedule current.schedule
  scheduleIntervalSeconds :=
    setColumn loaded.scheduleIntervalSeconds edited.scheduleIntervalSeconds current.scheduleIntervalSeconds
  nextRunAt := setColumn loaded.nextRunAt edited.nextRunAt current.nextRunAt
  maxAttempts := setColumn loaded.maxAttempts edited.maxAttempts current.maxAttempts
  timeoutSeconds := setColumn loaded.timeoutSeconds edited.timeoutSeconds current.timeoutSeconds
  isActive := setColumn loaded.isActive edited.isActive current.isActive
  createdBy := current.createdBy

inductive Write
  | insert (id : TaskId) (row : TaskRow)
  | update (id : TaskId) (loaded edited : TaskRow)
  | insertRun (run : TaskRunRow)
deriving DecidableEq, Repr

/-- The task whose row a write locks; a run's foreign key locks its task. -/
def Write.target : Write → TaskId
  | .insert id _     => id
  | .update id _ _   => id
  | .insertRun run   => run.taskId

/-- A run goes in under a task of its organization and an id of its own. -/
def Tables.insertRun (db : Tables) (run : TaskRunRow) : Option Tables :=
  if (db.tasks.get? run.taskId).any (fun task => task.organizationId = run.organizationId) = true ∧
      run.id ∉ db.runs.map (fun r => r.id) then
    some { db with runs := db.runs ++ [run] }
  else none

/-- What the commit leaves; `none` is an `IntegrityError`. -/
def Write.apply (db : Tables) : Write → Option Tables
  | .insert id row =>
    if db.tasks.get? id = none ∧ row.Checks ∧ ¬ (row.isActive = true ∧
        activeNamed py db row.organizationId (py.sqlLower (sqlTrim row.name)) (some id) = true) then
      some { db with tasks := db.tasks.set id row }
    else none
  | .update id loaded edited =>
    match db.tasks.get? id with
    | none         => none
    | some current =>
      let row := current.updated loaded edited
      if row.Checks ∧ ¬ (row.isActive = true ∧
          activeNamed py db row.organizationId (py.sqlLower (sqlTrim row.name)) (some id) = true) then
        some { db with tasks := db.tasks.set id row }
      else none
  | .insertRun run => db.insertRun run

/-! ## The requests -/

structure TaskCreate where
  name                    : Str
  dataSourceId            : Option DataSourceId := none
  description             : Option Str := none
  taskType                : TaskType
  schedule                : Option Str := none
  scheduleIntervalSeconds : Option Nat := none
  maxAttempts             : Option Nat := none
  timeoutSeconds          : Option Nat := none

/-- A field that may be `null` is `none` when it was omitted. -/
structure TaskUpdate where
  name                    : Option Str := none
  dataSourceId            : Option (Option DataSourceId) := none
  description             : Option Str := none
  taskType                : Option TaskType := none
  schedule                : Option (Option Str) := none
  scheduleIntervalSeconds : Option (Option Nat) := none
  maxAttempts             : Option (Option Nat) := none
  timeoutSeconds          : Option (Option Nat) := none

def taskExists (name : Str) : HTTPException := ⟨409, "A task named '" ++ String.ofList name ++ "' already exists"⟩

/-- `_normalize_name`. -/
def normalizeName (name : Str) : Except HTTPException Str :=
  if name.strip = [] then .error ⟨422, "name must not be blank"⟩ else .ok name.strip

/-- The validator of a PATCH, whose name may be omitted. -/
def normalizeNameUpdate : Option Str → Except HTTPException (Option Str)
  | some name => (normalizeName name).map some
  | none      => .ok none

/-- `_validate_schedule_interval_bounds`. -/
def validateScheduleIntervalBounds (v : Option Nat) : Except HTTPException Unit :=
  match v with
  | none   => .ok ()
  | some v =>
    if v < settings.minimumScheduleIntervalSeconds then
      .error ⟨422, s!"schedule_interval_seconds must be at least {settings.minimumScheduleIntervalSeconds} seconds"⟩
    else if settings.maximumScheduleIntervalSeconds < v then
      .error ⟨422, s!"schedule_interval_seconds must be at most {settings.maximumScheduleIntervalSeconds} seconds"⟩
    else .ok ()

/-- `_validate_data_source_ref`. -/
def validateDataSourceRef (db : Tables) (dataSourceId : Option DataSourceId) (orgId : OrganizationId) :
    Except HTTPException Unit :=
  match dataSourceId with
  | none    => .ok ()
  | some id =>
    if (db.dataSources.get? id).any (fun source => source.organizationId = orgId ∧ source.isActive = true) then .ok ()
    else .error ⟨404, dataSourceNotFound⟩

/-- `_validate_schedule_interval_task_type`. -/
def validateScheduleIntervalTaskType (taskType : TaskType) (scheduleIntervalSeconds : Option Nat) :
    Except HTTPException Unit :=
  if scheduleIntervalSeconds ≠ none ∧ taskType ≠ .sync then
    .error ⟨400, "schedule_interval_seconds is only valid for SYNC tasks"⟩
  else .ok ()

/-- `_compute_next_run_at`. -/
def computeNextRunAt (now : Time) (scheduleIntervalSeconds : Nat) : Time := now + timedelta scheduleIntervalSeconds

/-- `_get_active_task_or_404`. -/
def getActiveTaskOr404 (db : Tables) (taskId : TaskId) (orgId : OrganizationId) : Except HTTPException TaskRow :=
  activeOr404 taskNotFound TaskRow.organizationId TaskRow.isActive orgId (db.tasks.get? taskId)

def createTask (db : Tables) (payload : TaskCreate) (currentUser : User) (id : TaskId) (now : Time) :
    Except HTTPException Write := do
  let name ← normalizeName payload.name
  validateScheduleIntervalBounds settings payload.scheduleIntervalSeconds
  validateDataSourceRef db payload.dataSourceId currentUser.organizationId
  if nameTaken py db currentUser.organizationId name none then .error (taskExists name)
  else
    validateScheduleIntervalTaskType payload.taskType payload.scheduleIntervalSeconds
    .ok (.insert id
      { organizationId := currentUser.organizationId, dataSourceId := payload.dataSourceId, name := name
        description := payload.description, taskType := payload.taskType, schedule := payload.schedule
        scheduleIntervalSeconds := payload.scheduleIntervalSeconds
        nextRunAt := payload.scheduleIntervalSeconds.map (computeNextRunAt now)
        maxAttempts := payload.maxAttempts, timeoutSeconds := payload.timeoutSeconds
        createdBy := some currentUser.id })

/-- The row as the request edits it in memory. -/
def TaskUpdate.edit (payload : TaskUpdate) (now : Time) (task : TaskRow) : TaskRow :=
  let interval := payload.scheduleIntervalSeconds.getD task.scheduleIntervalSeconds
  { task with
    name := match payload.name with
      | some name => if py.lower name ≠ py.lower task.name.strip then name else task.name
      | none      => task.name
    dataSourceId := payload.dataSourceId.getD task.dataSourceId
    description := match payload.description with
      | some description => some description
      | none             => task.description
    taskType := payload.taskType.getD task.taskType
    schedule := payload.schedule.getD task.schedule
    scheduleIntervalSeconds := interval
    nextRunAt := match payload.scheduleIntervalSeconds with
      | none                 => task.nextRunAt
      | some none            => none
      | some (some interval) => some (computeNextRunAt now interval)
    maxAttempts := payload.maxAttempts.getD task.maxAttempts
    timeoutSeconds := payload.timeoutSeconds.getD task.timeoutSeconds }

def updateTask (db : Tables) (taskId : TaskId) (payload : TaskUpdate) (currentUser : User) (now : Time) :
    Except HTTPException Write := do
  let name ← normalizeNameUpdate payload.name
  validateScheduleIntervalBounds settings (payload.scheduleIntervalSeconds.getD none)
  let task ← getActiveTaskOr404 db taskId currentUser.organizationId
  let renamed := name.any (fun name => py.lower name ≠ py.lower task.name.strip)
  if renamed ∧ nameTaken py db currentUser.organizationId (name.getD []) (some taskId) then
    .error (taskExists (name.getD []))
  else
    validateDataSourceRef db (payload.dataSourceId.getD none) currentUser.organizationId
    let edited := { payload with name := name }.edit py now task
    validateScheduleIntervalTaskType edited.taskType edited.scheduleIntervalSeconds
    .ok (.update taskId task edited)

def deleteTask (db : Tables) (taskId : TaskId) (currentUser : User) : Except HTTPException Write := do
  let task ← getActiveTaskOr404 db taskId currentUser.organizationId
  .ok (.update taskId task { task with isActive := false })

/-- The types whose runs build on a prior run. -/
def chainedTypes : List TaskType := [.transform, .standardize, .match, .export, .remediate, .validate]

/-- `create_task_run_record`. -/
def createTaskRunRecord (id : TaskRunId) (organizationId : OrganizationId) (taskId : TaskId) (triggeredBy : Option UserId)
    (sourceTaskRunId : Option TaskRunId) : TaskRunRow := ⟨id, organizationId, taskId, triggeredBy, sourceTaskRunId⟩

def createTaskRun (db : Tables) (taskId : TaskId) (sourceTaskRunId : Option TaskRunId) (currentUser : User)
    (id : TaskRunId) : Except HTTPException Write := do
  let task ← getActiveTaskOr404 db taskId currentUser.organizationId
  let run :=
    Write.insertRun (createTaskRunRecord id currentUser.organizationId taskId (some currentUser.id) sourceTaskRunId)
  if task.taskType ∈ chainedTypes then
    match sourceTaskRunId with
    | none        =>
      .error ⟨400, "source_task_run_id is required for TRANSFORM, STANDARDIZE, MATCH, EXPORT, REMEDIATE, " ++
      "and VALIDATE tasks"⟩
    | some source =>
      if db.runs.any (fun r => r.id = source ∧ r.organizationId = currentUser.organizationId) then .ok run
      else .error ⟨404, "Source task run not found"⟩
  else if sourceTaskRunId ≠ none then
    .error ⟨400, "source_task_run_id is only valid for TRANSFORM, STANDARDIZE, MATCH, EXPORT, REMEDIATE, " ++
      "and VALIDATE tasks"⟩
  else .ok run

inductive Request
  | create (payload : TaskCreate) (currentUser : User) (id : TaskId) (now : Time)
  | update (taskId : TaskId) (payload : TaskUpdate) (currentUser : User) (now : Time)
  | delete (taskId : TaskId) (currentUser : User)
  | run (taskId : TaskId) (sourceTaskRunId : Option TaskRunId) (currentUser : User) (id : TaskRunId)

/-- The endpoints, each as its reads and its later commit. -/
def endpoints : Tickets.Protocol Tables Request HTTPException Write where
  plan := fun r db => match r with
    | .create payload currentUser id now         => createTask py settings db payload currentUser id now
    | .update taskId payload currentUser now     => updateTask py settings db taskId payload currentUser now
    | .delete taskId currentUser                 => deleteTask db taskId currentUser
    | .run taskId sourceTaskRunId currentUser id => createTaskRun db taskId sourceTaskRunId currentUser id
  write := fun w db => (w.apply py db).getD db

/-! ## What a request plans -/

theorem bind_eq_ok {α β ε : Type} {x : Except ε α} {f : α → Except ε β} {b : β} (h : (x >>= f) = .ok b) :
    ∃ a, x = .ok a ∧ f a = .ok b := by
  cases x with
  | ok a => exact ⟨a, rfl, h⟩
  | error e => cases h

/-- The type and the interval go together. -/
def TaskRow.SyncWhenScheduled (row : TaskRow) : Prop := row.scheduleIntervalSeconds ≠ none → row.taskType = .sync

theorem validateScheduleIntervalTaskType_ok {taskType : TaskType} {interval : Option Nat} {u : Unit}
    (h : validateScheduleIntervalTaskType taskType interval = .ok u) (hinterval : interval ≠ none) : taskType = .sync := by
  unfold validateScheduleIntervalTaskType at h
  split at h
  · cases h
  · rename_i hok
    exact Classical.byContradiction (fun hne => hok ⟨hinterval, hne⟩)

theorem createTask_ok {db : Tables} {payload : TaskCreate} {currentUser : User} {id : TaskId} {now : Time} {w : Write}
    (h : createTask py settings db payload currentUser id now = .ok w) :
    ∃ row, w = .insert id row ∧ row.SyncWhenScheduled := by
  unfold createTask at h
  obtain ⟨name, -, h⟩ := bind_eq_ok h
  obtain ⟨-, -, h⟩ := bind_eq_ok h
  obtain ⟨-, -, h⟩ := bind_eq_ok h
  split at h
  · cases h
  · obtain ⟨u, hok, h⟩ := bind_eq_ok h
    cases h
    exact ⟨_, rfl, validateScheduleIntervalTaskType_ok hok⟩

theorem updateTask_ok {db : Tables} {taskId : TaskId} {payload : TaskUpdate} {currentUser : User} {now : Time} {w : Write}
    (h : updateTask py settings db taskId payload currentUser now = .ok w) :
    ∃ task edited, w = .update taskId task edited ∧ edited.SyncWhenScheduled := by
  unfold updateTask at h
  obtain ⟨name, -, h⟩ := bind_eq_ok h
  obtain ⟨-, -, h⟩ := bind_eq_ok h
  obtain ⟨task, -, h⟩ := bind_eq_ok h
  dsimp only at h
  split at h
  · cases h
  · obtain ⟨-, -, h⟩ := bind_eq_ok h
    obtain ⟨u, hok, h⟩ := bind_eq_ok h
    cases h
    exact ⟨_, _, rfl, validateScheduleIntervalTaskType_ok hok⟩

theorem getActiveTaskOr404_ok {db : Tables} {taskId : TaskId} {orgId : OrganizationId} {task : TaskRow}
    (h : getActiveTaskOr404 db taskId orgId = .ok task) : db.tasks.get? taskId = some task :=
  (activeOr404_eq_ok.1 h).1

theorem deleteTask_ok {db : Tables} {taskId : TaskId} {currentUser : User} {w : Write}
    (h : deleteTask db taskId currentUser = .ok w) :
    ∃ task, db.tasks.get? taskId = some task ∧ w = .update taskId task { task with isActive := false } := by
  unfold deleteTask at h
  obtain ⟨task, htask, h⟩ := bind_eq_ok h
  cases h
  exact ⟨task, getActiveTaskOr404_ok htask, rfl⟩

theorem createTaskRun_ok {db : Tables} {taskId : TaskId} {source : Option TaskRunId} {currentUser : User}
    {id : TaskRunId} {w : Write} (h : createTaskRun db taskId source currentUser id = .ok w) :
    w = .insertRun (createTaskRunRecord id currentUser.organizationId taskId (some currentUser.id) source) := by
  unfold createTaskRun at h
  obtain ⟨task, -, h⟩ := bind_eq_ok h
  dsimp only at h
  split at h
  · split at h
    · cases h
    · split at h
      · cases h
        rfl
      · cases h
  · split at h
    · cases h
    · cases h
      rfl

theorem createTaskRun_task {db : Tables} {taskId : TaskId} {source : Option TaskRunId} {currentUser : User}
    {id : TaskRunId} {w : Write} (h : createTaskRun db taskId source currentUser id = .ok w) :
    ∃ task, db.tasks.get? taskId = some task := by
  unfold createTaskRun at h
  obtain ⟨task, htask, -⟩ := bind_eq_ok h
  exact ⟨task, getActiveTaskOr404_ok htask⟩

/-- **An accepted run names a source exactly when its task's type is one of the chained ones.** -/
theorem createTaskRun_source_iff {db : Tables} {taskId : TaskId} {source : Option TaskRunId} {currentUser : User}
    {id : TaskRunId} {w : Write} (h : createTaskRun db taskId source currentUser id = .ok w) {task : TaskRow}
    (htask : db.tasks.get? taskId = some task) : source ≠ none ↔ task.taskType ∈ chainedTypes := by
  unfold createTaskRun at h
  obtain ⟨row, hrow, h⟩ := bind_eq_ok h
  have hrow : row = task := Option.some.inj ((getActiveTaskOr404_ok hrow).symm.trans htask)
  subst hrow
  dsimp only at h
  split at h
  · rename_i hchained
    split at h
    · cases h
    · simp [hchained]
  · rename_i hchained
    split at h
    · cases h
    · rename_i hsource
      simp only [hsource, hchained]

/-! ## What a commit leaves -/

/-- The runs of a task. -/
def Tables.runsOf (db : Tables) (id : TaskId) : List TaskRunRow := db.runs.filter (fun r => r.taskId = id)

/-- **Everything an accepted commit can do.** -/
theorem Write.apply_cases {w : Write} {db db' : Tables} (h : w.apply py db = some db') :
    (∃ id row, w = .insert id row ∧ db.tasks.get? id = none ∧ row.Checks ∧
      db' = { db with tasks := db.tasks.set id row }) ∨
    (∃ id loaded edited current, w = .update id loaded edited ∧ db.tasks.get? id = some current ∧
      (current.updated loaded edited).Checks ∧
      db' = { db with tasks := db.tasks.set id (current.updated loaded edited) }) ∨
    (∃ run, w = .insertRun run ∧ run.id ∉ db.runs.map (fun r => r.id) ∧ db' = { db with runs := db.runs ++ [run] }) := by
  cases w with
  | insert id row =>
    simp only [Write.apply] at h
    split at h
    · rename_i hok
      exact .inl ⟨id, row, rfl, hok.1, hok.2.1, (Option.some.inj h).symm⟩
    · cases h
  | update id loaded edited =>
    simp only [Write.apply] at h
    split at h
    · cases h
    · rename_i current hcurrent
      split at h
      · rename_i hok
        exact .inr (.inl ⟨id, loaded, edited, current, rfl, hcurrent, hok.1, (Option.some.inj h).symm⟩)
      · cases h
  | insertRun run =>
    simp only [Write.apply, Tables.insertRun] at h
    split at h
    · rename_i hok
      exact .inr (.inr ⟨run, rfl, hok.2, (Option.some.inj h).symm⟩)
    · cases h

/-- A commit leaves the rows it does not target as they are. -/
theorem Write.apply_tasks_of_ne {w : Write} {db db' : Tables} (h : w.apply py db = some db') {id : TaskId}
    (hne : w.target ≠ id) : db'.tasks.get? id = db.tasks.get? id := by
  rcases w.apply_cases py h with ⟨t, row, rfl, -, -, rfl⟩ | ⟨t, loaded, edited, current, rfl, -, -, rfl⟩ |
    ⟨run, rfl, -, rfl⟩
  · exact (Dict.get?_set _ _ _ _).trans (if_neg hne)
  · exact (Dict.get?_set _ _ _ _).trans (if_neg hne)
  · rfl

theorem Write.apply_runsOf_of_ne {w : Write} {db db' : Tables} (h : w.apply py db = some db') {id : TaskId}
    (hne : w.target ≠ id) : db'.runsOf id = db.runsOf id := by
  rcases w.apply_cases py h with ⟨t, row, rfl, -, -, rfl⟩ | ⟨t, loaded, edited, current, rfl, -, -, rfl⟩ |
    ⟨run, rfl, -, rfl⟩
  · rfl
  · rfl
  · have hrun : run.taskId ≠ id := hne
    simp [Tables.runsOf, List.filter_append, hrun]

/-- A commit leaves every row within the constraints. -/
theorem Write.apply_checks {w : Write} {db db' : Tables} (h : w.apply py db = some db')
    (hdb : ∀ id row, db.tasks.get? id = some row → row.Checks) (id : TaskId) (row : TaskRow)
    (hrow : db'.tasks.get? id = some row) : row.Checks := by
  by_cases ht : w.target = id
  · rcases w.apply_cases py h with ⟨t, row', rfl, -, hok, rfl⟩ | ⟨t, loaded, edited, current, rfl, -, hok, rfl⟩ |
      ⟨run, rfl, -, rfl⟩
    · rw [Dict.get?_set, if_pos (show t = id from ht)] at hrow
      exact Option.some.inj hrow ▸ hok
    · rw [Dict.get?_set, if_pos (show t = id from ht)] at hrow
      exact Option.some.inj hrow ▸ hok
    · exact hdb id row hrow
  · rw [w.apply_tasks_of_ne py h ht] at hrow
    exact hdb id row hrow

end
end Schedule
end DataOps

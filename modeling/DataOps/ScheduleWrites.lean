import DataOps.DataSourceWrites
import DataOps.ScheduleSkew
/-!
# ScheduleWrites — what requests on tasks plan, and what their commits leave

Part of a plan stays true whatever commits before it (`Write.Sound`).  The rest is what its checks saw, until another write
takes it: that its name is free, and the schedule that it changes (`Write.OnSchedule`).
-/
namespace DataOps
namespace Schedule

open Api (Time OrganizationId UserId TaskId TaskRunId User HTTPException activeOr404_eq_ok)
open Registry (Naming Unambiguous holders)
open Tickets (Ticket)
open Trace (exec)

/-- `ix_tasks_org_name_active`. -/
def taskNaming (py : Backend) : Naming TaskRow OrganizationId Str where
  owner := TaskRow.organizationId
  name := fun row => py.sqlLower (sqlTrim row.name)
  active := TaskRow.isActive

section
variable (py : Backend)

theorem activeNamed_eq (db : Tables) (orgId : OrganizationId) (key : Str) (excludeId : Option TaskId) :
    activeNamed py db orgId key excludeId = !(holders (taskNaming py) db.tasks orgId key excludeId).isEmpty := by
  rw [Bool.eq_iff_iff, Bool.not_eq_true', ← Bool.not_eq_true, List.isEmpty_iff, Registry.holders_eq_nil_iff]
  simp only [activeNamed, List.any_eq_true, decide_eq_true_eq]
  push Not
  rfl

/-- The constraint on names. -/
theorem activeNamed_eq_false_iff {db : Tables} {id : TaskId} {row : TaskRow} :
    ¬ (row.isActive = true ∧ activeNamed py db row.organizationId (py.sqlLower (sqlTrim row.name)) (some id) = true) ↔
      ((taskNaming py).active row = true → holders (taskNaming py) db.tasks ((taskNaming py).owner row)
        ((taskNaming py).name row) (some id) = []) := by
  rw [activeNamed_eq, not_and, Bool.not_eq_true, Bool.not_eq_false', List.isEmpty_iff]
  rfl

/-- The name a write takes, and of which organization. -/
def Write.takes : Write → Option (OrganizationId × Str)
  | .insert _ row           => some (row.organizationId, py.sqlLower (sqlTrim row.name))
  | .update _ loaded edited =>
    if edited.name = loaded.name then none else some (loaded.organizationId, py.sqlLower (sqlTrim edited.name))
  | .insertRun _            => none

/-- The name a write gives. -/
def Write.names : Write → Option Str
  | .insert _ row           => some row.name
  | .update _ loaded edited => if edited.name = loaded.name then none else some edited.name
  | .insertRun _            => none

/-- The task whose schedule a write changes. -/
def Write.reschedules : Write → Option TaskId
  | .update id loaded edited =>
    if edited.scheduleIntervalSeconds = loaded.scheduleIntervalSeconds ∧ edited.nextRunAt = loaded.nextRunAt then none
    else some id
  | _ => none

/-- The task a write is about, if it exists already. -/
def Write.edits : Write → Option TaskId
  | .update id _ _ => some id
  | _              => none

/-- The name is free, if the check for it saw it as the index does. -/
def Write.NameFree (db : Tables) (w : Write) : Prop :=
  (∀ name, w.names = some name → py.Alike name) → ∀ n, w.takes py = some n →
    holders (taskNaming py) db.tasks n.1 n.2 w.edits = []

/-- What stays true of a planned write, whatever commits before it. -/
def Write.Sound (db : Tables) : Write → Prop
  | .insert _ row            => (row.name.strip = row.name ∧ row.name ≠ []) ∧ row.Checks
  | .update id loaded edited => (edited.name.strip = edited.name ∧ edited.name ≠ []) ∧ edited.Checks ∧
    edited.organizationId = loaded.organizationId ∧ (edited.isActive = loaded.isActive ∨ edited.isActive = false) ∧
    ∃ current, db.tasks.get? id = some current ∧ current.organizationId = loaded.organizationId
  | .insertRun run           => ∃ task, db.tasks.get? run.taskId = some task ∧ task.organizationId = run.organizationId

/-- The schedule is still as the request read it, but for the advances of the scheduler. -/
def Write.OnSchedule (db : Tables) : Write → Prop
  | .update id loaded _ => ∀ current, db.tasks.get? id = some current →
    current.scheduleIntervalSeconds = loaded.scheduleIntervalSeconds ∧ (current.nextRunAt = none ↔ loaded.nextRunAt = none)
  | _ => True

/-- A committed write takes what a pending one is about to take, or changes the schedule it changes. -/
def Write.Overtakes (w w' : Write) : Prop :=
  (∃ n, w.takes py = some n ∧ w'.takes py = some n) ∨ ∃ id, w.reschedules = some id ∧ w'.reschedules = some id

variable {py}

/-! ## The rows that commits write -/

theorem updated_isActive {current loaded edited : TaskRow}
    (h : edited.isActive = loaded.isActive ∨ edited.isActive = false)
    (hactive : (current.updated loaded edited).isActive = true) : current.isActive = true := by
  simp only [TaskRow.updated, setColumn] at hactive
  split at hactive
  · exact hactive
  · rename_i hne
    rcases h with heq | hfalse
    · exact absurd heq hne
    · rw [hfalse] at hactive
      cases hactive

/-- A task keeps its name, or goes by the one it was edited to. -/
theorem updated_name {current loaded edited : TaskRow} (h : edited.isActive = loaded.isActive ∨ edited.isActive = false) :
    (edited.name = loaded.name ∧ (current.updated loaded edited).name = current.name ∧
      (taskNaming py).Keeps current (current.updated loaded edited)) ∨
    (edited.name ≠ loaded.name ∧ (current.updated loaded edited).name = edited.name) := by
  by_cases hname : edited.name = loaded.name
  · have hnew : (current.updated loaded edited).name = current.name := by
      simp only [TaskRow.updated, setColumn, if_pos hname]
    exact .inl ⟨hname, hnew, rfl, congrArg (fun name => py.sqlLower (sqlTrim name)) hnew,
      fun (hactive : (current.updated loaded edited).isActive = true) => updated_isActive h hactive⟩
  · exact .inr ⟨hname, by simp only [TaskRow.updated, setColumn, if_neg hname]⟩

/-- **The constraints hold of the row after**: of the schedule that was there, or of the one that was edited onto what is
there still. -/
theorem updated_checks {current loaded edited : TaskRow} (hcurrent : current.Checks) (hedited : edited.Checks)
    (h : ¬ (edited.scheduleIntervalSeconds = loaded.scheduleIntervalSeconds ∧ edited.nextRunAt = loaded.nextRunAt) →
      current.scheduleIntervalSeconds = loaded.scheduleIntervalSeconds ∧
        (current.nextRunAt = none ↔ loaded.nextRunAt = none)) : (current.updated loaded edited).Checks := by
  by_cases hsame : edited.scheduleIntervalSeconds = loaded.scheduleIntervalSeconds ∧ edited.nextRunAt = loaded.nextRunAt
  · simp only [TaskRow.Checks, TaskRow.updated, setColumn, if_pos hsame.1, if_pos hsame.2]
    exact hcurrent
  · obtain ⟨hinterval, hnext⟩ := h hsame
    have hintervalNew : setColumn loaded.scheduleIntervalSeconds edited.scheduleIntervalSeconds
        current.scheduleIntervalSeconds = edited.scheduleIntervalSeconds := by
      unfold setColumn
      split
      · rename_i heq
        rw [hinterval, heq]
      · rfl
    have hnextNew : setColumn loaded.nextRunAt edited.nextRunAt current.nextRunAt = none ↔ edited.nextRunAt = none := by
      unfold setColumn
      split
      · rename_i heq
        rw [hnext, heq]
      · exact Iff.rfl
    simp only [TaskRow.Checks, TaskRow.updated, hintervalNew, hnextNew]
    exact hedited

/-- No task goes away or changes hands. -/
theorem Write.apply_task {db db' : Tables} {w : Write} (h : w.apply py db = some db') {id : TaskId} {row : TaskRow}
    (hrow : db.tasks.get? id = some row) :
    ∃ row', db'.tasks.get? id = some row' ∧ row'.organizationId = row.organizationId := by
  by_cases ht : w.target = id
  · rcases w.apply_cases py h with ⟨id', row', rfl, hnone, -, -⟩ |
      ⟨id', loaded, edited, current, rfl, hcurrent, -, rfl⟩ |
      ⟨run, rfl, -, rfl⟩
    · rw [show id' = id from ht, hrow] at hnone
      cases hnone
    · obtain rfl : id' = id := ht
      obtain rfl : current = row := Option.some.inj (hcurrent.symm.trans hrow)
      exact ⟨_, (Dict.get?_set _ _ _ _).trans (if_pos rfl), rfl⟩
    · exact ⟨row, hrow, rfl⟩
  · exact ⟨row, (w.apply_tasks_of_ne py h ht).trans hrow, rfl⟩

theorem Write.Sound.apply {db db' : Tables} {w w' : Write} (hw : w.Sound db) (h : w'.apply py db = some db') :
    w.Sound db' := by
  cases w with
  | insert id row => exact hw
  | update id loaded edited =>
    obtain ⟨hname, hchecks, horg, hactive, current, hcurrent, hcurrentOrg⟩ := hw
    obtain ⟨row', hrow', horg'⟩ := w'.apply_task h hcurrent
    exact ⟨hname, hchecks, horg, hactive, row', hrow', horg'.trans hcurrentOrg⟩
  | insertRun run =>
    obtain ⟨task, htask, horg⟩ := hw
    obtain ⟨row', hrow', horg'⟩ := w'.apply_task h htask
    exact ⟨row', hrow', horg'.trans horg⟩

/-- **Everything an accepted commit can do to the names.** -/
theorem Write.apply_names {db db' : Tables} {w : Write} (h : w.apply py db = some db') (hw : w.Sound db) :
    db'.tasks = db.tasks ∨ ∃ id row, db'.tasks = db.tasks.set id row ∧
      ((taskNaming py).active row = true →
        holders (taskNaming py) db.tasks ((taskNaming py).owner row) ((taskNaming py).name row) (some id) = []) ∧
      ((∃ old, db.tasks.get? id = some old ∧ row.name = old.name ∧ (taskNaming py).Keeps old row) ∨
        (row.name.strip = row.name ∧ row.name ≠ []) ∧
          w.takes py = some ((taskNaming py).owner row, (taskNaming py).name row)) := by
  cases w with
  | insert id row =>
    simp only [Write.apply] at h
    split at h
    · rename_i hok
      cases h
      exact .inr ⟨id, row, rfl, (activeNamed_eq_false_iff py).1 hok.2.2, .inr ⟨hw.1, rfl⟩⟩
    · cases h
  | update id loaded edited =>
    obtain ⟨hname, -, -, hactive, current', hcurrent', horg⟩ := hw
    simp only [Write.apply, hcurrent'] at h
    split at h
    · rename_i hok
      cases h
      refine .inr ⟨id, _, rfl, (activeNamed_eq_false_iff py).1 hok.2, ?_⟩
      rcases @updated_name py current' loaded edited hactive with ⟨-, hsame, hkeeps⟩ | ⟨hne, hnew⟩
      · exact .inl ⟨current', hcurrent', hsame, hkeeps⟩
      · refine .inr ⟨by rw [hnew]; exact hname, ?_⟩
        simp only [Write.takes, if_neg hne, taskNaming, hnew]
        rw [← horg]
        rfl
    · cases h
  | insertRun run =>
    simp only [Write.apply, Tables.insertRun] at h
    split at h
    · cases h
      exact .inl rfl
    · cases h

/-- A commit leaves the schedules it does not change. -/
theorem Write.OnSchedule.apply {db db' : Tables} {w w' : Write} (hw : w.Sound db) {id : TaskId}
    (hid : w.reschedules = some id) (hon : w.OnSchedule db) (h : w'.apply py db = some db')
    (hother : w'.reschedules ≠ some id) : w.OnSchedule db' := by
  cases w with
  | update id' loaded edited =>
    obtain ⟨-, -, -, -, current, hcurrent, -⟩ := hw
    obtain rfl : id' = id := by
      rw [Write.reschedules] at hid
      split at hid
      · cases hid
      · exact Option.some.inj hid
    intro current' hcurrent'
    by_cases ht : w'.target = id'
    · rcases w'.apply_cases py h with ⟨t, row, rfl, hnone, -, -⟩ | ⟨t, l, e, row, rfl, hrow, -, rfl⟩ |
        ⟨run, rfl, -, rfl⟩
      · rw [show t = id' from ht, hcurrent] at hnone
        cases hnone
      · obtain rfl : t = id' := ht
        rw [Dict.get?_set, if_pos rfl, Option.some.injEq] at hcurrent'
        obtain ⟨hinterval, hnext⟩ : e.scheduleIntervalSeconds = l.scheduleIntervalSeconds ∧ e.nextRunAt = l.nextRunAt := by
          by_contra hne
          exact hother (if_neg hne)
        rw [← hcurrent']
        simp only [TaskRow.updated, setColumn, if_pos hinterval, if_pos hnext]
        exact hon row hrow
      · exact hon current' hcurrent'
    · rw [w'.apply_tasks_of_ne py h ht] at hcurrent'
      exact hon current' hcurrent'
  | _ => trivial

/-! ## Plans -/

theorem normalizeName_ok {name found : Str} (h : normalizeName name = .ok found) : found.strip = found ∧ found ≠ [] := by
  unfold normalizeName at h
  split at h
  · cases h
  · rename_i hne
    cases h
    exact ⟨Str.strip_strip name, hne⟩

theorem normalizeNameUpdate_ok {name found : Option Str} (h : normalizeNameUpdate name = .ok found) {v : Str}
    (hv : found = some v) : v.strip = v ∧ v ≠ [] := by
  cases name with
  | none =>
    cases h
    cases hv
  | some raw =>
    simp only [normalizeNameUpdate] at h
    cases hraw : normalizeName raw with
    | error e =>
      rw [hraw] at h
      cases h
    | ok found' =>
      rw [hraw] at h
      cases h
      exact Option.some.inj hv ▸ normalizeName_ok hraw

theorem validateScheduleIntervalBounds_ok {settings : Settings} {v : Option Nat} {u : Unit}
    (h : validateScheduleIntervalBounds settings v = .ok u) {interval : Nat} (hv : v = some interval) :
    settings.minimumScheduleIntervalSeconds ≤ interval := by
  subst hv
  simp only [validateScheduleIntervalBounds] at h
  split at h
  · cases h
  · rename_i hle
    exact Nat.le_of_not_lt hle

theorem getActiveTaskOr404_organizationId {db : Tables} {taskId : TaskId} {orgId : OrganizationId} {task : TaskRow}
    (h : getActiveTaskOr404 db taskId orgId = .ok task) : task.organizationId = orgId :=
  (activeOr404_eq_ok.1 h).2.1

/-- A free name, as the index sees it. -/
theorem holders_eq_nil_of_free {db : Tables} {orgId : OrganizationId} {name : Str} (hname : name.strip = name)
    (halike : py.Alike name) {excludeId : Option TaskId} (h : ¬ nameTaken py db orgId name excludeId = true) :
    holders (taskNaming py) db.tasks orgId (py.sqlLower (sqlTrim name)) excludeId = [] := by
  rw [nameTaken, hname, activeNamed_eq, Bool.not_eq_true, Bool.not_eq_false', List.isEmpty_iff] at h
  rw [DataSources.sqlTrim_of_strip hname, halike]
  exact h

/-- The name a task is edited to: the one it has, or another. -/
theorem edit_name (py : Backend) (payload : TaskUpdate) (now : Time) (task : TaskRow) :
    (payload.edit py now task).name = task.name ∨
      ∃ v, payload.name = some v ∧ py.lower v ≠ py.lower task.name.strip ∧ (payload.edit py now task).name = v := by
  unfold TaskUpdate.edit
  cases payload.name with
  | none => exact .inl rfl
  | some v =>
    by_cases hne : py.lower v ≠ py.lower task.name.strip
    · exact .inr ⟨v, rfl, hne, if_pos hne⟩
    · exact .inl (if_neg hne)

variable {settings : Settings} (hfloor : 30 ≤ settings.minimumScheduleIntervalSeconds)
include hfloor

/-- **A created task meets the constraints.** -/
theorem createTask_sound {db : Tables} {payload : TaskCreate} {currentUser : User} {id : TaskId} {now : Time} {w : Write}
    (h : createTask py settings db payload currentUser id now = .ok w) :
    w.Sound db ∧ w.NameFree py db := by
  unfold createTask at h
  obtain ⟨name, hname, h⟩ := bind_eq_ok h
  obtain ⟨u, hbounds, h⟩ := bind_eq_ok h
  obtain ⟨-, -, h⟩ := bind_eq_ok h
  split at h
  · cases h
  · rename_i hfree
    obtain ⟨-, -, h⟩ := bind_eq_ok h
    cases h
    refine ⟨⟨normalizeName_ok hname, fun interval hinterval => ?_, by simp⟩, fun halike n hn => ?_⟩
    · exact Nat.le_trans hfloor (validateScheduleIntervalBounds_ok hbounds hinterval)
    · cases hn
      exact holders_eq_nil_of_free (normalizeName_ok hname).1 (halike name rfl) hfree

omit py in
/-- **The schedule an edit leaves meets the constraints.** -/
theorem edit_checks (py : Backend) {payload : TaskUpdate} (now : Time) {task : TaskRow} (htask : task.Checks) {u : Unit}
    (hbounds : validateScheduleIntervalBounds settings (payload.scheduleIntervalSeconds.getD none) = .ok u) :
    (payload.edit py now task).Checks := by
  unfold TaskUpdate.edit TaskRow.Checks
  dsimp only
  cases hgiven : payload.scheduleIntervalSeconds with
  | none => exact htask
  | some given =>
    rw [hgiven, Option.getD_some] at hbounds
    cases given with
    | none => exact ⟨fun interval h => (by cases h), by simp⟩
    | some interval =>
      refine ⟨fun interval' h => ?_, by simp⟩
      cases h
      exact Nat.le_trans hfloor (validateScheduleIntervalBounds_ok hbounds rfl)

/-- **A PATCH that passes its checks** is sound, its new name is free, and its task is as it read it. -/
theorem updateTask_sound {db : Tables} (hdb : ∀ id row, db.tasks.get? id = some row → row.Checks)
    (htrimmed : ∀ e ∈ db.tasks, e.2.name.strip = e.2.name ∧ e.2.name ≠ []) {taskId : TaskId} {payload : TaskUpdate}
    {currentUser : User} {now : Time} {w : Write} (h : updateTask py settings db taskId payload currentUser now = .ok w) :
    w.Sound db ∧ w.OnSchedule db ∧ w.NameFree py db := by
  unfold updateTask at h
  obtain ⟨name, hname, h⟩ := bind_eq_ok h
  obtain ⟨u, hbounds, h⟩ := bind_eq_ok h
  obtain ⟨task, htask, h⟩ := bind_eq_ok h
  have hrow := getActiveTaskOr404_ok htask
  have horg := getActiveTaskOr404_organizationId htask
  dsimp only at h
  split at h
  · cases h
  · rename_i hfree
    obtain ⟨-, -, h⟩ := bind_eq_ok h
    obtain ⟨-, -, h⟩ := bind_eq_ok h
    cases h
    have hrenames : ∀ v, name = some v → py.lower v ≠ py.lower task.name.strip → py.Alike v →
        holders (taskNaming py) db.tasks task.organizationId (py.sqlLower (sqlTrim v)) (some taskId) = [] := by
      intro v hv hne halike
      refine holders_eq_nil_of_free (normalizeNameUpdate_ok hname hv).1 halike (fun htaken => hfree ⟨?_, ?_⟩)
      · rw [hv]
        simpa using hne
      · rw [hv, Option.getD_some, ← horg]
        exact htaken
    have hedited := edit_name py { payload with name := name } now task
    refine ⟨⟨?_, edit_checks hfloor py now (hdb taskId task hrow) hbounds, rfl, .inl rfl, task, hrow, rfl⟩, ?_, ?_⟩
    · rcases hedited with hsame | ⟨v, hv, -, hnew⟩
      · rw [hsame]
        exact htrimmed _ (Dict.mem_of_get?_eq_some hrow)
      · rw [hnew]
        exact normalizeNameUpdate_ok hname hv
    · intro current hcurrent
      obtain rfl : current = task := Option.some.inj (hcurrent.symm.trans hrow)
      exact ⟨rfl, Iff.rfl⟩
    · intro halike n hn
      rcases hedited with hsame | ⟨v, hv, hne, hnew⟩
      · rw [Write.takes, if_pos hsame] at hn
        cases hn
      · rw [Write.takes] at hn
        split at hn
        · cases hn
        · rename_i hother
          cases hn
          rw [hnew]
          exact hrenames v hv hne (hnew ▸ halike _ (if_neg hother))

/-- **What a request plans**: a sound write, against a name that is free and a schedule as it read it. -/
theorem endpoints_sound {db : Tables} (hdb : ∀ id row, db.tasks.get? id = some row → row.Checks)
    (htrimmed : ∀ e ∈ db.tasks, e.2.name.strip = e.2.name ∧ e.2.name ≠ []) {r : Request} {w : Write}
    (h : (endpoints py settings).plan r db = .ok w) :
    w.Sound db ∧ w.NameFree py db ∧ w.OnSchedule db := by
  cases r with
  | create payload currentUser id now =>
    obtain ⟨hsound, hname⟩ := createTask_sound hfloor h
    obtain ⟨row, rfl, -⟩ := createTask_ok py settings h
    exact ⟨hsound, hname, trivial⟩
  | update taskId payload currentUser now =>
    obtain ⟨hsound, hon, hname⟩ := updateTask_sound hfloor hdb htrimmed h
    exact ⟨hsound, hname, hon⟩
  | delete taskId currentUser =>
    obtain ⟨task, hrow, rfl⟩ := deleteTask_ok h
    refine ⟨⟨htrimmed _ (Dict.mem_of_get?_eq_some hrow), hdb taskId task hrow, rfl, .inr rfl, task, hrow, rfl⟩,
      fun _ n hn => ?_,
      fun current hcurrent => ?_⟩
    · rw [Write.takes, if_pos rfl] at hn
      cases hn
    · obtain rfl : current = task := Option.some.inj (hcurrent.symm.trans hrow)
      exact ⟨rfl, Iff.rfl⟩
  | run taskId source currentUser id =>
    obtain ⟨task, hrow⟩ := createTaskRun_task h
    obtain rfl := createTaskRun_ok h
    refine ⟨⟨task, hrow, ?_⟩, fun _ n hn => (by cases hn), trivial⟩
    have h' : (getActiveTaskOr404 db taskId currentUser.organizationId >>= _) = .ok _ := h
    obtain ⟨task', htask', -⟩ := bind_eq_ok h'
    obtain rfl : task' = task := Option.some.inj ((getActiveTaskOr404_ok htask').symm.trans hrow)
    exact getActiveTaskOr404_organizationId htask'

end
end Schedule
end DataOps

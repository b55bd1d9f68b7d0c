import Mathlib.Data.List.Basic
/-!
# ApiTables — what every task-run endpoint looks up first

The rows behind the endpoints' shared 404 chain: the task, active and of the caller's organization, the run, of the task
and the organization, and what was persisted for it.
-/
namespace DataOps
namespace Api

abbrev Time := Nat
abbrev OrganizationId := Nat
abbrev UserId := Nat
abbrev TaskId := Nat
abbrev TaskRunId := Nat

structure HTTPException where
  statusCode : Nat
  detail     : String
deriving DecidableEq, Repr

structure User where
  id             : UserId
  organizationId : OrganizationId
  email          : String
  fullName       : Option String
  isSuperuser    : Bool
deriving DecidableEq, Repr

structure Task where
  organizationId : OrganizationId
  isActive       : Bool
deriving DecidableEq, Repr

structure TaskRun where
  taskId         : TaskId
  organizationId : OrganizationId
deriving DecidableEq, Repr

/-- The tables of the 404 chain; no endpoint here writes to them. -/
structure TaskTables where
  tasks    : TaskId → Option Task
  taskRuns : TaskRunId → Option TaskRun

/-! ## The lookups -/

inductive RunKind
  | cleaning | standardization | matching | export
deriving DecidableEq, Repr

def RunKind.notFound : RunKind → String
  | .cleaning        => "Cleaning result not found"
  | .standardization => "Standardization result not found"
  | .matching        => "Match result not found"
  | .export          => "Export result not found"

def taskNotFound : String := "Task not found"
def taskRunNotFound : String := "Task run not found"
def dataSourceNotFound : String := "Data source not found"
def remediationNotFound : String := "Remediation result not found"
def changeNotFound : String := "Remediation change not found"

/-- `.scalar_one_or_none()`; several rows are `MultipleResultsFound`, which no endpoint catches. -/
def scalarOneOrNone {α : Type} : List α → Except HTTPException (Option α)
  | []    => .ok none
  | [row] => .ok (some row)
  | _     => .error ⟨500, "Internal Server Error"⟩

/-- The row, or a 404. -/
def foundOr404 {α : Type} (detail : String) : Option α → Except HTTPException α
  | some row => .ok row
  | none     => .error ⟨404, detail⟩

/-- The row, if it is active and of the organization. -/
def activeOr404 {α : Type} (detail : String) (organizationId : α → OrganizationId) (isActive : α → Bool)
    (orgId : OrganizationId) (row : Option α) : Except HTTPException α :=
  foundOr404 detail (row.filter (fun r => organizationId r = orgId ∧ isActive r = true))

/-- The row, if it is of the task and of the organization. -/
def ofTaskOr404 {α : Type} (detail : String) (taskIdOf : α → TaskId) (organizationId : α → OrganizationId)
    (taskId : TaskId) (orgId : OrganizationId) (row : Option α) : Except HTTPException α :=
  foundOr404 detail (row.filter (fun r => taskIdOf r = taskId ∧ organizationId r = orgId))

/-- `_get_active_task_or_404`. -/
def getActiveTaskOr404 (db : TaskTables) (taskId : TaskId) (orgId : OrganizationId) : Except HTTPException Task :=
  activeOr404 taskNotFound Task.organizationId Task.isActive orgId (db.tasks taskId)

/-- The run, of the task and the organization. -/
def getTaskRunOr404 (db : TaskTables) (taskId : TaskId) (runId : TaskRunId) (orgId : OrganizationId) :
    Except HTTPException TaskRun := do
  let _ ← getActiveTaskOr404 db taskId orgId
  ofTaskOr404 taskRunNotFound TaskRun.taskId TaskRun.organizationId taskId orgId (db.taskRuns runId)

/-- The chain of a result: the run, and what was persisted for it. -/
def resultOr404 {α : Type} (detail : String) (taskIdOf : α → TaskId) (organizationId : α → OrganizationId)
    (db : TaskTables) (taskId : TaskId) (runId : TaskRunId) (orgId : OrganizationId) (row : Option α) :
    Except HTTPException α := do
  let _ ← getTaskRunOr404 db taskId runId orgId
  ofTaskOr404 detail taskIdOf organizationId taskId orgId row

section
variable {α : Type} {detail : String} {found : Option α} {row : α} {orgId : OrganizationId} {taskId : TaskId}
  {organizationId : α → OrganizationId}

theorem foundOr404_eq_ok : foundOr404 detail found = .ok row ↔ found = some row := by
  cases found with
  | none => simp [foundOr404]
  | some row' => simp [foundOr404]

theorem activeOr404_eq_ok {isActive : α → Bool} :
    activeOr404 detail organizationId isActive orgId found = .ok row ↔
      found = some row ∧ organizationId row = orgId ∧ isActive row = true := by
  rw [activeOr404, foundOr404_eq_ok, Option.filter_eq_some_iff, decide_eq_true_eq]

theorem ofTaskOr404_eq_ok {taskIdOf : α → TaskId} :
    ofTaskOr404 detail taskIdOf organizationId taskId orgId found = .ok row ↔
      found = some row ∧ taskIdOf row = taskId ∧ organizationId row = orgId := by
  rw [ofTaskOr404, foundOr404_eq_ok, Option.filter_eq_some_iff, decide_eq_true_eq]

/-- **What the chain of a result finds.** -/
theorem resultOr404_eq_ok {taskIdOf : α → TaskId} {db : TaskTables} {runId : TaskRunId} :
    resultOr404 detail taskIdOf organizationId db taskId runId orgId found = .ok row ↔
      (∃ run, getTaskRunOr404 db taskId runId orgId = .ok run) ∧
        found = some row ∧ taskIdOf row = taskId ∧ organizationId row = orgId := by
  unfold resultOr404
  cases hrun : getTaskRunOr404 db taskId runId orgId with
  | error e => simp [bind, Except.bind]
  | ok run =>
    simp only [bind, Except.bind, Except.ok.injEq, exists_eq', true_and]
    exact ofTaskOr404_eq_ok

end

end Api
end DataOps

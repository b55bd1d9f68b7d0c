import Mathlib.Algebra.Group.Nat.Defs
import Mathlib.Data.List.Sort
/-!
# WorkerTable — the `task_runs` and `task_run_events` tables

The columns the worker reads and writes, the table's CHECK constraints, and the append-only event log.  Ids and lease
tokens are opaque UUIDs in the source; here they are numbers, and `uuid4()` is a supply that never repeats.
-/
namespace DataOps
namespace Worker

/-- Microseconds, the resolution of `datetime`. -/
abbrev Time := Nat
abbrev RunId := Nat
abbrev LeaseToken := Nat

/-- `timedelta(seconds=n)`. -/
def timedelta (seconds : Nat) : Time := 1000000 * seconds

inductive TaskRunStatus
  | pending | running | success | failed
deriving DecidableEq, Repr

structure TaskRun where
  status          : TaskRunStatus
  startedAt       : Option Time
  finishedAt      : Option Time
  logOutput       : Option String
  errorMessage    : Option String
  createdAt       : Time
  leaseToken      : Option LeaseToken
  leaseExpiresAt  : Option Time
  lastHeartbeatAt : Option Time
  attemptCount    : Nat
  nextRetryAt     : Option Time
deriving DecidableEq, Repr

/-- A row as `create_task_run_record` inserts it: every column at its default. -/
def TaskRun.fresh (createdAt : Time) : TaskRun where
  status := .pending
  startedAt := none
  finishedAt := none
  logOutput := none
  errorMessage := none
  createdAt := createdAt
  leaseToken := none
  leaseExpiresAt := none
  lastHeartbeatAt := none
  attemptCount := 0
  nextRetryAt := none

/-! ## The CHECK constraints -/

/-- `ck_task_runs_status_invariants`. -/
def TaskRun.statusInvariants (r : TaskRun) : Prop :=
  (r.status = .pending ∧ r.startedAt = none ∧ r.finishedAt = none ∧ r.errorMessage = none) ∨
  (r.status = .running ∧ r.startedAt ≠ none ∧ r.finishedAt = none) ∨
  (r.status = .success ∧ r.startedAt ≠ none ∧ r.finishedAt ≠ none ∧ r.errorMessage = none) ∨
  (r.status = .failed ∧ r.startedAt ≠ none ∧ r.finishedAt ≠ none ∧ r.errorMessage ≠ none)

/-- `ck_task_runs_finished_after_started`. -/
def TaskRun.finishedAfterStarted (r : TaskRun) : Prop :=
  ∀ f ∈ r.finishedAt, ∀ s ∈ r.startedAt, s ≤ f

/-- `ck_task_runs_lease_consistency`. -/
def TaskRun.leaseConsistency (r : TaskRun) : Prop :=
  (r.status = .running ∧ r.leaseToken ≠ none ∧ r.leaseExpiresAt ≠ none) ∨
  (r.status ≠ .running ∧ r.leaseToken = none ∧ r.leaseExpiresAt = none)

/-! ## The event log -/

inductive EventType
  | claimed | succeeded | requeued | failed
deriving DecidableEq, Repr

/-- The `detail` column, one shape per event type. -/
inductive EventDetail
  | claimed (attemptCount : Nat) (leaseExpiresAt : Time)
  | succeeded (durationSeconds : Option Int)
  | requeued (errorMessage : String) (nextRetryAt : Time) (attemptCount : Nat)
  | failed (errorMessage : String) (attemptCount : Nat) (retryable : Bool)
deriving DecidableEq, Repr

structure TaskRunEvent where
  taskRunId  : RunId
  eventType  : EventType
  fromStatus : TaskRunStatus
  toStatus   : TaskRunStatus
  workerId   : String
  detail     : EventDetail
deriving DecidableEq, Repr

/-! ## The database -/

/-- The committed tables, and the supply `uuid4()` draws lease tokens from. -/
structure Db where
  taskRuns  : RunId → Option TaskRun
  events    : List TaskRunEvent
  nextToken : LeaseToken

def Db.setRun (db : Db) (id : RunId) (r : TaskRun) : Db :=
  { db with taskRuns := fun j => if j = id then some r else db.taskRuns j }

/-- `_record_event`. -/
def Db.recordEvent (db : Db) (e : TaskRunEvent) : Db := { db with events := db.events ++ [e] }

/-- `UPDATE task_runs SET .. WHERE id = :id AND lease_token = :token AND status = 'running'`; `none` when it matches no
row (`rowcount != 1`).  A `None` token renders as `IS NULL`. -/
def Db.guardedUpdate (db : Db) (id : RunId) (token : Option LeaseToken) (values : TaskRun → TaskRun) : Option Db :=
  match db.taskRuns id with
  | none   => none
  | some r => if r.leaseToken = token ∧ r.status = .running then some (db.setRun id (values r)) else none

/-- The events of one run, oldest first. -/
def Db.eventsOf (db : Db) (id : RunId) : List TaskRunEvent := db.events.filter (fun e => e.taskRunId = id)

@[simp] theorem Db.setRun_taskRuns (db : Db) (id j : RunId) (r : TaskRun) :
    (db.setRun id r).taskRuns j = if j = id then some r else db.taskRuns j := rfl

@[simp] theorem Db.setRun_events (db : Db) (id : RunId) (r : TaskRun) : (db.setRun id r).events = db.events := rfl

@[simp] theorem Db.setRun_nextToken (db : Db) (id : RunId) (r : TaskRun) :
    (db.setRun id r).nextToken = db.nextToken := rfl

@[simp] theorem Db.recordEvent_taskRuns (db : Db) (e : TaskRunEvent) : (db.recordEvent e).taskRuns = db.taskRuns := rfl

@[simp] theorem Db.recordEvent_events (db : Db) (e : TaskRunEvent) : (db.recordEvent e).events = db.events ++ [e] := rfl

@[simp] theorem Db.recordEvent_nextToken (db : Db) (e : TaskRunEvent) :
    (db.recordEvent e).nextToken = db.nextToken := rfl

theorem Db.eventsOf_recordEvent (db : Db) (e : TaskRunEvent) (id : RunId) :
    (db.recordEvent e).eventsOf id = if e.taskRunId = id then db.eventsOf id ++ [e] else db.eventsOf id := by
  unfold Db.eventsOf
  rw [Db.recordEvent_events, List.filter_append]
  by_cases h : e.taskRunId = id <;> simp [h]

/-- **What a guarded update that matched its row did.** -/
theorem Db.guardedUpdate_some {db db' : Db} {id : RunId} {token : Option LeaseToken} {values : TaskRun → TaskRun}
    (h : db.guardedUpdate id token values = some db') :
    ∃ r, db.taskRuns id = some r ∧ r.leaseToken = token ∧ r.status = .running ∧ db' = db.setRun id (values r) := by
  unfold Db.guardedUpdate at h
  split at h
  · cases h
  · rename_i r hr
    split at h
    · rename_i hg
      simp only [Option.some.injEq] at h
      exact ⟨r, hr, hg.1, hg.2, h.symm⟩
    · cases h

/-- A guarded update misses exactly when the run is not running under the token. -/
theorem Db.guardedUpdate_eq_none (db : Db) (id : RunId) (token : Option LeaseToken) (values : TaskRun → TaskRun) :
    db.guardedUpdate id token values = none ↔
      ∀ r, db.taskRuns id = some r → ¬ (r.leaseToken = token ∧ r.status = .running) := by
  unfold Db.guardedUpdate
  cases db.taskRuns id with
  | none => simp
  | some r => simp

end Worker
end DataOps

import DataOps.WorkerRunner
/-!
# WorkerReports — a failure reported in three steps

`complete_failure` reads the row and checks it, runs its guarded UPDATE, and commits; between two of these any other
process may take a step of its own.  An UPDATE that matched holds the row's lock until its transaction ends, so other
UPDATEs of the row wait.  The row a worker checks is the one its session has read at the start of `execute_one`: nothing
expires it while the handler runs, as handlers and heartbeats have sessions of their own.  A sweep has committed before
each call, so it reads the row again.  The counters of `metrics.py` are incremented where the source increments them:
those of a failure right after the UPDATE, whatever its `rowcount`.
-/
namespace DataOps
namespace Worker

open Trace (exec Along)

/-! ## What a handler ends with -/

inductive HandlerOutcome
  | success (logOutput : Option String)
  | transientExecutionError (message : String)
  | permanentExecutionError (message : String)
  | permanentHandlerLookupError (taskType : String)
  | unexpectedException (message : String)

/-- The clause of `execute_one` the outcome comes to. -/
def HandlerOutcome.clause : HandlerOutcome → Outcome
  | .success logOutput                    => .success logOutput
  | .transientExecutionError message      => .transientError message
  | .permanentExecutionError message      => .permanentError message
  | .permanentHandlerLookupError taskType =>
      .permanentError ("No execution handler registered for task_type=" ++ taskType)
  | .unexpectedException message          => .unexpectedError message

/-- The clause calls `complete_failure` with no `try` of its own, so its `LeaseLostError` leaves `execute_one`. -/
def Outcome.unguarded : Outcome → Bool
  | .success _         => false
  | .transientError _  => true
  | .permanentError _  => true
  | .unexpectedError _ => false

namespace Reports

/-! ## The state -/

/-- The counters of `metrics.py` that the engine increments. -/
structure Metrics where
  tasksClaimedTotal   : Nat
  tasksCompletedTotal : Nat
  tasksFailedTotal    : Nat
  tasksRetriedTotal   : Nat
deriving DecidableEq, Repr

inductive Caller
  | worker (workerId : String)
  | reaper (pass : Nat)
deriving DecidableEq, Repr

def Caller.workerId : Caller → String
  | .worker w => w
  | .reaper _ => "reaper"

/-- A `complete_failure` that passed its check: `row` is the row it checked, and `now` its clock. -/
structure FailureCall where
  caller     : Caller
  taskRunId  : RunId
  leaseToken : Option LeaseToken
  failure    : Failure
  unguarded  : Bool
  now        : Time
  row        : TaskRun
deriving DecidableEq, Repr

/-- A call whose UPDATE matched: the row it wrote, which its transaction holds the lock of. -/
structure Written where
  call   : FailureCall
  newRow : TaskRun
deriving DecidableEq, Repr

/-- `sessions` has the row of a worker's execution as its session read it. -/
structure Engine where
  db       : Db
  clock    : Time
  metrics  : Metrics
  workers  : String → WorkerProcess
  sessions : String → Option TaskRun
  passes   : Nat → List (RunId × Option LeaseToken)
  checked  : Caller → Option FailureCall
  written  : List Written

inductive Action
  | claimBatch (w : String) (batchSize : Option Nat) (scan : List RunId)
  | start (w : String)
  | heartbeat (w : String)
  | finish (w : String) (outcome : HandlerOutcome)
  | reapSelect (pass : Nat) (scan : List RunId)
  | reapNext (pass : Nat)
  | update (caller : Caller)
  | commit (caller : Caller)
  | commitFails (caller : Caller)
  | crash (caller : Caller)

structure Label where
  elapsed : Time
  action  : Action

def Engine.initial (created : RunId → Option Time) : Engine where
  db := ⟨fun id => (created id).map TaskRun.fresh, [], 0⟩
  clock := 0
  metrics := ⟨0, 0, 0, 0⟩
  workers := fun _ => ⟨true, [], none⟩
  sessions := fun _ => none
  passes := fun _ => []
  checked := fun _ => none
  written := []

def Engine.setWorker (s : Engine) (w : String) (p : WorkerProcess) : Engine :=
  { s with workers := fun v => if v = w then p else s.workers v }

def Engine.setSession (s : Engine) (w : String) (row : Option TaskRun) : Engine :=
  { s with sessions := fun v => if v = w then row else s.sessions v }

def Engine.setPass (s : Engine) (pass : Nat) (rows : List (RunId × Option LeaseToken)) : Engine :=
  { s with passes := fun p => if p = pass then rows else s.passes p }

def Engine.setChecked (s : Engine) (caller : Caller) (call : Option FailureCall) : Engine :=
  { s with checked := fun c => if c = caller then call else s.checked c }

/-- Another transaction holds the row's lock. -/
def Engine.locked (s : Engine) (id : RunId) : Bool := s.written.any (fun x => x.call.taskRunId == id)

def Engine.inCall (s : Engine) (caller : Caller) : Bool :=
  (s.checked caller).isSome || s.written.any (fun x => x.call.caller == caller)

/-- The execution whose handler can end now. -/
def Engine.ready (s : Engine) (w : String) : Option Execution :=
  if (s.workers w).alive && !s.inCall (.worker w) then (s.workers w).executing else none

/-- The call whose UPDATE can run now: it waits while another transaction holds the row. -/
def Engine.unblocked (s : Engine) (caller : Caller) : Option FailureCall :=
  (s.checked caller).filter (fun c => !s.locked c.taskRunId)

/-! ## `execute_one`, its caller, and the sweep around `complete_failure` -/

/-- `execute_one` returned: the worker's loop goes on to the next claimed run. -/
def Engine.returned (s : Engine) : Caller → Engine
  | .worker w => s.setWorker w { s.workers w with executing := none }
  | .reaper _ => s

/-- `complete_failure` raised `LeaseLostError`: the sweep catches it, and `execute_one` in one of its clauses. -/
def Engine.leaseLost (s : Engine) (unguarded : Bool) : Caller → Engine
  | .worker w => if unguarded then s.setWorker w .dead else s.returned (.worker w)
  | .reaper _ => s

/-! ## `complete_failure`, step by step -/

/-- `should_retry`, from the row as read. -/
def FailureCall.retries (dep : Deployment) (c : FailureCall) : Bool := shouldRetry dep c.taskRunId c.failure c.row

/-- The columns the UPDATE sets; `next_retry_at` was computed from the row as read. -/
def FailureCall.values (dep : Deployment) (c : FailureCall) (r : TaskRun) : TaskRun :=
  if c.retries dep then
    { r.requeued dep c.now c.failure with nextRetryAt := some (nextRetry dep c.now c.row) }
  else r.failedFinally c.now c.failure

def FailureCall.event (dep : Deployment) (c : FailureCall) : TaskRunEvent :=
  failureEvent dep c.now c.caller.workerId c.taskRunId c.failure c.row

/-- `tasks_retried_total.inc()` or `tasks_failed_total.inc()`. -/
def Metrics.incFailure (m : Metrics) (retries : Bool) : Metrics :=
  if retries then { m with tasksRetriedTotal := m.tasksRetriedTotal + 1 }
  else { m with tasksFailedTotal := m.tasksFailedTotal + 1 }

/-- `db.get(TaskRun, task_run_id)`: what the caller's session has of the row, or else the row itself. -/
def Engine.get (s : Engine) (id : RunId) : Caller → Option TaskRun
  | .worker w => s.sessions w
  | .reaper _ => s.db.taskRuns id

/-- The read and the check. -/
def Engine.check (s : Engine) (now : Time) (caller : Caller) (id : RunId) (token : Option LeaseToken) (f : Failure)
    (unguarded : Bool) : Engine :=
  match s.get id caller with
  | none   => s.leaseLost unguarded caller
  | some r =>
    if r.leaseToken ≠ token ∨ r.status ≠ .running then s.leaseLost unguarded caller
    else s.setChecked caller (some ⟨caller, id, token, f, unguarded, now, r⟩)

/-- The guarded UPDATE and the increment behind it. -/
def Engine.update (dep : Deployment) (s : Engine) (caller : Caller) : Engine :=
  match s.unblocked caller with
  | none   => s
  | some c =>
    let s := { s.setChecked caller none with metrics := s.metrics.incFailure (c.retries dep) }
    match (s.db.guardedUpdate c.taskRunId c.leaseToken (c.values dep)).bind (fun db => db.taskRuns c.taskRunId) with
    | none     => s.leaseLost c.unguarded caller
    | some row => { s with written := s.written ++ [⟨c, row⟩] }

def Engine.commit (dep : Deployment) (s : Engine) (caller : Caller) : Engine :=
  match s.written.find? (fun x => x.call.caller == caller) with
  | none   => s
  | some x =>
    { s with
      db := (s.db.setRun x.call.taskRunId x.newRow).recordEvent (x.call.event dep)
      written := s.written.erase x }.returned caller

/-- The caller's transaction is rolled back. -/
def Engine.rollback (s : Engine) (caller : Caller) : Engine :=
  { s.setChecked caller none with written := s.written.filter (fun x => !(x.call.caller == caller)) }

/-! ## The step -/

/-- The end of `execute_one`'s `try`: `complete_success`, or the clause the exception comes to. -/
def Engine.finish (s : Engine) (now : Time) (w : String) (e : Execution) : Outcome → Engine
  | .success logOutput =>
    if s.locked e.taskRunId then s
    else
      match completeSuccess s.db e.taskRunId e.leaseToken w logOutput now with
      | .error _ => s.returned (.worker w)
      | .ok db   =>
        { s with
          db := db
          metrics := { s.metrics with tasksCompletedTotal := s.metrics.tasksCompletedTotal + 1 } }.returned (.worker w)
  | .transientError message => s.check now (.worker w) e.taskRunId e.leaseToken ⟨message, true, none⟩ true
  | .permanentError message => s.check now (.worker w) e.taskRunId e.leaseToken ⟨message, false, none⟩ true
  | .unexpectedError message =>
    s.check now (.worker w) e.taskRunId e.leaseToken ⟨"Unexpected error: " ++ message, true, none⟩ false

def Engine.act (dep : Deployment) (s : Engine) (now : Time) : Action → Engine
  | .claimBatch w batchSize scan =>
    if (s.workers w).idle then
      let (db, ids) := Worker.claimBatch dep s.db w batchSize (scan.filter (fun id => !s.locked id)) now
      { s.setWorker w ⟨true, ids.map (fun id => ⟨id, db.events.length⟩), none⟩ with
        db := db
        metrics := { s.metrics with tasksClaimedTotal := s.metrics.tasksClaimedTotal + ids.length } }
    else s
  | .start w =>
    match (s.workers w).executing, (s.workers w).claimed with
    | none, c :: rest =>
      -- `task_run.lease_token` loads the row that the claim's commit expired
      (s.setSession w (s.db.taskRuns c.taskRunId)).setWorker w
        ⟨(s.workers w).alive, rest, some ⟨c.taskRunId, s.db.tokenOf c.taskRunId⟩⟩
    | _, _ => s
  | .heartbeat w =>
    match (s.workers w).executing with
    | none   => s
    | some e =>
      if s.locked e.taskRunId then s
      else { s with db := settle s.db (Worker.heartbeat dep s.db e.taskRunId e.leaseToken now) }
  | .finish w outcome =>
    match s.ready w with
    | none   => s
    | some e => s.finish now w e outcome.clause
  | .reapSelect pass scan =>
    if s.passes pass = [] ∧ s.inCall (.reaper pass) = false then
      s.setPass pass ((reapExpired s.db now 0 (scan.filter (fun id => !s.locked id))).map
        (fun m => (m.taskRunId, m.leaseToken)))
    else s
  | .reapNext pass =>
    match s.passes pass, s.inCall (.reaper pass) with
    | (id, token) :: rest, false => (s.setPass pass rest).check now (.reaper pass) id token reaperFailure false
    | _, _                       => s
  | .update caller => s.update dep caller
  | .commit caller => s.commit dep caller
  | .commitFails caller =>
    if s.written.any (fun x => x.call.caller == caller) then
      match caller with
      | .worker w => (s.rollback (.worker w)).setWorker w .dead
      | .reaper pass => s.rollback (.reaper pass)
    else s
  | .crash caller =>
    match caller with
    | .worker w => (s.rollback (.worker w)).setWorker w .dead
    | .reaper pass => (s.rollback (.reaper pass)).setPass pass []

def Engine.step (dep : Deployment) (s : Engine) (l : Label) : Engine :=
  { s.act dep (s.clock + l.elapsed) l.action with clock := s.clock + l.elapsed }

/-! ## What each call does -/

/-- The row is running under the token; `db.holds` says it of the row there is. -/
def Leased (row : Option TaskRun) (token : Option LeaseToken) (r : TaskRun) : Prop :=
  row = some r ∧ r.leaseToken = token ∧ r.status = .running

section
variable {dep : Deployment} {s : Engine} {caller : Caller} {id : RunId} {token : Option LeaseToken} {f : Failure}
  {unguarded : Bool} {now : Time}

@[simp] theorem Engine.setWorker_workers (w v : String) (p : WorkerProcess) :
    (s.setWorker w p).workers v = if v = w then p else s.workers v := rfl

@[simp] theorem Engine.setChecked_checked (c c' : Caller) (call : Option FailureCall) :
    (s.setChecked c call).checked c' = if c' = c then call else s.checked c' := rfl

theorem Engine.check_of_leased {r : TaskRun} (h : Leased (s.get id caller) token r) :
    s.check now caller id token f unguarded =
      s.setChecked caller (some ⟨caller, id, token, f, unguarded, now, r⟩) := by
  unfold Engine.check
  simp [h.1, h.2.1, h.2.2]

theorem Engine.check_of_lost (h : ∀ r, ¬ Leased (s.get id caller) token r) :
    s.check now caller id token f unguarded = s.leaseLost unguarded caller := by
  unfold Engine.check
  split
  · rfl
  · rename_i r hr
    rw [if_pos]
    by_contra hno
    rw [not_or, not_not, not_not] at hno
    exact h r ⟨hr, hno⟩

theorem Engine.update_of_waiting (h : s.unblocked caller = none) : s.update dep caller = s := by
  unfold Engine.update
  rw [h]

theorem Engine.update_of_holds {c : FailureCall} {r : TaskRun} (hc : s.unblocked caller = some c)
    (h : s.db.holds c.taskRunId c.leaseToken r) :
    s.update dep caller =
      { s.setChecked caller none with
        metrics := s.metrics.incFailure (c.retries dep)
        written := s.written ++ [⟨c, c.values dep r⟩] } := by
  unfold Engine.update Db.guardedUpdate
  simp [hc, h.1, h.2.1, h.2.2, Engine.setChecked]

/-- **An UPDATE that matches no row still counts**: the increment stands before the `rowcount` test. -/
theorem Engine.update_of_lost {c : FailureCall} (hc : s.unblocked caller = some c)
    (h : ∀ r, ¬ s.db.holds c.taskRunId c.leaseToken r) :
    s.update dep caller =
      ({ s.setChecked caller none with metrics := s.metrics.incFailure (c.retries dep) } : Engine).leaseLost
        c.unguarded caller := by
  have hno := (Db.guardedUpdate_eq_none s.db c.taskRunId c.leaseToken (c.values dep)).2
    (fun r hr hheld => h r ⟨hr, hheld⟩)
  unfold Engine.update
  rw [hc]
  simp only [Engine.setChecked, hno, Option.bind_none]

/-- **The three steps with nothing in between are `complete_failure`**, on a row that the session has as it is. -/
theorem Engine.check_update_commit {db' : Db} (hwritten : s.written = []) (hget : s.get id caller = s.db.taskRuns id)
    (h : completeFailure dep s.db id token caller.workerId f now = .ok db') :
    (((s.check now caller id token f unguarded).update dep caller).commit dep caller).db = db' := by
  obtain ⟨r, hr, rfl⟩ := completeFailure_ok h
  have hleased : Leased (s.get id caller) token r := by
    rw [hget]
    exact hr
  rw [Engine.check_of_leased hleased]
  have hunblocked : (s.setChecked caller (some ⟨caller, id, token, f, unguarded, now, r⟩)).unblocked caller =
      some ⟨caller, id, token, f, unguarded, now, r⟩ := by
    simp [Engine.unblocked, Engine.locked, Engine.setChecked, hwritten]
  rw [Engine.update_of_holds hunblocked hr]
  unfold Engine.commit
  have hnew : FailureCall.values dep ⟨caller, id, token, f, unguarded, now, r⟩ r = r.afterFailure dep now id f := by
    unfold FailureCall.values TaskRun.afterFailure
    rfl
  have hdb : ∀ s : Engine, (s.returned caller).db = s.db := fun s => by cases caller <;> rfl
  simp [Engine.setChecked, hwritten, hnew, hdb, FailureCall.event]

end

end Reports
end Worker
end DataOps

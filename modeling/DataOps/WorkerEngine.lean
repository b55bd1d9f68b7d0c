import DataOps.WorkerTable
/-!
# WorkerEngine — claiming, heartbeating, completing and requeuing a run

`claim_batch`, `heartbeat`, `complete_success` and `complete_failure`, each as the one committed transaction it is on
PostgreSQL, and beside each the one lemma the rest of the worker's proofs use: everything an accepted call did
(`heartbeat_ok`, `completeSuccess_ok`, `completeFailure_ok`), and when a call is refused (`heartbeat_error`, ..).
-/
namespace DataOps
namespace Worker

/-- The worker's settings, as `get_settings()` returns them. -/
structure Settings where
  workerClaimBatchSize        : Nat
  workerDefaultTimeoutSeconds : Nat
  workerDefaultMaxAttempts    : Nat
  workerRetryBaseDelaySeconds : Nat
  workerRetryMaxDelaySeconds  : Nat
deriving Repr

/-- The execution defaults of a run's task; `None` means the worker's global default. -/
structure Task where
  maxAttempts    : Option Nat
  timeoutSeconds : Option Nat
deriving DecidableEq, Repr

/-- What a worker is deployed with: its settings, and `task_run.task` of every run. -/
structure Deployment where
  settings : Settings
  task     : RunId → Task

/-- Python's `value or default` on an optional integer: zero counts as absent. -/
def orDefault : Option Nat → Nat → Nat
  | some (n + 1), _ => n + 1
  | _, default      => default

def Deployment.effectiveTimeout (dep : Deployment) (id : RunId) : Time :=
  timedelta (orDefault (dep.task id).timeoutSeconds dep.settings.workerDefaultTimeoutSeconds)

def Deployment.effectiveMaxAttempts (dep : Deployment) (id : RunId) : Nat :=
  orDefault (dep.task id).maxAttempts dep.settings.workerDefaultMaxAttempts

/-- `LeaseLostError(f"Lease for TaskRun {task_run_id} is no longer held by this worker")`. -/
structure LeaseLostError where
  taskRunId : RunId
deriving DecidableEq, Repr

/-! ## `claim_batch` -/

/-- The claim query's WHERE clause. -/
def TaskRun.claimable (now : Time) (r : TaskRun) : Bool :=
  decide (r.status = .pending) && r.nextRetryAt.all (fun t => decide (t ≤ now))

def Db.createdAtOf (db : Db) (id : RunId) : Time := ((db.taskRuns id).map (·.createdAt)).getD 0

/-- The claim query.  `scan` is the rows the database visits, in its order: `SKIP LOCKED` leaves out the rows another
transaction holds, and rows created at the same instant come in the order visited. -/
def claimCandidates (db : Db) (now : Time) (scan : List RunId) (batchSize : Nat) : List RunId :=
  ((scan.filter (fun id => ((db.taskRuns id).map (TaskRun.claimable now)).getD false)).insertionSort
    (fun a b => db.createdAtOf a ≤ db.createdAtOf b)).take batchSize

/-- The row after the claim's UPDATE. -/
def TaskRun.claimedBy (dep : Deployment) (now : Time) (id : RunId) (token : LeaseToken) (r : TaskRun) : TaskRun :=
  { r with
    status := .running
    startedAt := some now
    leaseToken := some token
    leaseExpiresAt := some (now + dep.effectiveTimeout id)
    lastHeartbeatAt := some now
    attemptCount := r.attemptCount + 1 }

def claimEvent (dep : Deployment) (now : Time) (workerId : String) (id : RunId) (r : TaskRun) : TaskRunEvent where
  taskRunId := id
  eventType := .claimed
  fromStatus := .pending
  toStatus := .running
  workerId := workerId
  detail := .claimed (r.attemptCount + 1) (now + dep.effectiveTimeout id)

/-- One turn of the claim loop: a fresh token, the guarded UPDATE, and the event when it matched its row. -/
def claimOne (dep : Deployment) (now : Time) (workerId : String) (acc : Db × List RunId) (id : RunId) :
    Db × List RunId :=
  let token := acc.1.nextToken
  let db := { acc.1 with nextToken := token + 1 }
  match db.taskRuns id with
  | none   => (db, acc.2)
  | some r =>
    if r.status = .pending then
      ((db.setRun id (r.claimedBy dep now id token)).recordEvent (claimEvent dep now workerId id r), acc.2 ++ [id])
    else (db, acc.2)

/-- `claim_batch`: the claimed runs, in the order the query returned them. -/
def claimBatch (dep : Deployment) (db : Db) (workerId : String) (batchSize : Option Nat) (scan : List RunId)
    (now : Time) : Db × List RunId :=
  (claimCandidates db now scan (batchSize.getD dep.settings.workerClaimBatchSize)).foldl
    (claimOne dep now workerId) (db, [])

/-! ## `heartbeat` -/

def TaskRun.heartbeaten (dep : Deployment) (now : Time) (id : RunId) (r : TaskRun) : TaskRun :=
  { r with lastHeartbeatAt := some now, leaseExpiresAt := some (now + dep.effectiveTimeout id) }

def heartbeat (dep : Deployment) (db : Db) (id : RunId) (token : Option LeaseToken) (now : Time) :
    Except LeaseLostError Db :=
  match db.guardedUpdate id token (TaskRun.heartbeaten dep now id) with
  | none     => .error ⟨id⟩
  | some db' => .ok db'

/-! ## `complete_success` -/

def TaskRun.succeeded (now : Time) (logOutput : Option String) (r : TaskRun) : TaskRun :=
  { r with
    status := .success
    finishedAt := some now
    logOutput := logOutput
    leaseToken := none
    leaseExpiresAt := none }

def successEvent (now : Time) (workerId : String) (id : RunId) (r : TaskRun) : TaskRunEvent where
  taskRunId := id
  eventType := .succeeded
  fromStatus := .running
  toStatus := .success
  workerId := workerId
  detail := .succeeded (r.startedAt.map (fun s => (now : Int) - s))

def completeSuccess (db : Db) (id : RunId) (token : Option LeaseToken) (workerId : String) (logOutput : Option String)
    (now : Time) : Except LeaseLostError Db :=
  match db.guardedUpdate id token (TaskRun.succeeded now logOutput) with
  | none     => .error ⟨id⟩
  | some db' =>
    match db'.taskRuns id with
    | none   => .error ⟨id⟩
    | some r => .ok (db'.recordEvent (successEvent now workerId id r))

/-! ## `complete_failure` -/

/-- A failure report: `error_message`, `retryable` and `log_output`. -/
structure Failure where
  errorMessage : String
  retryable    : Bool
  logOutput    : Option String
deriving DecidableEq, Repr

def shouldRetry (dep : Deployment) (id : RunId) (f : Failure) (r : TaskRun) : Bool :=
  f.retryable && decide (r.attemptCount < dep.effectiveMaxAttempts id)

/-- `min(base * 2 ** (attempt_count - 1), max)`; a running row's `attempt_count` is at least one. -/
def retryDelaySeconds (dep : Deployment) (r : TaskRun) : Nat :=
  min (dep.settings.workerRetryBaseDelaySeconds * 2 ^ (r.attemptCount - 1)) dep.settings.workerRetryMaxDelaySeconds

def nextRetry (dep : Deployment) (now : Time) (r : TaskRun) : Time := now + timedelta (retryDelaySeconds dep r)

def TaskRun.requeued (dep : Deployment) (now : Time) (f : Failure) (r : TaskRun) : TaskRun :=
  { r with
    status := .pending
    startedAt := none
    finishedAt := none
    errorMessage := none
    logOutput := f.logOutput
    leaseToken := none
    leaseExpiresAt := none
    nextRetryAt := some (nextRetry dep now r) }

def TaskRun.failedFinally (now : Time) (f : Failure) (r : TaskRun) : TaskRun :=
  { r with
    status := .failed
    finishedAt := some now
    errorMessage := some f.errorMessage
    logOutput := f.logOutput
    leaseToken := none
    leaseExpiresAt := none }

/-- The row either branch of `complete_failure` writes. -/
def TaskRun.afterFailure (dep : Deployment) (now : Time) (id : RunId) (f : Failure) (r : TaskRun) : TaskRun :=
  if shouldRetry dep id f r then r.requeued dep now f else r.failedFinally now f

def failureEvent (dep : Deployment) (now : Time) (workerId : String) (id : RunId) (f : Failure) (r : TaskRun) :
    TaskRunEvent :=
  if shouldRetry dep id f r then
    { taskRunId := id, eventType := .requeued, fromStatus := .running, toStatus := .pending, workerId := workerId
      detail := .requeued f.errorMessage (nextRetry dep now r) r.attemptCount }
  else
    { taskRunId := id, eventType := .failed, fromStatus := .running, toStatus := .failed, workerId := workerId
      detail := .failed f.errorMessage r.attemptCount f.retryable }

def completeFailure (dep : Deployment) (db : Db) (id : RunId) (token : Option LeaseToken) (workerId : String)
    (f : Failure) (now : Time) : Except LeaseLostError Db :=
  match db.taskRuns id with
  | none   => .error ⟨id⟩
  | some r =>
    if r.leaseToken ≠ token ∨ r.status ≠ .running then .error ⟨id⟩
    else
      match db.guardedUpdate id token (fun _ => r.afterFailure dep now id f) with
      | none     => .error ⟨id⟩
      | some db' => .ok (db'.recordEvent (failureEvent dep now workerId id f r))

/-! ## What each call did -/

section
variable {dep : Deployment} {db db' : Db} {id : RunId} {token : Option LeaseToken} {workerId : String} {now : Time}

/-- The run is running under the token: what every guarded call requires. -/
def Db.holds (db : Db) (id : RunId) (token : Option LeaseToken) (r : TaskRun) : Prop :=
  db.taskRuns id = some r ∧ r.leaseToken = token ∧ r.status = .running

theorem heartbeat_ok (h : heartbeat dep db id token now = .ok db') :
    ∃ r, db.holds id token r ∧ db' = db.setRun id (r.heartbeaten dep now id) := by
  unfold heartbeat at h
  split at h
  · cases h
  · rename_i db'' hu
    obtain ⟨r, hr, ht, hs, rfl⟩ := Db.guardedUpdate_some hu
    exact ⟨r, ⟨hr, ht, hs⟩, (Except.ok.inj h).symm⟩

theorem heartbeat_of_holds {r : TaskRun} (h : db.holds id token r) :
    heartbeat dep db id token now = .ok (db.setRun id (r.heartbeaten dep now id)) := by
  unfold heartbeat Db.guardedUpdate
  simp [h.1, h.2.1, h.2.2]

theorem completeSuccess_ok {logOutput : Option String}
    (h : completeSuccess db id token workerId logOutput now = .ok db') :
    ∃ r, db.holds id token r ∧
      db' = (db.setRun id (r.succeeded now logOutput)).recordEvent
        (successEvent now workerId id (r.succeeded now logOutput)) := by
  unfold completeSuccess at h
  split at h
  · cases h
  · rename_i db'' hu
    obtain ⟨r, hr, ht, hs, rfl⟩ := Db.guardedUpdate_some hu
    simp only [Db.setRun_taskRuns, ↓reduceIte] at h
    exact ⟨r, ⟨hr, ht, hs⟩, (Except.ok.inj h).symm⟩

theorem completeFailure_ok {f : Failure} (h : completeFailure dep db id token workerId f now = .ok db') :
    ∃ r, db.holds id token r ∧
      db' = (db.setRun id (r.afterFailure dep now id f)).recordEvent (failureEvent dep now workerId id f r) := by
  unfold completeFailure at h
  split at h
  · cases h
  · rename_i r hr
    split at h
    · cases h
    · split at h
      · cases h
      · rename_i db'' hu
        obtain ⟨r', hr', ht, hs, rfl⟩ := Db.guardedUpdate_some hu
        obtain rfl : r = r' := Option.some.inj (hr.symm.trans hr')
        exact ⟨r, ⟨hr, ht, hs⟩, (Except.ok.inj h).symm⟩

theorem completeFailure_of_holds {f : Failure} {r : TaskRun} (h : db.holds id token r) :
    completeFailure dep db id token workerId f now =
      .ok ((db.setRun id (r.afterFailure dep now id f)).recordEvent (failureEvent dep now workerId id f r)) := by
  unfold completeFailure Db.guardedUpdate
  simp [h.1, h.2.1, h.2.2]

/-- **A heartbeat or completion is refused exactly when the run is not running under the token presented.** -/
theorem heartbeat_error (hno : ∀ r, ¬ db.holds id token r) : heartbeat dep db id token now = .error ⟨id⟩ := by
  cases h : heartbeat dep db id token now with
  | ok db' => obtain ⟨r, hr, -⟩ := heartbeat_ok h; exact absurd hr (hno r)
  | error e => unfold heartbeat at h; split at h <;> cases h; rfl

theorem completeSuccess_error {logOutput : Option String} (hno : ∀ r, ¬ db.holds id token r) :
    completeSuccess db id token workerId logOutput now = .error ⟨id⟩ := by
  cases h : completeSuccess db id token workerId logOutput now with
  | ok db' => obtain ⟨r, hr, -⟩ := completeSuccess_ok h; exact absurd hr (hno r)
  | error e =>
    unfold completeSuccess at h
    split at h
    · cases h; rfl
    · split at h <;> cases h; rfl

theorem completeFailure_error {f : Failure} (hno : ∀ r, ¬ db.holds id token r) :
    completeFailure dep db id token workerId f now = .error ⟨id⟩ := by
  cases h : completeFailure dep db id token workerId f now with
  | ok db' => obtain ⟨r, hr, -⟩ := completeFailure_ok h; exact absurd hr (hno r)
  | error e =>
    unfold completeFailure at h
    split at h
    · cases h; rfl
    · split at h
      · cases h; rfl
      · split at h <;> cases h; rfl

end

end Worker
end DataOps

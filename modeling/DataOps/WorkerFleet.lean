import DataOps.LibTrace
import DataOps.WorkerClaim
/-!
# WorkerFleet — any number of workers and reapers over one run table

A worker's calls and the steps of the reapers interleave at their commits.  `reap_expired_runs` is one committed
`SELECT` that remembers the expired rows' tokens (`reapSelect`), then one `complete_failure` a remembered row, each a
step of its own (`reapNext`).  A label carries the time that passed before its step, so the clock never runs backwards.
`results` and `heartbeats` are history: what the claims returned, and the heartbeats that committed.
-/
namespace DataOps
namespace Worker

open Trace (exec Along)

/-- A row `reap_expired_runs` selected: its id and token; `selectedAt` is the pass's `now`, and `seen` how many
heartbeats had committed by then. -/
structure Remembered where
  taskRunId  : RunId
  leaseToken : Option LeaseToken
  selectedAt : Time
  seen       : Nat

structure Fleet where
  db         : Db
  clock      : Time
  passes     : Nat → List Remembered
  results    : List (List (RunId × Nat))
  heartbeats : List (RunId × Option LeaseToken)

inductive Action
  | claimBatch (workerId : String) (batchSize : Option Nat) (scan : List RunId)
  | heartbeat (id : RunId) (token : Option LeaseToken)
  | completeSuccess (id : RunId) (token : Option LeaseToken) (workerId : String) (logOutput : Option String)
  | completeFailure (id : RunId) (token : Option LeaseToken) (workerId : String) (f : Failure)
  | reapSelect (pass : Nat) (scan : List RunId)
  | reapNext (pass : Nat)
  | idle

structure Label where
  elapsed : Time
  action  : Action

/-- `running AND lease_expires_at < now`. -/
def TaskRun.expired (now : Time) (r : TaskRun) : Bool :=
  decide (r.status = .running) && r.leaseExpiresAt.any (fun t => decide (t < now))

/-- The failure the reaper reports. -/
def reaperFailure : Failure where
  errorMessage := "Execution timed out: lease expired without a heartbeat (worker likely crashed or lost connectivity)."
  retryable := true
  logOutput := none

/-- The rows a reaper pass selects, in the order the database visits them. -/
def reapExpired (db : Db) (now : Time) (seen : Nat) (scan : List RunId) : List Remembered :=
  scan.filterMap (fun id => (db.taskRuns id).bind (fun r =>
    if r.expired now then some ⟨id, r.leaseToken, now, seen⟩ else none))

/-- The tables after a call; a refused call leaves them alone. -/
def settle (db : Db) : Except LeaseLostError Db → Db
  | .ok db'   => db'
  | .error _  => db

def Fleet.setPass (s : Fleet) (pass : Nat) (l : List Remembered) : Fleet :=
  { s with passes := fun p => if p = pass then l else s.passes p }

def Fleet.act (dep : Deployment) (s : Fleet) (now : Time) : Action → Fleet
  | .claimBatch workerId batchSize scan =>
    let (db, ids) := Worker.claimBatch dep s.db workerId batchSize scan now
    { s with db := db, results := s.results ++ [ids.map (fun id => (id, db.attemptOf id))] }
  | .heartbeat id token =>
    match Worker.heartbeat dep s.db id token now with
    | .ok db   => { s with db := db, heartbeats := s.heartbeats ++ [(id, token)] }
    | .error _ => s
  | .completeSuccess id token workerId logOutput =>
    { s with db := settle s.db (Worker.completeSuccess s.db id token workerId logOutput now) }
  | .completeFailure id token workerId f =>
    { s with db := settle s.db (Worker.completeFailure dep s.db id token workerId f now) }
  | .reapSelect pass scan =>
    if s.passes pass = [] then s.setPass pass (reapExpired s.db now s.heartbeats.length scan) else s
  | .reapNext pass =>
    match s.passes pass with
    | []        => s
    | m :: rest =>
      { s.setPass pass rest with
        db := settle s.db (Worker.completeFailure dep s.db m.taskRunId m.leaseToken "reaper" reaperFailure now) }
  | .idle => s

def Fleet.step (dep : Deployment) (s : Fleet) (l : Label) : Fleet :=
  { s.act dep (s.clock + l.elapsed) l.action with clock := s.clock + l.elapsed }

/-- Freshly created pending runs: `created id` is when run `id` was created, if it was. -/
def Fleet.initial (created : RunId → Option Time) : Fleet where
  db := ⟨fun id => (created id).map TaskRun.fresh, [], 0⟩
  clock := 0
  passes := fun _ => []
  results := []
  heartbeats := []

variable {dep : Deployment}

theorem settle_steps {now : Time} {db : Db} {res : Except LeaseLostError Db}
    (h : ∀ db', res = .ok db' → DbSteps dep now db db') : DbSteps dep now db (settle db res) := by
  cases res with
  | ok db' => exact h db' rfl
  | error e => exact .refl

/-- **Every action is a chain of table changes.** -/
theorem Fleet.act_steps (s : Fleet) (now : Time) (a : Action) : DbSteps dep now s.db (s.act dep now a).db := by
  cases a with
  | claimBatch workerId batchSize scan => exact claimBatch_steps workerId batchSize scan
  | heartbeat id token =>
    simp only [Fleet.act]
    split
    · rename_i db' h
      exact heartbeat_steps h
    · exact .refl
  | completeSuccess id token workerId logOutput => exact settle_steps (fun _ h => completeSuccess_steps h)
  | completeFailure id token workerId f => exact settle_steps (fun _ h => completeFailure_steps h)
  | reapSelect pass scan =>
    simp only [Fleet.act]
    split <;> exact .refl
  | reapNext pass =>
    simp only [Fleet.act]
    split
    · exact .refl
    · exact settle_steps (fun _ h => completeFailure_steps h)
  | idle => exact .refl

theorem Fleet.step_steps (s : Fleet) (l : Label) :
    DbSteps dep (s.step dep l).clock s.db (s.step dep l).db := s.act_steps _ l.action

theorem Fleet.clock_le_step (dep : Deployment) (s : Fleet) (l : Label) : s.clock ≤ (s.step dep l).clock :=
  Nat.le_add_right _ _

/-! ## The invariant of every reachable state -/

theorem claimedPairs_recordEvent (db : Db) {e : TaskRunEvent} (he : e.eventType ≠ .claimed) :
    claimedPairs (db.recordEvent e).events = claimedPairs db.events := by
  unfold claimedPairs
  rw [Db.recordEvent_events, claimedEvents_concat, if_neg he]

theorem completeSuccess_pairs {db db' : Db} {id : RunId} {token : Option LeaseToken} {workerId : String}
    {logOutput : Option String} {now : Time} (h : completeSuccess db id token workerId logOutput now = .ok db') :
    claimedPairs db'.events = claimedPairs db.events := by
  obtain ⟨r, hr, rfl⟩ := completeSuccess_ok h
  exact claimedPairs_recordEvent _ (by simp [successEvent])

theorem completeFailure_pairs {db db' : Db} {id : RunId} {token : Option LeaseToken} {workerId : String}
    {f : Failure} {now : Time} (h : completeFailure dep db id token workerId f now = .ok db') :
    claimedPairs db'.events = claimedPairs db.events := by
  obtain ⟨r, hr, rfl⟩ := completeFailure_ok h
  exact claimedPairs_recordEvent _ (failureEvent_eventType workerId id f r)

theorem heartbeat_pairs {db db' : Db} {id : RunId} {token : Option LeaseToken} {now : Time}
    (h : heartbeat dep db id token now = .ok db') : claimedPairs db'.events = claimedPairs db.events := by
  obtain ⟨r, hr, rfl⟩ := heartbeat_ok h
  rfl

theorem settle_pairs {db : Db} {res : Except LeaseLostError Db}
    (h : ∀ db', res = .ok db' → claimedPairs db'.events = claimedPairs db.events) :
    claimedPairs (settle db res).events = claimedPairs db.events := by
  cases res with
  | ok db' => exact h db' rfl
  | error e => rfl

/-- **The invariant of every reachable state**: the tables' own, and every claimed event is the claim of one batch. -/
structure FleetInv (dep : Deployment) (s : Fleet) : Prop where
  tables  : DbInv dep s.clock s.db
  claimed : claimedPairs s.db.events = s.results.flatten

theorem FleetInv.initial (dep : Deployment) (created : RunId → Option Time) : FleetInv dep (Fleet.initial created) := by
  refine ⟨⟨fun id r hr => ?_, fun _ _ => rfl⟩, rfl⟩
  obtain ⟨t, -, rfl⟩ := Option.map_eq_some_iff.1 hr
  exact RunInv.fresh (Nat.le_max_left _ _) t

theorem Fleet.act_pairs (s : Fleet) (now : Time) (a : Action) (h : claimedPairs s.db.events = s.results.flatten) :
    claimedPairs (s.act dep now a).db.events = (s.act dep now a).results.flatten := by
  cases a with
  | claimBatch workerId batchSize scan =>
    simp only [Fleet.act]
    rw [(claimBatch_inv dep s.db workerId batchSize scan now).pairs, h, List.flatten_append]
    simp
  | heartbeat id token =>
    simp only [Fleet.act]
    split
    · rename_i db' hok
      exact (heartbeat_pairs hok).trans h
    · exact h
  | completeSuccess id token workerId logOutput => exact (settle_pairs (fun _ hok => completeSuccess_pairs hok)).trans h
  | completeFailure id token workerId f => exact (settle_pairs (fun _ hok => completeFailure_pairs hok)).trans h
  | reapSelect pass scan =>
    simp only [Fleet.act]
    split <;> exact h
  | reapNext pass =>
    simp only [Fleet.act]
    split
    · exact h
    · exact (settle_pairs (fun _ hok => completeFailure_pairs hok)).trans h
  | idle => exact h

/-- **One step preserves the invariant.** -/
theorem FleetInv.step {s : Fleet} (h : FleetInv dep s) (l : Label) : FleetInv dep (s.step dep l) where
  tables := (h.tables.mono (Fleet.clock_le_step dep s l)).steps (Fleet.step_steps s l)
  claimed := s.act_pairs _ l.action h.claimed

theorem FleetInv.exec {s : Fleet} (h : FleetInv dep s) (ls : List Label) : FleetInv dep (exec (Fleet.step dep) s ls) :=
  Trace.exec_invariant (I := FleetInv dep) _ (fun _ l hI => FleetInv.step hI l) ls s h

/-- **A finished run's row is the same in every later state.** -/
theorem Fleet.exec_finished : ∀ (ls : List Label) (s : Fleet) (id : RunId) (r : TaskRun),
    s.db.taskRuns id = some r → r.status = .success ∨ r.status = .failed →
    (exec (Fleet.step dep) s ls).db.taskRuns id = some r
  | [], _, _, _, hr, _ => hr
  | l :: ls, s, id, r, hr, hs => Fleet.exec_finished ls (s.step dep l) id r ((s.step_steps l).finished hr hs) hs

theorem exists_unique_of_nodup_flatten {α : Type} {ls : List (List α)} (hnd : ls.flatten.Nodup) {x : α}
    (hx : x ∈ ls.flatten) : ∃! i : Nat, ∃ l : List α, ls[i]? = some l ∧ x ∈ l := by
  obtain ⟨l, hl, hxl⟩ := List.mem_flatten.1 hx
  obtain ⟨i, hi⟩ := List.mem_iff_getElem?.1 hl
  refine ⟨i, ⟨l, hi, hxl⟩, ?_⟩
  rintro j ⟨l', hj, hxl'⟩
  by_contra hij
  obtain ⟨hi', rfl⟩ := List.getElem?_eq_some_iff.1 hi
  obtain ⟨hj', rfl⟩ := List.getElem?_eq_some_iff.1 hj
  have hpw := List.pairwise_iff_getElem.1 (List.nodup_flatten.1 hnd).2
  rcases Nat.lt_or_gt_of_ne hij with h | h
  · exact hpw j i hj' hi' h hxl' hxl
  · exact hpw i j hi' hj' h hxl hxl'

/-- The three reports a worker makes under a token, at one run. -/
def Action.reportOn (id : RunId) (token : Option LeaseToken) : Action → Prop
  | .heartbeat id' token'           => id' = id ∧ token' = token
  | .completeSuccess id' token' _ _ => id' = id ∧ token' = token
  | .completeFailure id' token' _ _ => id' = id ∧ token' = token
  | _                               => False

/-- **A report under a token that is not the run's current one leaves every table alone.** -/
theorem Fleet.step_stale (s : Fleet) {id : RunId} {token : Option LeaseToken} (hno : ∀ r, ¬ s.db.holds id token r)
    (l : Label) (hl : l.action.reportOn id token) : (s.step dep l).db = s.db := by
  obtain ⟨elapsed, a⟩ := l
  cases a with
  | heartbeat id' token' =>
    obtain ⟨rfl, rfl⟩ := hl
    simp only [Fleet.step, Fleet.act, heartbeat_error hno]
  | completeSuccess id' token' workerId logOutput =>
    obtain ⟨rfl, rfl⟩ := hl
    simp only [Fleet.step, Fleet.act, completeSuccess_error hno, settle]
  | completeFailure id' token' workerId f =>
    obtain ⟨rfl, rfl⟩ := hl
    simp only [Fleet.step, Fleet.act, completeFailure_error hno, settle]
  | claimBatch => cases hl
  | reapSelect => cases hl
  | reapNext => cases hl
  | idle => cases hl

/-- A state some interleaving reaches from freshly created runs. -/
def Fleet.Reachable (dep : Deployment) (s : Fleet) : Prop :=
  ∃ created ls, s = exec (Fleet.step dep) (Fleet.initial created) ls

/-- **The lifecycle of a run, over every interleaving**: from freshly created runs, after any calls of any workers and
reapers. -/
theorem taskRun_lifecycle (dep : Deployment) (hmax : ∀ id, 1 ≤ dep.effectiveMaxAttempts id) (s : Fleet)
    (hs : s.Reachable dep) :
    (∀ id r, s.db.taskRuns id = some r →
      (r.status = .running ↔ r.leaseToken ≠ none ∧ r.leaseExpiresAt ≠ none) ∧
      r.leaseConsistency ∧ r.statusInvariants ∧ r.finishedAfterStarted ∧
      (r.status = .success ∨ r.status = .failed →
        ∀ later, (exec (Fleet.step dep) s later).db.taskRuns id = some r) ∧
      Alternates ((s.db.eventsOf id).map (·.eventType)) ∧
      lastStatus (s.db.eventsOf id) = r.status ∧
      (claimedEvents (s.db.eventsOf id)).length = r.attemptCount ∧
      r.attemptCount ≤ dep.effectiveMaxAttempts id) ∧
    (claimedPairs s.db.events).Nodup ∧
    (∀ e ∈ claimedEvents s.db.events,
      ∃! i : Nat, ∃ result, s.results[i]? = some result ∧ (e.taskRunId, e.attempt) ∈ result) ∧
    (∀ id token now, (∀ r, s.db.taskRuns id = some r → ¬ (r.leaseToken = token ∧ r.status = .running)) →
      heartbeat dep s.db id token now = .error ⟨id⟩ ∧
      (∀ workerId logOutput, completeSuccess s.db id token workerId logOutput now = .error ⟨id⟩) ∧
      (∀ workerId f, completeFailure dep s.db id token workerId f now = .error ⟨id⟩) ∧
      ∀ l : Label, l.action.reportOn id token → (s.step dep l).db = s.db) := by
  have hinv : FleetInv dep s := by
    obtain ⟨created, ls, rfl⟩ := hs
    exact (FleetInv.initial dep created).exec ls
  refine ⟨fun id r hr => ?_, hinv.tables.claimedPairs_nodup, fun e he => ?_, fun id token now hstale => ?_⟩
  · have h := hinv.tables.run id r hr
    have hbound : dep.attemptBound id = dep.effectiveMaxAttempts id := Nat.max_eq_right (hmax id)
    refine ⟨?_, h.lease, h.lifecycle, h.finished, fun hf later => s.exec_finished later id r hr hf, h.alternates,
      h.last, ?_, by rw [← hbound]; exact h.attemptsLe⟩
    · rcases h.lease with ⟨h1, h2, h3⟩ | ⟨h1, h2, -⟩
      · exact iff_of_true h1 ⟨h2, h3⟩
      · exact iff_of_false h1 (fun hh => hh.1 h2)
    · have hlen := congrArg List.length h.attempts
      simpa using hlen
  · have hmem : (e.taskRunId, e.attempt) ∈ s.results.flatten := by
      rw [← hinv.claimed]
      exact List.mem_map.2 ⟨e, he, rfl⟩
    exact exists_unique_of_nodup_flatten (by rw [← hinv.claimed]; exact hinv.tables.claimedPairs_nodup) hmem
  · have hno : ∀ r, ¬ s.db.holds id token r := fun r h => hstale r h.1 h.2
    exact ⟨heartbeat_error hno, fun _ _ => completeSuccess_error hno, fun _ _ => completeFailure_error hno,
      fun l hl => s.step_stale hno l hl⟩

/-- The settings' defaults, with no task overriding them. -/
def Deployment.default : Deployment where
  settings :=
    { workerClaimBatchSize := 5
      workerDefaultTimeoutSeconds := 300
      workerDefaultMaxAttempts := 3
      workerRetryBaseDelaySeconds := 30
      workerRetryMaxDelaySeconds := 900 }
  task _ := ⟨none, none⟩

/-- One run created at the start, claimed, reported as failed once, claimed again and completed. -/
def retriedOnce : List Label :=
  [⟨0, .claimBatch "w" none [7]⟩, ⟨5, .completeFailure 7 (some 0) "w" ⟨"boom", true, none⟩⟩,
   ⟨timedelta 60, .claimBatch "w" none [7]⟩, ⟨5, .completeSuccess 7 (some 1) "w" none⟩]

theorem taskRun_lifecycle_retriedOnce :
    let s := exec (Fleet.step .default) (Fleet.initial (fun id => if id = 7 then some 0 else none)) retriedOnce
    (claimedPairs s.db.events).Nodup ∧ claimedPairs s.db.events = [(7, 1), (7, 2)] :=
  ⟨(taskRun_lifecycle .default (fun _ => (by decide : 1 ≤ 3)) _ ⟨_, retriedOnce, rfl⟩).2.1, by decide⟩

end Worker
end DataOps

import DataOps.WorkerFleet
/-!
# WorkerRunner — the worker's loop, and the token a run is executed under

`run_forever` claims a batch and runs `execute_one` on each of its runs in turn.  `execute_one` reads the lease token
off the row when it starts, and the session expired the row at the last commit, so what it reads is the token committed
by then, whoever drew it.  A pool is a fleet whose worker actions are the ones its processes come to; `generated` is
history: every token a `claim_batch` drew, with the worker it was drawn for.
-/
namespace DataOps
namespace Worker

open Trace (exec Along)

/-- A claimed run the loop has not reached; `seen` is how many events were logged when its batch committed. -/
structure Claimed where
  taskRunId : RunId
  seen      : Nat
deriving DecidableEq, Repr

/-- The locals of `execute_one`. -/
structure Execution where
  taskRunId  : RunId
  leaseToken : Option LeaseToken
deriving DecidableEq, Repr

structure WorkerProcess where
  alive     : Bool
  claimed   : List Claimed
  executing : Option Execution
deriving DecidableEq, Repr

/-- How a handler's execution ends. -/
inductive Outcome
  | success (logOutput : Option String)
  | transientError (message : String)
  | permanentError (message : String)
  | unexpectedError (message : String)

/-- A token, the run it was drawn for and the worker whose `claim_batch` drew it. -/
structure Generated where
  workerId   : String
  taskRunId  : RunId
  leaseToken : Option LeaseToken
deriving DecidableEq, Repr

structure Pool where
  fleet     : Fleet
  workers   : String → WorkerProcess
  generated : List Generated

inductive PoolAction
  | claimBatch (w : String) (batchSize : Option Nat) (scan : List RunId)
  | start (w : String)
  | heartbeat (w : String)
  | report (w : String) (outcome : Outcome)
  | crash (w : String)
  | reapSelect (pass : Nat) (scan : List RunId)
  | reapNext (pass : Nat)

structure PoolLabel where
  elapsed : Time
  action  : PoolAction

def WorkerProcess.idle (p : WorkerProcess) : Bool := p.alive && p.claimed.isEmpty && p.executing.isNone

/-- The process after an exception left `run_forever`, or after a crash. -/
def WorkerProcess.dead : WorkerProcess := ⟨false, [], none⟩

/-- The report `execute_one` makes of an outcome. -/
def Outcome.report (w : String) (e : Execution) : Outcome → Action
  | .success logOutput       => .completeSuccess e.taskRunId e.leaseToken w logOutput
  | .transientError message  => .completeFailure e.taskRunId e.leaseToken w ⟨message, true, none⟩
  | .permanentError message  => .completeFailure e.taskRunId e.leaseToken w ⟨message, false, none⟩
  | .unexpectedError message =>
      .completeFailure e.taskRunId e.leaseToken w ⟨"Unexpected error: " ++ message, true, none⟩

/-- `LeaseLostError` from the report leaves `execute_one` only out of the handlers of the two execution errors. -/
def Outcome.escapes (dep : Deployment) (db : Db) (w : String) (e : Execution) (now : Time) : Outcome → Bool
  | .transientError message =>
    !(completeFailure dep db e.taskRunId e.leaseToken w ⟨message, true, none⟩ now).isOk
  | .permanentError message =>
    !(completeFailure dep db e.taskRunId e.leaseToken w ⟨message, false, none⟩ now).isOk
  | _ => false

/-- The run the loop's next `execute_one` is called on. -/
def Pool.nextClaimed (s : Pool) (w : String) : Option Claimed :=
  if (s.workers w).executing.isNone then (s.workers w).claimed.head? else none

/-- What the action asks of the tables. -/
def Pool.request (s : Pool) : PoolAction → Action
  | .claimBatch w batchSize scan => if (s.workers w).idle then .claimBatch w batchSize scan else .idle
  | .start _ => .idle
  | .heartbeat w =>
    match (s.workers w).executing with
    | some e => .heartbeat e.taskRunId e.leaseToken
    | none   => .idle
  | .report w outcome =>
    match (s.workers w).executing with
    | some e => outcome.report w e
    | none   => .idle
  | .crash _ => .idle
  | .reapSelect pass scan => .reapSelect pass scan
  | .reapNext pass => .reapNext pass

def Pool.setWorker (s : Pool) (w : String) (p : WorkerProcess) : Pool :=
  { s with workers := fun v => if v = w then p else s.workers v }

/-- The processes after the action, the fleet having gone from `s.fleet` to `fleet`. -/
def Pool.move (dep : Deployment) (s : Pool) (fleet : Fleet) : PoolAction → Pool
  | .claimBatch w batchSize scan =>
    if (s.workers w).idle then
      let ids := (claimBatch dep s.fleet.db w batchSize scan fleet.clock).2
      { s.setWorker w ⟨true, ids.map (fun id => ⟨id, fleet.db.events.length⟩), none⟩ with
        fleet := fleet
        generated := s.generated ++ ids.map (fun id => ⟨w, id, fleet.db.tokenOf id⟩) }
    else { s with fleet := fleet }
  | .start w =>
    match s.nextClaimed w with
    | some c =>
      { s.setWorker w ⟨(s.workers w).alive, (s.workers w).claimed.tail,
          some ⟨c.taskRunId, s.fleet.db.tokenOf c.taskRunId⟩⟩ with fleet := fleet }
    | none => { s with fleet := fleet }
  | .report w outcome =>
    match (s.workers w).executing with
    | some e =>
      { s.setWorker w (if outcome.escapes dep s.fleet.db w e fleet.clock then .dead
          else { s.workers w with executing := none }) with fleet := fleet }
    | none => { s with fleet := fleet }
  | .crash w => { s.setWorker w .dead with fleet := fleet }
  | _ => { s with fleet := fleet }

def Pool.step (dep : Deployment) (s : Pool) (l : PoolLabel) : Pool :=
  s.move dep (s.fleet.step dep ⟨l.elapsed, s.request l.action⟩) l.action

/-- Freshly created runs, and every worker waiting to claim. -/
def Pool.initial (created : RunId → Option Time) : Pool where
  fleet := Fleet.initial created
  workers := fun _ => ⟨true, [], none⟩
  generated := []

/-- The worker, run and token of an action: read off the row at a start, and kept in `execute_one`'s locals from then
on. -/
def Pool.actsUnder (s : Pool) : PoolAction → Option Generated
  | .start w    => (s.nextClaimed w).map (fun c => ⟨w, c.taskRunId, s.fleet.db.tokenOf c.taskRunId⟩)
  | .heartbeat w => (s.workers w).executing.map (fun e => ⟨w, e.taskRunId, e.leaseToken⟩)
  | .report w _ => (s.workers w).executing.map (fun e => ⟨w, e.taskRunId, e.leaseToken⟩)
  | _           => none

/-- No two workers execute a run under the same token. -/
def Pool.NoSharedToken (s : Pool) : Prop :=
  ∀ w w' e, (s.workers w).executing = some e → (s.workers w').executing = some e → w = w'

/-- The step acts under a token its worker's own `claim_batch` drew for the run, and leaves no token shared. -/
def Pool.ActsUnderOwn (dep : Deployment) (s : Pool) (l : PoolLabel) : Prop :=
  (∀ g, s.actsUnder l.action = some g → g ∈ s.generated) ∧ (s.step dep l).NoSharedToken

/-- Nothing was logged for the run since its batch committed. -/
def Pool.undisturbed (s : Pool) (c : Claimed) : Prop :=
  ∀ e ∈ s.fleet.db.events.drop c.seen, e.taskRunId ≠ c.taskRunId

/-- The run a start executes has not been requeued, failed or claimed again since its batch committed. -/
def Pool.StartsUndisturbed (s : Pool) (l : PoolLabel) : Prop :=
  ∀ w c, l.action = .start w → s.nextClaimed w = some c → s.undisturbed c

/-! ## What a table change does to one run's token -/

/-- From `db` to `db'` either nothing was logged for the run and its token is the same, or something was and its token
is none drawn before. -/
def Db.TokenMoves (id : RunId) (db db' : Db) : Prop :=
  db.nextToken ≤ db'.nextToken ∧ ∃ new, db'.events = db.events ++ new ∧
    (((∀ e ∈ new, e.taskRunId ≠ id) ∧ db'.tokenOf id = db.tokenOf id) ∨
      ((∃ e ∈ new, e.taskRunId = id) ∧ ∀ t, db'.tokenOf id = some t → db.nextToken ≤ t))

theorem Db.TokenMoves.refl (id : RunId) (db : Db) : Db.TokenMoves id db db :=
  ⟨Nat.le_refl _, [], by simp, .inl ⟨by simp, rfl⟩⟩

theorem Db.TokenMoves.trans {id : RunId} {db₁ db₂ db₃ : Db} (h₁ : Db.TokenMoves id db₁ db₂)
    (h₂ : Db.TokenMoves id db₂ db₃) : Db.TokenMoves id db₁ db₃ := by
  obtain ⟨hle₁, new₁, hev₁, hcase₁⟩ := h₁
  obtain ⟨hle₂, new₂, hev₂, hcase₂⟩ := h₂
  refine ⟨Nat.le_trans hle₁ hle₂, new₁ ++ new₂, by rw [hev₂, hev₁, List.append_assoc], ?_⟩
  rcases hcase₂ with ⟨hno₂, htok₂⟩ | ⟨⟨e, he, hid⟩, htok₂⟩
  · rcases hcase₁ with ⟨hno₁, htok₁⟩ | ⟨⟨e, he, hid⟩, htok₁⟩
    · refine .inl ⟨fun e he => ?_, htok₂.trans htok₁⟩
      rcases List.mem_append.1 he with he | he
      · exact hno₁ e he
      · exact hno₂ e he
    · exact .inr ⟨⟨e, List.mem_append_left _ he, hid⟩, fun t ht => htok₁ t (htok₂ ▸ ht)⟩
  · exact .inr ⟨⟨e, List.mem_append_right _ he, hid⟩, fun t ht => Nat.le_trans hle₁ (htok₂ t ht)⟩

section
variable {dep : Deployment} {now : Time} {db db' : Db}

theorem Db.tokenOf_of_row {id : RunId} {r : TaskRun} (h : db.taskRuns id = some r) : db.tokenOf id = r.leaseToken := by
  unfold Db.tokenOf; rw [h]; rfl

/-- A row rewritten together with the one event that records it. -/
theorem Db.TokenMoves.write {next : LeaseToken} (hnext : db.nextToken ≤ next) {j : RunId} {r : TaskRun}
    {e : TaskRunEvent} (he : e.taskRunId = j) (ht : ∀ t ∈ r.leaseToken, db.nextToken ≤ t) (id : RunId) :
    Db.TokenMoves id db ((({ db with nextToken := next } : Db).setRun j r).recordEvent e) := by
  refine ⟨hnext, [e], rfl, ?_⟩
  by_cases hid : id = j
  · subst hid
    refine .inr ⟨⟨e, List.mem_singleton_self e, he⟩, fun t htok => ht t ?_⟩
    rwa [Db.tokenOf_of_row (if_pos rfl)] at htok
  · refine .inl ⟨fun e' he' => ?_, ?_⟩
    · rw [List.mem_singleton.1 he', he]
      exact fun hji => hid hji.symm
    · unfold Db.tokenOf
      rw [Db.recordEvent_taskRuns, Db.setRun_taskRuns, if_neg hid]

theorem DbStep.tokenMoves (h : DbStep dep now db db') (id : RunId) : Db.TokenMoves id db db' := by
  cases h with
  | draw => exact ⟨Nat.le_succ _, [], by simp, .inl ⟨by simp, rfl⟩⟩
  | claim workerId hr hs => exact .write (Nat.le_succ _) rfl (fun t ht => by cases ht; exact Nat.le_refl _) id
  | @heartbeat j token r hr =>
    refine ⟨Nat.le_refl _, [], by simp, .inl ⟨by simp, ?_⟩⟩
    by_cases hid : id = j
    · subst hid
      rw [Db.tokenOf_of_row hr.1, Db.tokenOf_of_row (if_pos rfl)]; rfl
    · unfold Db.tokenOf
      rw [Db.setRun_taskRuns, if_neg hid]
  | succeed workerId logOutput hr => exact .write (Nat.le_refl _) rfl (fun t ht => by cases ht) id
  | @fail j token r workerId f hr =>
    refine .write (Nat.le_refl _) (failureEvent_taskRunId workerId j f r) (fun t ht => ?_) id
    unfold TaskRun.afterFailure at ht
    split at ht <;> cases ht

theorem DbSteps.tokenMoves (h : DbSteps dep now db db') (id : RunId) : Db.TokenMoves id db db' := by
  induction h with
  | refl => exact .refl id _
  | tail _ hstep ih => exact ih.trans (hstep.tokenMoves id)

end

/-! ## The invariant -/

/-- **The invariant of a pool**: every token drawn is a token, and one batch's alone; a claimed run is undisturbed
exactly as long as its row still carries a token its worker drew for it; and every execution is under such a token. -/
structure PoolInv (s : Pool) : Prop where
  drawn     : ∀ g ∈ s.generated, ∃ t, g.leaseToken = some t ∧ t < s.fleet.db.nextToken
  once      : ∀ g ∈ s.generated, ∀ g' ∈ s.generated, g.leaseToken = g'.leaseToken → g = g'
  claimed   : ∀ w, ∀ c ∈ (s.workers w).claimed, c.seen ≤ s.fleet.db.events.length ∧
                (s.undisturbed c ↔ ⟨w, c.taskRunId, s.fleet.db.tokenOf c.taskRunId⟩ ∈ s.generated)
  executing : ∀ w e, (s.workers w).executing = some e → ⟨w, e.taskRunId, e.leaseToken⟩ ∈ s.generated

variable {dep : Deployment} {s : Pool}

theorem PoolInv.noSharedToken (h : PoolInv s) : s.NoSharedToken := by
  intro w w' e he he'
  have := h.once _ (h.executing w e he) _ (h.executing w' e he') rfl
  exact congrArg Generated.workerId this

theorem PoolInv.initial (created : RunId → Option Time) : PoolInv (Pool.initial created) where
  drawn g hg := by cases hg
  once g hg := by cases hg
  claimed w c hc := by cases hc
  executing w e he := by cases he

theorem Pool.step_fleet (dep : Deployment) (s : Pool) (l : PoolLabel) :
    (s.step dep l).fleet = s.fleet.step dep ⟨l.elapsed, s.request l.action⟩ := by
  obtain ⟨elapsed, a⟩ := l
  unfold Pool.step
  generalize s.fleet.step dep ⟨elapsed, s.request a⟩ = fleet
  cases a with
  | claimBatch w batchSize scan => simp only [Pool.move]; split <;> rfl
  | start w => simp only [Pool.move]; split <;> rfl
  | report w outcome => simp only [Pool.move]; split <;> rfl
  | heartbeat w => rfl
  | crash w => rfl
  | reapSelect pass scan => rfl
  | reapNext pass => rfl

/-- **A pool is a fleet**: every interleaving of its processes is an interleaving of the worker's calls. -/
theorem Pool.fleet_reachable (created : RunId → Option Time) (ls : List PoolLabel) :
    (exec (Pool.step dep) (Pool.initial created) ls).fleet.Reachable dep := by
  refine Trace.exec_invariant (I := fun s : Pool => s.fleet.Reachable dep) _ ?_ ls _ ⟨created, [], rfl⟩
  rintro s l ⟨created, ls, hs⟩
  refine ⟨created, ls ++ [⟨l.elapsed, s.request l.action⟩], ?_⟩
  rw [Pool.step_fleet, Trace.exec_concat, ← hs]

/-- A claimed run stays undisturbed exactly as long as its token stays one its worker drew. -/
theorem PoolInv.claimed_moves (h : PoolInv s) {fleet : Fleet} {now : Time}
    (hsteps : DbSteps dep now s.fleet.db fleet.db) {w : String} {c : Claimed} (hc : c ∈ (s.workers w).claimed) :
    c.seen ≤ fleet.db.events.length ∧
      ((∀ e ∈ fleet.db.events.drop c.seen, e.taskRunId ≠ c.taskRunId) ↔
        ⟨w, c.taskRunId, fleet.db.tokenOf c.taskRunId⟩ ∈ s.generated) := by
  obtain ⟨hseen, hiff⟩ := h.claimed w c hc
  obtain ⟨-, new, hev, hcase⟩ := hsteps.tokenMoves c.taskRunId
  have hlen : c.seen ≤ fleet.db.events.length := by
    rw [hev, List.length_append]; exact Nat.le_trans hseen (Nat.le_add_right _ _)
  refine ⟨hlen, ?_⟩
  rw [hev, List.drop_append_of_le_length hseen]
  rcases hcase with ⟨hno, htok⟩ | ⟨⟨e, he, hid⟩, htok⟩
  · rw [htok, ← hiff]
    constructor
    · exact fun hall e he => hall e (List.mem_append_left _ he)
    · intro hall e he
      rcases List.mem_append.1 he with he | he
      · exact hall e he
      · exact hno e he
  · refine iff_of_false (fun hall => hall e (List.mem_append_right _ he) hid) (fun hg => ?_)
    obtain ⟨t, ht, hlt⟩ := h.drawn _ hg
    exact absurd (htok t ht) (Nat.not_le.2 hlt)

/-- **A step that draws no token**: processes may only lose claimed runs and stop executing. -/
theorem PoolInv.move (h : PoolInv s) {s' : Pool} {now : Time} (hsteps : DbSteps dep now s.fleet.db s'.fleet.db)
    (hgen : s'.generated = s.generated) (hclaimed : ∀ w, ∀ c ∈ (s'.workers w).claimed, c ∈ (s.workers w).claimed)
    (hexec : ∀ w e, (s'.workers w).executing = some e → ⟨w, e.taskRunId, e.leaseToken⟩ ∈ s.generated) : PoolInv s' where
  drawn g hg := by
    obtain ⟨t, ht, hlt⟩ := h.drawn g (hgen ▸ hg)
    exact ⟨t, ht, Nat.lt_of_lt_of_le hlt (hsteps.tokenMoves 0).1⟩
  once g hg g' hg' := h.once g (hgen ▸ hg) g' (hgen ▸ hg')
  claimed w c hc := by
    unfold Pool.undisturbed
    rw [hgen]
    exact h.claimed_moves hsteps (hclaimed w c hc)
  executing w e he := by rw [hgen]; exact hexec w e he

/-- A batch its worker claims: fresh tokens, all drawn for it. -/
theorem PoolInv.claimBatch (h : PoolInv s) {w : String} {fleet : Fleet} {now : Time} {ids : List RunId}
    (hsteps : DbSteps dep now s.fleet.db fleet.db) (hinv : ClaimInv s.fleet.db (fleet.db, ids)) :
    PoolInv { s.setWorker w ⟨true, ids.map (fun id => ⟨id, fleet.db.events.length⟩), none⟩ with
      fleet := fleet
      generated := s.generated ++ ids.map (fun id => ⟨w, id, fleet.db.tokenOf id⟩) } := by
  have hnew : ∀ id ∈ ids, ∃ t, fleet.db.tokenOf id = some t ∧ s.fleet.db.nextToken ≤ t ∧ t < fleet.db.nextToken := by
    intro id hid
    obtain ⟨r, t, hr, -, ht, hlo, hhi⟩ := hinv.claimed id hid
    exact ⟨t, by rw [Db.tokenOf_of_row hr, ht], hlo, hhi⟩
  have hold : ∀ g ∈ s.generated, ∀ id ∈ ids, g.leaseToken ≠ fleet.db.tokenOf id := by
    intro g hg id hid heq
    obtain ⟨t, ht, hlt⟩ := h.drawn g hg
    obtain ⟨t', ht', hlo, -⟩ := hnew id hid
    obtain rfl : t = t' := Option.some.inj (ht.symm.trans (heq.trans ht'))
    exact absurd hlo (Nat.not_le.2 hlt)
  refine ⟨fun g hg => ?_, fun g hg g' hg' heq => ?_, fun v c hc => ?_, fun v e he => ?_⟩
  · rcases List.mem_append.1 hg with hg | hg
    · obtain ⟨t, ht, hlt⟩ := h.drawn g hg
      exact ⟨t, ht, Nat.lt_of_lt_of_le hlt hinv.next⟩
    · obtain ⟨id, hid, rfl⟩ := List.mem_map.1 hg
      obtain ⟨t, ht, -, hlt⟩ := hnew id hid
      exact ⟨t, ht, hlt⟩
  · rcases List.mem_append.1 hg with hg | hg <;> rcases List.mem_append.1 hg' with hg' | hg'
    · exact h.once g hg g' hg' heq
    · obtain ⟨id, hid, rfl⟩ := List.mem_map.1 hg'
      exact absurd heq (hold g hg id hid)
    · obtain ⟨id, hid, rfl⟩ := List.mem_map.1 hg
      exact absurd heq.symm (hold g' hg' id hid)
    · obtain ⟨id, hid, rfl⟩ := List.mem_map.1 hg
      obtain ⟨id', hid', rfl⟩ := List.mem_map.1 hg'
      rw [hinv.distinct id hid id' hid' heq]
  · simp only [Pool.setWorker] at hc
    split at hc
    · rename_i hv
      subst hv
      obtain ⟨id, hid, rfl⟩ := List.mem_map.1 hc
      refine ⟨Nat.le_refl _, iff_of_true (fun e he => ?_) (List.mem_append_right _ (List.mem_map.2 ⟨id, hid, rfl⟩))⟩
      rw [List.drop_length] at he
      cases he
    · -- the batch is another worker's, so it draws no token for the worker this run is claimed by
      rename_i hv
      obtain ⟨hseen, hiff⟩ := h.claimed_moves hsteps hc
      refine ⟨hseen, hiff.trans ⟨List.mem_append_left _, fun hg => ?_⟩⟩
      rcases List.mem_append.1 hg with hg | hg
      · exact hg
      · obtain ⟨id, -, heq⟩ := List.mem_map.1 hg
        exact absurd (congrArg Generated.workerId heq).symm hv
  · simp only [Pool.setWorker] at he
    split at he
    · cases he
    · exact List.mem_append_left _ (h.executing v e he)

theorem Pool.nextClaimed_mem {w : String} {c : Claimed} (h : s.nextClaimed w = some c) :
    c ∈ (s.workers w).claimed := by
  unfold Pool.nextClaimed at h
  split at h
  · exact List.mem_of_mem_head? h
  · cases h

/-- **A step whose start is undisturbed preserves the invariant.** -/
theorem PoolInv.step (h : PoolInv s) (l : PoolLabel) (hstart : s.StartsUndisturbed l) : PoolInv (s.step dep l) := by
  obtain ⟨elapsed, a⟩ := l
  have hsteps := @Fleet.step_steps dep s.fleet ⟨elapsed, s.request a⟩
  unfold Pool.step
  cases a with
  | claimBatch w batchSize scan =>
    by_cases hidle : (s.workers w).idle = true
    · simp only [Pool.request, Pool.move, hidle, ↓reduceIte] at hsteps ⊢
      exact h.claimBatch hsteps (claimBatch_inv dep s.fleet.db w batchSize scan _)
    · simp only [Pool.move, hidle]
      exact h.move hsteps rfl (fun _ _ hc => hc) h.executing
  | start w =>
    simp only [Pool.move]
    split
    · rename_i c hc
      have hmem := Pool.nextClaimed_mem hc
      have hown := (h.claimed w c hmem).2.1 (hstart w c rfl hc)
      refine h.move hsteps rfl (fun v c' hc' => ?_) (fun v e he => ?_)
      · simp only [Pool.setWorker] at hc'
        split at hc'
        · rename_i hv
          subst hv
          exact List.mem_of_mem_tail hc'
        · exact hc'
      · simp only [Pool.setWorker] at he
        split at he
        · rename_i hv
          subst hv
          cases he
          exact hown
        · exact h.executing v e he
    · exact h.move hsteps rfl (fun _ _ hc => hc) h.executing
  | report w outcome =>
    simp only [Pool.move]
    split
    · refine h.move hsteps rfl (fun v c' hc' => ?_) (fun v e he => ?_)
      · simp only [Pool.setWorker] at hc'
        split at hc'
        · rename_i hv
          subst hv
          split at hc'
          · cases hc'
          · exact hc'
        · exact hc'
      · simp only [Pool.setWorker] at he
        split at he
        · split at he <;> cases he
        · exact h.executing v e he
    · exact h.move hsteps rfl (fun _ _ hc => hc) h.executing
  | crash w =>
    refine h.move hsteps rfl (fun v c' hc' => ?_) (fun v e he => ?_)
    · simp only [Pool.move, Pool.setWorker] at hc'
      split at hc'
      · cases hc'
      · exact hc'
    · simp only [Pool.move, Pool.setWorker] at he
      split at he
      · cases he
      · exact h.executing v e he
  | heartbeat w => exact h.move hsteps rfl (fun _ _ hc => hc) h.executing
  | reapSelect pass scan => exact h.move hsteps rfl (fun _ _ hc => hc) h.executing
  | reapNext pass => exact h.move hsteps rfl (fun _ _ hc => hc) h.executing

/-- On one step, a worker acts under its own token exactly when the run it starts is undisturbed. -/
theorem PoolInv.actsUnderOwn_iff (h : PoolInv s) (l : PoolLabel) :
    s.ActsUnderOwn dep l ↔ s.StartsUndisturbed l := by
  constructor
  · rintro ⟨hown, -⟩ w c hl hc
    refine (h.claimed w c (Pool.nextClaimed_mem hc)).2.2 (hown _ ?_)
    rw [hl]
    simp only [Pool.actsUnder, hc, Option.map_some]
  · intro hstart
    refine ⟨fun g hg => ?_, (h.step l hstart).noSharedToken⟩
    have hrunning : ∀ w, (s.workers w).executing.map (fun e => (⟨w, e.taskRunId, e.leaseToken⟩ : Generated)) = some g →
        g ∈ s.generated := fun w hg => by
      obtain ⟨e, hexec, rfl⟩ := Option.map_eq_some_iff.1 hg
      exact h.executing w e hexec
    obtain ⟨elapsed, a⟩ := l
    cases a with
    | start w =>
      obtain ⟨c, hc, rfl⟩ := Option.map_eq_some_iff.1 hg
      exact (h.claimed w c (Pool.nextClaimed_mem hc)).2.1 (hstart w c rfl hc)
    | heartbeat w => exact hrunning w hg
    | report w outcome => exact hrunning w hg
    | claimBatch => cases hg
    | crash => cases hg
    | reapSelect => cases hg
    | reapNext => cases hg

/-- **Workers act under their own tokens only, and share none, exactly in the runs in which nothing is logged for a
claimed run between its batch's commit and the start of its execution.** -/
theorem acts_under_own_token_iff (dep : Deployment) (created : RunId → Option Time) (ls : List PoolLabel) :
    Along (Pool.step dep) (Pool.ActsUnderOwn dep) (Pool.initial created) ls ↔
      Along (Pool.step dep) Pool.StartsUndisturbed (Pool.initial created) ls :=
  Trace.along_congr (I := PoolInv) _ (fun _ l hI hC => hI.step l hC) (fun _ l hI => hI.actsUnderOwn_iff l) ls _
    (PoolInv.initial created)

/-- A claims runs 7 and 8 and is still executing run 7 when run 8's lease expires; the reaper requeues run 8, and B
claims it and starts. -/
def reclaimedBeforeStart : List PoolLabel :=
  [⟨0, .claimBatch "a" none [7, 8]⟩, ⟨1, .start "a"⟩, ⟨timedelta 200, .heartbeat "a"⟩,
   ⟨timedelta 101, .reapSelect 0 [7, 8]⟩, ⟨1, .reapNext 0⟩, ⟨timedelta 31, .claimBatch "b" none [8]⟩,
   ⟨1, .start "b"⟩,
   ⟨1, .report "a" (.success none)⟩]

def runs7and8 : Pool := Pool.initial (fun id => if id = 7 ∨ id = 8 then some 0 else none)

theorem reclaimedBeforeStart_shares :
    let s := exec (Pool.step .default) runs7and8 (reclaimedBeforeStart ++ [⟨1, .start "a"⟩])
    (s.workers "a").executing = some ⟨8, some 2⟩ ∧ (s.workers "b").executing = some ⟨8, some 2⟩ := by decide

/-- **Two workers execute a run under one token**, which only one of them drew. -/
theorem shared_lease_token :
    ¬ ∀ (created : RunId → Option Time) (ls : List PoolLabel),
      Along (Pool.step .default) (Pool.ActsUnderOwn .default) (Pool.initial created) ls := by
  intro hall
  have hstep := (Trace.along_iff_split _ _ _ _).1 (hall (fun id => if id = 7 ∨ id = 8 then some 0 else none)
    (reclaimedBeforeStart ++ [⟨1, .start "a"⟩])) reclaimedBeforeStart ⟨1, .start "a"⟩ [] rfl
  have hshared := hstep.2
  rw [← Trace.exec_concat (Pool.step .default)] at hshared
  exact absurd (hshared "a" "b" _ reclaimedBeforeStart_shares.1 reclaimedBeforeStart_shares.2) (by decide)

end Worker
end DataOps

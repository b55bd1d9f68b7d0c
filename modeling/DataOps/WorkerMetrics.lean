import DataOps.WorkerReports
/-!
# WorkerMetrics — the retry and failure counters against the committed events

`complete_failure` increments its counter after the UPDATE and before it looks at `rowcount`, while its sibling
`complete_success` increments after the commit.  So a counter runs ahead of the event log by the UPDATEs that await
their commit and, for good, by those that missed their row or were never committed.
-/
namespace DataOps
namespace Worker
namespace Reports

open Trace (exec Along)

/-- **The counters equal the committed transitions.** -/
def Engine.MetricsMatch (s : Engine) : Prop :=
  s.metrics.tasksRetriedTotal = s.db.events.countP (fun e => e.eventType == .requeued) ∧
  s.metrics.tasksFailedTotal = s.db.events.countP (fun e => e.eventType == .failed)

/-- The step's UPDATE finds its row running under its token, and no UPDATE that matched is given up. -/
def Completes (s : Engine) (l : Label) : Prop :=
  match l.action with
  | .update caller => ∀ c, s.unblocked caller = some c → ∃ r, s.db.holds c.taskRunId c.leaseToken r
  | .commitFails caller => ∀ x ∈ s.written, x.call.caller ≠ caller
  | .crash caller => ∀ x ∈ s.written, x.call.caller ≠ caller
  | _ => True

/-! ## The two branches as one -/

/-- The counter of a branch of `complete_failure`: `true` is the retry. -/
def Metrics.failures (m : Metrics) : Bool → Nat
  | true  => m.tasksRetriedTotal
  | false => m.tasksFailedTotal

/-- The event type of a branch. -/
def failureType : Bool → EventType
  | true  => .requeued
  | false => .failed

def Engine.committed (s : Engine) (retries : Bool) : Nat :=
  s.db.events.countP (fun e => e.eventType == failureType retries)

/-- The UPDATEs of the branch that await their commit. -/
def Engine.pending (dep : Deployment) (s : Engine) (retries : Bool) : Nat :=
  s.written.countP (fun x => x.call.retries dep == retries)

/-- **How far a branch's counter is ahead** of what is committed or awaits its commit. -/
def Ahead (dep : Deployment) (s : Engine) (n : Bool → Nat) : Prop :=
  ∀ retries, s.metrics.failures retries = s.committed retries + s.pending dep retries + n retries

variable {dep : Deployment} {s s' : Engine} {n : Bool → Nat}

@[simp] theorem Metrics.failures_incFailure (m : Metrics) (b retries : Bool) :
    (m.incFailure b).failures retries = m.failures retries + if b = retries then 1 else 0 := by
  cases b <;> cases retries <;> rfl

theorem FailureCall.event_eventType (c : FailureCall) : (c.event dep).eventType = failureType (c.retries dep) := by
  unfold FailureCall.event FailureCall.retries failureEvent
  cases shouldRetry dep c.taskRunId c.failure c.row <;> rfl

theorem failureType_inj {a b : Bool} : failureType a = failureType b ↔ a = b := by
  cases a <;> cases b <;> simp [failureType]

theorem Engine.metricsMatch_iff (hsettled : s.written = []) (h : Ahead dep s n) :
    s.MetricsMatch ↔ ∀ retries, n retries = 0 := by
  have hpending : ∀ retries, s.pending dep retries = 0 := by
    intro retries
    unfold Engine.pending
    rw [hsettled, List.countP_nil]
  have htrue := h true
  have hfalse := h false
  rw [hpending] at htrue hfalse
  unfold Engine.MetricsMatch
  simp only [Metrics.failures, Engine.committed, failureType] at htrue hfalse
  rw [Bool.forall_bool]
  omega

/-! ## What a step does to them -/

/-- **What a step may do**: it leaves the counters no less far ahead, and exactly as far when it completes. -/
def Keeps (dep : Deployment) (n : Bool → Nat) (s' : Engine) (completes : Prop) : Prop :=
  ∃ n', Ahead dep s' n' ∧ (∀ retries, n retries ≤ n' retries) ∧ ((∀ retries, n' retries = n retries) ↔ completes)

theorem Ahead.keeps (h : Ahead dep s' n) {completes : Prop} (hc : completes) : Keeps dep n s' completes :=
  ⟨n, h, fun _ => Nat.le_refl _, iff_of_true (fun _ => rfl) hc⟩

/-- A step that counts no failure, logs none and touches no pending UPDATE. -/
theorem Ahead.same (h : Ahead dep s n) (hmetrics : s'.metrics.failures = s.metrics.failures)
    (hwritten : s'.written = s.written)
    (hevents : ∃ new, s'.db.events = s.db.events ++ new ∧ ∀ e ∈ new, ∀ retries, e.eventType ≠ failureType retries) :
    Ahead dep s' n := by
  obtain ⟨new, happend, hnew⟩ := hevents
  intro retries
  have hnone : new.countP (fun e => e.eventType == failureType retries) = 0 :=
    List.countP_eq_zero.2 (fun e he => by simpa using hnew e he retries)
  have hcommitted : s'.committed retries = s.committed retries := by
    unfold Engine.committed
    rw [happend, List.countP_append, hnone, Nat.add_zero]
  have hpending : s'.pending dep retries = s.pending dep retries := by
    unfold Engine.pending
    rw [hwritten]
  rw [hmetrics, hcommitted, hpending]
  exact h retries

theorem Ahead.leaseLost (h : Ahead dep s n) (unguarded : Bool) (caller : Caller) :
    Ahead dep (s.leaseLost unguarded caller) n := by
  cases caller <;> cases unguarded <;> exact h

theorem Ahead.returned (h : Ahead dep s n) (caller : Caller) : Ahead dep (s.returned caller) n := by
  cases caller <;> exact h

theorem Ahead.check (h : Ahead dep s n) (now : Time) (caller : Caller) (id : RunId) (token : Option LeaseToken)
    (f : Failure) (unguarded : Bool) : Ahead dep (s.check now caller id token f unguarded) n := by
  unfold Engine.check
  split
  · exact h.leaseLost _ _
  · split
    · exact h.leaseLost _ _
    · exact h

/-- **The UPDATE counts, and becomes pending if it matched its row.** -/
theorem Ahead.update (h : Ahead dep s n) (caller : Caller) :
    Keeps dep n (s.update dep caller)
      (∀ c, s.unblocked caller = some c → ∃ r, s.db.holds c.taskRunId c.leaseToken r) := by
  cases hc : s.unblocked caller with
  | none =>
    rw [Engine.update_of_waiting hc]
    exact h.keeps (by simp)
  | some c =>
    by_cases hheld : ∃ r, s.db.holds c.taskRunId c.leaseToken r
    · obtain ⟨r, hr⟩ := hheld
      rw [Engine.update_of_holds hc hr]
      refine Ahead.keeps (fun retries => ?_) (fun c' hc' => by cases hc'; exact ⟨r, hr⟩)
      have hbefore := h retries
      simp only [Engine.committed, Engine.pending, Engine.setChecked, Metrics.failures_incFailure, List.countP_append,
        List.countP_singleton, beq_iff_eq] at hbefore ⊢
      omega
    · rw [Engine.update_of_lost hc (fun r hr => hheld ⟨r, hr⟩)]
      refine ⟨fun retries => n retries + if c.retries dep = retries then 1 else 0,
        Ahead.leaseLost (fun retries => ?_) _ _, fun _ => Nat.le_add_right _ _, iff_of_false (fun hsame => ?_) ?_⟩
      · have hbefore := h retries
        simp only [Engine.committed, Engine.pending, Engine.setChecked, Metrics.failures_incFailure] at hbefore ⊢
        omega
      · have hself := hsame (c.retries dep)
        simp only [↓reduceIte] at hself
        omega
      · exact fun hall => hheld (hall c rfl)

/-- **The commit** turns a pending UPDATE into its event. -/
theorem Ahead.commit (h : Ahead dep s n) (caller : Caller) : Ahead dep (s.commit dep caller) n := by
  unfold Engine.commit
  split
  · exact h
  · rename_i x hx
    refine Ahead.returned (fun retries => ?_) caller
    have hperm := List.perm_cons_erase (List.mem_of_find?_eq_some hx)
    have hpending := hperm.countP_eq (fun x => x.call.retries dep == retries)
    have hbefore := h retries
    simp only [Engine.committed, Engine.pending, Db.recordEvent_events, Db.setRun_events, List.countP_append,
      List.countP_cons, List.countP_nil, FailureCall.event_eventType, beq_iff_eq, failureType_inj] at hbefore hpending ⊢
    omega

/-- **A rollback** gives up the caller's pending UPDATE; its increment stays. -/
theorem Ahead.rollback (h : Ahead dep s n) (caller : Caller) :
    Keeps dep n (s.rollback caller) (∀ x ∈ s.written, x.call.caller ≠ caller) := by
  have hsplit : ∀ retries, s.pending dep retries =
      (s.written.filter (fun x => x.call.caller == caller)).countP (fun x => x.call.retries dep == retries) +
        (s.rollback caller).pending dep retries :=
    fun retries => List.countP_eq_countP_filter_add _ _ _
  refine ⟨fun retries => n retries +
      (s.written.filter (fun x => x.call.caller == caller)).countP (fun x => x.call.retries dep == retries),
    fun retries => ?_, fun _ => Nat.le_add_right _ _, ?_⟩
  · have hbefore := h retries
    rw [hsplit retries] at hbefore
    have hmetrics : (s.rollback caller).metrics.failures retries = s.metrics.failures retries := rfl
    have hcommitted : (s.rollback caller).committed retries = s.committed retries := rfl
    rw [hmetrics, hcommitted, hbefore]
    dsimp only
    omega
  · constructor
    · intro hsame x hx hcaller
      have hzero := hsame (x.call.retries dep)
      dsimp only at hzero
      have hpos : 0 < (s.written.filter (fun x => x.call.caller == caller)).countP
          (fun y => y.call.retries dep == x.call.retries dep) :=
        List.countP_pos_iff.2 ⟨x, List.mem_filter.2 ⟨hx, by simpa using hcaller⟩, by simp⟩
      omega
    · intro hnone retries
      have hnil : s.written.filter (fun x => x.call.caller == caller) = [] :=
        List.filter_eq_nil_iff.2 (fun x hx => by simpa using hnone x hx)
      simp only [hnil, List.countP_nil, Nat.add_zero]

theorem claimFold_events (now : Time) (w : String) : ∀ (ids : List RunId) (acc : Db × List RunId),
    ∃ new, (ids.foldl (claimOne dep now w) acc).1.events = acc.1.events ++ new ∧
      ∀ e ∈ new, ∀ retries, e.eventType ≠ failureType retries
  | [], acc => ⟨[], (List.append_nil _).symm, fun _ he => by cases he⟩
  | id :: ids, acc => by
    obtain ⟨new, happend, hnew⟩ := claimFold_events now w ids (claimOne dep now w acc id)
    rw [List.foldl_cons, happend]
    rcases claimOne_cases dep now w acc id with hone | ⟨r, -, -, hone⟩
    · exact ⟨new, by rw [hone], hnew⟩
    · refine ⟨claimEvent dep now w id r :: new, by rw [hone]; simp, fun e he retries => ?_⟩
      rcases List.mem_cons.1 he with rfl | he
      · cases retries <;> simp [claimEvent, failureType]
      · exact hnew e he retries

theorem settle_heartbeat_events (db : Db) (id : RunId) (token : Option LeaseToken) (now : Time) :
    (settle db (heartbeat dep db id token now)).events = db.events := by
  cases hbeat : heartbeat dep db id token now with
  | error e => rfl
  | ok db' =>
    obtain ⟨r, -, rfl⟩ := heartbeat_ok hbeat
    rfl

theorem Ahead.finish (h : Ahead dep s n) (now : Time) (w : String) (e : Execution) (outcome : Outcome) :
    Ahead dep (s.finish now w e outcome) n := by
  cases outcome with
  | success logOutput =>
    simp only [Engine.finish]
    split
    · exact h
    · split
      · exact h.returned _
      · rename_i db' hok
        obtain ⟨r, -, rfl⟩ := completeSuccess_ok hok
        apply Ahead.returned
        refine h.same ?_ rfl ⟨[_], rfl, fun e' he' retries => ?_⟩
        · funext retries
          cases retries <;> rfl
        · rw [List.mem_singleton.1 he']
          cases retries <;> simp [successEvent, failureType]
  | transientError message => exact h.check _ _ _ _ _ _
  | permanentError message => exact h.check _ _ _ _ _ _
  | unexpectedError message => exact h.check _ _ _ _ _ _

theorem Ahead.act (h : Ahead dep s n) (now : Time) (elapsed : Time) (a : Action) :
    Keeps dep n (s.act dep now a) (Completes s ⟨elapsed, a⟩) := by
  cases a with
  | claimBatch w batchSize scan =>
    refine Ahead.keeps ?_ trivial
    simp only [Engine.act]
    split
    · refine h.same ?_ rfl (claimFold_events now w _ _)
      funext retries
      cases retries <;> rfl
    · exact h
  | start w =>
    refine Ahead.keeps ?_ trivial
    simp only [Engine.act]
    split <;> exact h
  | heartbeat w =>
    refine Ahead.keeps ?_ trivial
    simp only [Engine.act]
    split
    · exact h
    · split
      · exact h
      · refine h.same rfl rfl ⟨[], ?_, fun _ he => by cases he⟩
        rw [settle_heartbeat_events, List.append_nil]
  | finish w outcome =>
    refine Ahead.keeps ?_ trivial
    simp only [Engine.act]
    split
    · exact h
    · exact h.finish _ _ _ _
  | reapSelect pass scan =>
    refine Ahead.keeps ?_ trivial
    simp only [Engine.act]
    split <;> exact h
  | reapNext pass =>
    refine Ahead.keeps ?_ trivial
    simp only [Engine.act]
    split
    · rename_i id token rest _ _
      have hpass : Ahead dep (s.setPass pass rest) n := h
      exact hpass.check _ _ _ _ _ _
    · exact h
  | update caller => exact h.update caller
  | commit caller => exact (h.commit caller).keeps trivial
  | commitFails caller =>
    simp only [Engine.act, Completes]
    split
    · cases caller <;> exact h.rollback _
    · rename_i hnone
      refine h.keeps (fun x hx hcaller => hnone (List.any_eq_true.2 ⟨x, hx, by simpa using hcaller⟩))
  | crash caller => cases caller <;> exact h.rollback _

theorem Ahead.step (h : Ahead dep s n) (l : Label) : Keeps dep n (s.step dep l) (Completes s l) := by
  obtain ⟨n', hahead, hle, hiff⟩ := h.act (s.clock + l.elapsed) l.elapsed l.action
  exact ⟨n', hahead, hle, hiff⟩

/-- **Over a run**: the counters fall ahead for good at the first step that does not complete. -/
theorem Ahead.exec : ∀ (ls : List Label) {s : Engine} {n : Bool → Nat}, Ahead dep s n →
    Keeps dep n (exec (Engine.step dep) s ls) (Along (Engine.step dep) Completes s ls)
  | [], _, _, h => h.keeps trivial
  | l :: ls, s, n, h => by
    obtain ⟨n₁, h₁, hle₁, hiff₁⟩ := h.step l
    obtain ⟨n₂, h₂, hle₂, hiff₂⟩ := Ahead.exec ls h₁
    refine ⟨n₂, h₂, fun retries => Nat.le_trans (hle₁ retries) (hle₂ retries), ?_⟩
    rw [Trace.along_cons, ← hiff₁, ← hiff₂]
    constructor
    · intro hsame
      have hfirst : ∀ retries, n₁ retries = n retries := fun retries =>
        Nat.le_antisymm (hsame retries ▸ hle₂ retries) (hle₁ retries)
      exact ⟨hfirst, fun retries => (hsame retries).trans (hfirst retries).symm⟩
    · exact fun ⟨hfirst, hrest⟩ retries => (hrest retries).trans (hfirst retries)

/-- **The retry and failure counters equal the committed events, once no UPDATE awaits its commit, exactly in the runs
in which every UPDATE found its row and was committed.** -/
theorem metrics_match_iff (dep : Deployment) (created : RunId → Option Time) (ls : List Label)
    (hsettled : (exec (Engine.step dep) (Engine.initial created) ls).written = []) :
    (exec (Engine.step dep) (Engine.initial created) ls).MetricsMatch ↔
      Along (Engine.step dep) Completes (Engine.initial created) ls := by
  have hstart : Ahead dep (Engine.initial created) (fun _ => 0) := fun retries => by cases retries <;> rfl
  obtain ⟨n, hahead, -, hiff⟩ := hstart.exec ls
  rw [Engine.metricsMatch_iff hsettled hahead, hiff]

/-- The reaper finds A's lease expired and checks the row; A's success commits; the reaper's UPDATE misses. -/
def finishedBeforeUpdate : List Label :=
  [⟨0, .claimBatch "a" none [7]⟩, ⟨1, .start "a"⟩, ⟨timedelta 301, .reapSelect 0 [7]⟩, ⟨1, .reapNext 0⟩,
   ⟨1, .finish "a" (.success none)⟩, ⟨1, .update (.reaper 0)⟩]

theorem metrics_match_iff_finishedBeforeUpdate :
    (exec (Engine.step .default) (Engine.initial (fun _ => some 0)) finishedBeforeUpdate).MetricsMatch ↔
      Along (Engine.step .default) Completes (Engine.initial (fun _ => some 0)) finishedBeforeUpdate :=
  metrics_match_iff .default (fun _ => some 0) finishedBeforeUpdate (by decide)

/-- One retry is counted and none was committed. -/
example :
    let s := exec (Engine.step .default) (Engine.initial (fun _ => some 0)) finishedBeforeUpdate
    s.written = [] ∧ s.metrics.tasksRetriedTotal = 1 ∧
      s.db.events.map (fun e => e.eventType) = [.claimed, .succeeded] := by
  decide

/-- A's lease expires while its handler runs, and the reaper requeues the run; A's failure passes its check, on the row
that A's session has had since the start, and its UPDATE misses. -/
def requeuedBeforeFailure : List Label :=
  [⟨0, .claimBatch "a" none [7]⟩, ⟨1, .start "a"⟩, ⟨timedelta 301, .reapSelect 0 [7]⟩, ⟨1, .reapNext 0⟩,
   ⟨1, .update (.reaper 0)⟩, ⟨1, .commit (.reaper 0)⟩, ⟨1, .finish "a" (.transientExecutionError "rate limited")⟩,
   ⟨1, .update (.worker "a")⟩]

/-- **A failure reported under a lost lease is counted as a retry**: two are counted, and one was committed. -/
theorem metrics_differ :
    ¬ ∀ (created : RunId → Option Time) (ls : List Label),
      (exec (Engine.step .default) (Engine.initial created) ls).written = [] →
        (exec (Engine.step .default) (Engine.initial created) ls).MetricsMatch := by
  intro hall
  have hmatch := hall (fun _ => some 0) requeuedBeforeFailure (by decide)
  exact absurd hmatch.1 (by decide)

end Reports
end Worker
end DataOps

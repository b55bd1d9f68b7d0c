import DataOps.WorkerReports
/-!
# WorkerLeaseLoss — which lease losses `execute_one` absorbs

A worker whose lease is gone learns it from `LeaseLostError`.  `execute_one` catches the one `complete_success` raises
and the one raised while it reports an unexpected exception; the clauses of the two execution errors, the unknown task
type among the permanent ones, let it out, and nothing in `run_forever` catches it.  A lease lost since `execute_one` began
passes the check, which is made on the row as read then, and is missed by the UPDATE.
-/
namespace DataOps
namespace Worker
namespace Reports

open Trace (exec Along)

/-- The worker whose `execute_one` reports in the step, and the run and token it reports under. -/
def Engine.reporting (s : Engine) : Action → Option (String × RunId × Option LeaseToken)
  | .finish w _ => (s.ready w).map (fun e => (w, e.taskRunId, e.leaseToken))
  | .update (.worker w) => (s.unblocked (.worker w)).map (fun c => (w, c.taskRunId, c.leaseToken))
  | .commit (.worker w) =>
    (s.written.find? (fun x => x.call.caller == .worker w)).map (fun x => (w, x.call.taskRunId, x.call.leaseToken))
  | _ => none

/-- **The step absorbs a lost lease**: the worker that reports goes on with the rest of its batch, and if it no longer
owns the lease, the run's row and its events are as they were. -/
def Absorbs (dep : Deployment) (s : Engine) (l : Label) : Prop :=
  ∀ w id token, s.reporting l.action = some (w, id, token) →
    (((s.step dep l).workers w).alive = true ∧ ((s.step dep l).workers w).claimed = (s.workers w).claimed) ∧
    ((∀ r, ¬ s.db.holds id token r) →
      (s.step dep l).db.taskRuns id = s.db.taskRuns id ∧ (s.step dep l).db.eventsOf id = s.db.eventsOf id)

/-- The row and token of a step that reports an execution error: the row the session has, at the check of
`complete_failure`, and the row there is, at its UPDATE. -/
def Engine.exposed (s : Engine) : Action → Option (Option TaskRun × Option LeaseToken)
  | .finish w outcome =>
    if outcome.clause.unguarded then (s.ready w).map (fun e => (s.get e.taskRunId (.worker w), e.leaseToken)) else none
  | .update (.worker w) =>
    ((s.unblocked (.worker w)).filter (fun c => c.unguarded)).map (fun c => (s.db.taskRuns c.taskRunId, c.leaseToken))
  | _ => none

/-- A report of an execution error finds the lease held. -/
def HeldWhenExposed (s : Engine) (l : Label) : Prop :=
  ∀ row token, s.exposed l.action = some (row, token) → ∃ r, Leased row token r

/-! ## The invariant -/

/-- **The invariant of the engine**: a caller is in one call at most and its process is alive, and a row whose UPDATE
awaits its commit is still running under the token it was matched with. -/
structure Sound (s : Engine) : Prop where
  caller   : ∀ caller c, s.checked caller = some c → c.caller = caller
  single   : ∀ caller, s.checked caller ≠ none → ∀ x ∈ s.written, x.call.caller ≠ caller
  alive    : ∀ w, s.inCall (.worker w) = true → (s.workers w).alive = true
  locks    : ∀ x ∈ s.written, ∃ r, s.db.holds x.call.taskRunId x.call.leaseToken r
  distinct : s.written.Pairwise (fun x y => x.call.taskRunId ≠ y.call.taskRunId)

theorem Sound.initial (created : RunId → Option Time) : Sound (Engine.initial created) where
  caller caller c h := by cases h
  single caller h := absurd rfl h
  alive w h := by simp [Engine.inCall, Engine.initial] at h
  locks x hx := by cases hx
  distinct := List.Pairwise.nil

variable {dep : Deployment} {s s' : Engine}

theorem Engine.inCall_iff (s : Engine) (caller : Caller) :
    s.inCall caller = true ↔ s.checked caller ≠ none ∨ ∃ x ∈ s.written, x.call.caller = caller := by
  simp [Engine.inCall, Option.isSome_iff_ne_none]

theorem Engine.locked_iff (s : Engine) (id : RunId) :
    s.locked id = true ↔ ∃ x ∈ s.written, x.call.taskRunId = id := by
  simp [Engine.locked]

theorem Engine.ready_some {w : String} {e : Execution} (h : s.ready w = some e) :
    (s.workers w).alive = true ∧ s.inCall (.worker w) = false ∧ (s.workers w).executing = some e := by
  unfold Engine.ready at h
  split at h
  · rename_i hcond
    rw [Bool.and_eq_true, Bool.not_eq_true'] at hcond
    exact ⟨hcond.1, hcond.2, h⟩
  · cases h

theorem Engine.unblocked_some {caller : Caller} {c : FailureCall} (h : s.unblocked caller = some c) :
    s.checked caller = some c ∧ s.locked c.taskRunId = false := by
  obtain ⟨hc, hlock⟩ := Option.filter_eq_some_iff.1 h
  exact ⟨hc, by simpa using hlock⟩

/-- A step that leaves the calls alone keeps the invariant if no locked row loses its lease and no process inside a
call dies. -/
theorem Sound.keep (h : Sound s) (hchecked : s'.checked = s.checked) (hwritten : s'.written = s.written)
    (hlocks : ∀ x ∈ s.written, ∀ r, s.db.holds x.call.taskRunId x.call.leaseToken r →
      ∃ r', s'.db.holds x.call.taskRunId x.call.leaseToken r')
    (halive : ∀ w, s.inCall (.worker w) = true → (s.workers w).alive = true → (s'.workers w).alive = true) :
    Sound s' where
  caller := by rw [hchecked]; exact h.caller
  single := by rw [hchecked, hwritten]; exact h.single
  alive w hw := by
    have hw' : s.inCall (.worker w) = true := by
      unfold Engine.inCall at hw ⊢
      rwa [hchecked, hwritten] at hw
    exact halive w hw' (h.alive w hw')
  locks x hx := by
    rw [hwritten] at hx
    obtain ⟨r, hr⟩ := h.locks x hx
    exact hlocks x hx r hr
  distinct := by rw [hwritten]; exact h.distinct

/-- One row rewritten, which no transaction has locked. -/
theorem Db.holds_setRun_of_ne {db : Db} {id j : RunId} {token : Option LeaseToken} {r r' : TaskRun} (hne : id ≠ j)
    (h : db.holds id token r) (events : List TaskRunEvent) (next : LeaseToken) :
    Db.holds ⟨(db.setRun j r').taskRuns, events, next⟩ id token r := by
  refine ⟨?_, h.2⟩
  rw [Db.setRun_taskRuns, if_neg hne]
  exact h.1

theorem claimOne_holds {acc : Db × List RunId} {id : RunId} {token : Option LeaseToken} {r : TaskRun}
    (h : acc.1.holds id token r) (now : Time) (w : String) (j : RunId) :
    (claimOne dep now w acc j).1.holds id token r := by
  rcases claimOne_cases dep now w acc j with hone | ⟨rj, hrj, hpending, hone⟩
  · rw [hone]
    exact h
  · rw [hone]
    refine Db.holds_setRun_of_ne (fun hij => ?_) h _ _
    obtain rfl : rj = r := Option.some.inj (hrj.symm.trans (hij ▸ h.1))
    have hrunning := h.2.2
    rw [hpending] at hrunning
    cases hrunning

/-- **A claimed batch leaves every running row alone.** -/
theorem claimFold_holds {id : RunId} {token : Option LeaseToken} {r : TaskRun} (now : Time) (w : String) :
    ∀ (ids : List RunId) (acc : Db × List RunId), acc.1.holds id token r →
      (ids.foldl (claimOne dep now w) acc).1.holds id token r
  | [], _, h => h
  | j :: ids, _, h => claimFold_holds now w ids _ (claimOne_holds h now w j)

theorem settle_heartbeat_holds {db : Db} {id j : RunId} {token token' : Option LeaseToken} {r : TaskRun} (hne : id ≠ j)
    (now : Time) (h : db.holds id token r) : (settle db (heartbeat dep db j token' now)).holds id token r := by
  cases hbeat : heartbeat dep db j token' now with
  | error e => exact h
  | ok db' =>
    obtain ⟨r', -, rfl⟩ := heartbeat_ok hbeat
    exact Db.holds_setRun_of_ne hne h _ _

/-- What a caller that is in no call may come to: its process ends or goes on, and no call changes. -/
theorem Sound.setWorker (h : Sound s) {w : String} (p : WorkerProcess)
    (hp : s.inCall (.worker w) = true → (s.workers w).alive = true → p.alive = true) : Sound (s.setWorker w p) := by
  refine h.keep rfl rfl (fun x _ r hr => ⟨r, hr⟩) (fun v hv halive => ?_)
  rw [Engine.setWorker_workers]
  split
  · rename_i hvw
    subst hvw
    exact hp hv halive
  · exact halive

theorem Sound.setSession (h : Sound s) (w : String) (row : Option TaskRun) : Sound (s.setSession w row) :=
  h.keep rfl rfl (fun _ _ r hr => ⟨r, hr⟩) (fun _ _ halive => halive)

theorem Sound.returned (h : Sound s) (caller : Caller) : Sound (s.returned caller) := by
  cases caller with
  | worker w => exact h.setWorker _ (fun _ halive => halive)
  | reaper pass => exact h

theorem Sound.leaseLost (h : Sound s) {caller : Caller} (hidle : s.inCall caller = false) (unguarded : Bool) :
    Sound (s.leaseLost unguarded caller) := by
  cases caller with
  | worker w =>
    unfold Engine.leaseLost
    dsimp only
    split
    · exact h.setWorker _ (fun hcall => by rw [hidle] at hcall; cases hcall)
    · exact h.returned _
  | reaper pass => exact h

/-- The check of a caller that is in no call. -/
theorem Sound.check (h : Sound s) {caller : Caller} (hidle : s.inCall caller = false) (now : Time) (id : RunId)
    (token : Option LeaseToken) (f : Failure) (unguarded : Bool)
    (halive : ∀ w, caller = .worker w → (s.workers w).alive = true) :
    Sound (s.check now caller id token f unguarded) := by
  by_cases hheld : ∃ r, Leased (s.get id caller) token r
  · obtain ⟨r, hr⟩ := hheld
    rw [Engine.check_of_leased hr]
    have hnone : ∀ x ∈ s.written, x.call.caller ≠ caller := fun x hx heq => by
      rw [(s.inCall_iff caller).2 (.inr ⟨x, hx, heq⟩)] at hidle
      cases hidle
    refine ⟨fun c' call hcall => ?_, fun c' hc' => ?_, fun w hw => ?_, h.locks, h.distinct⟩
    · rw [Engine.setChecked_checked] at hcall
      split at hcall
      · rename_i heq
        cases hcall
        exact heq.symm
      · exact h.caller c' call hcall
    · rw [Engine.setChecked_checked] at hc'
      split at hc'
      · rename_i heq
        rw [heq]
        exact hnone
      · exact h.single c' hc'
    · by_cases hcaller : caller = .worker w
      · exact halive w hcaller
      · refine h.alive w ((s.inCall_iff _).2 ?_)
        rcases (Engine.inCall_iff _ _).1 hw with hchecked | hwritten
        · rw [Engine.setChecked_checked, if_neg (Ne.symm hcaller)] at hchecked
          exact .inl hchecked
        · exact .inr hwritten
  · rw [Engine.check_of_lost (fun r hr => hheld ⟨r, hr⟩)]
    exact h.leaseLost hidle unguarded

/-- A call that leaves its stage by the caller's rollback or its end. -/
theorem Sound.setChecked_none (h : Sound s) (caller : Caller) : Sound (s.setChecked caller none) := by
  refine ⟨fun c' call hcall => ?_, fun c' hc' => ?_, fun w hw => ?_, h.locks, h.distinct⟩
  · rw [Engine.setChecked_checked] at hcall
    split at hcall
    · cases hcall
    · exact h.caller c' call hcall
  · rw [Engine.setChecked_checked] at hc'
    split at hc'
    · exact absurd rfl hc'
    · exact h.single c' hc'
  · refine h.alive w ((s.inCall_iff _).2 ?_)
    rcases (Engine.inCall_iff _ _).1 hw with hchecked | hwritten
    · rw [Engine.setChecked_checked] at hchecked
      split at hchecked
      · exact absurd rfl hchecked
      · exact .inl hchecked
    · exact .inr hwritten

/-- Counters are not part of the invariant. -/
theorem Sound.setMetrics (h : Sound s) (metrics : Metrics) : Sound { s with metrics := metrics } :=
  ⟨h.caller, h.single, h.alive, h.locks, h.distinct⟩

theorem Sound.update (h : Sound s) (caller : Caller) : Sound (s.update dep caller) := by
  cases hc : s.unblocked caller with
  | none =>
    rw [Engine.update_of_waiting hc]
    exact h
  | some c =>
    obtain ⟨hchecked, hlock⟩ := Engine.unblocked_some hc
    have hcaller := h.caller caller c hchecked
    have hsingle := h.single caller (by rw [hchecked]; exact Option.some_ne_none c)
    have hfree : ∀ x ∈ s.written, x.call.taskRunId ≠ c.taskRunId := fun x hx heq => by
      rw [(s.locked_iff _).2 ⟨x, hx, heq⟩] at hlock
      cases hlock
    have hnone := h.setChecked_none caller
    by_cases hheld : ∃ r, s.db.holds c.taskRunId c.leaseToken r
    · obtain ⟨r, hr⟩ := hheld
      rw [Engine.update_of_holds hc hr]
      refine ⟨hnone.caller, fun c' hc' x hx => ?_, fun w hw => ?_, fun x hx => ?_, ?_⟩
      · rcases List.mem_append.1 hx with hx | hx
        · exact hnone.single c' hc' x hx
        · rw [List.mem_singleton.1 hx]
          rintro rfl
          simp [hcaller, Engine.setChecked] at hc'
      · refine h.alive w ((s.inCall_iff _).2 ?_)
        rcases (Engine.inCall_iff _ _).1 hw with hne | ⟨x, hx, hxw⟩
        · simp only [Engine.setChecked] at hne
          split at hne
          · exact absurd rfl hne
          · exact .inl hne
        · rcases List.mem_append.1 hx with hx | hx
          · exact .inr ⟨x, hx, hxw⟩
          · rw [List.mem_singleton.1 hx] at hxw
            refine .inl ?_
            rw [← hxw, hcaller, hchecked]
            exact Option.some_ne_none c
      · rcases List.mem_append.1 hx with hx | hx
        · exact h.locks x hx
        · rw [List.mem_singleton.1 hx]
          exact ⟨r, hr⟩
      · refine List.pairwise_append.2 ⟨h.distinct, List.pairwise_singleton _ _, fun x hx y hy => ?_⟩
        rw [List.mem_singleton.1 hy]
        exact hfree x hx
    · rw [Engine.update_of_lost hc (fun r hr => hheld ⟨r, hr⟩)]
      refine (hnone.setMetrics _).leaseLost ?_ _
      rw [← Bool.not_eq_true, Engine.inCall_iff]
      rintro (hne | ⟨x, hx, hxc⟩)
      · simp [Engine.setChecked] at hne
      · exact hsingle x hx hxc

/-- **A commit** rewrites the row it holds the lock of, and no other call's. -/
theorem Sound.commit (h : Sound s) (caller : Caller) : Sound (s.commit dep caller) := by
  unfold Engine.commit
  split
  · exact h
  · rename_i x hx
    have hmem := List.mem_of_find?_eq_some hx
    have hne : ∀ y ∈ s.written.erase x, y.call.taskRunId ≠ x.call.taskRunId := by
      have hperm := List.perm_cons_erase hmem
      have hpair := (hperm.pairwise_iff (fun {a b} (hab : a.call.taskRunId ≠ b.call.taskRunId) => hab.symm)).1 h.distinct
      exact fun y hy => ((List.pairwise_cons.1 hpair).1 y hy).symm
    apply Sound.returned
    refine ⟨h.caller, fun c' hc' y hy => h.single c' hc' y (List.mem_of_mem_erase hy), fun w hw => ?_,
      fun y hy => ?_, h.distinct.sublist List.erase_sublist⟩
    · refine h.alive w ((s.inCall_iff _).2 (((Engine.inCall_iff _ _).1 hw).imp_right ?_))
      rintro ⟨y, hy, hyw⟩
      exact ⟨y, List.mem_of_mem_erase hy, hyw⟩
    · obtain ⟨r, hr⟩ := h.locks y (List.mem_of_mem_erase hy)
      exact ⟨r, Db.holds_setRun_of_ne (hne y hy) hr _ _⟩

theorem Sound.rollback (h : Sound s) (caller : Caller) : Sound (s.rollback caller) := by
  have hnone := h.setChecked_none caller
  refine ⟨hnone.caller, fun c' hc' x hx => hnone.single c' hc' x (List.mem_of_mem_filter hx), fun w hw => ?_,
    fun x hx => h.locks x (List.mem_of_mem_filter hx), h.distinct.sublist List.filter_sublist⟩
  refine hnone.alive w ((Engine.inCall_iff _ _).2 (((Engine.inCall_iff _ _).1 hw).imp_right ?_))
  rintro ⟨x, hx, hxw⟩
  exact ⟨x, List.mem_of_mem_filter hx, hxw⟩

theorem Engine.inCall_rollback (s : Engine) (caller : Caller) : (s.rollback caller).inCall caller = false := by
  simp [Engine.rollback, Engine.inCall, Engine.setChecked]

theorem Sound.finish (h : Sound s) {w : String} {e : Execution} (he : s.ready w = some e) (now : Time)
    (outcome : Outcome) : Sound (s.finish now w e outcome) := by
  obtain ⟨halive, hidle, -⟩ := Engine.ready_some he
  have hself : ∀ v, Caller.worker w = .worker v → (s.workers v).alive = true := by
    rintro v heq
    cases heq
    exact halive
  cases outcome with
  | success logOutput =>
    simp only [Engine.finish]
    split
    · exact h
    · rename_i hlock
      split
      · exact h.returned _
      · rename_i db' hok
        obtain ⟨r, -, rfl⟩ := completeSuccess_ok hok
        apply Sound.returned
        refine h.keep rfl rfl (fun x hx r' hr' => ⟨r', ?_⟩) (fun _ _ halive => halive)
        refine Db.holds_setRun_of_ne (fun heq => ?_) hr' _ _
        exact hlock ((s.locked_iff _).2 ⟨x, hx, heq⟩)
  | transientError message => exact h.check hidle now _ _ _ _ hself
  | permanentError message => exact h.check hidle now _ _ _ _ hself
  | unexpectedError message => exact h.check hidle now _ _ _ _ hself

theorem Sound.act (h : Sound s) (now : Time) (a : Action) : Sound (s.act dep now a) := by
  cases a with
  | claimBatch w batchSize scan =>
    simp only [Engine.act]
    split
    · refine h.keep rfl rfl (fun x _ r hr => ⟨r, claimFold_holds now w _ _ hr⟩) (fun v _ halive => ?_)
      simp only [Engine.setWorker]
      split
      · rfl
      · exact halive
    · exact h
  | start w =>
    simp only [Engine.act]
    split
    · exact (h.setSession w _).setWorker _ (fun _ halive => halive)
    · exact h
  | heartbeat w =>
    simp only [Engine.act]
    split
    · exact h
    · split
      · exact h
      · rename_i e _ hlock
        refine h.keep rfl rfl (fun x hx r hr => ⟨r, settle_heartbeat_holds (fun heq => ?_) now hr⟩)
          (fun _ _ halive => halive)
        exact hlock ((s.locked_iff _).2 ⟨x, hx, heq⟩)
  | finish w outcome =>
    simp only [Engine.act]
    split
    · exact h
    · rename_i e he
      exact h.finish he now _
  | reapSelect pass scan =>
    simp only [Engine.act]
    split
    · exact h.keep rfl rfl (fun x _ r hr => ⟨r, hr⟩) (fun _ _ halive => halive)
    · exact h
  | reapNext pass =>
    simp only [Engine.act]
    split
    · rename_i id token rest _ hidle
      have hpass : Sound (s.setPass pass rest) := h.keep rfl rfl (fun x _ r hr => ⟨r, hr⟩) (fun _ _ halive => halive)
      exact hpass.check hidle now _ _ _ _ (fun w heq => by cases heq)
    · exact h
  | update caller => exact h.update caller
  | commit caller => exact h.commit caller
  | commitFails caller =>
    simp only [Engine.act]
    split
    · cases caller with
      | worker w =>
        exact (h.rollback _).setWorker _ (fun hcall => by rw [Engine.inCall_rollback] at hcall; cases hcall)
      | reaper pass => exact h.rollback _
    · exact h
  | crash caller =>
    cases caller with
    | worker w =>
      exact (h.rollback _).setWorker _ (fun hcall => by rw [Engine.inCall_rollback] at hcall; cases hcall)
    | reaper pass =>
      exact (h.rollback _).keep rfl rfl (fun x _ r hr => ⟨r, hr⟩) (fun _ _ halive => halive)

theorem Sound.step (h : Sound s) (l : Label) : Sound (s.step dep l) :=
  (h.act (s.clock + l.elapsed) l.action).keep rfl rfl (fun _ _ r hr => ⟨r, hr⟩) (fun _ _ halive => halive)

/-! ## One report -/

/-- From `s` to `s'` the worker's loop goes on with its batch, and a run it no longer owns is left alone. -/
def GoesOn (s s' : Engine) (w : String) (id : RunId) (token : Option LeaseToken) : Prop :=
  ((s'.workers w).alive = true ∧ (s'.workers w).claimed = (s.workers w).claimed) ∧
  ((∀ r, ¬ s.db.holds id token r) → s'.db.taskRuns id = s.db.taskRuns id ∧ s'.db.eventsOf id = s.db.eventsOf id)

section
variable {w : String} {id : RunId} {token : Option LeaseToken}

theorem goesOn_of_same (halive : (s.workers w).alive = true) (hworkers : s'.workers w = s.workers w)
    (hdb : s'.db = s.db) : GoesOn s s' w id token := by
  unfold GoesOn
  rw [hworkers, hdb]
  exact ⟨⟨halive, rfl⟩, fun _ => ⟨rfl, rfl⟩⟩

theorem goesOn_returned (halive : (s.workers w).alive = true) : GoesOn s (s.returned (.worker w)) w id token := by
  simp [GoesOn, Engine.returned, Engine.setWorker, halive]

/-- A `LeaseLostError` stops the worker exactly where the clause does not guard its report. -/
theorem goesOn_leaseLost (halive : (s.workers w).alive = true) (unguarded : Bool) :
    GoesOn s (s.leaseLost unguarded (.worker w)) w id token ↔ unguarded = false := by
  cases unguarded with
  | true => simp [GoesOn, Engine.leaseLost, Engine.setWorker, WorkerProcess.dead]
  | false => exact iff_of_true (goesOn_returned halive) rfl

theorem goesOn_check (halive : (s.workers w).alive = true) (now : Time) (f : Failure) (unguarded : Bool) :
    GoesOn s (s.check now (.worker w) id token f unguarded) w id token ↔
      (unguarded = true → ∃ r, Leased (s.get id (.worker w)) token r) := by
  by_cases hheld : ∃ r, Leased (s.get id (.worker w)) token r
  · obtain ⟨r, hr⟩ := hheld
    rw [Engine.check_of_leased hr]
    exact iff_of_true (goesOn_of_same halive rfl rfl) (fun _ => ⟨r, hr⟩)
  · rw [Engine.check_of_lost (fun r hr => hheld ⟨r, hr⟩), goesOn_leaseLost halive]
    cases unguarded <;> simp [hheld]

theorem goesOn_update {c : FailureCall} (halive : (s.workers w).alive = true) (hc : s.unblocked (.worker w) = some c) :
    GoesOn s (s.update dep (.worker w)) w c.taskRunId c.leaseToken ↔
      (c.unguarded = true → ∃ r, Leased (s.db.taskRuns c.taskRunId) c.leaseToken r) := by
  by_cases hheld : ∃ r, Leased (s.db.taskRuns c.taskRunId) c.leaseToken r
  · obtain ⟨r, hr⟩ := hheld
    rw [Engine.update_of_holds hc hr]
    exact iff_of_true (goesOn_of_same halive rfl rfl) (fun _ => ⟨r, hr⟩)
  · rw [Engine.update_of_lost hc (fun r hr => hheld ⟨r, hr⟩)]
    -- the counter is incremented, and the rest is as after a check that failed
    refine (goesOn_leaseLost (s := { s.setChecked (.worker w) none with
      metrics := s.metrics.incFailure (c.retries dep) }) halive c.unguarded).trans ?_
    cases c.unguarded <;> simp [hheld]

theorem goesOn_success (halive : (s.workers w).alive = true) {e : Execution} (now : Time) (logOutput : Option String) :
    GoesOn s (s.finish now w e (.success logOutput)) w e.taskRunId e.leaseToken := by
  simp only [Engine.finish]
  split
  · exact goesOn_of_same halive rfl rfl
  · split
    · exact goesOn_returned halive
    · rename_i db' hok
      obtain ⟨r, hr, rfl⟩ := completeSuccess_ok hok
      refine ⟨by simp [Engine.returned, Engine.setWorker, halive], fun hno => absurd hr (hno r)⟩

theorem goesOn_finish (halive : (s.workers w).alive = true) (e : Execution) (now : Time) (outcome : Outcome) :
    GoesOn s (s.finish now w e outcome) w e.taskRunId e.leaseToken ↔
      (outcome.unguarded = true → ∃ r, Leased (s.get e.taskRunId (.worker w)) e.leaseToken r) := by
  cases outcome with
  | success logOutput => exact iff_of_true (goesOn_success halive now logOutput) (fun h => by cases h)
  | transientError message => exact goesOn_check halive now _ true
  | permanentError message => exact goesOn_check halive now _ true
  | unexpectedError message => exact goesOn_check halive now _ false

theorem goesOn_commit (h : Sound s) {x : Written} (hx : s.written.find? (fun x => x.call.caller == .worker w) = some x) :
    GoesOn s (s.commit dep (.worker w)) w x.call.taskRunId x.call.leaseToken := by
  have hmem := List.mem_of_find?_eq_some hx
  have hcaller : x.call.caller = .worker w := by simpa using List.find?_some hx
  have halive := h.alive w ((s.inCall_iff _).2 (.inr ⟨x, hmem, hcaller⟩))
  obtain ⟨r, hr⟩ := h.locks x hmem
  unfold Engine.commit
  rw [hx]
  exact ⟨by simp [Engine.returned, Engine.setWorker, halive], fun hno => absurd hr (hno r)⟩

end

/-- On one step, a lost lease is absorbed exactly when no execution error is reported under it. -/
theorem Sound.absorbs_iff (h : Sound s) (l : Label) : Absorbs dep s l ↔ HeldWhenExposed s l := by
  obtain ⟨elapsed, a⟩ := l
  have hnone : s.reporting a = none → s.exposed a = none →
      (Absorbs dep s ⟨elapsed, a⟩ ↔ HeldWhenExposed s ⟨elapsed, a⟩) := by
    intro hreporting hexposed
    refine iff_of_true (fun w id token hrep => ?_) (fun row token hexp => ?_)
    · rw [hreporting] at hrep
      cases hrep
    · rw [hexposed] at hexp
      cases hexp
  cases a with
  | finish w outcome =>
    cases he : s.ready w with
    | none => exact hnone (by simp [Engine.reporting, he]) (by simp [Engine.exposed, he])
    | some e =>
      have hgoes := goesOn_finish (Engine.ready_some he).1 e (s.clock + elapsed) outcome.clause
      have habsorbs : Absorbs dep s ⟨elapsed, .finish w outcome⟩ ↔
          GoesOn s (s.finish (s.clock + elapsed) w e outcome.clause) w e.taskRunId e.leaseToken := by
        simp [Absorbs, GoesOn, Engine.reporting, he, Engine.step, Engine.act]
      rw [habsorbs, hgoes]
      unfold HeldWhenExposed Engine.exposed
      cases hunguarded : outcome.clause.unguarded <;> simp [he, hunguarded]
  | update caller =>
    cases caller with
    | reaper pass => exact hnone rfl rfl
    | worker w =>
      cases hc : s.unblocked (.worker w) with
      | none => exact hnone (by simp [Engine.reporting, hc]) (by simp [Engine.exposed, hc])
      | some c =>
        have hchecked : s.checked (.worker w) ≠ none := by
          rw [(Engine.unblocked_some hc).1]
          exact Option.some_ne_none c
        have hgoes : GoesOn s (s.update dep (.worker w)) w c.taskRunId c.leaseToken ↔ _ :=
          goesOn_update (h.alive w ((s.inCall_iff _).2 (.inl hchecked))) hc
        have habsorbs : Absorbs dep s ⟨elapsed, .update (.worker w)⟩ ↔
            GoesOn s (s.update dep (.worker w)) w c.taskRunId c.leaseToken := by
          simp [Absorbs, GoesOn, Engine.reporting, hc, Engine.step, Engine.act]
        rw [habsorbs, hgoes]
        unfold HeldWhenExposed Engine.exposed
        cases hunguarded : c.unguarded <;> simp [hc, Option.filter, hunguarded]
  | commit caller =>
    cases caller with
    | reaper pass => exact hnone rfl rfl
    | worker w =>
      cases hx : s.written.find? (fun x => x.call.caller == .worker w) with
      | none => exact hnone (by simp only [Engine.reporting, hx, Option.map_none]) rfl
      | some x =>
        refine iff_of_true (fun v id token hrep => ?_) (fun row token hexp => by cases hexp)
        simp only [Engine.reporting, hx, Option.map_some, Option.some.injEq, Prod.mk.injEq] at hrep
        obtain ⟨rfl, rfl, rfl⟩ := hrep
        exact goesOn_commit h hx
  | claimBatch w batchSize scan => exact hnone rfl rfl
  | start w => exact hnone rfl rfl
  | heartbeat w => exact hnone rfl rfl
  | reapSelect pass scan => exact hnone rfl rfl
  | reapNext pass => exact hnone rfl rfl
  | commitFails caller => exact hnone rfl rfl
  | crash caller => exact hnone rfl rfl

/-- **`execute_one` absorbs every lost lease exactly in the runs in which no transient or permanent error is reported
under a lease already lost**: when `execute_one` read the row, or at the UPDATE. -/
theorem absorbs_lease_loss_iff (dep : Deployment) (created : RunId → Option Time) (ls : List Label) :
    Along (Engine.step dep) (Absorbs dep) (Engine.initial created) ls ↔
      Along (Engine.step dep) HeldWhenExposed (Engine.initial created) ls :=
  Trace.along_congr (I := Sound) _ (fun _ l hI _ => hI.step l) (fun _ l hI => hI.absorbs_iff l) ls _
    (Sound.initial created)

/-- A claims runs 7 and 8; run 7's lease expires while its handler runs, and the reaper requeues it. -/
def requeuedWhileExecuting : List Label :=
  [⟨0, .claimBatch "a" none [7, 8]⟩, ⟨1, .start "a"⟩, ⟨timedelta 301, .reapSelect 0 [7]⟩, ⟨1, .reapNext 0⟩,
   ⟨1, .update (.reaper 0)⟩, ⟨1, .commit (.reaper 0)⟩]

def runs7and8 : Engine := Engine.initial (fun id => if id = 7 ∨ id = 8 then some 0 else none)

/-- A's handler then raises. -/
def raisedAfterRequeue : List Label :=
  requeuedWhileExecuting ++ [⟨1, .finish "a" (.transientExecutionError "rate limited")⟩]

/-- The handler's transient error passes the check and ends the whole worker at the UPDATE, run 8 unexecuted; a success
would have been absorbed. -/
theorem requeuedWhileExecuting_stops :
    ((exec (Engine.step .default) runs7and8 raisedAfterRequeue).step .default
      ⟨1, .update (.worker "a")⟩).workers "a" = .dead ∧
    ((exec (Engine.step .default) runs7and8 requeuedWhileExecuting).step .default
      ⟨1, .finish "a" (.success none)⟩).workers "a" = ⟨true, [⟨8, 2⟩], none⟩ := by decide

/-- **A transient error under a lost lease is not absorbed.** -/
theorem lease_loss_not_absorbed :
    ¬ ∀ (created : RunId → Option Time) (ls : List Label),
      Along (Engine.step .default) (Absorbs .default) (Engine.initial created) ls := by
  intro hall
  have hstep := (Trace.along_iff_split _ _ _ _).1 (hall (fun id => if id = 7 ∨ id = 8 then some 0 else none)
    (raisedAfterRequeue ++ [⟨1, .update (.worker "a")⟩])) raisedAfterRequeue ⟨1, .update (.worker "a")⟩ [] rfl
  have halive := (hstep "a" 7 (some 0) (by decide)).1.1
  rw [show ((exec (Engine.step .default) (Engine.initial _) raisedAfterRequeue).step .default _).workers "a" = .dead from
    requeuedWhileExecuting_stops.1] at halive
  cases halive

end Reports
end Worker
end DataOps

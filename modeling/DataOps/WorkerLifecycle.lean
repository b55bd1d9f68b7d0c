import DataOps.WorkerSteps
/-!
# WorkerLifecycle — the invariant of the run table and its event log

`RunInv` is what holds of one run's row and log in every reachable state; each kind of step preserves it
(`RunInv.claimed`, `.heartbeaten`, `.succeeded`, `.afterFailure`), and `DbInv.steps` carries it to whole tables.
-/
namespace DataOps
namespace Worker

/-- A log that alternates a claimed event with one that is not. -/
def Alternates : List EventType → Prop
  | []             => True
  | [e]            => e = .claimed
  | e :: f :: rest => e = .claimed ∧ f ≠ .claimed ∧ Alternates rest

theorem alternates_concat : ∀ (l : List EventType) (e : EventType), Alternates l →
    (l.length % 2 = 0 ↔ e = .claimed) → Alternates (l ++ [e])
  | [], e, _, h => by simpa [Alternates] using h
  | [a], e, ha, h => by
    have hne : e ≠ .claimed := fun he => by simp [he] at h
    exact ⟨ha, hne, trivial⟩
  | a :: b :: l, e, ⟨ha, hb, hl⟩, h => by
    refine ⟨ha, hb, alternates_concat l e hl ?_⟩
    rw [← h]
    simp only [List.length_cons]
    omega

/-- The status the last event of a log leaves the run in; a run without events is pending. -/
def lastStatus (log : List TaskRunEvent) : TaskRunStatus := (log.getLast?.map (·.toStatus)).getD .pending

theorem lastStatus_concat (log : List TaskRunEvent) (e : TaskRunEvent) : lastStatus (log ++ [e]) = e.toStatus := by
  simp [lastStatus]

def claimedEvents (log : List TaskRunEvent) : List TaskRunEvent := log.filter (fun e => e.eventType = .claimed)

theorem claimedEvents_concat (log : List TaskRunEvent) (e : TaskRunEvent) :
    claimedEvents (log ++ [e]) = if e.eventType = .claimed then claimedEvents log ++ [e] else claimedEvents log := by
  unfold claimedEvents
  rw [List.filter_append]
  by_cases h : e.eventType = .claimed <;> simp [h]

/-- The attempt an event's detail names. -/
def TaskRunEvent.attempt (e : TaskRunEvent) : Nat :=
  match e.detail with
  | .claimed n _    => n
  | .requeued _ _ n => n
  | .failed _ n _   => n
  | .succeeded _    => 0

/-- **What holds of one run's row `r` and event log**, `maxAttempts` and `timeout` being its task's effective ones and
`next` the next lease token. -/
structure RunInv (maxAttempts : Nat) (timeout now : Time) (next : LeaseToken) (log : List TaskRunEvent)
    (r : TaskRun) : Prop where
  lifecycle  : r.statusInvariants
  finished   : r.finishedAfterStarted
  lease      : r.leaseConsistency
  started    : ∀ s ∈ r.startedAt, s ≤ now
  beat       : r.status = .running →
                 ∃ h, r.lastHeartbeatAt = some h ∧ r.leaseExpiresAt = some (h + timeout) ∧ h ≤ now
  noError    : r.status = .running → r.errorMessage = none
  token      : ∀ t ∈ r.leaseToken, t < next
  attempts   : (claimedEvents log).map (·.attempt) = (List.range r.attemptCount).map (· + 1)
  attemptsLe : r.attemptCount ≤ maxAttempts
  attemptsLt : r.status = .pending → r.attemptCount < maxAttempts
  alternates : Alternates (log.map (·.eventType))
  parity     : r.status = .running ↔ log.length % 2 = 1
  last       : lastStatus log = r.status

section
variable {maxAttempts : Nat} {timeout now : Time} {next : LeaseToken} {log : List TaskRunEvent} {r : TaskRun}
  {dep : Deployment} {id : RunId} {workerId : String}

theorem RunInv.mono (h : RunInv maxAttempts timeout now next log r) {now' : Time} {next' : LeaseToken}
    (hnow : now ≤ now') (hnext : next ≤ next') : RunInv maxAttempts timeout now' next' log r where
  __ := h
  started s hs := Nat.le_trans (h.started s hs) hnow
  beat hr := by
    obtain ⟨b, hb, he, hle⟩ := h.beat hr
    exact ⟨b, hb, he, Nat.le_trans hle hnow⟩
  token t ht := Nat.lt_of_lt_of_le (h.token t ht) hnext

/-- A freshly created run satisfies the invariant. -/
theorem RunInv.fresh (hmax : 1 ≤ maxAttempts) (createdAt : Time) :
    RunInv maxAttempts timeout now next [] (TaskRun.fresh createdAt) where
  lifecycle := .inl ⟨rfl, rfl, rfl, rfl⟩
  finished f hf := by cases hf
  lease := .inr ⟨by simp [TaskRun.fresh], rfl, rfl⟩
  started s hs := by cases hs
  beat hr := by simp [TaskRun.fresh] at hr
  noError _ := rfl
  token t ht := by cases ht
  attempts := rfl
  attemptsLe := Nat.zero_le _
  attemptsLt _ := hmax
  alternates := trivial
  parity := by simp [TaskRun.fresh]
  last := rfl

theorem RunInv.claimed (h : RunInv maxAttempts timeout now next log r) (hs : r.status = .pending)
    (ht : timeout = dep.effectiveTimeout id) :
    RunInv maxAttempts timeout now (next + 1) (log ++ [claimEvent dep now workerId id r])
      (r.claimedBy dep now id next) := by
  have heven : log.length % 2 = 0 := by
    have hne : ¬ log.length % 2 = 1 := fun hodd => by rw [h.parity.2 hodd] at hs; cases hs
    omega
  have hfin : r.finishedAt = none ∧ r.errorMessage = none := by
    rcases h.lifecycle with ⟨-, -, hf⟩ | ⟨hs', -⟩ | ⟨hs', -⟩ | ⟨hs', -⟩
    · exact hf
    all_goals rw [hs] at hs'; cases hs'
  refine
    { lifecycle := .inr (.inl ⟨rfl, by simp [TaskRun.claimedBy], hfin.1⟩)
      finished := fun f hf => ?_
      lease := .inl ⟨rfl, by simp [TaskRun.claimedBy], by simp [TaskRun.claimedBy]⟩
      started := fun s hs => ?_
      beat := fun _ => ⟨now, rfl, by rw [ht]; rfl, Nat.le_refl _⟩
      noError := fun _ => hfin.2
      token := fun t ht => ?_
      attempts := ?_
      attemptsLe := h.attemptsLt hs
      attemptsLt := fun hp => by cases hp
      alternates := ?_
      parity := ?_
      last := lastStatus_concat _ _ }
  · rw [show (r.claimedBy dep now id next).finishedAt = r.finishedAt from rfl, hfin.1] at hf; cases hf
  · cases hs; exact Nat.le_refl _
  · cases ht; exact Nat.lt_succ_self _
  · have hc : (claimEvent dep now workerId id r).eventType = .claimed := rfl
    rw [claimedEvents_concat, if_pos hc, List.map_append, h.attempts]
    show _ = (List.range (r.attemptCount + 1)).map (· + 1)
    rw [List.range_succ, List.map_append]; rfl
  · rw [List.map_append]
    refine alternates_concat _ _ h.alternates ?_
    rw [List.length_map]
    exact iff_of_true heven rfl
  · rw [List.length_append, List.length_singleton]
    exact iff_of_true rfl (by omega)

theorem RunInv.heartbeaten (h : RunInv maxAttempts timeout now next log r) (hs : r.status = .running)
    (ht : timeout = dep.effectiveTimeout id) :
    RunInv maxAttempts timeout now next log (r.heartbeaten dep now id) where
  __ := h
  lifecycle := h.lifecycle
  finished := h.finished
  lease := by
    rcases h.lease with ⟨hs', htok, -⟩ | ⟨hs', -⟩
    · exact .inl ⟨hs', htok, by simp [TaskRun.heartbeaten]⟩
    · exact absurd hs hs'
  beat _ := ⟨now, rfl, by rw [ht]; rfl, Nat.le_refl _⟩
  noError := h.noError
  token := h.token

/-- **Completing a running run**: any of the three completion events, with a row that drops its lease, keeps the attempt
count and satisfies its new status's own constraints. -/
theorem RunInv.completed (h : RunInv maxAttempts timeout now next log r) (hs : r.status = .running)
    {r' : TaskRun} {e : TaskRunEvent} (he : e.eventType ≠ .claimed) (hto : e.toStatus = r'.status)
    (hne : r'.status ≠ .running) (hlife : r'.statusInvariants)
    (hlease : r'.leaseToken = none ∧ r'.leaseExpiresAt = none)
    (hstart : r'.startedAt = none ∨ r'.startedAt = r.startedAt)
    (hfin : r'.finishedAt = none ∨ r'.finishedAt = some now)
    (hatt : r'.attemptCount = r.attemptCount) (hlt : r'.status = .pending → r.attemptCount < maxAttempts) :
    RunInv maxAttempts timeout now next (log ++ [e]) r' := by
  have hodd : log.length % 2 = 1 := h.parity.1 hs
  have hst : ∀ s ∈ r'.startedAt, s ≤ now := by
    intro s hs'
    rcases hstart with hn | hn
    · rw [hn] at hs'; cases hs'
    · exact h.started s (by rw [← hn]; exact hs')
  refine
    { lifecycle := hlife
      finished := fun f hf s hs' => ?_
      lease := .inr ⟨hne, hlease⟩
      started := hst
      beat := fun hr => absurd hr hne
      noError := fun hr => absurd hr hne
      token := fun t ht => by rw [hlease.1] at ht; cases ht
      attempts := ?_
      attemptsLe := by rw [hatt]; exact h.attemptsLe
      attemptsLt := fun hp => by rw [hatt]; exact hlt hp
      alternates := ?_
      parity := ?_
      last := by rw [lastStatus_concat, hto] }
  · rcases hfin with hn | hn <;> rw [hn] at hf <;> cases hf
    exact hst s hs'
  · rw [claimedEvents_concat, if_neg he, h.attempts, hatt]
  · rw [List.map_append]
    refine alternates_concat _ _ h.alternates ?_
    rw [List.length_map]
    exact iff_of_false (by omega) he
  · rw [List.length_append, List.length_singleton]
    exact iff_of_false hne (by omega)

theorem RunInv.startedAt_ne_none (h : RunInv maxAttempts timeout now next log r) (hs : r.status = .running) :
    r.startedAt ≠ none ∧ r.finishedAt = none := by
  rcases h.lifecycle with ⟨hs', -⟩ | ⟨-, hst, hf⟩ | ⟨hs', -⟩ | ⟨hs', -⟩
  · rw [hs] at hs'; cases hs'
  · exact ⟨hst, hf⟩
  all_goals rw [hs] at hs'; cases hs'

theorem RunInv.succeeded (h : RunInv maxAttempts timeout now next log r) (hs : r.status = .running)
    (logOutput : Option String) (r₀ : TaskRun) :
    RunInv maxAttempts timeout now next (log ++ [successEvent now workerId id r₀]) (r.succeeded now logOutput) :=
  h.completed hs (by simp [successEvent]) rfl (by simp [TaskRun.succeeded])
    (.inr (.inr (.inl ⟨rfl, (h.startedAt_ne_none hs).1, by simp [TaskRun.succeeded], h.noError hs⟩))) ⟨rfl, rfl⟩
    (.inr rfl) (.inr rfl) rfl (fun hp => by cases hp)

theorem RunInv.afterFailure (h : RunInv maxAttempts timeout now next log r) (hs : r.status = .running)
    (hm : dep.effectiveMaxAttempts id ≤ maxAttempts) (f : Failure) :
    RunInv maxAttempts timeout now next (log ++ [failureEvent dep now workerId id f r])
      (r.afterFailure dep now id f) := by
  unfold TaskRun.afterFailure failureEvent
  split
  · rename_i hretry
    have hlt : r.attemptCount < maxAttempts := by
      simp only [shouldRetry, Bool.and_eq_true, decide_eq_true_eq] at hretry
      exact Nat.lt_of_lt_of_le hretry.2 hm
    exact h.completed hs (by simp) rfl (by simp [TaskRun.requeued]) (.inl ⟨rfl, rfl, rfl, rfl⟩) ⟨rfl, rfl⟩ (.inl rfl)
      (.inl rfl) rfl (fun _ => hlt)
  · exact h.completed hs (by simp) rfl (by simp [TaskRun.failedFinally])
      (.inr (.inr (.inr ⟨rfl, (h.startedAt_ne_none hs).1, by simp [TaskRun.failedFinally],
        by simp [TaskRun.failedFinally]⟩)))
      ⟨rfl, rfl⟩ (.inr rfl) (.inr rfl) rfl (fun hp => by cases hp)

end

/-! ## Whole tables -/

/-- The most attempts a run gets: the first claim asks for none to be left. -/
def Deployment.attemptBound (dep : Deployment) (id : RunId) : Nat := max 1 (dep.effectiveMaxAttempts id)

/-- Every row satisfies `RunInv` with its own log, and a run that was never created has no events. -/
structure DbInv (dep : Deployment) (now : Time) (db : Db) : Prop where
  run   : ∀ id r, db.taskRuns id = some r →
            RunInv (dep.attemptBound id) (dep.effectiveTimeout id) now db.nextToken (db.eventsOf id) r
  noRun : ∀ id, db.taskRuns id = none → db.eventsOf id = []

section
variable {dep : Deployment} {now : Time} {db db' : Db} {id : RunId}

theorem DbInv.mono (h : DbInv dep now db) {now' : Time} (hle : now ≤ now') : DbInv dep now' db :=
  ⟨fun id r hr => (h.run id r hr).mono hle (Nat.le_refl _), h.noRun⟩

/-- A row rewritten together with the event that records it. -/
theorem DbInv.write (h : DbInv dep now db) {next : LeaseToken} (hnext : db.nextToken ≤ next) {r' : TaskRun}
    {e : TaskRunEvent} (he : e.taskRunId = id)
    (hr' : RunInv (dep.attemptBound id) (dep.effectiveTimeout id) now next (db.eventsOf id ++ [e]) r') :
    DbInv dep now ((({ db with nextToken := next } : Db).setRun id r').recordEvent e) := by
  constructor
  · intro j r hj
    rw [Db.eventsOf_recordEvent]
    by_cases hji : j = id
    · subst hji
      rw [if_pos he]
      obtain rfl : r' = r := by simpa using hj
      exact hr'
    · rw [if_neg (fun hh => hji (hh.symm.trans he))]
      exact (h.run j r (by simpa [hji] using hj)).mono (Nat.le_refl _) hnext
  · intro j hj
    have hji : j ≠ id := fun hh => by simp [hh] at hj
    rw [Db.eventsOf_recordEvent, if_neg (fun hh => hji (hh.symm.trans he))]
    exact h.noRun j (by simpa [hji] using hj)

/-- **One step preserves the tables' invariant.** -/
theorem DbInv.step (h : DbInv dep now db) (hstep : DbStep dep now db db') : DbInv dep now db' := by
  cases hstep with
  | draw => exact ⟨fun id r hr => (h.run id r hr).mono (Nat.le_refl _) (Nat.le_succ _), h.noRun⟩
  | claim workerId hr hs => exact h.write (Nat.le_succ _) rfl ((h.run _ _ hr).claimed hs rfl)
  | succeed workerId logOutput hr =>
    exact h.write (Nat.le_refl _) rfl ((h.run _ _ hr.1).succeeded hr.2.2 logOutput _)
  | fail workerId f hr =>
    exact h.write (Nat.le_refl _) (failureEvent_taskRunId workerId _ f _)
      ((h.run _ _ hr.1).afterFailure hr.2.2 (Nat.le_max_right _ _) f)
  | @heartbeat id token r hr =>
    constructor
    · intro j r₁ hj
      by_cases hji : j = id
      · subst hji
        obtain rfl : r.heartbeaten dep now j = r₁ := by simpa using hj
        exact (h.run j r hr.1).heartbeaten hr.2.2 rfl
      · exact h.run j r₁ (by simpa [hji] using hj)
    · intro j hj
      have hji : j ≠ id := fun hh => by simp [hh] at hj
      exact h.noRun j (by simpa [hji] using hj)

theorem DbInv.steps (h : DbInv dep now db) (hsteps : DbSteps dep now db db') : DbInv dep now db' := by
  induction hsteps with
  | refl => exact h
  | tail _ hstep ih => exact ih.step hstep

/-! ## The claimed events and the batches that made them -/

/-- The claimed events of a log, as (run, attempt). -/
def claimedPairs (log : List TaskRunEvent) : List (RunId × Nat) :=
  (claimedEvents log).map (fun e => (e.taskRunId, e.attempt))

theorem claimedPairs_filter (db : Db) (id : RunId) :
    (claimedPairs db.events).filter (fun p => p.1 = id) =
      (claimedEvents (db.eventsOf id)).map (fun e => (id, e.attempt)) := by
  unfold claimedPairs claimedEvents Db.eventsOf
  rw [List.filter_map, List.filter_filter, List.filter_filter]
  have hf : db.events.filter (fun e => decide (e.eventType = .claimed) && decide (e.taskRunId = id))
      = db.events.filter (fun e => decide (e.taskRunId = id) && decide (e.eventType = .claimed)) :=
    List.filter_congr (fun e _ => Bool.and_comm _ _)
  show (db.events.filter (fun e => decide (e.taskRunId = id) && decide (e.eventType = .claimed))).map _ = _
  rw [← hf]
  refine List.map_congr_left (fun e he => ?_)
  rw [hf] at he
  have := (List.mem_filter.1 he).2
  simp only [Bool.and_eq_true, decide_eq_true_eq] at this
  rw [this.1]

theorem nodup_of_filter_fst {α : Type} : ∀ (l : List (RunId × α)),
    (∀ id, (l.filter (fun p => p.1 = id)).Nodup) → l.Nodup
  | [], _ => List.nodup_nil
  | p :: l, h => by
    rw [List.nodup_cons]
    constructor
    · intro hp
      have := h p.1
      rw [List.filter_cons_of_pos (by simp), List.nodup_cons] at this
      exact this.1 (List.mem_filter.2 ⟨hp, by simp⟩)
    · refine nodup_of_filter_fst l (fun id => ?_)
      exact (h id).sublist ((List.sublist_cons_self p l).filter _)

/-- **No attempt of a run is claimed twice.** -/
theorem DbInv.claimedPairs_nodup (h : DbInv dep now db) : (claimedPairs db.events).Nodup := by
  refine nodup_of_filter_fst _ (fun id => ?_)
  rw [claimedPairs_filter]
  have hmap : (claimedEvents (db.eventsOf id)).map (fun e => (id, e.attempt))
      = ((claimedEvents (db.eventsOf id)).map (·.attempt)).map (fun n => (id, n)) := by
    rw [List.map_map]; rfl
  rw [hmap]
  refine List.Nodup.map (fun a b hab => (Prod.mk.inj hab).2) ?_
  cases hr : db.taskRuns id with
  | none => rw [h.noRun id hr]; exact List.nodup_nil
  | some r =>
    rw [(h.run id r hr).attempts]
    exact (List.nodup_range).map (fun a b hab => Nat.succ.inj hab)

end

end Worker
end DataOps

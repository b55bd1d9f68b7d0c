import DataOps.WorkerEngine
import Mathlib.Logic.Relation
/-!
# WorkerSteps — what the worker's calls do to the tables, once

Every call of the worker changes the tables by a chain of the five changes of `DbStep`: each call's own lemma says
which (`claimBatch_steps`, `heartbeat_steps`, ..), and every invariant of the tables is then a case analysis on
`DbStep` alone, whichever system makes the calls.
-/
namespace DataOps
namespace Worker

open Relation (ReflTransGen)

/-- **Everything a call of the worker can do to the tables at `now`**, guards included. -/
inductive DbStep (dep : Deployment) (now : Time) (db : Db) : Db → Prop
  | draw : DbStep dep now db { db with nextToken := db.nextToken + 1 }
  | claim {id : RunId} {r : TaskRun} (workerId : String) (h : db.taskRuns id = some r) (hs : r.status = .pending) :
      DbStep dep now db ((({ db with nextToken := db.nextToken + 1 } : Db).setRun id
        (r.claimedBy dep now id db.nextToken)).recordEvent (claimEvent dep now workerId id r))
  | heartbeat {id : RunId} {token : Option LeaseToken} {r : TaskRun} (h : db.holds id token r) :
      DbStep dep now db (db.setRun id (r.heartbeaten dep now id))
  | succeed {id : RunId} {token : Option LeaseToken} {r : TaskRun} (workerId : String) (logOutput : Option String)
      (h : db.holds id token r) :
      DbStep dep now db ((db.setRun id (r.succeeded now logOutput)).recordEvent
        (successEvent now workerId id (r.succeeded now logOutput)))
  | fail {id : RunId} {token : Option LeaseToken} {r : TaskRun} (workerId : String) (f : Failure)
      (h : db.holds id token r) :
      DbStep dep now db ((db.setRun id (r.afterFailure dep now id f)).recordEvent
        (failureEvent dep now workerId id f r))

abbrev DbSteps (dep : Deployment) (now : Time) : Db → Db → Prop := ReflTransGen (DbStep dep now)

variable {dep : Deployment} {now : Time} {db db' : Db}

/-- **One turn of the claim loop** only draws a token, unless the run is still pending. -/
theorem claimOne_cases (dep : Deployment) (now : Time) (workerId : String) (acc : Db × List RunId) (id : RunId) :
    claimOne dep now workerId acc id = ({ acc.1 with nextToken := acc.1.nextToken + 1 }, acc.2) ∨
    ∃ r, acc.1.taskRuns id = some r ∧ r.status = .pending ∧
      claimOne dep now workerId acc id =
        ((({ acc.1 with nextToken := acc.1.nextToken + 1 } : Db).setRun id
          (r.claimedBy dep now id acc.1.nextToken)).recordEvent (claimEvent dep now workerId id r), acc.2 ++ [id]) := by
  unfold claimOne
  dsimp only
  split
  · exact .inl rfl
  · rename_i r hr
    split
    · rename_i hs
      exact .inr ⟨r, hr, hs, rfl⟩
    · exact .inl rfl

theorem claimOne_step (workerId : String) (acc : Db × List RunId) (id : RunId) :
    DbStep dep now acc.1 (claimOne dep now workerId acc id).1 := by
  rcases claimOne_cases dep now workerId acc id with h | ⟨r, hr, hs, h⟩
  · rw [h]; exact .draw
  · rw [h]; exact .claim workerId hr hs

theorem claimFold_steps (workerId : String) : ∀ (ids : List RunId) (acc : Db × List RunId),
    DbSteps dep now acc.1 (ids.foldl (claimOne dep now workerId) acc).1
  | [], _ => .refl
  | id :: ids, acc =>
    (ReflTransGen.single (claimOne_step workerId acc id)).trans (claimFold_steps workerId ids _)

theorem claimBatch_steps (workerId : String) (batchSize : Option Nat) (scan : List RunId) :
    DbSteps dep now db (claimBatch dep db workerId batchSize scan now).1 :=
  claimFold_steps workerId (claimCandidates db now scan (batchSize.getD dep.settings.workerClaimBatchSize)) (db, [])

theorem heartbeat_steps {id : RunId} {token : Option LeaseToken} (h : heartbeat dep db id token now = .ok db') :
    DbSteps dep now db db' := by
  obtain ⟨r, hr, rfl⟩ := heartbeat_ok h
  exact .single (.heartbeat hr)

theorem completeSuccess_steps {id : RunId} {token : Option LeaseToken} {workerId : String} {logOutput : Option String}
    (h : completeSuccess db id token workerId logOutput now = .ok db') : DbSteps dep now db db' := by
  obtain ⟨r, hr, rfl⟩ := completeSuccess_ok h
  exact .single (.succeed workerId logOutput hr)

theorem completeFailure_steps {id : RunId} {token : Option LeaseToken} {workerId : String} {f : Failure}
    (h : completeFailure dep db id token workerId f now = .ok db') : DbSteps dep now db db' := by
  obtain ⟨r, hr, rfl⟩ := completeFailure_ok h
  exact .single (.fail workerId f hr)

/-! ## Frame: the rows, events and tokens a step leaves alone -/

theorem failureEvent_taskRunId (workerId : String) (id : RunId) (f : Failure) (r : TaskRun) :
    (failureEvent dep now workerId id f r).taskRunId = id := by
  unfold failureEvent; split <;> rfl

theorem failureEvent_eventType (workerId : String) (id : RunId) (f : Failure) (r : TaskRun) :
    (failureEvent dep now workerId id f r).eventType ≠ .claimed := by
  unfold failureEvent; split <;> simp

/-- Rows are never deleted, and a step rewrites at most one. -/
theorem DbStep.row (h : DbStep dep now db db') (id : RunId) :
    db'.taskRuns id = db.taskRuns id ∨
    ∃ r r', db.taskRuns id = some r ∧ db'.taskRuns id = some r' ∧ (r.status = .pending ∨ r.status = .running) := by
  cases h with
  | draw => exact .inl rfl
  | @claim j r workerId hr hs =>
    by_cases hj : id = j
    · subst hj
      exact .inr ⟨r, _, hr, if_pos rfl, .inl hs⟩
    · exact .inl (by simp [hj])
  | @heartbeat j token r hr =>
    by_cases hj : id = j
    · subst hj
      exact .inr ⟨r, _, hr.1, if_pos rfl, .inr hr.2.2⟩
    · exact .inl (by simp [hj])
  | @succeed j token r workerId logOutput hr =>
    by_cases hj : id = j
    · subst hj
      exact .inr ⟨r, _, hr.1, if_pos rfl, .inr hr.2.2⟩
    · exact .inl (by simp [hj])
  | @fail j token r workerId f hr =>
    by_cases hj : id = j
    · subst hj
      exact .inr ⟨r, _, hr.1, if_pos rfl, .inr hr.2.2⟩
    · exact .inl (by simp [hj])

/-- **A finished row never changes again.** -/
theorem DbSteps.finished (h : DbSteps dep now db db') {id : RunId} {r : TaskRun} (hr : db.taskRuns id = some r)
    (hs : r.status = .success ∨ r.status = .failed) : db'.taskRuns id = some r := by
  induction h with
  | refl => exact hr
  | tail _ hstep ih =>
    rcases hstep.row id with heq | ⟨r₁, r₂, h₁, -, hlive⟩
    · rw [heq, ih]
    · obtain rfl : r = r₁ := Option.some.inj (ih.symm.trans h₁)
      rcases hs with hs | hs <;> rcases hlive with hl | hl <;> rw [hs] at hl <;> cases hl

end Worker
end DataOps

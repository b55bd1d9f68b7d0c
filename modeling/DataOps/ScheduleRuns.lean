import DataOps.LibTrace
import DataOps.ScheduleLoop
/-!
# ScheduleRuns — the undisturbed pass is a run of the passes that interleave

What a pass does with a task is a poll, an advance, a run and a commit of the steps, or a poll and a failure
(`attempt_runs_steps`); so the whole of `run_due_schedules` is a run of them, and what holds of every run holds of it.
-/
namespace DataOps
namespace Schedule

open Api (Time TaskId TaskRunId)
open Worker (timedelta)

section
variable (py : Backend) (settings : Settings)

/-- The tables and the passes after the steps; the history is left to them. -/
def World.At (w : World) (db : Tables) (pass : Pass) : Prop := w.api.store = db ∧ w.passes = [pass]

/-- The only pass goes on from a world to one with these tables. -/
def Reaches (w : World) (db : Tables) (pass : Pass) : Prop :=
  ∃ as : List Action, (Trace.exec (step py settings) w (as.map (.pass 0))).At db pass

theorem World.At.act {w : World} {db : Tables} {pass : Pass} (h : w.At db pass) (a : Action) :
    step py settings w (.pass 0 a) = w.act py 0 pass a := by
  rw [step, h.2]
  rfl

/-- Without a transaction, no row is locked. -/
theorem World.At.free {w : World} {db : Tables} {pass : Pass} (h : w.At db pass) (htxn : pass.txn = none) (id : TaskId) :
    w.locked id = false := by
  unfold World.locked Claims.locked
  rw [h.2]
  simp [htxn]

theorem World.At.setPass {w : World} {db : Tables} {pass : Pass} (h : w.At db pass) (pass' : Pass) :
    (w.setPass 0 pass').At db pass' := by
  refine ⟨h.1, ?_⟩
  show w.passes.set 0 pass' = _
  rw [h.2]
  rfl

/-- The poll takes a due task. -/
theorem World.At.poll {w : World} {db : Tables} {pass : Pass} (h : w.At db pass) (htxn : pass.txn = none)
    (hopen : pass.finished = false) (hbatch : pass.attempted < pass.batchSize) {e : Entry}
    (hrow : db.tasks.get? e.1 = some e.2) {interval : Nat} {nextRunAt : Time}
    (hdue : pass.due e.1 e.2 = some (interval, nextRunAt)) :
    (step py settings w (.pass 0 (.poll e.1))).At db
      { pass.polled with
        txn := some ⟨e.1, e.2.organizationId, interval, nextRunAt, .selected, e.2, db.runsOf e.1⟩ } := by
  rw [h.act py settings, World.act, htxn, h.1, hrow]
  dsimp only
  rw [if_pos ⟨hopen, hbatch, h.free htxn e.1⟩, hdue]
  exact h.setPass _

theorem World.At.fail {w : World} {db : Tables} {pass : Pass} {txn : Txn} (h : w.At db pass) (htxn : pass.txn = some txn) :
    (step py settings w (.pass 0 .fail)).At db (pass.rollback txn) := by
  rw [h.act py settings, World.act, htxn]
  exact h.setPass _

theorem World.At.advance {w : World} {db : Tables} {pass : Pass} {txn : Txn} (h : w.At db pass)
    (htxn : pass.txn = some txn) (hstage : txn.stage = .selected) {row : TaskRow}
    (hrow : db.tasks.get? txn.taskId = some row) (hguard : txn.guard row = true) :
    (step py settings w (.pass 0 .advance)).At db
      { pass with txn := some { txn with stage := .advanced (pass.now + timedelta txn.intervalSeconds) } } := by
  rw [h.act py settings, World.act, htxn]
  dsimp only
  rw [hstage, h.1, hrow]
  dsimp only
  rw [if_pos hguard]
  exact h.setPass _

theorem World.At.addRun {w : World} {db : Tables} {pass : Pass} {txn : Txn} (h : w.At db pass) (htxn : pass.txn = some txn)
    {newNextRunAt : Time} (hstage : txn.stage = .advanced newNextRunAt) (id : TaskRunId) :
    (step py settings w (.pass 0 (.addRun id))).At db
      { pass with txn := some { txn with
          stage := .added newNextRunAt (createTaskRunRecord id txn.organizationId txn.taskId none none) } } := by
  rw [h.act py settings, World.act, htxn]
  dsimp only
  rw [hstage]
  exact h.setPass _

theorem World.At.commit {w : World} {db : Tables} {pass : Pass} {txn : Txn} (h : w.At db pass) (htxn : pass.txn = some txn)
    {newNextRunAt : Time} {run : TaskRunRow} (hstage : txn.stage = .added newNextRunAt run) {row : TaskRow}
    (hrow : db.tasks.get? txn.taskId = some row) {db' : Tables}
    (hoccurred : db.occurred py txn.taskId row newNextRunAt run = some db') (logged : Bool) :
    (step py settings w (.pass 0 (.commit logged))).At db' (pass.committed txn logged) := by
  rw [h.act py settings, World.act, htxn]
  dsimp only
  rw [hstage, h.1, hrow]
  dsimp only
  rw [hoccurred]
  refine ⟨rfl, ?_⟩
  show w.passes.set 0 _ = _
  rw [h.2]
  rfl

variable (uuid4 : List TaskRunId → TaskRunId) (trials : TaskId → Trial)

/-- **An attempt is a run of the steps.** -/
theorem attempt_runs_steps {s : Progress} {e : Entry} {w : World} (h : w.At s.tables s.pass) (htxn : s.pass.txn = none)
    (hopen : s.pass.finished = false) (hbatch : s.pass.attempted < s.pass.batchSize)
    (hrow : s.tables.tasks.get? e.1 = some e.2) (hwants : s.pass.wants e = true) :
    Reaches py settings w (s.attempt py uuid4 trials e).tables (s.attempt py uuid4 trials e).pass := by
  obtain ⟨due, hdue⟩ := Option.isSome_iff_exists.1 hwants
  obtain ⟨interval, nextRunAt⟩ := due
  have hpoll := h.poll py settings htxn hopen hbatch hrow hdue
  unfold Progress.attempt
  rw [hdue, hrow]
  dsimp only
  split
  · have hfail := hpoll.fail py settings rfl
    exact ⟨[.poll e.1, .fail], hfail⟩
  · rename_i hfine
    obtain ⟨-, hguard⟩ := not_or.1 hfine
    have hadvance := hpoll.advance py settings rfl rfl hrow (Bool.not_eq_false _ ▸ hguard)
    split
    · have hfail := hadvance.fail py settings rfl
      exact ⟨[.poll e.1, .advance, .fail], hfail⟩
    · rename_i tables hoccurred
      have hadd := hadvance.addRun py settings rfl rfl (uuid4 (s.tables.runs.map (fun r => r.id)))
      have hcommit := hadd.commit py settings rfl rfl hrow hoccurred (trials e.1).logged
      exact ⟨[.poll e.1, .advance, .addRun _, .commit (trials e.1).logged], hcommit⟩

theorem attempt_open {s : Progress} {e : Entry}
    (hwants : s.pass.wants e = true) :
    (s.attempt py uuid4 trials e).pass.txn = none ∧
      (s.attempt py uuid4 trials e).pass.finished = s.pass.finished ∧
      (s.attempt py uuid4 trials e).pass.attempted = s.pass.attempted + 1 ∧
      (s.attempt py uuid4 trials e).pass.batchSize = s.pass.batchSize := by
  obtain ⟨due, hdue⟩ := Option.isSome_iff_exists.1 hwants
  unfold Progress.attempt
  rw [hdue]
  dsimp only
  split
  · exact ⟨rfl, rfl, rfl, rfl⟩
  · split
    · exact ⟨rfl, rfl, rfl, rfl⟩
    · split <;> exact ⟨rfl, rfl, rfl, rfl⟩

/-- What an attempt leaves of the table's keys. -/
theorem attempt_keys (s : Progress) (e : Entry)
    (hkeys : s.tables.tasks.keys.Nodup) : (s.attempt py uuid4 trials e).tables.tasks.keys.Nodup := by
  unfold Progress.attempt
  split
  · exact hkeys
  · dsimp only
    split
    · exact hkeys
    · split
      · exact hkeys
      · split
        · exact hkeys
        · rename_i tables hoccurred
          obtain ⟨-, -, rfl⟩ := Tables.occurred_eq_some py hoccurred
          exact Dict.nodup_keys_set hkeys _ _

/-- So is the loop. -/
theorem drain_runs_steps (n : Nat) {s : Progress} {w : World} (h : w.At s.tables s.pass) (htxn : s.pass.txn = none)
    (hopen : s.pass.finished = false) (hbatch : s.pass.attempted + n = s.pass.batchSize)
    (hkeys : s.tables.tasks.keys.Nodup) :
    Reaches py settings w (Queues.drain Progress.poll (Progress.attempt py uuid4 trials) n s).tables
      (Queues.drain Progress.poll (Progress.attempt py uuid4 trials) n s).pass := by
  have hdrain := @Queues.drain_counted _ _ Progress.poll (Progress.attempt py uuid4 trials)
    (fun n s => Reaches py settings w s.tables s.pass ∧ s.pass.txn = none ∧ s.pass.finished = false ∧
      s.pass.attempted + n = s.pass.batchSize ∧ s.tables.tasks.keys.Nodup) ?_ n s ⟨⟨[], h⟩, htxn, hopen, hbatch, hkeys⟩
  · obtain ⟨_, hreaches, -⟩ := hdrain
    exact hreaches
  · rintro n s e ⟨⟨as, has⟩, htxn, hopen, hbatch, hkeys⟩ hpoll
    obtain ⟨hmem, hwants⟩ := Queues.mem_waiting.1 (List.mem_of_mem_head? hpoll)
    have hrow := Dict.get?_eq_some_of_mem hkeys hmem
    obtain ⟨as', has'⟩ := attempt_runs_steps py settings uuid4 trials has htxn hopen (by omega) hrow hwants
    obtain ⟨htxn', hopen', hattempted, hbatch'⟩ := attempt_open py uuid4 trials hwants
    refine ⟨⟨as ++ as', ?_⟩, htxn', hopen'.trans hopen, by omega, attempt_keys py uuid4 trials s e hkeys⟩
    rwa [List.map_append, Trace.exec_append]

/-- **The undisturbed pass is a run of the steps of the passes that interleave**: a `start`, and then steps of that pass.
-/
theorem runDueSchedules_runs_steps {now : Time}
    {batchSize : Option Nat} {w : World} (hnone : w.passes = []) (hkeys : w.api.store.tasks.keys.Nodup) :
    ∃ as : List Action,
      (Trace.exec (step py settings) w (.start now batchSize :: as.map (.pass 0))).At
        (runDueSchedules py uuid4 trials settings now batchSize w.api.store).1.tables
        (runDueSchedules py uuid4 trials settings now batchSize w.api.store).1.pass := by
  have hstart : (step py settings w (.start now batchSize)).At w.api.store (.starting settings now batchSize) := by
    refine ⟨rfl, ?_⟩
    show w.passes ++ _ = _
    rw [hnone]
    rfl
  exact drain_runs_steps py settings uuid4 trials
    (s := ⟨w.api.store, .starting settings now batchSize, []⟩) _ hstart rfl rfl
    (Nat.zero_add _) hkeys

end

theorem runDueSchedules_runs_steps_two : ∃ as : List Action,
    (Trace.exec (step asciiBackend ⟨60, 86400, 10⟩) ⟨.initial threeDue, [], [], []⟩
      (.start 40 (some 2) :: as.map (.pass 0))).At
      (runDueSchedules asciiBackend nextFreshId (fun id => ⟨id = 2, true⟩) ⟨60, 86400, 10⟩ 40 (some 2) threeDue).1.tables
      (runDueSchedules asciiBackend nextFreshId (fun id => ⟨id = 2, true⟩) ⟨60, 86400, 10⟩ 40 (some 2) threeDue).1.pass :=
  runDueSchedules_runs_steps asciiBackend ⟨60, 86400, 10⟩ nextFreshId (fun id => ⟨id = 2, true⟩)
    (w := ⟨.initial threeDue, [], [], []⟩) rfl (by decide)

end Schedule
end DataOps

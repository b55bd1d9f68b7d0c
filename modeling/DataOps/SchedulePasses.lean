import DataOps.LibClaims
import DataOps.ScheduleTasks
/-!
# SchedulePasses — concurrent scheduler passes over the task table

A pass takes due tasks one by one, each in a transaction of its own: the poll locks the row and skips locked ones, the
guarded update and the new run are written behind the lock, and the commit makes both visible.  Any number of passes and
of API requests interleave.  The history (`writes`, `advances`) is kept beside the tables and read by no step.
-/
namespace DataOps
namespace Schedule

open Api (Time OrganizationId UserId TaskId TaskRunId User HTTPException)
open Worker (timedelta)
open Tickets (Ticket)

abbrev PassId := Nat

/-- How far a transaction has come. -/
inductive Stage
  | selected
  | advanced (newNextRunAt : Time)
  | added (newNextRunAt : Time) (run : TaskRunRow)
deriving DecidableEq, Repr

/-- A per-task transaction: the columns its poll returned.  `found` and `runs` are the row and the task's runs as they
were then; only statements read them. -/
structure Txn where
  taskId          : TaskId
  organizationId  : OrganizationId
  intervalSeconds : Nat
  oldNextRunAt    : Time
  stage           : Stage
  found           : TaskRow
  runs            : List TaskRunRow

structure Pass where
  now         : Time
  batchSize   : Nat
  attempted   : Nat
  created     : Nat
  excludedIds : List TaskId
  txn         : Option Txn
  finished    : Bool

/-- A committed write of a task's `next_run_at`, by a create, a PATCH or an advance. -/
structure NextRunWrite where
  serial : Nat
  taskId : TaskId
  value  : Option Time
deriving DecidableEq, Repr

/-- A committed advance: the column before and after, and the write it was due by. -/
structure Advance where
  taskId   : TaskId
  runId    : TaskRunId
  now      : Time
  before   : Option Time
  after    : Option Time
  consumed : Option NextRunWrite
deriving DecidableEq, Repr

/-- The writes are newest first. -/
structure World where
  api      : Tickets.State Tables Request Write
  passes   : List Pass
  writes   : List NextRunWrite
  advances : List Advance

/-- No tasks and no runs yet. -/
def World.initial (dataSources : Dict DataSourceId DataSource) : World := ⟨.initial ⟨dataSources, [], []⟩, [], [], []⟩

inductive Action
  | poll (id : TaskId)
  | advance
  | addRun (id : TaskRunId)
  | commit (logged : Bool)
  | fail
  | finish

inductive Label
  | api (l : Tickets.Label Request)
  | start (now : Time) (batchSize : Option Nat)
  | pass (p : PassId) (a : Action)

/-- The latest write of a task's `next_run_at`. -/
def latest (writes : List NextRunWrite) (id : TaskId) : Option NextRunWrite := writes.find? (fun x => x.taskId = id)

def record (writes : List NextRunWrite) (id : TaskId) (value : Option Time) : List NextRunWrite :=
  ⟨writes.length, id, value⟩ :: writes

/-- The history after a request's commit: an update records only a `next_run_at` it sets. -/
def Write.recorded (writes : List NextRunWrite) : Write → List NextRunWrite
  | .insert id row           => record writes id row.nextRunAt
  | .update id loaded edited =>
    if edited.nextRunAt = loaded.nextRunAt then writes else record writes id edited.nextRunAt
  | .insertRun _             => writes

/-- Some open transaction holds the row. -/
def World.locked (w : World) (id : TaskId) : Bool := Claims.locked Pass.txn Txn.taskId w.passes id

def World.setPass (w : World) (p : PassId) (pass : Pass) : World := { w with passes := w.passes.set p pass }

/-- The `WHERE` of the poll; the interval and the time it returns. -/
def Pass.due (pass : Pass) (id : TaskId) (row : TaskRow) : Option (Nat × Time) :=
  match row.scheduleIntervalSeconds, row.nextRunAt with
  | some interval, some nextRunAt =>
    if row.isActive = true ∧ nextRunAt ≤ pass.now ∧ id ∉ pass.excludedIds then some (interval, nextRunAt) else none
  | _, _ => none

/-- The `WHERE` of the guarded update. -/
def Txn.guard (txn : Txn) (row : TaskRow) : Bool :=
  row.nextRunAt = some txn.oldNextRunAt ∧ row.isActive = true ∧ row.scheduleIntervalSeconds ≠ none

/-- `db.rollback()`, and the task is left out for the rest of the pass. -/
def Pass.rollback (pass : Pass) (txn : Txn) : Pass :=
  { pass with txn := none, excludedIds := txn.taskId :: pass.excludedIds }

section
variable (py : Backend) (settings : Settings)

/-- The tables with the advance and its run; `none` is an `IntegrityError`. -/
def Tables.occurred (db : Tables) (id : TaskId) (row : TaskRow) (newNextRunAt : Time) (run : TaskRunRow) :
    Option Tables :=
  if { row with nextRunAt := some newNextRunAt }.Checks then
    (Write.insertRun run).apply py { db with tasks := db.tasks.set id { row with nextRunAt := some newNextRunAt } }
  else none

/-- The world after the commit. -/
def World.occur (w : World) (p : PassId) (pass : Pass) (txn : Txn) (logged : Bool) (db : Tables) (row : TaskRow)
    (newNextRunAt : Time) (run : TaskRunRow) : World where
  api := { w.api with store := db }
  -- an error after the commit, in reading the run back for the log, excludes the task but undoes nothing
  passes := w.passes.set p { pass with
    txn := none, created := pass.created + 1
    excludedIds := if logged = true then pass.excludedIds else txn.taskId :: pass.excludedIds }
  writes := record w.writes txn.taskId (some newNextRunAt)
  advances := w.advances ++
    [⟨txn.taskId, run.id, pass.now, row.nextRunAt, some newNextRunAt, latest w.writes txn.taskId⟩]

/-- One step of `run_due_schedules`.  Which of the unlocked due rows comes first is left open. -/
def World.act (w : World) (p : PassId) (pass : Pass) : Action → World
  | .poll id =>
    match pass.txn, w.api.store.tasks.get? id with
    | none, some row =>
      if pass.finished = false ∧ pass.attempted < pass.batchSize ∧ w.locked id = false then
        match pass.due id row with
        | some (interval, nextRunAt) =>
          w.setPass p { pass with
            attempted := pass.attempted + 1
            txn := some ⟨id, row.organizationId, interval, nextRunAt, .selected, row, w.api.store.runsOf id⟩ }
        | none => w
      else w
    | _, _ => w
  | .advance =>
    match pass.txn with
    | some txn =>
      match txn.stage, w.api.store.tasks.get? txn.taskId with
      | .selected, some row =>
        if txn.guard row = true then
          w.setPass p { pass with
            txn := some { txn with stage := .advanced (pass.now + timedelta txn.intervalSeconds) } }
        else w.setPass p (pass.rollback txn)
      | .selected, none => w.setPass p (pass.rollback txn)
      | _, _ => w
    | none => w
  | .addRun id =>
    match pass.txn with
    | some txn =>
      match txn.stage with
      | .advanced newNextRunAt =>
        w.setPass p { pass with
          txn := some { txn with
            stage := .added newNextRunAt (createTaskRunRecord id txn.organizationId txn.taskId none none) } }
      | _ => w
    | none => w
  | .commit logged =>
    match pass.txn with
    | some txn =>
      match txn.stage, w.api.store.tasks.get? txn.taskId with
      | .added newNextRunAt run, some row =>
        match w.api.store.occurred py txn.taskId row newNextRunAt run with
        | some db => w.occur p pass txn logged db row newNextRunAt run
        | none    => w.setPass p (pass.rollback txn)
      | _, _ => w
    | none => w
  | .fail =>
    match pass.txn with
    | some txn => w.setPass p (pass.rollback txn)
    | none     => w
  | .finish => w.setPass p { pass with txn := none, finished := true }

/-- A request's commit waits for the row locks it needs. -/
def World.apiStep (w : World) (l : Tickets.Label Request) : World :=
  match l with
  | .commit i =>
    match w.api.pending[i]? with
    | some ticket =>
      if w.locked ticket.write.target = true then w
      else
        { w with
          api := Tickets.step (endpoints py settings) w.api (.commit i)
          writes := match ticket.write.apply py w.api.store with
            | some _ => ticket.write.recorded w.writes
            | none   => w.writes }
    | none => w
  | l => { w with api := Tickets.step (endpoints py settings) w.api l }

def step (w : World) : Label → World
  | .api l               => w.apiStep py settings l
  | .start now batchSize =>
    { w with passes := w.passes ++ [⟨now, batchSize.getD settings.schedulerClaimBatchSize, 0, 0, [], none, false⟩] }
  | .pass p a =>
    match w.passes[p]? with
    | some pass => w.act py p pass a
    | none      => w

/-! ## What a step can do -/

/-- **Everything a step can do.** -/
inductive Effect (w : World) : Label → World → Prop
  | stay (l : Label) : Effect w l w
  | request (l : Tickets.Label Request) (hstore : (Tickets.step (endpoints py settings) w.api l).store = w.api.store) :
      Effect w (.api l) { w with api := Tickets.step (endpoints py settings) w.api l }
  | committed (i : Nat) (ticket : Ticket Request Write) (db : Tables) (hticket : w.api.pending[i]? = some ticket)
      (hfree : w.locked ticket.write.target = false) (hdb : ticket.write.apply py w.api.store = some db)
      (hstore : (Tickets.step (endpoints py settings) w.api (.commit i)).store = db) :
      Effect w (.api (.commit i))
        { w with
          api := Tickets.step (endpoints py settings) w.api (.commit i)
          writes := ticket.write.recorded w.writes }
  | started (now : Time) (batchSize : Option Nat) (pass : Pass) (htxn : pass.txn = none) :
      Effect w (.start now batchSize) { w with passes := w.passes ++ [pass] }
  | released (p : PassId) (a : Action) (pass : Pass) (htxn : pass.txn = none) : Effect w (.pass p a) (w.setPass p pass)
  | polled (p : PassId) (id : TaskId) (pass : Pass) (row : TaskRow) (interval : Nat) (nextRunAt : Time)
      (hpass : w.passes[p]? = some pass) (hidle : pass.txn = none) (hfree : w.locked id = false)
      (hrow : w.api.store.tasks.get? id = some row) (hdue : pass.due id row = some (interval, nextRunAt)) :
      Effect w (.pass p (.poll id))
        (w.setPass p { pass with
          attempted := pass.attempted + 1
          txn := some ⟨id, row.organizationId, interval, nextRunAt, .selected, row, w.api.store.runsOf id⟩ })
  | advanced (p : PassId) (pass : Pass) (txn : Txn) (hpass : w.passes[p]? = some pass) (htxn : pass.txn = some txn) :
      Effect w (.pass p .advance)
        (w.setPass p { pass with
          txn := some { txn with stage := .advanced (pass.now + timedelta txn.intervalSeconds) } })
  | added (p : PassId) (id : TaskRunId) (pass : Pass) (txn : Txn) (newNextRunAt : Time)
      (hpass : w.passes[p]? = some pass) (htxn : pass.txn = some txn) (hstage : txn.stage = .advanced newNextRunAt) :
      Effect w (.pass p (.addRun id))
        (w.setPass p { pass with
          txn := some { txn with
            stage := .added newNextRunAt (createTaskRunRecord id txn.organizationId txn.taskId none none) } })
  | occurred (p : PassId) (logged : Bool) (pass : Pass) (txn : Txn) (newNextRunAt : Time) (run : TaskRunRow)
      (row : TaskRow) (hpass : w.passes[p]? = some pass) (htxn : pass.txn = some txn)
      (hstage : txn.stage = .added newNextRunAt run) (hrow : w.api.store.tasks.get? txn.taskId = some row)
      (hchecks : { row with nextRunAt := some newNextRunAt }.Checks)
      (hfresh : run.id ∉ w.api.store.runs.map (fun r => r.id)) :
      Effect w (.pass p (.commit logged))
        (w.occur p pass txn logged
          { w.api.store with
            tasks := w.api.store.tasks.set txn.taskId { row with nextRunAt := some newNextRunAt }
            runs := w.api.store.runs ++ [run] } row newNextRunAt run)

theorem Tables.occurred_eq_some {db db' : Tables} {id : TaskId} {row : TaskRow} {newNextRunAt : Time}
    {run : TaskRunRow} (h : db.occurred py id row newNextRunAt run = some db') :
    { row with nextRunAt := some newNextRunAt }.Checks ∧ run.id ∉ db.runs.map (fun r => r.id) ∧
      db' = { db with
        tasks := db.tasks.set id { row with nextRunAt := some newNextRunAt }
        runs := db.runs ++ [run] } := by
  unfold Tables.occurred at h
  split at h
  · rename_i hchecks
    simp only [Write.apply, Tables.insertRun] at h
    split at h
    · rename_i hok
      exact ⟨hchecks, hok.2, (Option.some.inj h).symm⟩
    · cases h
  · cases h

theorem apiStep_effect (w : World) (l : Tickets.Label Request) :
    Effect py settings w (.api l) (w.apiStep py settings l) := by
  unfold World.apiStep
  cases l with
  | read r =>
    refine .request _ ?_
    simp only [Tickets.step]
    split <;> rfl
  | abandon i => exact .request _ rfl
  | commit i =>
    dsimp only
    split
    · rename_i ticket hticket
      split
      · exact .stay _
      · rename_i hfree
        have hstore : (Tickets.step (endpoints py settings) w.api (.commit i)).store =
            (ticket.write.apply py w.api.store).getD w.api.store := by
          simp only [Tickets.step, hticket]
          rfl
        cases hdb : ticket.write.apply py w.api.store with
        | some db =>
          rw [hdb] at hstore
          exact .committed i ticket db hticket (Bool.eq_false_iff.2 hfree) hdb hstore
        | none =>
          rw [hdb] at hstore
          exact .request _ hstore
    · exact .stay _

theorem act_effect (w : World) (p : PassId) (pass : Pass) (hpass : w.passes[p]? = some pass) (a : Action) :
    Effect py settings w (.pass p a) (w.act py p pass a) := by
  cases a with
  | poll id =>
    simp only [World.act]
    split
    · rename_i row hidle hrow
      split
      · rename_i hgo
        split
        · rename_i interval nextRunAt hdue
          exact .polled p id pass row interval nextRunAt hpass hidle hgo.2.2 hrow hdue
        · exact .stay _
      · exact .stay _
    · exact .stay _
  | advance =>
    simp only [World.act]
    split
    · rename_i txn htxn
      split
      · split
        · exact .advanced p pass txn hpass htxn
        · exact .released p _ _ rfl
      · exact .released p _ _ rfl
      · exact .stay _
    · exact .stay _
  | addRun id =>
    simp only [World.act]
    split
    · rename_i txn htxn
      split
      · rename_i newNextRunAt hstage
        exact .added p id pass txn newNextRunAt hpass htxn hstage
      · exact .stay _
    · exact .stay _
  | commit logged =>
    simp only [World.act]
    split
    · rename_i txn htxn
      split
      · rename_i newNextRunAt run row hstage hrow
        split
        · rename_i db hdb
          obtain ⟨hchecks, hfresh, rfl⟩ := Tables.occurred_eq_some py hdb
          exact .occurred p logged pass txn newNextRunAt run row hpass htxn hstage hrow hchecks hfresh
        · exact .released p _ _ rfl
      · exact .stay _
    · exact .stay _
  | fail =>
    simp only [World.act]
    split
    · exact .released p _ _ rfl
    · exact .stay _
  | finish => exact .released p _ _ rfl

theorem step_effect (w : World) (l : Label) : Effect py settings w l (step py settings w l) := by
  cases l with
  | api l => exact apiStep_effect py settings w l
  | start now batchSize => exact .started now batchSize _ rfl
  | pass p a =>
    simp only [step]
    split
    · rename_i pass hpass
      exact act_effect py settings w p pass hpass a
    · exact .stay _

/-! ## What a lock keeps -/

/-- The stage holds the advance and the run its pass computes for the row it claimed. -/
def Txn.Staged (now : Time) (txn : Txn) : Prop :=
  match txn.stage with
  | .selected               => True
  | .advanced newNextRunAt  => newNextRunAt = now + timedelta txn.intervalSeconds
  | .added newNextRunAt run =>
    newNextRunAt = now + timedelta txn.intervalSeconds ∧ run.taskId = txn.taskId ∧ run.triggeredBy = none

/-- **A claim**: the row and the runs of its task are still what its poll found, and due. -/
structure Claimed (db : Tables) (now : Time) (txn : Txn) : Prop where
  row      : db.tasks.get? txn.taskId = some txn.found
  runs     : db.runsOf txn.taskId = txn.runs
  interval : txn.found.scheduleIntervalSeconds = some txn.intervalSeconds
  old      : txn.found.nextRunAt = some txn.oldNextRunAt
  due      : txn.oldNextRunAt ≤ now
  staged   : txn.Staged now

/-- **The invariant of the passes**: rows keep the constraints, claims keep their rows, and no two passes claim one. -/
structure PassInv (w : World) : Prop where
  checks  : ∀ id row, w.api.store.tasks.get? id = some row → row.Checks
  claimed : Claims.Held Pass.txn (fun pass txn => Claimed w.api.store pass.now txn) w.passes
  apart   : Claims.Apart Pass.txn Txn.taskId w.passes

theorem PassInv.initial (dataSources : Dict DataSourceId DataSource) : PassInv (World.initial dataSources) where
  checks := fun _ _ h => by cases h
  claimed := fun _ _ _ h => by simp [World.initial] at h
  apart := fun _ _ _ _ _ _ h => by simp [World.initial] at h

theorem Claimed.frame {db db' : Tables} {now : Time} {txn : Txn} (h : Claimed db now txn)
    (htasks : db'.tasks.get? txn.taskId = db.tasks.get? txn.taskId)
    (hruns : db'.runsOf txn.taskId = db.runsOf txn.taskId) :
    Claimed db' now txn where
  row := htasks.trans h.row
  runs := hruns.trans h.runs
  interval := h.interval
  old := h.old
  due := h.due
  staged := h.staged

/-- Letting go of a claim keeps the invariant. -/
theorem PassInv.release {w : World} (h : PassInv w) (p : PassId) (pass : Pass) (htxn : pass.txn = none) :
    PassInv (w.setPass p pass) :=
  ⟨h.checks, h.claimed.release htxn, h.apart.release htxn⟩

/-- So does going on to another stage. -/
theorem PassInv.stage {w : World} (h : PassInv w) {p : PassId} {pass : Pass} {txn : Txn} (hpass : w.passes[p]? = some pass)
    (htxn : pass.txn = some txn) (stage : Stage) (hstaged : Txn.Staged pass.now { txn with stage := stage }) :
    PassInv (w.setPass p { pass with txn := some { txn with stage := stage } }) := by
  have hc := h.claimed p pass txn hpass htxn
  refine ⟨h.checks, h.claimed.hold rfl ?_, h.apart.keep hpass htxn rfl rfl⟩
  exact ⟨hc.row, hc.runs, hc.interval, hc.old, hc.due, hstaged⟩

/-- A change of the store keeps it when the constraints hold after and no claimed task is touched. -/
theorem PassInv.store {w w' : World} (h : PassInv w) (hpasses : w'.passes = w.passes)
    (hchecks : ∀ id row, w'.api.store.tasks.get? id = some row → row.Checks)
    (hframe : Claims.Held Pass.txn (fun _ txn => w'.api.store.tasks.get? txn.taskId = w.api.store.tasks.get? txn.taskId ∧
      w'.api.store.runsOf txn.taskId = w.api.store.runsOf txn.taskId) w.passes) : PassInv w' where
  checks := hchecks
  claimed := by
    rw [hpasses]
    refine h.claimed.mono (fun p pass txn hpass htxn hclaim => ?_)
    obtain ⟨htasks, hruns⟩ := hframe p pass txn hpass htxn
    exact hclaim.frame htasks hruns
  apart := by
    rw [hpasses]
    exact h.apart

theorem Pass.due_eq_some {pass : Pass} {id : TaskId} {row : TaskRow} {interval : Nat} {nextRunAt : Time}
    (h : pass.due id row = some (interval, nextRunAt)) :
    row.scheduleIntervalSeconds = some interval ∧ row.nextRunAt = some nextRunAt ∧ nextRunAt ≤ pass.now := by
  unfold Pass.due at h
  split at h
  · rename_i interval' nextRunAt' hinterval hnext
    split at h
    · rename_i hok
      cases h
      exact ⟨hinterval, hnext, hok.2.1⟩
    · cases h
  · cases h

/-- **A step preserves the invariant.** -/
theorem PassInv.effect {w w' : World} {l : Label} (h : PassInv w) (he : Effect py settings w l w') : PassInv w' := by
  cases he with
  | stay => exact h
  | request l hstore =>
    refine h.store rfl ?_ ?_
    · rw [hstore]
      exact h.checks
    · intro p pass txn _ _
      rw [hstore]
      exact ⟨rfl, rfl⟩
  | committed i ticket db hticket hfree hdb hstore =>
    refine h.store rfl ?_ ?_
    · rw [hstore]
      exact ticket.write.apply_checks py hdb h.checks
    · intro p pass txn hpass htxn
      have hne := (Claims.ne_of_locked_eq_false hfree hpass htxn).symm
      rw [hstore]
      exact ⟨ticket.write.apply_tasks_of_ne py hdb hne, ticket.write.apply_runsOf_of_ne py hdb hne⟩
  | started now batchSize pass htxn => exact ⟨h.checks, h.claimed.append htxn, h.apart.append htxn⟩
  | released p a pass htxn => exact h.release p pass htxn
  | polled p id pass row interval nextRunAt hpass hidle hfree hrow hdue =>
    obtain ⟨hinterval, hnext, hle⟩ := Pass.due_eq_some hdue
    exact ⟨h.checks, h.claimed.hold rfl ⟨hrow, rfl, hinterval, hnext, hle, trivial⟩, h.apart.take rfl hfree⟩
  | advanced p pass txn hpass htxn => exact h.stage hpass htxn _ rfl
  | added p id pass txn newNextRunAt hpass htxn hstage =>
    have hstaged := (h.claimed p pass txn hpass htxn).staged
    rw [Txn.Staged, hstage] at hstaged
    exact h.stage hpass htxn _ ⟨hstaged, rfl, rfl⟩
  | occurred p logged pass txn newNextRunAt run row hpass htxn hstage hrow hchecks hfresh =>
    have hstaged := (h.claimed p pass txn hpass htxn).staged
    rw [Txn.Staged, hstage] at hstaged
    -- the pass lets go of its claim first; then the store changes at the task it claimed, which no other pass claims
    refine (h.release p _ rfl).store rfl ?_ ?_
    · intro id row' hrow'
      rw [World.occur, Dict.get?_set] at hrow'
      split at hrow'
      · exact Option.some.inj hrow' ▸ hchecks
      · exact h.checks id row' hrow'
    · intro q pass' txn' hq htxn'
      have hne : txn.taskId ≠ txn'.taskId := by
        rcases Claims.getElem?_set_cases hq with ⟨-, rfl⟩ | ⟨hqp, hq⟩
        · cases htxn'
        · exact (h.apart.ne_of_ne hpass htxn hqp hq htxn').symm
      have hrun : run.taskId ≠ txn'.taskId := hstaged.2.1 ▸ hne
      refine ⟨?_, ?_⟩
      · exact (Dict.get?_set _ _ _ _).trans (if_neg hne)
      · simp [World.occur, World.setPass, Tables.runsOf, List.filter_append, hrun]

theorem PassInv.step {w : World} (h : PassInv w) (l : Label) : PassInv (step py settings w l) :=
  h.effect py settings (step_effect py settings w l)

end
end Schedule
end DataOps

import Mathlib.Data.Prod.Lex
import DataOps.LibQueues
import DataOps.SchedulePasses
/-!
# ScheduleLoop — one undisturbed scheduler pass

The pass by itself: the poll in its order, and the transaction of the task it finds.  A task attempted is polled no more:
its row is advanced past the pass's `now`, or the task is left out (`Attempted.candidates`).  So the pass attempts the
first due tasks in order (`scheduler_pass_fair`).
-/
namespace DataOps
namespace Schedule

open Api (Time TaskId TaskRunId)
open Worker (timedelta)

/-- What the transaction of a task meets: an exception up to its commit, or one after it, in writing the log. -/
structure Trial where
  fails  : Bool
  logged : Bool := true
deriving DecidableEq, Repr

/-- The database and the local variables of a pass.  `attempts` are the tasks it polled so far; only statements read
them. -/
structure Progress where
  tables   : Tables
  pass     : Pass
  attempts : List TaskId := []

abbrev Entry := TaskId × TaskRow

/-- `ORDER BY next_run_at ASC, id ASC`. -/
def pollKey (e : Entry) : Time ×ₗ TaskId := toLex (e.2.nextRunAt.getD 0, e.1)

/-- The `WHERE` of the poll, on an entry of the table. -/
def Pass.wants (pass : Pass) (e : Entry) : Bool := (pass.due e.1 e.2).isSome

/-- The rows that the poll finds, in its order. -/
def Pass.candidates (pass : Pass) (db : Tables) : List Entry := Queues.waiting pollKey pass.wants db.tasks

/-- `LIMIT 1`; with no other transaction open, no row is locked. -/
def Progress.poll (s : Progress) : Option Entry := (s.pass.candidates s.tables).head?

/-- `attempted += 1`. -/
def Pass.polled (pass : Pass) : Pass := { pass with attempted := pass.attempted + 1 }

/-- After the commit; an error in writing the log leaves the task out. -/
def Pass.committed (pass : Pass) (txn : Txn) (logged : Bool) : Pass :=
  { pass with
    txn := none
    created := pass.created + 1
    excludedIds := if logged = true then pass.excludedIds else txn.taskId :: pass.excludedIds }

def Pass.starting (settings : Settings) (now : Time) (batchSize : Option Nat) : Pass :=
  ⟨now, batchSize.getD settings.schedulerClaimBatchSize, 0, 0, [], none, false⟩

section
variable (py : Backend) (uuid4 : List TaskRunId → TaskRunId) (trials : TaskId → Trial)

/-- The body of the `while` loop.  `uuid4` is given the ids in use. -/
def Progress.attempt (s : Progress) (e : Entry) : Progress :=
  match s.pass.due e.1 e.2 with
  | none                       => s
  | some (interval, nextRunAt) =>
    let txn : Txn := ⟨e.1, e.2.organizationId, interval, nextRunAt, .selected, e.2, s.tables.runsOf e.1⟩
    let newNextRunAt := s.pass.now + timedelta interval
    let rolledBack : Progress := ⟨s.tables, s.pass.polled.rollback txn, s.attempts ++ [e.1]⟩
    let run := createTaskRunRecord (uuid4 (s.tables.runs.map (fun r => r.id))) e.2.organizationId e.1 none none
    match s.tables.tasks.get? e.1 with
    | none     => rolledBack
    | some row =>
      if (trials e.1).fails = true ∨ txn.guard row = false then rolledBack
      else
        match s.tables.occurred py e.1 row newNextRunAt run with
        | none        => rolledBack
        | some tables => ⟨tables, s.pass.polled.committed txn (trials e.1).logged, s.attempts ++ [e.1]⟩

/-- `run_due_schedules`; its result is the number of runs created. -/
def runDueSchedules (settings : Settings) (now : Time) (batchSize : Option Nat) (db : Tables) : Progress × Nat :=
  let pass := Pass.starting settings now batchSize
  let s := Queues.drain Progress.poll (Progress.attempt py uuid4 trials) pass.batchSize ⟨db, pass, []⟩
  (s, s.pass.created)

end

/-- What the scheduler makes of a row that is due. -/
def TaskRow.advanced (row : TaskRow) (now : Time) : TaskRow :=
  { row with nextRunAt := row.scheduleIntervalSeconds.map (fun interval => now + timedelta interval) }

/-! ## What an attempt can do -/

/-- **Everything an attempt can do**: a failing transaction leaves the tables as they are, any other advances the row and
adds one run. -/
inductive Attempted (trials : TaskId → Trial) (s : Progress) (e : Entry) : Progress → Prop
  | rolledBack (txn : Txn) (htask : txn.taskId = e.1) (hfails : (trials e.1).fails = true) :
      Attempted trials s e ⟨s.tables, s.pass.polled.rollback txn, s.attempts ++ [e.1]⟩
  | committed (txn : Txn) (id : TaskRunId) (htask : txn.taskId = e.1) (hfine : (trials e.1).fails = false)
      (hid : id ∉ s.tables.runs.map (fun r => r.id)) :
      Attempted trials s e
        ⟨{ s.tables with
            tasks := s.tables.tasks.set e.1 (e.2.advanced s.pass.now)
            runs := s.tables.runs ++ [createTaskRunRecord id e.2.organizationId e.1 none none] },
          s.pass.polled.committed txn (trials e.1).logged, s.attempts ++ [e.1]⟩

theorem Pass.wants_iff {pass : Pass} {e : Entry} : pass.wants e = true ↔
    ∃ interval nextRunAt, e.2.scheduleIntervalSeconds = some interval ∧ e.2.nextRunAt = some nextRunAt ∧
      e.2.isActive = true ∧ nextRunAt ≤ pass.now ∧ e.1 ∉ pass.excludedIds := by
  unfold Pass.wants Pass.due
  cases hinterval : e.2.scheduleIntervalSeconds with
  | none => simp
  | some interval =>
    cases hnext : e.2.nextRunAt with
    | none => simp
    | some nextRunAt => simp

theorem attempt_cases (py : Backend) {uuid4 : List TaskRunId → TaskRunId} (huuid : ∀ ids, uuid4 ids ∉ ids)
    (trials : TaskId → Trial) {s : Progress} {e : Entry} (hrow : s.tables.tasks.get? e.1 = some e.2) (hchecks : e.2.Checks)
    (hwants : s.pass.wants e = true) : Attempted trials s e (s.attempt py uuid4 trials e) := by
  obtain ⟨interval, nextRunAt, hinterval, hnext, hactive, hle, hids⟩ := Pass.wants_iff.1 hwants
  have hdue : s.pass.due e.1 e.2 = some (interval, nextRunAt) := by
    unfold Pass.due
    rw [hinterval, hnext]
    exact if_pos ⟨hactive, hle, hids⟩
  unfold Progress.attempt
  rw [hdue, hrow]
  dsimp only
  have hguard :
      (⟨e.1, e.2.organizationId, interval, nextRunAt, .selected, e.2, s.tables.runsOf e.1⟩ : Txn).guard e.2 = true :=
    decide_eq_true ⟨hnext, hactive, by rw [hinterval]; exact Option.some_ne_none _⟩
  split
  · rename_i hfails
    refine .rolledBack _ rfl (hfails.resolve_right ?_)
    rw [hguard]
    exact Bool.noConfusion
  · rename_i hfine
    -- neither a constraint nor the run's keys stand in the way
    have hoccurred : s.tables.occurred py e.1 e.2 (s.pass.now + timedelta interval)
        (createTaskRunRecord (uuid4 (s.tables.runs.map (fun r => r.id))) e.2.organizationId e.1 none none) =
          some { s.tables with
            tasks := s.tables.tasks.set e.1 (e.2.advanced s.pass.now)
            runs := s.tables.runs ++
              [createTaskRunRecord (uuid4 (s.tables.runs.map (fun r => r.id))) e.2.organizationId e.1 none none] } := by
      have hnext : e.2.scheduleIntervalSeconds.map (fun interval => s.pass.now + timedelta interval) =
          some (s.pass.now + timedelta interval) := congrArg (Option.map _) hinterval
      have hadvanced : e.2.advanced s.pass.now = { e.2 with nextRunAt := some (s.pass.now + timedelta interval) } :=
        congrArg (fun next => { e.2 with nextRunAt := next }) hnext
      have hchecks' : { e.2 with nextRunAt := some (s.pass.now + timedelta interval) }.Checks :=
        ⟨hchecks.1, by simp [hinterval]⟩
      unfold Tables.occurred
      rw [if_pos hchecks', hadvanced]
      refine if_pos ⟨?_, huuid _⟩
      have hset : (s.tables.tasks.set e.1 (e.2.advanced s.pass.now)).get? e.1 = some (e.2.advanced s.pass.now) := by
        rw [Dict.get?_set, if_pos rfl]
      dsimp only [createTaskRunRecord]
      rw [← hadvanced, hset]
      exact decide_eq_true rfl
    rw [hoccurred]
    exact .committed _ _ rfl (Bool.eq_false_iff.2 (fun h => hfine (.inl h))) (huuid _)

/-! ## What the poll finds -/

/-- The order tells the rows of a table apart. -/
theorem separates_pollKey (pass : Pass) : Queues.Separates pollKey pass.wants :=
  fun _ _ _ _ heq => congrArg (fun k : Time ×ₗ TaskId => (ofLex k).2) heq

/-- An advanced row is not due in the pass that advanced it. -/
theorem wants_advanced {pass : Pass} {id : TaskId} {row : TaskRow} (hchecks : row.Checks) :
    pass.wants (id, row.advanced pass.now) = false := by
  refine Bool.eq_false_iff.2 (fun hwants => ?_)
  obtain ⟨interval, nextRunAt, hinterval, hnext, -, hle, -⟩ := Pass.wants_iff.1 hwants
  have hinterval : row.scheduleIntervalSeconds = some interval := hinterval
  have hnext : row.scheduleIntervalSeconds.map (fun interval => pass.now + timedelta interval) = some nextRunAt := hnext
  rw [hinterval] at hnext
  have hfloor := hchecks.1 interval hinterval
  have hlater : pass.now + timedelta interval = nextRunAt := Option.some.inj hnext
  have hpos : 0 < timedelta interval := Nat.mul_pos (by decide) (Nat.lt_of_lt_of_le (by decide) hfloor)
  rw [← hlater] at hle
  exact Nat.lt_irrefl _ (Nat.lt_of_lt_of_le (Nat.lt_add_of_pos_right hpos) hle)

section
variable {trials : TaskId → Trial} {s s' : Progress} {e : Entry}

theorem Attempted.counts (h : Attempted trials s e s') :
    s'.attempts = s.attempts ++ [e.1] ∧ s'.pass.attempted = s.pass.attempted + 1 ∧ s'.pass.now = s.pass.now ∧
      s'.pass.batchSize = s.pass.batchSize ∧
      s'.pass.created = s.pass.created + if (trials e.1).fails = true then 0 else 1 := by
  cases h with
  | rolledBack txn htask hfails => exact ⟨rfl, rfl, rfl, rfl, by rw [if_pos hfails]; rfl⟩
  | committed txn id htask hfine hid =>
    refine ⟨rfl, rfl, rfl, rfl, ?_⟩
    rw [if_neg (by rw [hfine]; exact Bool.false_ne_true)]
    rfl

theorem Attempted.keys (h : Attempted trials s e s') (hkeys : s.tables.tasks.keys.Nodup) : s'.tables.tasks.keys.Nodup := by
  cases h with
  | rolledBack => exact hkeys
  | committed => exact Dict.nodup_keys_set hkeys _ _

/-- The row attempted is advanced or left as it was; the others are left as they were. -/
theorem Attempted.get? (h : Attempted trials s e s') (id : TaskId) :
    s'.tables.tasks.get? id =
      if id = e.1 ∧ (trials e.1).fails = false then some (e.2.advanced s.pass.now) else s.tables.tasks.get? id := by
  cases h with
  | rolledBack txn htask hfails =>
    rw [if_neg (fun h => Bool.false_ne_true (h.2.symm.trans hfails))]
  | committed txn runId htask hfine hid =>
    refine (Dict.get?_set _ _ _ _).trans ?_
    simp only [hfine, and_true, eq_comm]

/-- **The task attempted is polled no more, whatever came of it; the others still are.** -/
theorem Attempted.candidates (h : Attempted trials s e s') (hkeys : s.tables.tasks.keys.Nodup) (hchecks : e.2.Checks) :
    s'.pass.candidates s'.tables = (s.pass.candidates s.tables).filter (fun e' => e'.1 ≠ e.1) := by
  have hexcluded : ∀ pass' : Pass, pass'.excludedIds = e.1 :: s.pass.excludedIds →
    ∀ row, pass'.wants (e.1, row) = false := by
    intro pass' hids row
    refine Bool.eq_false_iff.2 (fun hwants => ?_)
    obtain ⟨-, -, -, -, -, -, hnot⟩ := Pass.wants_iff.1 hwants
    exact hnot (hids ▸ List.mem_cons_self)
  have hothers : ∀ pass' : Pass, pass'.now = s.pass.now →
      (pass'.excludedIds = s.pass.excludedIds ∨ pass'.excludedIds = e.1 :: s.pass.excludedIds) →
        ∀ e' : Entry, e'.1 ≠ e.1 → pass'.wants e' = s.pass.wants e' := by
    intro pass' hnow hids e' hne
    have hmem : e'.1 ∈ pass'.excludedIds ↔ e'.1 ∈ s.pass.excludedIds := by
      rcases hids with hids | hids <;> simp [hids, hne]
    rw [Bool.eq_iff_iff, Pass.wants_iff, Pass.wants_iff, hnow, hmem]
  cases h with
  | rolledBack txn htask hfails =>
    have hids : (s.pass.polled.rollback txn).excludedIds = e.1 :: s.pass.excludedIds := congrArg (· :: _) htask
    exact Queues.waiting_attempted hkeys (separates_pollKey _) (hothers _ rfl (.inr hids)) (.inl ⟨rfl, hexcluded _ hids⟩)
  | committed txn id htask hfine hid =>
    refine Queues.waiting_attempted hkeys (separates_pollKey _) (hothers _ rfl ?_) (.inr ⟨_, rfl, ?_⟩)
    · cases (trials e.1).logged with
      | true => exact .inl rfl
      | false => exact .inr (congrArg (· :: _) htask)
    · cases (trials e.1).logged with
      | true => exact wants_advanced hchecks
      | false => exact hexcluded _ (congrArg (· :: _) htask) _

end

/-! ## The pass -/

section
variable {trials : TaskId → Trial} {db : Tables} {pass : Pass} {s s' : Progress} {e : Entry}

/-- The tasks attempted whose transactions did not fail. -/
def Progress.fine (trials : TaskId → Trial) (s : Progress) : List TaskId :=
  s.attempts.filter (fun id => (trials id).fails = false)

/-- A run that the scheduler made for a task of the tables. -/
def OfScheduler (db : Tables) (r : TaskRunRow) : Prop :=
  r.id ∉ db.runs.map (fun r => r.id) ∧ r.triggeredBy = none ∧ r.sourceTaskRunId = none ∧
    (db.tasks.get? r.taskId).map (fun row => row.organizationId) = some r.organizationId

/-- **What a pass that began as `pass`, on `db`, has done so far.**  `runs` are those it created. -/
structure Fair (trials : TaskId → Trial) (db : Tables) (pass : Pass) (s : Progress) (runs : List TaskRunRow) : Prop where
  now       : s.pass.now = pass.now
  batchSize : s.pass.batchSize = pass.batchSize
  keys      : s.tables.tasks.keys.Nodup
  order     : s.attempts ++ (s.pass.candidates s.tables).map Prod.fst = (pass.candidates db).map Prod.fst
  attempted : s.pass.attempted = s.attempts.length
  created   : s.pass.created = runs.length
  appended  : s.tables.runs = db.runs ++ runs
  tasks     : runs.map (fun r => r.taskId) = s.fine trials
  distinct  : (runs.map (fun r => r.id)).Nodup
  scheduled : ∀ r ∈ runs, OfScheduler db r
  rows      : ∀ id, s.tables.tasks.get? id = if id ∈ s.fine trials then
                (db.tasks.get? id).map (fun row => row.advanced pass.now) else db.tasks.get? id

theorem fine_append (h : Attempted trials s e s') :
    s'.fine trials = s.fine trials ++ if (trials e.1).fails = true then [] else [e.1] := by
  unfold Progress.fine
  rw [h.counts.1, List.filter_append, List.filter_singleton]
  cases (trials e.1).fails <;> rfl

/-- A task attempted is not polled again. -/
theorem Fair.fresh {runs : List TaskRunRow} (h : Fair trials db pass s runs) (hdb : db.tasks.keys.Nodup)
    (he : e ∈ s.pass.candidates s.tables) : e.1 ∉ s.attempts := by
  have hnd : ((pass.candidates db).map Prod.fst).Nodup := Queues.nodup_waiting hdb
  rw [← h.order] at hnd
  exact fun hmem => (List.nodup_append.1 hnd).2.2 e.1 hmem e.1 (List.mem_map_of_mem he) rfl

/-- So its row is still the one of the tables that the pass began with. -/
theorem Fair.row {runs : List TaskRunRow} (h : Fair trials db pass s runs) (hdb : db.tasks.keys.Nodup)
    (he : e ∈ s.pass.candidates s.tables) : s.tables.tasks.get? e.1 = some e.2 ∧ db.tasks.get? e.1 = some e.2 := by
  have hrow := Dict.get?_eq_some_of_mem h.keys (Queues.mem_waiting.1 he).1
  refine ⟨hrow, ?_⟩
  have hnot : e.1 ∉ s.fine trials := fun hmem => h.fresh hdb he (List.mem_of_mem_filter hmem)
  rw [h.rows, if_neg hnot] at hrow
  exact hrow

/-- **An attempt on the first candidate leaves the others, and keeps to what a pass does.** -/
theorem Fair.attempt {runs : List TaskRunRow} (h : Fair trials db pass s runs) (hdb : db.tasks.keys.Nodup) {l : List Entry}
    (hqueue : s.pass.candidates s.tables = e :: l) (hchecks : e.2.Checks) (hcases : Attempted trials s e s') :
    s'.pass.candidates s'.tables = l ∧ ∃ runs', Fair trials db pass s' runs' := by
  have hmem : e ∈ s.pass.candidates s.tables := by
    rw [hqueue]
    exact List.mem_cons_self
  obtain ⟨hattempts, hattempted, hnow, hbatch, hcreated⟩ := hcases.counts
  obtain ⟨hrow, hrow'⟩ := h.row hdb hmem
  have hfresh := h.fresh hdb hmem
  have hrest : s'.pass.candidates s'.tables = l :=
    (hcases.candidates h.keys hchecks).trans (Queues.waiting_tail h.keys hqueue)
  have horder : s'.attempts ++ (s'.pass.candidates s'.tables).map Prod.fst = (pass.candidates db).map Prod.fst := by
    rw [hrest, hattempts, ← h.order, hqueue, List.map_cons, List.append_assoc]
    rfl
  have hlength : s'.pass.attempted = s'.attempts.length := by
    rw [hattempted, hattempts, h.attempted, List.length_append, List.length_singleton]
  have hrows : ∀ id, s'.tables.tasks.get? id = if id ∈ s'.fine trials then
      (db.tasks.get? id).map (fun row => row.advanced pass.now) else db.tasks.get? id := by
    intro id
    rw [hcases.get?, h.rows, fine_append hcases, h.now]
    by_cases heq : id = e.1
    · subst heq
      have hnot : e.1 ∉ s.fine trials := fun hmem => hfresh (List.mem_of_mem_filter hmem)
      rw [hrow']
      cases (trials e.1).fails <;> simp [hnot]
    · rw [if_neg (fun h => heq h.1)]
      cases (trials e.1).fails <;> simp [heq]
  refine ⟨hrest, ?_⟩
  have hfine := fine_append hcases
  have hkeys := hcases.keys h.keys
  cases hcases with
  | rolledBack txn htask hfails =>
    rw [if_pos hfails, List.append_nil] at hfine
    exact ⟨runs, h.now, h.batchSize, hkeys, horder, hlength, h.created, h.appended, h.tasks.trans hfine.symm, h.distinct,
      h.scheduled, hrows⟩
  | committed txn id htask hok hid =>
    rw [if_neg (by rw [hok]; exact Bool.false_ne_true)] at hfine
    have hid' : id ∉ db.runs.map (fun r => r.id) ∧ id ∉ runs.map (fun r => r.id) := by
      rw [h.appended, List.map_append, List.mem_append, not_or] at hid
      exact hid
    refine ⟨runs ++ [createTaskRunRecord id e.2.organizationId e.1 none none], h.now, h.batchSize, hkeys, horder, hlength,
      ?_, ?_, ?_, ?_, ?_, hrows⟩
    · show s.pass.created + 1 = _
      rw [h.created, List.length_append, List.length_singleton]
    · show s.tables.runs ++ _ = _
      rw [h.appended, List.append_assoc]
    · rw [List.map_append, h.tasks, hfine]
      rfl
    · rw [List.map_append, List.map_singleton, ← List.concat_eq_append]
      exact List.Nodup.concat hid'.2 h.distinct
    · intro r hr
      rcases List.mem_append.1 hr with hr | hr
      · exact h.scheduled r hr
      · rw [List.mem_singleton.1 hr]
        refine ⟨hid'.1, rfl, rfl, ?_⟩
        show (db.tasks.get? e.1).map _ = _
        rw [hrow']
        rfl

end

/-- **A scheduler pass is fair within its batch**: it attempts the first due tasks in order, as many as the batch size
allows and each once, makes one run for each that does not fail and advances it, and changes no other row. -/
theorem scheduler_pass_fair (py : Backend) {uuid4 : List TaskRunId → TaskRunId} (huuid : ∀ ids, uuid4 ids ∉ ids)
    (trials : TaskId → Trial) (settings : Settings) (now : Time) (batchSize : Option Nat) (db : Tables)
    (hkeys : db.tasks.keys.Nodup) (hchecks : ∀ id row, db.tasks.get? id = some row → row.Checks) :
    ∃ s created runs, runDueSchedules py uuid4 trials settings now batchSize db = (s, created) ∧
      s.attempts = (((Pass.starting settings now batchSize).candidates db).take
        (batchSize.getD settings.schedulerClaimBatchSize)).map Prod.fst ∧
      s.attempts.Nodup ∧
      s.pass.attempted =
        min (batchSize.getD settings.schedulerClaimBatchSize)
          ((Pass.starting settings now batchSize).candidates db).length ∧
      (s.pass.attempted = batchSize.getD settings.schedulerClaimBatchSize ∨ s.poll = none) ∧
      created = runs.length ∧ s.tables.runs = db.runs ++ runs ∧
      runs.map (fun r => r.taskId) = s.attempts.filter (fun id => (trials id).fails = false) ∧
      (runs.map (fun r => r.id)).Nodup ∧ (∀ r ∈ runs, OfScheduler db r) ∧
      ∀ id, s.tables.tasks.get? id = if id ∈ s.attempts ∧ (trials id).fails = false then
        (db.tasks.get? id).map (fun row => row.advanced now) else db.tasks.get? id := by
  have hstart : Fair trials db (.starting settings now batchSize) ⟨db, .starting settings now batchSize, []⟩ [] :=
    ⟨rfl, rfl, hkeys, rfl, rfl, rfl, (List.append_nil _).symm, rfl, List.nodup_nil, fun _ h => absurd h List.not_mem_nil,
      fun _ => rfl⟩
  have hdrain := @Queues.drain_eq _ _ Progress.poll (Progress.attempt py uuid4 trials)
    (fun s => s.pass.candidates s.tables)
    (fun s => ∃ runs, Fair trials db (.starting settings now batchSize) s runs) (fun s => rfl)
    (fun s e l h hqueue => by
      obtain ⟨runs, h⟩ := h
      have hmem : e ∈ s.pass.candidates s.tables := by
        rw [hqueue]
        exact List.mem_cons_self
      obtain ⟨hrow, hrow'⟩ := h.row hkeys hmem
      have hcases := attempt_cases py huuid trials hrow (hchecks _ _ hrow') (Queues.mem_waiting.1 hmem).2
      exact h.attempt hkeys hqueue (hchecks _ _ hrow') hcases)
    (batchSize.getD settings.schedulerClaimBatchSize) _ ⟨[], hstart⟩
  obtain ⟨-, hleft, runs, h⟩ := hdrain
  unfold runDueSchedules
  dsimp only [Pass.starting] at hleft h ⊢
  generalize Queues.drain Progress.poll (Progress.attempt py uuid4 trials)
    (batchSize.getD settings.schedulerClaimBatchSize)
    ⟨db, ⟨now, batchSize.getD settings.schedulerClaimBatchSize, 0, 0, [], none, false⟩, []⟩ = s at hleft h ⊢
  generalize batchSize.getD settings.schedulerClaimBatchSize = b at hleft h ⊢
  have hattempts : s.attempts = ((Pass.candidates ⟨now, b, 0, 0, [], none, false⟩ db).take b).map Prod.fst := by
    have horder := h.order
    rw [hleft] at horder
    conv at horder => rhs; rw [← List.take_append_drop b (Pass.candidates _ db), List.map_append]
    exact List.append_cancel_right horder
  refine ⟨s, _, runs, rfl, hattempts, ?_, ?_, ?_, h.created, h.appended, h.tasks, h.distinct, h.scheduled, ?_⟩
  · rw [hattempts]
    exact (Queues.nodup_waiting hkeys).sublist ((List.take_sublist _ _).map _)
  · rw [h.attempted, hattempts, List.length_map, List.length_take]
  · rw [h.attempted, hattempts, List.length_map, List.length_take, Progress.poll, hleft, List.head?_eq_none_iff,
      List.drop_eq_nil_iff]
    omega
  · intro id
    rw [h.rows]
    unfold Progress.fine
    simp only [List.mem_filter, decide_eq_true_eq]

/-- Three tasks that are due, one that is inactive and one of the next minute. -/
def threeDue : Tables where
  dataSources := []
  tasks :=
    let row (nextRunAt : Time) (isActive : Bool) : TaskRow :=
      ⟨1, none, "load".toList, none, .sync, none, some 30, some nextRunAt, none, none, isActive, none⟩
    [(4, row 30 true), (9, row 10 true), (7, row 5 false), (2, row 10 true), (5, row 60000000 true)]
  runs := [⟨3, 1, 9, none, none⟩]

/-- A supply of ids: one above all that are in use. -/
def nextFreshId (ids : List TaskRunId) : TaskRunId := ids.max?.getD 0 + 1

theorem nextFreshId_notMem (ids : List TaskRunId) : nextFreshId ids ∉ ids := by
  unfold nextFreshId
  intro hmem
  cases hmax : ids.max? with
  | none =>
    rw [List.max?_eq_none_iff.1 hmax] at hmem
    cases hmem
  | some m =>
    rw [hmax] at hmem
    exact Nat.not_succ_le_self m ((List.max?_eq_some_iff.1 hmax).2 _ hmem)

/-- A pass of two attempts, the first of which fails. -/
theorem scheduler_pass_fair_two : ∃ (s : Progress) (runs : List TaskRunRow),
    runDueSchedules asciiBackend nextFreshId (fun id => ⟨id = 2, true⟩) ⟨60, 86400, 10⟩ 40 (some 2) threeDue =
        (s, runs.length) ∧
      s.attempts = [2, 9] ∧ runs.map (fun r => r.taskId) = [9] ∧ s.tables.tasks.get? 2 = threeDue.tasks.get? 2 := by
  obtain ⟨s, created, runs, hpass, hattempts, -, -, -, hcreated, -, htasks, -, -, hrows⟩ :=
    scheduler_pass_fair asciiBackend nextFreshId_notMem (fun id => ⟨id = 2, true⟩)
      ⟨60, 86400, 10⟩ 40 (some 2) threeDue (by decide)
      (fun id row hrow => (show ∀ e ∈ threeDue.tasks, e.2.Checks by decide) (id, row) (Dict.mem_of_get?_eq_some hrow))
  have hfirst : s.attempts = [2, 9] := hattempts.trans (by decide)
  refine ⟨s, runs, hcreated ▸ hpass, hfirst, ?_, ?_⟩
  · rw [htasks, hfirst]
    rfl
  · rw [hrows, if_neg (by simp)]

end Schedule
end DataOps

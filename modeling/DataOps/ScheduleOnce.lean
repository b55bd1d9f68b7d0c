import DataOps.SchedulePasses
/-!
# ScheduleOnce — every scheduled occurrence runs once

The runs without a user are the scheduler's.  They are the advances, one for one and in commit order; each advance consumes
the latest write of its task's `next_run_at`, and being a write itself it leaves that one to no other.
-/
namespace DataOps
namespace Schedule

open Api (TaskId TaskRunId)
open Worker (timedelta)
open Trace (exec Along)
open Tickets (Ticket)

/-- The runs of the scheduler, in commit order. -/
def Tables.scheduled (db : Tables) : List TaskRunRow := db.runs.filter (fun r => r.triggeredBy = none)

/-- **Runs and advances are the same occurrences**, each due by a write of its own. -/
structure ExactlyOnce (w : World) : Prop where
  paired   : w.api.store.scheduled.map (fun r => (r.taskId, r.id)) = w.advances.map (fun a => (a.taskId, a.runId))
  distinct : (w.advances.map (fun a => a.runId)).Nodup
  due      : ∀ a ∈ w.advances, ∃ old new, a.before = some old ∧ a.after = some new ∧ old ≤ a.now ∧ a.now < new
  consumed : ∀ a ∈ w.advances, ∃ x ∈ w.writes, a.consumed = some x ∧ x.taskId = a.taskId ∧ x.value = a.before
  once     : (w.advances.map (fun a => a.consumed)).Nodup
  serials  : (w.writes.map (fun x => x.serial)).Nodup
  current  : ∀ id row, w.api.store.tasks.get? id = some row →
               ∃ x, latest w.writes id = some x ∧ x.value = row.nextRunAt

/-- What a step may do: a request makes no occurrence; a pass changes nothing or commits one, the run with the advance; a
transaction that has not committed leaves its task's row and runs as its poll found them; and every change of a
`next_run_at` is written down. -/
structure Accounted (w : World) (l : Label) (w' : World) : Prop where
  request  : ∀ r, l = .api r → w'.advances = w.advances ∧ w'.api.store.scheduled = w.api.store.scheduled
  pass     : ∀ p a, l = .pass p a →
               (w'.api.store = w.api.store ∧ w'.advances = w.advances) ∨
               ∃ row run adv, w.api.store.tasks.get? adv.taskId = some row ∧ row.nextRunAt = adv.before ∧
                 run.id = adv.runId ∧ run.taskId = adv.taskId ∧ run.triggeredBy = none ∧
                 w'.advances = w.advances ++ [adv] ∧
                 w'.api.store = { w.api.store with
                   tasks := w.api.store.tasks.set adv.taskId { row with nextRunAt := adv.after }
                   runs := w.api.store.runs ++ [run] }
  failed   : ∀ p a (pass : Pass) (txn : Txn), l = .pass p a → w.passes[p]? = some pass → pass.txn = some txn →
               w'.advances = w.advances → w'.api.store.tasks.get? txn.taskId = some txn.found ∧
                 w'.api.store.runsOf txn.taskId = txn.runs
  recorded : ∀ id row row', w.api.store.tasks.get? id = some row → w'.api.store.tasks.get? id = some row' →
               row'.nextRunAt ≠ row.nextRunAt → ∃ x, w'.writes = x :: w.writes ∧ x.taskId = id ∧
                 x.value = row'.nextRunAt

section
variable (py : Backend) (settings : Settings)

/-! ## The history of a column -/

/-- The log of writes, with what has consumed them: a consumed write is never the latest of its task. -/
structure LogInv (tasks : Dict TaskId TaskRow) (writes : List NextRunWrite) (advances : List Advance) : Prop where
  bound    : ∀ x ∈ writes, x.serial < writes.length
  serials  : (writes.map (fun x => x.serial)).Nodup
  current  : ∀ id row, tasks.get? id = some row → ∃ x, latest writes id = some x ∧ x.value = row.nextRunAt
  consumed : ∀ a ∈ advances, ∃ x ∈ writes, a.consumed = some x ∧ x.taskId = a.taskId ∧ x.value = a.before ∧
               ∃ y, latest writes a.taskId = some y ∧ x.serial < y.serial
  once     : (advances.map (fun a => a.consumed)).Nodup

theorem latest_record (writes : List NextRunWrite) (id : TaskId) (value : Option Api.Time) (id' : TaskId) :
    latest (record writes id value) id' = if id = id' then some ⟨writes.length, id, value⟩ else latest writes id' := by
  unfold latest record
  rw [List.find?_cons]
  by_cases h : id = id' <;> simp [h]

/-- A recorded write of a row's `next_run_at` becomes the latest. -/
theorem LogInv.record {tasks : Dict TaskId TaskRow} {writes : List NextRunWrite} {advances : List Advance}
    (h : LogInv tasks writes advances) (id : TaskId) (row : TaskRow) :
    LogInv (tasks.set id row) (record writes id row.nextRunAt) advances where
  bound := by
    intro x hx
    rcases List.mem_cons.1 hx with rfl | hx
    · exact Nat.lt_succ_self _
    · exact Nat.lt_succ_of_lt (h.bound x hx)
  serials := by
    refine List.nodup_cons.2 ⟨?_, h.serials⟩
    intro hmem
    obtain ⟨x, hx, heq⟩ := List.mem_map.1 hmem
    exact absurd (h.bound x hx) (heq ▸ Nat.lt_irrefl _)
  current := by
    intro id' row' hget
    rw [Dict.get?_set] at hget
    rw [latest_record]
    split at hget
    · rename_i heq
      rw [if_pos heq]
      exact ⟨_, rfl, by rw [← Option.some.inj hget]⟩
    · rename_i hne
      rw [if_neg hne]
      exact h.current id' row' hget
  consumed := by
    intro a ha
    obtain ⟨x, hx, hconsumed, htask, hvalue, y, hy, hlt⟩ := h.consumed a ha
    refine ⟨x, List.mem_cons_of_mem _ hx, hconsumed, htask, hvalue, ?_⟩
    rw [latest_record]
    split
    · exact ⟨_, rfl, h.bound x hx⟩
    · exact ⟨y, hy, hlt⟩
  once := h.once

/-- An update that leaves the column alone records nothing. -/
theorem LogInv.keep {tasks : Dict TaskId TaskRow} {writes : List NextRunWrite} {advances : List Advance}
    (h : LogInv tasks writes advances) {id : TaskId} {row row' : TaskRow} (hrow : tasks.get? id = some row)
    (hnext : row'.nextRunAt = row.nextRunAt) : LogInv (tasks.set id row') writes advances where
  bound := h.bound
  serials := h.serials
  current := by
    intro id' row'' hget
    rw [Dict.get?_set] at hget
    split at hget
    · rename_i heq
      obtain ⟨x, hx, hvalue⟩ := h.current id row hrow
      exact ⟨x, heq ▸ hx, by rw [← Option.some.inj hget, hnext]; exact hvalue⟩
    · exact h.current id' row'' hget
  consumed := h.consumed
  once := h.once

/-- **An advance consumes the latest write**, which no earlier one has, and replaces it. -/
theorem LogInv.advance {tasks : Dict TaskId TaskRow} {writes : List NextRunWrite} {advances : List Advance}
    (h : LogInv tasks writes advances) {id : TaskId} {row : TaskRow} (hrow : tasks.get? id = some row)
    (runId : TaskRunId) (now : Api.Time) (value : Option Api.Time) :
    LogInv (tasks.set id { row with nextRunAt := value }) (Schedule.record writes id value)
      (advances ++ [⟨id, runId, now, row.nextRunAt, value, latest writes id⟩]) := by
  have hset := h.record id { row with nextRunAt := value }
  obtain ⟨x, hlatest, hvalue⟩ := h.current id row hrow
  have hx : x ∈ writes := List.mem_of_find?_eq_some hlatest
  have htask : x.taskId = id := by
    rw [latest] at hlatest
    simpa using List.find?_some hlatest
  refine ⟨hset.bound, hset.serials, hset.current, ?_, ?_⟩
  · intro a ha
    rcases List.mem_append.1 ha with ha | ha
    · exact hset.consumed a ha
    · obtain rfl := List.mem_singleton.1 ha
      refine ⟨x, List.mem_cons_of_mem _ hx, hlatest, htask, hvalue, ⟨writes.length, id, value⟩, ?_, h.bound x hx⟩
      rw [latest_record, if_pos rfl]
  · rw [List.map_append, List.nodup_append]
    refine ⟨h.once, List.nodup_singleton _, ?_⟩
    intro c hc c' hc' heq
    obtain ⟨a, ha, rfl⟩ := List.mem_map.1 hc
    obtain rfl := List.mem_singleton.1 hc'
    -- an earlier consumer's write is older than the latest of its task
    obtain ⟨x', -, hconsumed, htask', -, y, hy, hlt⟩ := h.consumed a ha
    have hsame : x' = x := Option.some.inj (hconsumed.symm.trans (heq.trans hlatest))
    rw [← htask', hsame, htask, hlatest] at hy
    rw [hsame, Option.some.inj hy] at hlt
    exact Nat.lt_irrefl _ hlt

/-! ## The invariant -/

structure OnceInv (w : World) : Prop where
  passes : PassInv w
  origin : ∀ ticket ∈ w.api.pending, ∀ run, ticket.write = .insertRun run → run.triggeredBy ≠ none
  log    : LogInv w.api.store.tasks w.writes w.advances
  paired : w.api.store.scheduled.map (fun r => (r.taskId, r.id)) = w.advances.map (fun a => (a.taskId, a.runId))
  ids    : (w.api.store.runs.map (fun r => r.id)).Nodup
  due    : ∀ a ∈ w.advances, ∃ old new, a.before = some old ∧ a.after = some new ∧ old ≤ a.now ∧ a.now < new

theorem OnceInv.exactlyOnce {w : World} (h : OnceInv w) : ExactlyOnce w where
  paired := h.paired
  distinct := by
    have hids : w.advances.map (fun a => a.runId) = w.api.store.scheduled.map (fun r => r.id) := by
      have hsnd := congrArg (List.map Prod.snd) h.paired
      rw [List.map_map, List.map_map] at hsnd
      exact hsnd.symm
    rw [hids]
    exact h.ids.sublist (List.filter_sublist.map _)
  due := h.due
  consumed := by
    intro a ha
    obtain ⟨x, hx, hconsumed, htask, hvalue, -⟩ := h.log.consumed a ha
    exact ⟨x, hx, hconsumed, htask, hvalue⟩
  once := h.log.once
  serials := h.log.serials
  current := h.log.current

theorem OnceInv.initial (dataSources : Dict DataSourceId DataSource) : OnceInv (World.initial dataSources) where
  passes := PassInv.initial dataSources
  origin := fun _ h => by cases h
  log :=
    { bound := fun _ h => absurd h List.not_mem_nil
      serials := List.nodup_nil
      current := fun _ _ h => by cases h
      consumed := fun _ h => absurd h List.not_mem_nil
      once := List.nodup_nil }
  paired := rfl
  ids := List.nodup_nil
  due := fun _ h => by cases h

/-- A request's run has the user who asked for it. -/
theorem endpoints_origin {db : Tables} {r : Request} {w : Write} (hplan : (endpoints py settings).plan r db = .ok w)
    (run : TaskRunRow) (hw : w = .insertRun run) : run.triggeredBy ≠ none := by
  subst hw
  cases r with
  | create payload currentUser id now =>
    obtain ⟨row, hrow, -⟩ := createTask_ok py settings hplan
    cases hrow
  | update taskId payload currentUser now =>
    obtain ⟨task, edited, hrow, -⟩ := updateTask_ok py settings hplan
    cases hrow
  | delete taskId currentUser =>
    obtain ⟨task, -, hrow⟩ := deleteTask_ok hplan
    cases hrow
  | run taskId source currentUser id =>
    cases createTaskRun_ok hplan
    exact Option.some_ne_none _

theorem OnceInv.pending {w : World} (h : OnceInv w) (l : Tickets.Label Request) :
    ∀ ticket ∈ (Tickets.step (endpoints py settings) w.api l).pending, ∀ run, ticket.write = .insertRun run →
      run.triggeredBy ≠ none :=
  Tickets.step_tickets (T := fun _ _ ticket => ∀ run, ticket.write = .insertRun run → run.triggeredBy ≠ none)
    (C := fun _ _ => True) (fun _ _ hplan => endpoints_origin py settings hplan) (fun _ _ _ _ _ horigin => horigin)
    h.origin l (fun _ _ _ _ => trivial)

/-- A step that leaves tables and history alone keeps the invariant. -/
theorem OnceInv.quiet {w w' : World} (h : OnceInv w) (hpasses : PassInv w') (hstore : w'.api.store = w.api.store)
    (hwrites : w'.writes = w.writes) (hadvances : w'.advances = w.advances)
    (horigin : ∀ ticket ∈ w'.api.pending, ∀ run, ticket.write = .insertRun run → run.triggeredBy ≠ none) :
    OnceInv w' where
  passes := hpasses
  origin := horigin
  log := by
    rw [hstore, hwrites, hadvances]
    exact h.log
  paired := by
    rw [hstore, hadvances]
    exact h.paired
  ids := by
    rw [hstore]
    exact h.ids
  due := by
    rw [hadvances]
    exact h.due

/-- The history after a request's commit. -/
theorem LogInv.committed {db db' : Tables} {writes : List NextRunWrite} {advances : List Advance} {w : Write}
    (h : LogInv db.tasks writes advances) (hdb : w.apply py db = some db') :
    LogInv db'.tasks (w.recorded writes) advances := by
  rcases w.apply_cases py hdb with ⟨id, row, rfl, -, -, rfl⟩ | ⟨id, loaded, edited, current, rfl, hget, -, rfl⟩ |
      ⟨run, rfl, -, rfl⟩
  · exact h.record id row
  · simp only [Write.recorded]
    by_cases hnext : edited.nextRunAt = loaded.nextRunAt
    · rw [if_pos hnext]
      exact h.keep hget (if_pos hnext)
    · rw [if_neg hnext]
      have hset := h.record id (current.updated loaded edited)
      have hvalue : (current.updated loaded edited).nextRunAt = edited.nextRunAt := if_neg hnext
      rw [hvalue] at hset
      exact hset
  · exact h

/-- A request's commit makes no scheduled run. -/
theorem Write.apply_scheduled {w : Write} {db db' : Tables} (hdb : w.apply py db = some db')
    (horigin : ∀ run, w = .insertRun run → run.triggeredBy ≠ none) : db'.scheduled = db.scheduled := by
  rcases w.apply_cases py hdb with ⟨id, row, rfl, -, -, rfl⟩ | ⟨id, loaded, edited, current, rfl, hget, -, rfl⟩ |
      ⟨run, rfl, -, rfl⟩
  · rfl
  · rfl
  · simp [Tables.scheduled, List.filter_append, horigin run rfl]

theorem Write.apply_ids {w : Write} {db db' : Tables} (hdb : w.apply py db = some db')
    (h : (db.runs.map (fun r => r.id)).Nodup) : (db'.runs.map (fun r => r.id)).Nodup := by
  rcases w.apply_cases py hdb with ⟨id, row, rfl, -, -, rfl⟩ | ⟨id, loaded, edited, current, rfl, hget, -, rfl⟩ |
      ⟨run, rfl, hfresh, rfl⟩
  · exact h
  · exact h
  · rw [List.map_append, List.map_singleton]
    exact List.concat_eq_append ▸ h.concat hfresh

/-- **A claimed row is due, and its advance goes past the pass's time**, since no interval is under the floor. -/
theorem PassInv.claim_due {w : World} (h : PassInv w) {p : PassId} {pass : Pass} {txn : Txn} {row : TaskRow}
    {newNextRunAt : Api.Time} {run : TaskRunRow} (hpass : w.passes[p]? = some pass) (htxn : pass.txn = some txn)
    (hstage : txn.stage = .added newNextRunAt run) (hrow : w.api.store.tasks.get? txn.taskId = some row) :
    row.nextRunAt = some txn.oldNextRunAt ∧ txn.oldNextRunAt ≤ pass.now ∧ pass.now < newNextRunAt ∧
      run.taskId = txn.taskId ∧ run.triggeredBy = none := by
  have hclaim := h.claimed p pass txn hpass htxn
  have hstaged := hclaim.staged
  rw [Txn.Staged, hstage] at hstaged
  obtain rfl : row = txn.found := Option.some.inj (hrow.symm.trans hclaim.row)
  have hfloor := (h.checks txn.taskId txn.found hclaim.row).1 txn.intervalSeconds hclaim.interval
  refine ⟨hclaim.old, hclaim.due, ?_, hstaged.2⟩
  rw [hstaged.1]
  exact Nat.lt_add_of_pos_right (Nat.mul_pos (by decide) (Nat.lt_of_lt_of_le (by decide) hfloor))

/-- **A step preserves the invariant.** -/
theorem OnceInv.effect {w w' : World} {l : Label} (h : OnceInv w) (he : Effect py settings w l w') : OnceInv w' := by
  have hpasses := h.passes.effect py settings he
  cases he with
  | request l hstore => exact h.quiet hpasses hstore rfl rfl (h.pending py settings l)
  | committed i ticket db hticket hfree hdb hstore =>
    have horigin := h.origin ticket (List.mem_of_getElem? hticket)
    subst hstore
    refine ⟨hpasses, h.pending py settings (.commit i), h.log.committed py hdb, ?_, ticket.write.apply_ids py hdb h.ids,
      h.due⟩
    rw [ticket.write.apply_scheduled py hdb horigin]
    exact h.paired
  | occurred p logged pass txn newNextRunAt run row hpass htxn hstage hrow hchecks hfresh =>
    obtain ⟨hbefore, hdue, hnew, htask, htrigger⟩ := h.passes.claim_due hpass htxn hstage hrow
    refine ⟨hpasses, h.origin, h.log.advance hrow run.id pass.now (some newNextRunAt), ?_, ?_, ?_⟩
    · have hruns : ({ w.api.store with runs := w.api.store.runs ++ [run] } : Tables).scheduled =
          w.api.store.scheduled ++ [run] := by simp [Tables.scheduled, List.filter_append, htrigger]
      simp only [World.occur, List.map_append, List.map_singleton]
      rw [← h.paired, ← htask, ← List.map_singleton (f := fun r : TaskRunRow => (r.taskId, r.id)), ← List.map_append,
        ← hruns]
      rfl
    · simp only [World.occur, List.map_append, List.map_singleton]
      exact List.concat_eq_append ▸ h.ids.concat hfresh
    · intro a ha
      rcases List.mem_append.1 ha with ha | ha
      · exact h.due a ha
      · obtain rfl := List.mem_singleton.1 ha
        exact ⟨_, _, hbefore, rfl, hdue, hnew⟩
  | _ => exact h.quiet hpasses rfl rfl rfl h.origin

theorem OnceInv.step {w : World} (h : OnceInv w) (l : Label) : OnceInv (step py settings w l) :=
  h.effect py settings (step_effect py settings w l)

/-! ## What a step accounts for -/

/-- A row that a `set` changed is the one it set. -/
theorem get?_set_changed {tasks : Dict TaskId TaskRow} {id id' : TaskId} {new row row' : TaskRow}
    (hrow : tasks.get? id' = some row) (hrow' : (tasks.set id new).get? id' = some row')
    (hne : row'.nextRunAt ≠ row.nextRunAt) : id = id' ∧ row' = new := by
  rw [Dict.get?_set] at hrow'
  split at hrow'
  · rename_i heq
    exact ⟨heq, (Option.some.inj hrow').symm⟩
  · rw [hrow] at hrow'
    exact absurd (congrArg TaskRow.nextRunAt (Option.some.inj hrow').symm) hne

theorem Write.apply_recorded {w : Write} {db db' : Tables} (hdb : w.apply py db = some db') (writes : List NextRunWrite)
    {id : TaskId} {row row' : TaskRow} (hrow : db.tasks.get? id = some row) (hrow' : db'.tasks.get? id = some row')
    (hne : row'.nextRunAt ≠ row.nextRunAt) :
    ∃ x, w.recorded writes = x :: writes ∧ x.taskId = id ∧ x.value = row'.nextRunAt := by
  rcases w.apply_cases py hdb with ⟨t, new, rfl, -, -, rfl⟩ | ⟨t, loaded, edited, current, rfl, hget, -, rfl⟩ |
      ⟨run, rfl, -, rfl⟩
  · obtain ⟨rfl, rfl⟩ := get?_set_changed hrow hrow' hne
    exact ⟨_, rfl, rfl, rfl⟩
  · obtain ⟨rfl, rfl⟩ := get?_set_changed hrow hrow' hne
    rw [hget] at hrow
    obtain rfl := Option.some.inj hrow
    have hedit : edited.nextRunAt ≠ loaded.nextRunAt := fun heq => hne (if_pos heq)
    exact ⟨_, if_neg hedit, rfl, (if_neg hedit : setColumn _ _ _ = edited.nextRunAt).symm⟩
  · rw [hrow] at hrow'
    exact absurd (congrArg TaskRow.nextRunAt (Option.some.inj hrow').symm) hne

/-- A step that leaves tables and advances alone is accounted for. -/
theorem OnceInv.accounted_quiet {w w' : World} (h : OnceInv w) (l : Label) (hstore : w'.api.store = w.api.store)
    (hadvances : w'.advances = w.advances) : Accounted w l w' where
  request := fun _ _ => ⟨hadvances, by rw [hstore]⟩
  pass := fun _ _ _ => .inl ⟨hstore, hadvances⟩
  failed := by
    intro p a pass txn _ hpass htxn _
    have hclaim := h.passes.claimed p pass txn hpass htxn
    rw [hstore]
    exact ⟨hclaim.row, hclaim.runs⟩
  recorded := by
    intro id row row' hrow hrow' hne
    rw [hstore, hrow] at hrow'
    exact absurd (congrArg TaskRow.nextRunAt (Option.some.inj hrow').symm) hne

/-- **Every step is accounted for.** -/
theorem OnceInv.accounted {w w' : World} {l : Label} (h : OnceInv w) (he : Effect py settings w l w') :
    Accounted w l w' := by
  cases he with
  | request l hstore => exact h.accounted_quiet _ hstore rfl
  | committed i ticket db hticket hfree hdb hstore =>
    have horigin := h.origin ticket (List.mem_of_getElem? hticket)
    subst hstore
    refine ⟨fun _ _ => ⟨rfl, ticket.write.apply_scheduled py hdb horigin⟩, ?_, ?_, ?_⟩
    · intro p a hl
      cases hl
    · intro p a pass txn hl
      cases hl
    · intro id row row' hrow hrow' hne
      exact ticket.write.apply_recorded py hdb w.writes hrow hrow' hne
  | occurred p logged pass txn newNextRunAt run row hpass htxn hstage hrow hchecks hfresh =>
    obtain ⟨hbefore, hdue, hnew, htask, htrigger⟩ := h.passes.claim_due hpass htxn hstage hrow
    refine ⟨?_, ?_, ?_, ?_⟩
    · intro r hl
      cases hl
    · intro p' a _
      exact .inr ⟨row, run, _, hrow, rfl, rfl, htask, htrigger, rfl, rfl⟩
    · intro p' a pass' txn' _ _ _ hadvances
      exact absurd (congrArg List.length hadvances) (by simp [World.occur])
    · intro id row₀ row' hrow₀ hrow' hne
      obtain ⟨rfl, rfl⟩ := get?_set_changed hrow₀ hrow' hne
      exact ⟨_, rfl, rfl, rfl⟩
  | _ => exact h.accounted_quiet _ rfl rfl

/-- **Scheduled occurrences run exactly once**, in every state of every run, and every step is accounted for. -/
theorem scheduled_exactly_once (dataSources : Dict DataSourceId DataSource) (ls : List Label) :
    ExactlyOnce (exec (step py settings) (World.initial dataSources) ls) ∧
      Along (step py settings) (fun w l => Accounted w l (step py settings w l)) (World.initial dataSources) ls := by
  have hinit := OnceInv.initial dataSources
  have hrun : OnceInv (exec (step py settings) (World.initial dataSources) ls) :=
    Trace.exec_invariant (step py settings) (I := OnceInv) (fun _ l h => h.step py settings l) ls _ hinit
  refine ⟨hrun.exactlyOnce, ?_⟩
  exact Trace.along_of_invariant (step py settings) (fun _ l h => OnceInv.step py settings h l)
    (fun w l h => OnceInv.accounted py settings h (step_effect py settings w l)) ls _ hinit

end
end Schedule
end DataOps

import DataOps.ScheduleWrites
/-!
# ScheduleNames — commits on tasks that the constraints refuse

Names of tasks stay unique as those of data sources do, with scheduler passes at work besides.  A request that passed its
checks is refused only when another took its name, or changed the schedule it changes, since it read the task, or for a
name that Python and PostgreSQL lower-case differently (`task_refused_only_overtaken`): a pass that advances the task is
in nobody's way.
-/
namespace DataOps
namespace Schedule

open Api (Time OrganizationId UserId TaskId TaskRunId User HTTPException)
open Registry (Unambiguous holders)
open Tickets (Ticket)
open Trace (exec)

section
variable (py : Backend)

/-- A pending request, as the tables are when it commits. -/
structure PendingTask (db : Tables) (history : List Write) (t : Ticket Request Write) : Prop where
  seen     : t.seen ≤ history.length
  sound    : t.write.Sound db
  name     : (∀ w ∈ history.drop t.seen, ¬ w.Overtakes py t.write) → t.write.NameFree py db
  schedule : (∀ w ∈ history.drop t.seen, ¬ w.Overtakes py t.write) → ∀ id, t.write.reschedules = some id →
    t.write.OnSchedule db

/-- Names are unique and trimmed, and what the checks saw is still so for those who were not overtaken. -/
structure TasksKept (w : World) : Prop where
  passes  : PassInv w
  names   : Unambiguous (taskNaming py) w.api.store.tasks
  trimmed : ∀ e ∈ w.api.store.tasks, e.2.name.strip = e.2.name ∧ e.2.name ≠ []
  pending : ∀ t ∈ w.api.pending, PendingTask py w.api.store w.api.history t

variable {py} {settings : Settings} (hfloor : 30 ≤ settings.minimumScheduleIntervalSeconds)

/-! ## Steps -/

/-- **A commit, refused or not, leaves the pending requests as they were.** -/
theorem PendingTask.commit {db : Tables} (hkeys : db.tasks.keys.Nodup) {history : List Write} {t t' : Ticket Request Write}
    (ht : t.write.Sound db) (h : PendingTask py db history t') :
    PendingTask py ((t.write.apply py db).getD db) (history ++ [t.write]) t' := by
  have hbefore : (∀ w ∈ (history ++ [t.write]).drop t'.seen, ¬ w.Overtakes py t'.write) →
      (∀ w ∈ history.drop t'.seen, ¬ w.Overtakes py t'.write) ∧ ¬ t.write.Overtakes py t'.write := by
    rw [Tickets.drop_concat_of_le h.seen]
    exact fun hno => ⟨fun w hw => hno w (List.mem_append_left _ hw),
      hno t.write (List.mem_append_right _ (List.mem_singleton_self _))⟩
  have hseen : t'.seen ≤ (history ++ [t.write]).length := by
    rw [List.length_append]
    exact Nat.le_trans h.seen (Nat.le_add_right _ _)
  cases happly : t.write.apply py db with
  | none => exact ⟨hseen, h.sound, fun hno => h.name (hbefore hno).1, fun hno => h.schedule (hbefore hno).1⟩
  | some db' =>
    refine ⟨hseen, h.sound.apply happly, fun hno halike n hn => ?_, fun hno id hid => ?_⟩
    · have hfree := h.name (hbefore hno).1 halike n hn
      rcases t.write.apply_names happly ht with hsame | ⟨id, row, hset, -, hrow⟩
      · rw [Option.getD_some, hsame]
        exact hfree
      · rw [Option.getD_some, hset]
        rcases hrow with ⟨old, hold, -, hkeeps⟩ | ⟨-, htakes⟩
        · exact Registry.holders_keep hkeys hfree hold hkeeps
        · refine Registry.holders_set_eq_nil hkeys hfree (fun _ howner hname => ?_)
          rw [howner, hname] at htakes
          exact absurd (.inl ⟨n, htakes, hn⟩) (hbefore hno).2
    · exact (h.schedule (hbefore hno).1 id hid).apply h.sound hid happly
        (fun hid' => (hbefore hno).2 (.inr ⟨id, hid', hid⟩))

/-- **An advance of the scheduler is in no request's way.** -/
theorem PendingTask.advance {db : Tables} (hkeys : db.tasks.keys.Nodup) {history : List Write} {t : Ticket Request Write}
    (h : PendingTask py db history t) {id : TaskId} {row : TaskRow} (hrow : db.tasks.get? id = some row)
    (hscheduled : row.nextRunAt ≠ none) (newNextRunAt : Time) (runs : List TaskRunRow) :
    PendingTask py { db with tasks := db.tasks.set id { row with nextRunAt := some newNextRunAt }, runs := runs } history
      t := by
  have htask : ∀ {id' row'}, db.tasks.get? id' = some row' → ∃ new,
      (db.tasks.set id { row with nextRunAt := some newNextRunAt }).get? id' = some new ∧
        new.organizationId = row'.organizationId := by
    intro id' row' hrow'
    rw [Dict.get?_set]
    by_cases heq : id = id'
    · subst heq
      obtain rfl : row = row' := Option.some.inj (hrow.symm.trans hrow')
      exact ⟨_, if_pos rfl, rfl⟩
    · rw [if_neg heq]
      exact ⟨row', hrow', rfl⟩
  refine ⟨h.seen, ?_, fun hno halike n hn => ?_, fun hno id' hid => ?_⟩
  · cases hw : t.write with
    | insert id' row' =>
      have hsound := h.sound
      rw [hw] at hsound
      exact hsound
    | update id' loaded edited =>
      have hsound := h.sound
      rw [hw] at hsound
      obtain ⟨hname, hchecks, horg, hactive, current, hcurrent, hcurrentOrg⟩ := hsound
      obtain ⟨new, hnew, hnewOrg⟩ := htask hcurrent
      exact ⟨hname, hchecks, horg, hactive, new, hnew, hnewOrg.trans hcurrentOrg⟩
    | insertRun run =>
      have hsound := h.sound
      rw [hw] at hsound
      obtain ⟨task, htask', horg⟩ := hsound
      obtain ⟨new, hnew, hnewOrg⟩ := htask htask'
      exact ⟨new, hnew, hnewOrg.trans horg⟩
  · exact Registry.holders_keep hkeys (h.name hno halike n hn) hrow ⟨rfl, rfl, fun hactive => hactive⟩
  · have hon := h.schedule hno id' hid
    cases hw : t.write with
    | update taskId loaded edited =>
      rw [hw] at hon
      intro current hcurrent
      rw [Dict.get?_set] at hcurrent
      split at hcurrent
      · rename_i heq
        subst heq
        obtain ⟨hinterval, hnext⟩ := hon row hrow
        rw [← Option.some.inj hcurrent]
        exact ⟨hinterval, by simpa using fun hnone => hscheduled (hnext.2 hnone)⟩
      · exact hon current hcurrent
    | _ => trivial

/-! ## Every run -/

theorem TasksKept.initial (dataSources : Dict DataSourceId DataSource) : TasksKept py (World.initial dataSources) where
  passes := PassInv.initial dataSources
  names := Registry.unambiguous_nil
  trimmed := fun e he => by cases he
  pending := fun t ht => by cases ht

include hfloor

/-- A request's step, as the tables and the pending requests see it. -/
theorem TasksKept.requests {w : World} (h : TasksKept py w) (l : Tickets.Label Request) :
    Unambiguous (taskNaming py) (Tickets.step (endpoints py settings) w.api l).store.tasks ∧
      (∀ e ∈ (Tickets.step (endpoints py settings) w.api l).store.tasks, e.2.name.strip = e.2.name ∧ e.2.name ≠ []) ∧
      ∀ t ∈ (Tickets.step (endpoints py settings) w.api l).pending,
        PendingTask py (Tickets.step (endpoints py settings) w.api l).store
          (Tickets.step (endpoints py settings) w.api l).history t := by
  rcases Tickets.step_cases (endpoints py settings) w.api l with heq | ⟨r, write, hplan, heq⟩ | ⟨i, t, rfl, hi, heq⟩ |
    ⟨i, heq⟩ <;> rw [heq]
  · exact ⟨h.names, h.trimmed, h.pending⟩
  · refine ⟨h.names, h.trimmed, fun t ht => ?_⟩
    rcases List.mem_append.1 ht with hold | hnew
    · exact h.pending t hold
    · obtain ⟨hsound, hname, hon⟩ := endpoints_sound hfloor h.passes.checks h.trimmed hplan
      rw [List.mem_singleton.1 hnew]
      exact ⟨Nat.le_refl _, hsound, fun _ => hname, fun _ _ _ => hon⟩
  · have ht := (h.pending t (List.mem_of_getElem? hi)).sound
    refine ⟨?_, ?_, fun t' ht' => (h.pending t' (List.mem_of_mem_eraseIdx ht')).commit h.names.keys ht⟩
    · show Unambiguous (taskNaming py) ((t.write.apply py w.api.store).getD w.api.store).tasks
      cases happly : t.write.apply py w.api.store with
      | none => exact h.names
      | some db =>
        rcases t.write.apply_names happly ht with hsame | ⟨id, row, hset, hfree, -⟩
        · rw [Option.getD_some, hsame]
          exact h.names
        · rw [Option.getD_some, hset]
          exact (h.names.set_iff id row).2 hfree
    · show ∀ e ∈ ((t.write.apply py w.api.store).getD w.api.store).tasks, e.2.name.strip = e.2.name ∧ e.2.name ≠ []
      cases happly : t.write.apply py w.api.store with
      | none => exact h.trimmed
      | some db =>
        rcases t.write.apply_names happly ht with hsame | ⟨id, row, hset, -, hrow⟩
        · rw [Option.getD_some, hsame]
          exact h.trimmed
        · rw [Option.getD_some, hset]
          intro e he
          rcases (Registry.mem_set h.names.keys).1 he with rfl | ⟨he, -⟩
          · rcases hrow with ⟨old, hold, hname, -⟩ | ⟨hname, -⟩
            · rw [hname]
              exact h.trimmed _ (Dict.mem_of_get?_eq_some hold)
            · exact hname
          · exact h.trimmed e he
  · exact ⟨h.names, h.trimmed, fun t ht => h.pending t (List.mem_of_mem_eraseIdx ht)⟩

theorem TasksKept.effect {w w' : World} {l : Label} (h : TasksKept py w) (he : Effect py settings w l w') :
    TasksKept py w' := by
  have hpasses := h.passes.effect py settings he
  cases he with
  | request l hstore =>
    obtain ⟨hnames, htrimmed, hpending⟩ := h.requests hfloor l
    exact ⟨hpasses, hnames, htrimmed, hpending⟩
  | committed i ticket db hticket hfree hdb hstore =>
    obtain ⟨hnames, htrimmed, hpending⟩ := h.requests hfloor (.commit i)
    exact ⟨hpasses, hnames, htrimmed, hpending⟩
  | occurred p logged pass txn newNextRunAt run row hpass htxn hstage hrow hchecks hfresh =>
    have hclaim := h.passes.claimed p pass txn hpass htxn
    obtain rfl : row = txn.found := Option.some.inj (hrow.symm.trans hclaim.row)
    have hscheduled : txn.found.nextRunAt ≠ none := by
      rw [hclaim.old]
      exact Option.some_ne_none _
    refine ⟨hpasses, h.names.keep hrow ⟨rfl, rfl, fun hactive => hactive⟩, fun e he => ?_,
      fun t ht => (h.pending t ht).advance h.names.keys hrow hscheduled newNextRunAt _⟩
    rcases (Registry.mem_set h.names.keys).1 he with rfl | ⟨he, -⟩
    · exact h.trimmed (txn.taskId, txn.found) (Dict.mem_of_get?_eq_some hrow)
    · exact h.trimmed e he
  | _ => exact ⟨hpasses, h.names, h.trimmed, h.pending⟩

theorem tasks_kept (dataSources : Dict DataSourceId DataSource) (ls : List Label) :
    TasksKept py (exec (step py settings) (World.initial dataSources) ls) :=
  Trace.exec_invariant _ (fun w l h => h.effect hfloor (step_effect py settings w l)) ls _ (.initial dataSources)

omit hfloor

/-- The id drawn for a new row is new. -/
def Write.Fresh (db : Tables) : Write → Prop
  | .insert id _   => db.tasks.get? id = none
  | .insertRun run => run.id ∉ db.runs.map (fun r => r.id)
  | _              => True

/-- **What a check still knows is enough**: the constraints accept the write. -/
theorem TasksKept.accepts {w : World} (h : TasksKept py w) {t : Ticket Request Write} (ht : t ∈ w.api.pending)
    (hno : ∀ write ∈ w.api.since t, ¬ write.Overtakes py t.write) (hfresh : t.write.Fresh w.api.store)
    (halike : ∀ name, t.write.names = some name → py.Alike name) : ∃ db, t.write.apply py w.api.store = some db := by
  obtain ⟨-, hsound, hname, hschedule⟩ := h.pending t ht
  have hname := hname hno halike
  have hschedule := hschedule hno
  cases hw : t.write with
  | insert id row =>
    rw [hw] at hsound hname hfresh
    refine ⟨_, if_pos ⟨hfresh, hsound.2, (activeNamed_eq_false_iff py).2 (fun _ => ?_)⟩⟩
    exact Registry.holders_eq_nil_iff.2 (fun e he howner hkey hactive =>
      absurd (Registry.holders_eq_nil_iff.1 (hname _ rfl) e he howner hkey hactive) (Option.some_ne_none _))
  | update id loaded edited =>
    rw [hw] at hsound hname hschedule
    obtain ⟨-, hedited, -, hactive, current, hcurrent, horg⟩ := hsound
    have hchecks : (current.updated loaded edited).Checks :=
      updated_checks (h.passes.checks id current hcurrent) hedited (fun hne => hschedule id (if_neg hne) current hcurrent)
    have hfree : ¬ ((current.updated loaded edited).isActive = true ∧ activeNamed py w.api.store
        (current.updated loaded edited).organizationId
          (py.sqlLower (sqlTrim (current.updated loaded edited).name)) (some id) =
          true) := by
      refine (activeNamed_eq_false_iff py).2 (fun hnow => ?_)
      rcases updated_name hactive with ⟨-, -, hkeeps⟩ | ⟨hne, hnew⟩
      · rw [hkeeps.owner, hkeeps.name]
        exact h.names.others hcurrent (hkeeps.active hnow)
      · have hothers := hname (loaded.organizationId, py.sqlLower (sqlTrim edited.name)) (if_neg hne)
        unfold taskNaming at hothers ⊢
        dsimp only at hothers ⊢
        rw [hnew, show (current.updated loaded edited).organizationId = loaded.organizationId from horg]
        exact hothers
    refine ⟨{ w.api.store with tasks := w.api.store.tasks.set id (current.updated loaded edited) }, ?_⟩
    simp only [Write.apply, hcurrent]
    exact if_pos ⟨hchecks, hfree⟩
  | insertRun run =>
    rw [hw] at hsound hfresh
    obtain ⟨task, htask, horg⟩ := hsound
    exact ⟨_, if_pos ⟨(Option.any_eq_true _ _).2 ⟨task, htask, by simpa using horg⟩, hfresh⟩⟩

include hfloor

/-- **Whatever requests and scheduler passes do, the active tasks of an organization differ in their names, whatever
their case in the database; the query for a name finds one at most, and finds one exactly when the name is taken**, as
Python lower-cases it. -/
theorem task_names_kept (dataSources : Dict DataSourceId DataSource) (ls : List Label) :
    let db := (exec (step py settings) (World.initial dataSources) ls).api.store
    (∀ e ∈ db.tasks, ∀ e' ∈ db.tasks, e.2.isActive = true → e'.2.isActive = true →
      e.2.organizationId = e'.2.organizationId → py.sqlLower e.2.name = py.sqlLower e'.2.name → e.1 = e'.1) ∧
    ∀ orgId name excludeId, (holders (taskNaming py) db.tasks orgId (py.lower name.strip) excludeId).length ≤ 1 ∧
      (nameTaken py db orgId name excludeId = true ↔ ∃ e ∈ db.tasks, e.2.organizationId = orgId ∧
        py.sqlLower e.2.name = py.lower name.strip ∧ e.2.isActive = true ∧ some e.1 ≠ excludeId) := by
  intro db
  have hkept : TasksKept py (exec (step py settings) (World.initial dataSources) ls) := tasks_kept hfloor dataSources ls
  have hname : ∀ e ∈ db.tasks, (taskNaming py).name e.2 = py.sqlLower e.2.name :=
    fun e he => congrArg py.sqlLower (DataSources.sqlTrim_of_strip (hkept.trimmed e he).1)
  refine ⟨fun e he e' he' hactive hactive' horg hsame => ?_, fun orgId name excludeId => ⟨?_, ?_⟩⟩
  · exact hkept.names.one e he e' he' hactive hactive' horg ((hname e he).trans (hsame.trans (hname e' he').symm))
  · rcases hkept.names.holders_le_one orgId (py.lower name.strip) excludeId with hnone | ⟨e, hone⟩
    · rw [hnone]
      exact Nat.zero_le 1
    · rw [hone]
      exact Nat.le_refl 1
  · rw [nameTaken, activeNamed_eq, Bool.not_eq_true', ← Bool.not_eq_true, List.isEmpty_iff, Registry.holders_eq_nil_iff]
    push Not
    refine exists_congr (fun e => and_congr_right (fun he => ?_))
    rw [hname e he]
    rfl

end
theorem task_names_kept_skewed :
    (holders (taskNaming asciiBackend)
      (exec (step asciiBackend ⟨60, 86400, 10⟩) (World.initial []) skewedRun).api.store.tasks 1
      (asciiBackend.lower (Str.strip " Load ".toList)) none).length ≤ 1 :=
  ((@task_names_kept asciiBackend ⟨60, 86400, 10⟩ (by decide) [] skewedRun).2 1 " Load ".toList none).1

/-- Two tasks of one name are created at once, and a pass begins before the second commits. -/
def twoLoads : List Label :=
  let user : Api.User := ⟨7, 1, "a@b.c", none, false⟩
  [.api (.read (.create { name := "load".toList, taskType := .sync, scheduleIntervalSeconds := some 60 } user 4 0)),
    .api (.read (.create { name := " LOAD".toList, taskType := .sync } user 5 0)), .api (.commit 0),
    .start 100000000 none, .pass 0 (.poll 4), .pass 0 .advance]

def overtakenLoad : Ticket Request Write :=
  let row : TaskRow :=
    { organizationId := 1, dataSourceId := none, name := "LOAD".toList, description := none, taskType := .sync
      schedule := none, scheduleIntervalSeconds := none, nextRunAt := none, maxAttempts := none, timeoutSeconds := none
      createdBy := some 7 }
  ⟨.create { name := " LOAD".toList, taskType := .sync } ⟨7, 1, "a@b.c", none, false⟩ 5 0, .insert 5 row, 0⟩

end Schedule
end DataOps

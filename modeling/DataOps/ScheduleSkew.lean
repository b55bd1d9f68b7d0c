import DataOps.SchedulePasses
/-!
# ScheduleSkew — when two PATCHes leave a schedule on a task that is not SYNC

Each PATCH validates the type with the interval on the row it read and then commits only the columns it changed.  A PATCH
that writes one of the two columns after another commit has written the other is a skewed one, and those are the only
commits that break the rule.
-/
namespace DataOps
namespace Schedule

open Api (TaskId)
open Trace (exec Along)
open Tickets (Ticket)

/-- Only SYNC tasks have a schedule. -/
def SyncOnly (db : Tables) : Prop := ∀ id row, db.tasks.get? id = some row → row.SyncWhenScheduled

/-- What the endpoint validated, with the row as it edited it. -/
def Write.Validated : Write → Prop
  | .insert _ row      => row.SyncWhenScheduled
  | .update _ _ edited => edited.SyncWhenScheduled
  | .insertRun _       => True

/-- The edit writes one of the two columns, an interval or a type that cannot have one, and the other column is not as
the request read it. -/
def TaskRow.Skewed (current loaded edited : TaskRow) : Prop :=
  (edited.scheduleIntervalSeconds ≠ loaded.scheduleIntervalSeconds ∧ edited.scheduleIntervalSeconds ≠ none ∧
      edited.taskType = loaded.taskType ∧ current.taskType ≠ loaded.taskType) ∨
    (edited.taskType ≠ loaded.taskType ∧ edited.taskType ≠ .sync ∧
      edited.scheduleIntervalSeconds = loaded.scheduleIntervalSeconds ∧
      current.scheduleIntervalSeconds ≠ loaded.scheduleIntervalSeconds)

def Write.Skewed (db : Tables) (w : Write) : Prop :=
  ∃ id loaded edited current, w = .update id loaded edited ∧ db.tasks.get? id = some current ∧
    current.Skewed loaded edited

section
variable (py : Backend) (settings : Settings)

/-- The step leaves only SYNC tasks with a schedule, and every run a pass creates in it is of a SYNC task. -/
def KeepsSyncOnly (w : World) (l : Label) : Prop :=
  SyncOnly (step py settings w l).api.store ∧
    ∀ p a, l = .pass p a → ∀ run ∈ (step py settings w l).api.store.runs, run ∉ w.api.store.runs →
      ∃ row, w.api.store.tasks.get? run.taskId = some row ∧ row.taskType = .sync

/-- The step commits no skewed PATCH. -/
def CommitsUnskewed (w : World) (l : Label) : Prop :=
  ∀ i (ticket : Ticket Request Write), l = .api (.commit i) → w.api.pending[i]? = some ticket →
    w.locked ticket.write.target = false → (ticket.write.apply py w.api.store).isSome = true →
      ¬ ticket.write.Skewed w.api.store

/-! ## One commit -/

/-- **A row keeps the rule exactly when the edit is not skewed.** -/
theorem TaskRow.updated_syncWhenScheduled_iff {current loaded edited : TaskRow} (hcurrent : current.SyncWhenScheduled)
    (hedited : edited.SyncWhenScheduled) :
    (current.updated loaded edited).SyncWhenScheduled ↔ ¬ current.Skewed loaded edited := by
  unfold TaskRow.SyncWhenScheduled at *
  simp only [TaskRow.updated, setColumn, TaskRow.Skewed]
  by_cases hinterval : edited.scheduleIntervalSeconds = loaded.scheduleIntervalSeconds
  · by_cases htype : edited.taskType = loaded.taskType
    · simpa [hinterval, htype] using hcurrent
    · -- only the type is written: the interval must still be the one it was validated with
      simp only [hinterval, htype, ↓reduceIte]
      constructor
      · rintro hrow (⟨hne, -⟩ | ⟨-, hsync, -, hchanged⟩)
        · exact hne rfl
        · have hnone : current.scheduleIntervalSeconds = none :=
            Classical.byContradiction (fun hsome => hsync (hrow hsome))
          have hloaded : loaded.scheduleIntervalSeconds = none := by
            rw [← hinterval]
            exact Classical.byContradiction (fun hsome => hsync (hedited hsome))
          exact hchanged (hnone.trans hloaded.symm)
      · intro hno hsome
        refine Classical.byContradiction (fun hsync => hno (.inr ⟨htype, hsync, trivial, fun hsame => ?_⟩))
        rw [hsame, ← hinterval] at hsome
        exact hsync (hedited hsome)
  · by_cases htype : edited.taskType = loaded.taskType
    · -- only the interval is written: the type must still be the one it was validated with
      simp only [hinterval, htype, ↓reduceIte]
      constructor
      · rintro hrow (⟨-, hsome, -, hchanged⟩ | ⟨hne, -⟩)
        · exact hchanged ((hrow hsome).trans ((hedited hsome).symm.trans htype))
        · exact hne rfl
      · intro hno hsome
        refine Classical.byContradiction (fun hsync => hno (.inl ⟨hinterval, hsome, trivial, fun hsame => ?_⟩))
        exact hsync (hsame.trans (htype.symm.trans (hedited hsome)))
    · simpa [hinterval, htype] using hedited

theorem SyncOnly.set_iff {db : Tables} (h : SyncOnly db) (id : TaskId) (row : TaskRow) :
    SyncOnly { db with tasks := db.tasks.set id row } ↔ row.SyncWhenScheduled := by
  constructor
  · intro hset
    exact hset id row ((Dict.get?_set _ _ _ _).trans (if_pos rfl))
  · intro hrow id' row' hget
    rw [Dict.get?_set] at hget
    split at hget
    · exact Option.some.inj hget ▸ hrow
    · exact h id' row' hget

/-- **An accepted commit keeps the rule exactly when it is not skewed.** -/
theorem Write.apply_syncOnly_iff {w : Write} {db db' : Tables} (h : SyncOnly db) (hw : w.Validated)
    (hdb : w.apply py db = some db') : SyncOnly db' ↔ ¬ w.Skewed db := by
  rcases w.apply_cases py hdb with ⟨id, row, rfl, -, -, rfl⟩ | ⟨id, loaded, edited, current, rfl, hget, -, rfl⟩ |
      ⟨run, rfl, -, rfl⟩
  · refine (h.set_iff id row).trans (iff_of_true hw ?_)
    rintro ⟨_, _, _, _, heq, -⟩
    cases heq
  · rw [h.set_iff, TaskRow.updated_syncWhenScheduled_iff (h id current hget) hw, not_iff_not]
    constructor
    · exact fun hskew => ⟨id, loaded, edited, current, rfl, hget, hskew⟩
    · rintro ⟨id', loaded', edited', current', heq, hget', hskew⟩
      cases heq
      rw [hget] at hget'
      cases hget'
      exact hskew
  · refine iff_of_true h ?_
    rintro ⟨_, _, _, _, heq, -⟩
    cases heq

/-! ## The runs -/

/-- **The invariant**: only SYNC tasks have a schedule, and every pending write validated what it edited. -/
structure SyncInv (w : World) : Prop where
  passes    : PassInv w
  sync      : SyncOnly w.api.store
  validated : ∀ ticket ∈ w.api.pending, ticket.write.Validated

theorem endpoints_validated {db : Tables} (h : SyncOnly db) {r : Request} {w : Write}
    (hplan : (endpoints py settings).plan r db = .ok w) : w.Validated := by
  cases r with
  | create payload currentUser id now =>
    obtain ⟨row, rfl, hrow⟩ := createTask_ok py settings hplan
    exact hrow
  | update taskId payload currentUser now =>
    obtain ⟨task, edited, rfl, hedited⟩ := updateTask_ok py settings hplan
    exact hedited
  | delete taskId currentUser =>
    obtain ⟨task, htask, rfl⟩ := deleteTask_ok hplan
    exact h taskId task htask
  | run taskId source currentUser id =>
    rw [createTaskRun_ok hplan]
    trivial

theorem SyncInv.pending {w : World} (h : SyncInv w) (l : Tickets.Label Request) :
    ∀ ticket ∈ (Tickets.step (endpoints py settings) w.api l).pending, ticket.write.Validated :=
  Tickets.step_tickets (T := fun _ _ ticket => ticket.write.Validated) (C := fun _ _ => True)
    (fun _ _ hplan => endpoints_validated py settings h.sync hplan) (fun _ _ _ _ _ hvalidated => hvalidated)
    h.validated l (fun _ _ _ _ => trivial)

theorem step_commit_store {w : World} {i : Nat} {ticket : Ticket Request Write} {db : Tables}
    (hticket : w.api.pending[i]? = some ticket) (hfree : w.locked ticket.write.target = false)
    (hdb : ticket.write.apply py w.api.store = some db) : (step py settings w (.api (.commit i))).api.store = db := by
  simp only [step, World.apiStep, hticket, hfree, Bool.false_eq_true, ↓reduceIte, Tickets.step]
  exact congrArg (fun x => Option.getD x w.api.store) hdb

theorem SyncInv.unskewed {w : World} (h : SyncInv w) {l : Label} (hsync : SyncOnly (step py settings w l).api.store) :
    CommitsUnskewed py w l := by
  rintro i ticket rfl hticket hfree hsome
  obtain ⟨db, hdb⟩ := Option.isSome_iff_exists.1 hsome
  rw [step_commit_store py settings hticket hfree hdb] at hsync
  exact (ticket.write.apply_syncOnly_iff py h.sync (h.validated ticket (List.mem_of_getElem? hticket)) hdb).1 hsync

/-- **A step that commits no skewed PATCH** leaves only SYNC tasks with a schedule. -/
theorem SyncInv.sync_effect {w w' : World} {l : Label} (h : SyncInv w) (he : Effect py settings w l w')
    (hunskewed : CommitsUnskewed py w l) : SyncOnly w'.api.store := by
  cases he with
  | request l hstore =>
    rw [hstore]
    exact h.sync
  | committed i ticket db hticket hfree hdb hstore =>
    rw [hstore]
    refine (ticket.write.apply_syncOnly_iff py h.sync (h.validated ticket (List.mem_of_getElem? hticket)) hdb).2 ?_
    exact hunskewed i ticket rfl hticket hfree (Option.isSome_of_mem hdb)
  | occurred p logged pass txn newNextRunAt run row hpass htxn hstage hrow hchecks hfresh =>
    intro id row' hget
    refine (h.sync.set_iff txn.taskId { row with nextRunAt := some newNextRunAt }).2 ?_ id row' hget
    exact h.sync txn.taskId row hrow
  | _ => exact h.sync

/-- **A run that a pass adds is of a SYNC task**: the row its pass claimed has a schedule. -/
theorem SyncInv.runs_effect {w w' : World} {p : PassId} {a : Action} (h : SyncInv w)
    (he : Effect py settings w (.pass p a) w') (run : TaskRunRow) (hrun : run ∈ w'.api.store.runs)
    (hnew : run ∉ w.api.store.runs) : ∃ row, w.api.store.tasks.get? run.taskId = some row ∧ row.taskType = .sync := by
  cases he with
  | occurred p logged pass txn newNextRunAt added row hpass htxn hstage hrow hchecks hfresh =>
    have hclaim := h.passes.claimed p pass txn hpass htxn
    have hstaged := hclaim.staged
    rw [Txn.Staged, hstage] at hstaged
    obtain rfl : run = added := by
      rcases List.mem_append.1 hrun with hold | hadded
      · exact absurd hold hnew
      · exact List.mem_singleton.1 hadded
    refine ⟨txn.found, by rw [hstaged.2.1]; exact hclaim.row, h.sync txn.taskId txn.found hclaim.row ?_⟩
    rw [hclaim.interval]
    exact Option.some_ne_none _
  | _ => exact absurd hrun hnew

/-- **A step keeps the rule exactly when it commits no skewed PATCH.** -/
theorem SyncInv.keeps_iff {w : World} (h : SyncInv w) (l : Label) :
    KeepsSyncOnly py settings w l ↔ CommitsUnskewed py w l := by
  constructor
  · exact fun hkeeps => h.unskewed py settings hkeeps.1
  · intro hunskewed
    refine ⟨h.sync_effect py settings (step_effect py settings w l) hunskewed, ?_⟩
    rintro p a rfl
    exact h.runs_effect py settings (step_effect py settings w (.pass p a))

theorem SyncInv.step {w : World} {l : Label} (h : SyncInv w) (hunskewed : CommitsUnskewed py w l) :
    SyncInv (step py settings w l) where
  passes := h.passes.step py settings l
  sync := h.sync_effect py settings (step_effect py settings w l) hunskewed
  validated := by
    have he := step_effect py settings w l
    generalize Schedule.step py settings w l = w' at he
    cases he with
    | request l hstore => exact h.pending py settings l
    | committed i ticket db hticket hfree hdb hstore => exact h.pending py settings (.commit i)
    | _ => exact h.validated

theorem SyncInv.initial (dataSources : Dict DataSourceId DataSource) : SyncInv (World.initial dataSources) where
  passes := PassInv.initial dataSources
  sync := fun _ _ h => by cases h
  validated := fun _ h => by cases h

/-- **Only SYNC tasks are ever scheduled exactly in the runs that commit no skewed PATCH.** -/
theorem syncOnly_iff_unskewed (dataSources : Dict DataSourceId DataSource) (ls : List Label) :
    Along (step py settings) (KeepsSyncOnly py settings) (World.initial dataSources) ls ↔
      Along (step py settings) (CommitsUnskewed py) (World.initial dataSources) ls :=
  Trace.along_congr (step py settings) (fun _ _ h hc => SyncInv.step py settings h hc)
    (fun _ l h => SyncInv.keeps_iff py settings h l) ls _ (SyncInv.initial dataSources)

end

/-- A PATCH to TRANSFORM and one to a schedule, both validated before either commits, and then a pass. -/
def skewedRun : List Label :=
  let user : Api.User := ⟨7, 1, "a@b.c", none, false⟩
  [.api (.read (.create { name := "load".toList, taskType := .sync } user 4 0)), .api (.commit 0),
    .api (.read (.update 4 { taskType := some .transform } user 0)),
    .api (.read (.update 4 { scheduleIntervalSeconds := some (some 60) } user 0)),
    .api (.commit 0), .api (.commit 0),
    .start 100000000 none, .pass 0 (.poll 4), .pass 0 .advance, .pass 0 (.addRun 9), .pass 0 (.commit true)]

/-- **A schedule lands on a TRANSFORM task**, and a pass creates its run. -/
theorem skewedRun_schedules_transform :
    let w := exec (step asciiBackend ⟨60, 86400, 10⟩) (World.initial []) skewedRun
    (∃ row, w.api.store.tasks.get? 4 = some row ∧ row.taskType = .transform ∧ row.scheduleIntervalSeconds = some 60) ∧
      w.api.store.runs = [⟨9, 1, 4, none, none⟩] ∧
      ¬ Along (step asciiBackend ⟨60, 86400, 10⟩) (KeepsSyncOnly asciiBackend ⟨60, 86400, 10⟩) (World.initial [])
        skewedRun := by
  refine ⟨⟨_, rfl, rfl, rfl⟩, rfl, fun halong => ?_⟩
  have hlast := (Trace.along_iff_split _ _ _ _).1 halong skewedRun.dropLast (.pass 0 (.commit true)) [] rfl
  exact absurd (hlast.1 4 _ rfl (by decide)) (by decide)

end Schedule
end DataOps

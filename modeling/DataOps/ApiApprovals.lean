import DataOps.LibTickets
import DataOps.ApiTables
/-!
# ApiApprovals — approving, rejecting and rolling back a run's result

The twelve endpoints of the four results that carry an approval state: cleaning, standardization, matching and export.
Each reads the row, checks its status and updates it by id in a later commit; nothing holds the row in between.
-/
namespace DataOps
namespace Api

open Trace (exec Along)
open Tickets (Ticket Commits Undisturbed)

inductive ApprovalStatus
  | pendingReview | approved | rejected | rolledBack
deriving DecidableEq, Repr

def ApprovalStatus.value : ApprovalStatus → String
  | .pendingReview => "pending_review"
  | .approved      => "approved"
  | .rejected      => "rejected"
  | .rolledBack    => "rolled_back"

inductive ReviewAction
  | approve | reject | rollback
deriving DecidableEq, Repr

/-- The approval columns of a result's row, and the columns the lookup reads. -/
structure ResultRow where
  taskId         : TaskId
  organizationId : OrganizationId
  status         : ApprovalStatus
  approvedBy     : Option UserId
  approvedAt     : Option Time
  rejectedBy     : Option UserId
  rejectedAt     : Option Time
  rolledBackBy   : Option UserId
  rolledBackAt   : Option Time
deriving DecidableEq, Repr

/-- One row per task run and kind (`uq_.._task_run`). -/
structure ResultTables extends TaskTables where
  results : RunKind → TaskRunId → Option ResultRow

/-- What a commit updates: the row, by its id, and the columns the request changed. -/
structure Review where
  kind   : RunKind
  runId  : TaskRunId
  action : ReviewAction
  user   : UserId
  now    : Time
deriving DecidableEq, Repr

structure ReviewRequest where
  kind        : RunKind
  action      : ReviewAction
  taskId      : TaskId
  runId       : TaskRunId
  currentUser : User
  now         : Time

/-! ## The lookups -/

def getResultOr404 (kind : RunKind) (db : ResultTables) (taskId : TaskId) (runId : TaskRunId)
    (orgId : OrganizationId) : Except HTTPException ResultRow :=
  resultOr404 kind.notFound ResultRow.taskId ResultRow.organizationId db.toTaskTables taskId runId orgId
    (db.results kind runId)

/-- `_get_cleaning_run_or_404`. -/
def getCleaningRunOr404 := getResultOr404 .cleaning
def getStandardizationRunOr404 := getResultOr404 .standardization
def getMatchRunOr404 := getResultOr404 .matching
def getExportRunOr404 := getResultOr404 .export

/-! ## The endpoints -/

def RunKind.noun : RunKind → String
  | .cleaning        => "a cleaning run"
  | .standardization => "a standardization run"
  | .matching        => "a match run"
  | .export          => "an export run"

def ReviewAction.verb : ReviewAction → String
  | .approve  => "approve"
  | .reject   => "reject"
  | .rollback => "roll back"

/-- The status a request must find. -/
def ReviewAction.required : ReviewAction → ApprovalStatus
  | .approve  => .pendingReview
  | .reject   => .pendingReview
  | .rollback => .approved

/-- The status a request leaves. -/
def ReviewAction.target : ReviewAction → ApprovalStatus
  | .approve  => .approved
  | .reject   => .rejected
  | .rollback => .rolledBack

/-- The read and the check of an endpoint; what it will commit. -/
def reviewTaskRun (kind : RunKind) (action : ReviewAction) (db : ResultTables) (taskId : TaskId) (runId : TaskRunId)
    (currentUser : User) (now : Time) : Except HTTPException Review := do
  let row ← getResultOr404 kind db taskId runId currentUser.organizationId
  if row.status ≠ action.required then
    .error ⟨409, "Cannot " ++ action.verb ++ " " ++ kind.noun ++ " with status '" ++ row.status.value ++ "'"⟩
  else .ok ⟨kind, runId, action, currentUser.id, now⟩

def approveTaskRunCleaning := reviewTaskRun .cleaning .approve
def rejectTaskRunCleaning := reviewTaskRun .cleaning .reject
def rollbackTaskRunCleaning := reviewTaskRun .cleaning .rollback
def approveTaskRunStandardization := reviewTaskRun .standardization .approve
def rejectTaskRunStandardization := reviewTaskRun .standardization .reject
def rollbackTaskRunStandardization := reviewTaskRun .standardization .rollback
def approveTaskRunMatching := reviewTaskRun .matching .approve
def rejectTaskRunMatching := reviewTaskRun .matching .reject
def rollbackTaskRunMatching := reviewTaskRun .matching .rollback
def approveTaskRunExport := reviewTaskRun .export .approve
def rejectTaskRunExport := reviewTaskRun .export .reject
def rollbackTaskRunExport := reviewTaskRun .export .rollback

/-- The columns an endpoint sets. -/
def ResultRow.reviewed (row : ResultRow) (action : ReviewAction) (user : UserId) (now : Time) : ResultRow :=
  match action with
  | .approve  => { row with status := .approved, approvedBy := some user, approvedAt := some now }
  | .reject   => { row with status := .rejected, rejectedBy := some user, rejectedAt := some now }
  | .rollback => { row with status := .rolledBack, rolledBackBy := some user, rolledBackAt := some now }

/-- `UPDATE .. SET <changed columns> WHERE id = :id`. -/
def Review.write (e : Review) (db : ResultTables) : ResultTables :=
  { db with
    results := fun kind runId =>
      if kind = e.kind ∧ runId = e.runId then
        (db.results kind runId).map (fun row => row.reviewed e.action e.user e.now)
      else db.results kind runId }

/-- Every endpoint, as the read and the later commit it is. -/
def approvals : Tickets.Protocol ResultTables ReviewRequest HTTPException Review where
  plan r db := reviewTaskRun r.kind r.action db r.taskId r.runId r.currentUser r.now
  write := Review.write

abbrev ApprovalState := Tickets.State ResultTables ReviewRequest Review

/-- Two updates of one row. -/
def Review.sameRun (e e' : Review) : Prop := e.kind = e'.kind ∧ e.runId = e'.runId

/-! ## The state machine -/

/-- The edges of the approval state machine. -/
inductive Moves : ApprovalStatus → ApprovalStatus → Prop
  | approve  : Moves .pendingReview .approved
  | reject   : Moves .pendingReview .rejected
  | rollback : Moves .approved .rolledBack

/-- The commit moves its row along an edge. -/
def Legal (s : ApprovalState) (t : Ticket ReviewRequest Review) : Prop :=
  ∃ row, s.store.results t.write.kind t.write.runId = some row ∧
    Moves row.status (row.reviewed t.write.action t.write.user t.write.now).status

def actionsOn (history : List Review) (kind : RunKind) (runId : TaskRunId) : List ReviewAction :=
  (history.filter (fun e => e.kind = kind ∧ e.runId = runId)).map (·.action)

/-- Each action was committed at most once to each run, and no run carries both timestamps. -/
def OnceEach (s : ApprovalState) : Prop :=
  ∀ kind runId row, s.store.results kind runId = some row →
    (actionsOn s.history kind runId).Nodup ∧ ¬ (row.approvedAt ≠ none ∧ row.rejectedAt ≠ none)

/-- A step that keeps to the state machine. -/
def KeepsStateMachine (s : ApprovalState) (l : Tickets.Label ReviewRequest) : Prop :=
  Commits Legal s l ∧ OnceEach (Tickets.step approvals s l)

/-- A row as its handler inserts it. -/
def ResultRow.fresh (taskId : TaskId) (organizationId : OrganizationId) : ResultRow where
  taskId := taskId
  organizationId := organizationId
  status := .pendingReview
  approvedBy := none
  approvedAt := none
  rejectedBy := none
  rejectedAt := none
  rolledBackBy := none
  rolledBackAt := none

/-- The results some runs have produced, all awaiting review. -/
def ResultTables.initial (tables : TaskTables) (created : RunKind → TaskRunId → Option (TaskId × OrganizationId)) :
    ResultTables :=
  { tables with results := fun kind runId => (created kind runId).map (fun c => .fresh c.1 c.2) }

/-- The actions that lead to a status. -/
def ApprovalStatus.path : ApprovalStatus → List ReviewAction
  | .pendingReview => []
  | .approved      => [.approve]
  | .rejected      => [.reject]
  | .rolledBack    => [.approve, .rollback]

theorem ReviewAction.path_target (a : ReviewAction) : a.target.path = a.required.path ++ [a] := by
  cases a <;> rfl

theorem ApprovalStatus.path_nodup (x : ApprovalStatus) : x.path.Nodup := by
  cases x <;> decide

/-- A request's target has one predecessor, the status the request requires. -/
theorem moves_target_iff (x : ApprovalStatus) (a : ReviewAction) : Moves x a.target ↔ x = a.required := by
  constructor
  · intro h
    cases a <;> cases h <;> rfl
  · rintro rfl
    cases a
    · exact .approve
    · exact .reject
    · exact .rollback

theorem ResultRow.reviewed_status (row : ResultRow) (a : ReviewAction) (user : UserId) (now : Time) :
    (row.reviewed a user now).status = a.target := by
  cases a <;> rfl

/-! ## The check -/

theorem reviewTaskRun_ok {kind : RunKind} {action : ReviewAction} {db : ResultTables} {taskId : TaskId}
    {runId : TaskRunId} {currentUser : User} {now : Time} {e : Review}
    (h : reviewTaskRun kind action db taskId runId currentUser now = .ok e) :
    e = ⟨kind, runId, action, currentUser.id, now⟩ ∧
      ∃ row, db.results kind runId = some row ∧ row.status = action.required := by
  unfold reviewTaskRun at h
  cases hfound : getResultOr404 kind db taskId runId currentUser.organizationId with
  | error err =>
    rw [hfound] at h
    cases h
  | ok row =>
    obtain ⟨-, hrow, -, -⟩ := resultOr404_eq_ok.1 hfound
    rw [hfound] at h
    by_cases hst : row.status = action.required
    · simp only [hst, bind, Except.bind, ne_eq, not_true_eq_false, ↓reduceIte] at h
      exact ⟨(Except.ok.inj h).symm, row, hrow, hst⟩
    · simp [hst, bind, Except.bind] at h

/-- The check reads the row and nothing else a review writes. -/
theorem reviewTaskRun_write {kind : RunKind} {action : ReviewAction} {db : ResultTables} {taskId : TaskId}
    {runId : TaskRunId} {currentUser : User} {now : Time} {e : Review} (hne : ¬ (e.kind = kind ∧ e.runId = runId)) :
    reviewTaskRun kind action (e.write db) taskId runId currentUser now =
      reviewTaskRun kind action db taskId runId currentUser now := by
  have hrow : (e.write db).results kind runId = db.results kind runId := by
    unfold Review.write
    dsimp only
    rw [if_neg (fun hh => hne ⟨hh.1.symm, hh.2.symm⟩)]
  unfold reviewTaskRun getResultOr404
  rw [hrow]; rfl

theorem approvals_frame (e : Review) (r : ReviewRequest) (w : Review) (db : ResultTables)
    (h : approvals.plan r db = .ok w) (hne : ¬ e.sameRun w) : approvals.plan r (approvals.write e db) = .ok w := by
  have hw := (reviewTaskRun_ok h).1
  subst hw
  exact (reviewTaskRun_write hne).trans h

/-! ## The invariant -/

/-- A ticket a review of its run has overtaken: the run has moved past the status its request found. -/
def Overtaken (db : ResultTables) (history : List Review) (t : Ticket ReviewRequest Review) : Prop :=
  (∃ e ∈ history.drop t.seen, e.sameRun t.write) →
    ∃ row, db.results t.write.kind t.write.runId = some row ∧
      t.write.action.required.path.length < row.status.path.length

/-- **The invariant along undisturbed commits**: a run's reviews are the path to its status, and every ticket has
either what its check saw or been overtaken. -/
structure ReviewInv (s : ApprovalState) : Prop where
  rows    : ∀ kind runId row, s.store.results kind runId = some row →
              actionsOn s.history kind runId = row.status.path ∧
              (.approve ∉ row.status.path → row.approvedAt = none) ∧
              (.reject ∉ row.status.path → row.rejectedAt = none)
  planned : ∀ t ∈ s.pending, Tickets.Planned approvals Review.sameRun s.store s.history t
  late    : ∀ t ∈ s.pending, Overtaken s.store s.history t

theorem ReviewInv.onceEach {s : ApprovalState} (h : ReviewInv s) : OnceEach s := by
  intro kind runId row hrow
  obtain ⟨hact, happ, hrej⟩ := h.rows kind runId row hrow
  refine ⟨by rw [hact]; exact row.status.path_nodup, fun hboth => ?_⟩
  have hin : .approve ∈ row.status.path := Classical.byContradiction (fun hn => hboth.1 (happ hn))
  have hin' : .reject ∈ row.status.path := Classical.byContradiction (fun hn => hboth.2 (hrej hn))
  cases hst : row.status <;> rw [hst] at hin hin' <;> revert hin hin' <;> decide

/-- **An undisturbed ticket finds the status its request found.** -/
theorem ReviewInv.found {s : ApprovalState} (h : ReviewInv s) {t : Ticket ReviewRequest Review} (ht : t ∈ s.pending)
    (hu : Undisturbed Review.sameRun s t) :
    ∃ row, s.store.results t.write.kind t.write.runId = some row ∧ row.status = t.write.action.required := by
  obtain ⟨hw, row, hrow, hst⟩ := reviewTaskRun_ok ((h.planned t ht).plan hu)
  exact ⟨row, by rw [hw]; exact hrow, by rw [hw]; exact hst⟩

/-- **A commit is legal exactly when it is undisturbed.** -/
theorem ReviewInv.legal_iff {s : ApprovalState} (h : ReviewInv s) {t : Ticket ReviewRequest Review}
    (ht : t ∈ s.pending) : Legal s t ↔ Undisturbed Review.sameRun s t := by
  constructor
  · rintro ⟨row, hrow, hmove⟩
    rw [ResultRow.reviewed_status, moves_target_iff] at hmove
    by_contra hu
    obtain ⟨e, he, hsame⟩ : ∃ e ∈ s.history.drop t.seen, e.sameRun t.write := by
      by_contra hno
      exact hu (fun e he hsame => hno ⟨e, he, hsame⟩)
    obtain ⟨row', hrow', hlt⟩ := h.late t ht ⟨e, he, hsame⟩
    obtain rfl : row = row' := Option.some.inj (hrow.symm.trans hrow')
    rw [hmove] at hlt
    exact Nat.lt_irrefl _ hlt
  · intro hu
    obtain ⟨row, hrow, hst⟩ := h.found ht hu
    refine ⟨row, hrow, ?_⟩
    rw [ResultRow.reviewed_status, moves_target_iff]
    exact hst

theorem actionsOn_concat (history : List Review) (e : Review) (kind : RunKind) (runId : TaskRunId) :
    actionsOn (history ++ [e]) kind runId =
      if e.kind = kind ∧ e.runId = runId then actionsOn history kind runId ++ [e.action]
      else actionsOn history kind runId := by
  unfold actionsOn
  rw [List.filter_append]
  by_cases h : e.kind = kind ∧ e.runId = runId <;> simp [h]

theorem Review.write_results (e : Review) (db : ResultTables) (kind : RunKind) (runId : TaskRunId) :
    (e.write db).results kind runId =
      if kind = e.kind ∧ runId = e.runId then
        (db.results kind runId).map (fun row => row.reviewed e.action e.user e.now)
      else db.results kind runId := rfl

/-- The rows after a commit that finds the status its request found. -/
theorem ReviewInv.rows_commit {s : ApprovalState} (h : ReviewInv s) {e : Review} {row : ResultRow}
    (hrow : s.store.results e.kind e.runId = some row) (hst : row.status = e.action.required) (kind : RunKind)
    (runId : TaskRunId) (row' : ResultRow) (hrow' : (e.write s.store).results kind runId = some row') :
    actionsOn (s.history ++ [e]) kind runId = row'.status.path ∧
      (.approve ∉ row'.status.path → row'.approvedAt = none) ∧
      (.reject ∉ row'.status.path → row'.rejectedAt = none) := by
  rw [Review.write_results] at hrow'
  rw [actionsOn_concat]
  by_cases hkey : kind = e.kind ∧ runId = e.runId
  · obtain ⟨rfl, rfl⟩ := hkey
    rw [if_pos ⟨rfl, rfl⟩, hrow] at hrow'
    obtain rfl : row.reviewed e.action e.user e.now = row' := Option.some.inj hrow'
    obtain ⟨hact, happ, hrej⟩ := h.rows _ _ row hrow
    rw [if_pos ⟨rfl, rfl⟩, hact, hst, ResultRow.reviewed_status, ReviewAction.path_target]
    refine ⟨rfl, ?_, ?_⟩
    · rw [hst] at happ
      cases ha : e.action <;> rw [ha] at happ <;>
        simp_all [ResultRow.reviewed, ReviewAction.required, ApprovalStatus.path]
    · rw [hst] at hrej
      cases ha : e.action <;> rw [ha] at hrej <;>
        simp_all [ResultRow.reviewed, ReviewAction.required, ApprovalStatus.path]
  · rw [if_neg hkey] at hrow'
    rw [if_neg (fun hh => hkey ⟨hh.1.symm, hh.2.symm⟩)]
    exact h.rows kind runId row' hrow'

/-- What a commit overtakes: it moves its run one step further than every ticket that is still planned. -/
theorem ReviewInv.late_commit {s : ApprovalState} (h : ReviewInv s) {t t' : Ticket ReviewRequest Review}
    (ht : t ∈ s.pending) (ht' : t' ∈ s.pending) (hu : Undisturbed Review.sameRun s t) :
    Overtaken (t.write.write s.store) (s.history ++ [t.write]) t' := by
  intro hover
  rw [Tickets.drop_concat_of_le (h.planned t' ht').seen] at hover
  obtain ⟨row, hrow, hst⟩ := h.found ht hu
  by_cases hsame : t.write.sameRun t'.write
  · -- the committed review is of the same run, so it takes the run from its required status to its target
    refine ⟨row.reviewed t.write.action t.write.user t.write.now, ?_, ?_⟩
    · rw [Review.write_results, if_pos ⟨hsame.1.symm, hsame.2.symm⟩, ← hsame.1, ← hsame.2, hrow]; rfl
    · rw [ResultRow.reviewed_status, ReviewAction.path_target, ← hst, List.length_append, List.length_singleton]
      by_cases hlate : ∃ e ∈ s.history.drop t'.seen, e.sameRun t'.write
      · obtain ⟨row', hrow', hlt⟩ := h.late t' ht' hlate
        rw [← hsame.1, ← hsame.2, hrow] at hrow'
        obtain rfl : row = row' := Option.some.inj hrow'
        exact Nat.lt_succ_of_lt hlt
      · obtain ⟨row', hrow', hst'⟩ := h.found ht' (fun e he hs => hlate ⟨e, he, hs⟩)
        rw [← hsame.1, ← hsame.2, hrow] at hrow'
        obtain rfl : row = row' := Option.some.inj hrow'
        rw [← hst']
        exact Nat.lt_succ_self _
  · obtain ⟨e, he, hes⟩ := hover
    rcases List.mem_append.1 he with he | he
    · obtain ⟨row', hrow', hlt⟩ := h.late t' ht' ⟨e, he, hes⟩
      refine ⟨row', ?_, hlt⟩
      rw [Review.write_results, if_neg (fun hh => hsame ⟨hh.1.symm, hh.2.symm⟩)]
      exact hrow'
    · rw [List.mem_singleton.1 he] at hes
      exact absurd hes hsame

/-- **A step whose commit is undisturbed preserves the invariant.** -/
theorem ReviewInv.step {s : ApprovalState} (h : ReviewInv s) (l : Tickets.Label ReviewRequest)
    (hu : Commits (Undisturbed Review.sameRun) s l) : ReviewInv (Tickets.step approvals s l) where
  rows := by
    rcases Tickets.step_cases approvals s l with hs | ⟨r, w, -, hs⟩ | ⟨i, t, rfl, hi, hs⟩ | ⟨i, hs⟩ <;> rw [hs]
    · exact h.rows
    · exact h.rows
    · obtain ⟨row, hrow, hst⟩ := h.found (List.mem_of_getElem? hi) (hu i t rfl hi)
      exact h.rows_commit hrow hst
    · exact h.rows
  planned := Tickets.planned_step (fun w' r w db => approvals_frame w' r w db) h.planned l
  late := by
    refine Tickets.step_tickets (C := Undisturbed Review.sameRun) (fun r w _ => ?_)
      (fun t t' ht ht' hut _ => h.late_commit ht ht' hut) h.late l hu
    rintro ⟨e, he, -⟩
    rw [List.drop_length] at he
    cases he

theorem ReviewInv.initial (tables : TaskTables)
    (created : RunKind → TaskRunId → Option (TaskId × OrganizationId)) :
    ReviewInv (.initial (ResultTables.initial tables created)) where
  rows kind runId row hrow := by
    obtain ⟨c, -, rfl⟩ := Option.map_eq_some_iff.1 hrow
    exact ⟨rfl, fun _ => rfl, fun _ => rfl⟩
  planned t ht := by cases ht
  late t ht := by cases ht

theorem ReviewInv.keepsStateMachine_iff {s : ApprovalState} (h : ReviewInv s) (l : Tickets.Label ReviewRequest) :
    KeepsStateMachine s l ↔ Commits (Undisturbed Review.sameRun) s l := by
  have hcommits : Commits Legal s l ↔ Commits (Undisturbed Review.sameRun) s l :=
    Tickets.commits_congr (fun _ ht => h.legal_iff ht) l
  constructor
  · exact fun hk => hcommits.1 hk.1
  · exact fun hu => ⟨hcommits.2 hu, (h.step l hu).onceEach⟩

/-- **The approval state machine is kept exactly in the runs in which no two requests on one run overlap**: between the
read of every request that commits and its commit, no other request on its run commits. -/
theorem approvals_keep_stateMachine_iff (tables : TaskTables)
    (created : RunKind → TaskRunId → Option (TaskId × OrganizationId)) (ls : List (Tickets.Label ReviewRequest)) :
    Along (Tickets.step approvals) KeepsStateMachine (.initial (ResultTables.initial tables created)) ls ↔
      Along (Tickets.step approvals) (Commits (Undisturbed Review.sameRun))
        (.initial (ResultTables.initial tables created)) ls :=
  Trace.along_congr (I := ReviewInv) _ (fun _ l hI hu => hI.step l hu) (fun _ l hI => hI.keepsStateMachine_iff l) ls _
    (ReviewInv.initial tables created)

/-! ## Two requests that overlap -/

def reviewer : User := ⟨1, 1, "a@x", none, false⟩

/-- A request on run 5's cleaning result. -/
def onRun5 (action : ReviewAction) (now : Time) : ReviewRequest := ⟨.cleaning, action, 3, 5, reviewer, now⟩

/-- Task 3 of organization 1 with run 5, -/
def run5Tables : TaskTables where
  tasks id := if id = 3 then some ⟨1, true⟩ else none
  taskRuns id := if id = 5 then some ⟨3, 1⟩ else none

/-- and the run's cleaning result. -/
def run5Created (kind : RunKind) (id : TaskRunId) : Option (TaskId × OrganizationId) :=
  if kind = .cleaning ∧ id = 5 then some (3, 1) else none

/-- An approval and a rejection both read the run pending, and both commit. -/
def approvedAndRejected : List (Tickets.Label ReviewRequest) :=
  [.read (onRun5 .approve 10), .read (onRun5 .reject 11), .commit 0, .commit 0]

theorem approvedAndRejected_row :
    ((exec (Tickets.step approvals) (.initial (ResultTables.initial run5Tables run5Created))
        approvedAndRejected).store.results .cleaning 5).map
      (fun row => (row.status, row.approvedAt, row.rejectedAt)) = some (.rejected, some 10, some 11) := by decide

/-- **A run is approved and rejected.** -/
theorem approved_then_rejected :
    ¬ ∀ (tables : TaskTables) (created : RunKind → TaskRunId → Option (TaskId × OrganizationId))
        (ls : List (Tickets.Label ReviewRequest)),
      Along (Tickets.step approvals) KeepsStateMachine (.initial (ResultTables.initial tables created)) ls := by
  intro hall
  have hstep := (Trace.along_iff_split _ _ _ _).1 (hall run5Tables run5Created approvedAndRejected)
    (approvedAndRejected.take 3) (.commit 0) [] rfl
  have honce := hstep.2
  rw [← Trace.exec_concat (Tickets.step approvals)] at honce
  obtain ⟨row, hrow, hcols⟩ := Option.map_eq_some_iff.1 approvedAndRejected_row
  simp only [Prod.mk.injEq] at hcols
  refine (honce .cleaning 5 row hrow).2 ⟨?_, ?_⟩
  · rw [hcols.2.1]; simp
  · rw [hcols.2.2]; simp

end Api
end DataOps

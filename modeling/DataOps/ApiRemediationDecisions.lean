import DataOps.LibTickets
import DataOps.ApiTables
import Mathlib.Data.List.Dedup
import Mathlib.Data.List.MinMax
import Mathlib.Data.List.Sort
/-!
# ApiRemediationDecisions — deciding the changes a remediation run proposes

One change at a time (`approve_remediation_change`, `reject_remediation_change`) or all pending ones at once
(`_bulk_decide`): each endpoint looks for existing decisions, inserts its own and commits.  The decisions table is
append-only and has no uniqueness constraint on the change, so it is the store here and everything else is fixed.
-/
namespace DataOps
namespace Api

open Trace (exec Along)
open Tickets (Ticket Commits Undisturbed)

abbrev ChangeId := Nat
abbrev RemediationRunId := Nat

structure RemediationRun where
  id             : RemediationRunId
  taskId         : TaskId
  organizationId : OrganizationId
deriving DecidableEq, Repr

structure RemediationChange where
  id               : ChangeId
  organizationId   : OrganizationId
  remediationRunId : RemediationRunId
  rowNumber        : Nat
deriving DecidableEq, Repr

inductive Decision
  | approved | rejected
deriving DecidableEq, Repr

def Decision.value : Decision → String
  | .approved => "approved"
  | .rejected => "rejected"

structure RemediationChangeDecision where
  organizationId      : OrganizationId
  remediationRunId    : RemediationRunId
  remediationChangeId : ChangeId
  decision            : Decision
  reviewerId          : UserId
  reviewerName        : String
  reviewerRole        : String
  decisionTimestamp   : Time
  comment             : Option String
deriving DecidableEq, Repr

/-- What remediation runs have produced; `remediation_changes.id` is a primary key. -/
structure RemediationTables extends TaskTables where
  remediationRuns : TaskRunId → Option RemediationRun
  changes         : List RemediationChange
  changes_nodup   : (changes.map (·.id)).Nodup

/-- `RemediationChangeDecisionRequest`. -/
structure DecisionBody where
  comment : Option String
deriving DecidableEq, Repr

structure BulkDecisionResponse where
  totalChanges         : Nat
  approvedCount        : Nat
  rejectedCount        : Nat
  skippedExistingCount : Nat
deriving DecidableEq, Repr

/-! ## The lookups -/

def getRemediationRunOr404 (db : RemediationTables) (taskId : TaskId) (runId : TaskRunId) (orgId : OrganizationId) :
    Except HTTPException RemediationRun :=
  resultOr404 remediationNotFound RemediationRun.taskId RemediationRun.organizationId db.toTaskTables taskId runId orgId
    (db.remediationRuns runId)

def getRemediationChangeOr404 (db : RemediationTables) (taskId : TaskId) (runId : TaskRunId) (changeId : ChangeId)
    (orgId : OrganizationId) : Except HTTPException (RemediationChange × RemediationRun) := do
  let run ← getRemediationRunOr404 db taskId runId orgId
  let change ← foundOr404 changeNotFound
    (db.changes.find? (fun c => c.id = changeId ∧ c.remediationRunId = run.id ∧ c.organizationId = orgId))
  return (change, run)

/-- The latest decision on the change, by `decision_timestamp`. -/
def getExistingDecision (decisions : List RemediationChangeDecision) (changeId : ChangeId) (orgId : OrganizationId) :
    Option RemediationChangeDecision :=
  (decisions.filter (fun d => d.remediationChangeId = changeId ∧ d.organizationId = orgId)).argmax (·.decisionTimestamp)

/-! ## The endpoints -/

/-- `current_user.full_name or current_user.email`. -/
def reviewerName (user : User) : String :=
  match user.fullName with
  | some name => if name = "" then user.email else name
  | none      => user.email

def createDecision (change : RemediationChange) (decision : Decision) (currentUser : User)
    (body : Option DecisionBody) (now : Time) : RemediationChangeDecision where
  organizationId := change.organizationId
  remediationRunId := change.remediationRunId
  remediationChangeId := change.id
  decision := decision
  reviewerId := currentUser.id
  reviewerName := reviewerName currentUser
  reviewerRole := "superuser"
  decisionTimestamp := now
  comment := body.bind (·.comment)

def Decision.forbidden : Decision → HTTPException
  | .approved => ⟨403, "Only superusers may approve remediation changes"⟩
  | .rejected => ⟨403, "Only superusers may reject remediation changes"⟩

/-- `approve_remediation_change` and `reject_remediation_change`, up to the insert; `isoformat` renders a stored
timestamp. -/
def decideRemediationChange (isoformat : Time → String) (db : RemediationTables) (decision : Decision) (taskId : TaskId)
    (runId : TaskRunId) (changeId : ChangeId) (body : Option DecisionBody) (currentUser : User) (now : Time)
    (decisions : List RemediationChangeDecision) : Except HTTPException (List RemediationChangeDecision) :=
  if currentUser.isSuperuser = false then .error decision.forbidden
  else do
    let (change, _) ← getRemediationChangeOr404 db taskId runId changeId currentUser.organizationId
    match getExistingDecision decisions change.id currentUser.organizationId with
    | some existing =>
      .error ⟨409, "A decision already exists for this remediation change (decision: '" ++ existing.decision.value ++
        "', recorded at: " ++ isoformat existing.decisionTimestamp ++ ")"⟩
    | none => .ok [createDecision change decision currentUser body now]

def approveRemediationChange (isoformat : Time → String) (db : RemediationTables) :=
  decideRemediationChange isoformat db .approved

def rejectRemediationChange (isoformat : Time → String) (db : RemediationTables) :=
  decideRemediationChange isoformat db .rejected

/-- A run's changes, ordered by row number and id. -/
def changesOf (db : RemediationTables) (run : RemediationRun) : List RemediationChange :=
  (db.changes.filter (fun c => c.remediationRunId = run.id ∧ c.organizationId = run.organizationId)).insertionSort
    (fun a b => a.rowNumber < b.rowNumber ∨ (a.rowNumber = b.rowNumber ∧ a.id ≤ b.id))

/-- The distinct changes among `ids` that have a decision. -/
def alreadyDecidedIds (decisions : List RemediationChangeDecision) (ids : List ChangeId) (orgId : OrganizationId) :
    List ChangeId :=
  ((decisions.filter (fun d => d.remediationChangeId ∈ ids ∧ d.organizationId = orgId)).map
    (·.remediationChangeId)).dedup

/-- `_bulk_decide`: the rows it inserts, and its response. -/
def bulkDecide (db : RemediationTables) (run : RemediationRun) (decision : Decision) (currentUser : User)
    (body : Option DecisionBody) (now : Time) (decisions : List RemediationChangeDecision) :
    List RemediationChangeDecision × BulkDecisionResponse :=
  let allChangeIds := (changesOf db run).map (·.id)
  let alreadyDecided := alreadyDecidedIds decisions allChangeIds run.organizationId
  let pendingIds := allChangeIds.filter (fun c => c ∉ alreadyDecided)
  (pendingIds.map (fun changeId =>
    { organizationId := run.organizationId
      remediationRunId := run.id
      remediationChangeId := changeId
      decision := decision
      reviewerId := currentUser.id
      reviewerName := reviewerName currentUser
      reviewerRole := "superuser"
      decisionTimestamp := now
      comment := body.bind (·.comment) }),
    { totalChanges := allChangeIds.length
      approvedCount := if decision = .approved then pendingIds.length else 0
      rejectedCount := if decision = .rejected then pendingIds.length else 0
      skippedExistingCount := alreadyDecided.length })

/-- `approve_all_remediation_changes` and `reject_all_remediation_changes`, up to the insert. -/
def decideAllRemediationChanges (db : RemediationTables) (decision : Decision) (taskId : TaskId) (runId : TaskRunId)
    (body : Option DecisionBody) (currentUser : User) (now : Time) (decisions : List RemediationChangeDecision) :
    Except HTTPException (List RemediationChangeDecision × BulkDecisionResponse) :=
  if currentUser.isSuperuser = false then .error decision.forbidden
  else do
    let run ← getRemediationRunOr404 db taskId runId currentUser.organizationId
    .ok (bulkDecide db run decision currentUser body now decisions)

def approveAllRemediationChanges (db : RemediationTables) := decideAllRemediationChanges db .approved

def rejectAllRemediationChanges (db : RemediationTables) := decideAllRemediationChanges db .rejected

/-- A request to one of the four endpoints; `changeId` is absent on a bulk one. -/
structure DecisionRequest where
  decision    : Decision
  taskId      : TaskId
  runId       : TaskRunId
  changeId    : Option ChangeId
  body        : Option DecisionBody
  currentUser : User
  now         : Time

/-- Every endpoint, as the read and the later insert and commit it is. -/
def remediationDecisions (isoformat : Time → String) (db : RemediationTables) :
    Tickets.Protocol (List RemediationChangeDecision) DecisionRequest HTTPException
      (List RemediationChangeDecision) where
  plan r decisions :=
    match r.changeId with
    | some changeId =>
      decideRemediationChange isoformat db r.decision r.taskId r.runId changeId r.body r.currentUser r.now decisions
    | none =>
      (decideAllRemediationChanges db r.decision r.taskId r.runId r.body r.currentUser r.now decisions).map Prod.fst
  write rows decisions := decisions ++ rows

abbrev DecisionState := Tickets.State (List RemediationChangeDecision) DecisionRequest (List RemediationChangeDecision)

/-- Two inserts that decide one change. -/
def shareChange (rows rows' : List RemediationChangeDecision) : Prop :=
  ∃ d ∈ rows, ∃ d' ∈ rows', d.remediationChangeId = d'.remediationChangeId

/-- At most one decision per change. -/
def OneDecisionPerChange (decisions : List RemediationChangeDecision) : Prop :=
  (decisions.map (·.remediationChangeId)).Nodup

/-! ## What the checks establish -/

section
variable {isoformat : Time → String} {db : RemediationTables} {decisions rows : List RemediationChangeDecision}

theorem getExistingDecision_eq_none (decisions : List RemediationChangeDecision) (changeId : ChangeId)
    (orgId : OrganizationId) :
    getExistingDecision decisions changeId orgId = none ↔
      ∀ d ∈ decisions, d.remediationChangeId = changeId → d.organizationId ≠ orgId := by
  unfold getExistingDecision
  rw [List.argmax_eq_none, List.filter_eq_nil_iff]
  simp only [decide_eq_true_eq, not_and]

theorem mem_changesOf {run : RemediationRun} {c : RemediationChange} :
    c ∈ changesOf db run ↔ c ∈ db.changes ∧ c.remediationRunId = run.id ∧ c.organizationId = run.organizationId := by
  unfold changesOf
  rw [List.mem_insertionSort, List.mem_filter, decide_eq_true_eq]

theorem changesOf_nodup (db : RemediationTables) (run : RemediationRun) : ((changesOf db run).map (·.id)).Nodup := by
  unfold changesOf
  refine ((List.perm_insertionSort _ _).map _).nodup_iff.2 ?_
  exact db.changes_nodup.sublist (List.filter_sublist.map _)

theorem mem_alreadyDecidedIds {ids : List ChangeId} {orgId : OrganizationId} {c : ChangeId} :
    c ∈ alreadyDecidedIds decisions ids orgId ↔
      c ∈ ids ∧ ∃ d ∈ decisions, d.remediationChangeId = c ∧ d.organizationId = orgId := by
  unfold alreadyDecidedIds
  rw [List.mem_dedup, List.mem_map]
  simp only [List.mem_filter, decide_eq_true_eq]
  constructor
  · rintro ⟨d, ⟨hd, hin, horg⟩, rfl⟩
    exact ⟨hin, d, hd, rfl, horg⟩
  · rintro ⟨hin, d, hd, rfl, horg⟩
    exact ⟨d, ⟨hd, hin, horg⟩, rfl⟩

/-- **The response of a bulk request counts every change once.** -/
theorem bulkDecide_counts (db : RemediationTables) (run : RemediationRun) (decision : Decision) (currentUser : User)
    (body : Option DecisionBody) (now : Time) (decisions : List RemediationChangeDecision) :
    let res := (bulkDecide db run decision currentUser body now decisions).2
    res.approvedCount + res.rejectedCount + res.skippedExistingCount = res.totalChanges := by
  have hperm : (alreadyDecidedIds decisions ((changesOf db run).map (·.id)) run.organizationId).Perm
      (((changesOf db run).map (·.id)).filter
        (fun c => c ∈ alreadyDecidedIds decisions ((changesOf db run).map (·.id)) run.organizationId)) := by
    refine (List.perm_ext_iff_of_nodup (List.nodup_dedup _) ((changesOf_nodup db run).filter _)).2 (fun c => ?_)
    rw [List.mem_filter, decide_eq_true_eq]
    exact ⟨fun hc => ⟨(mem_alreadyDecidedIds.1 hc).1, hc⟩, fun hc => hc.2⟩
  have hlen := hperm.length_eq
  have hsplit := List.length_eq_length_filter_add (l := (changesOf db run).map (·.id))
    (fun c => decide (c ∈ alreadyDecidedIds decisions ((changesOf db run).map (·.id)) run.organizationId))
  simp only [bulkDecide]
  cases decision
  · simp only [↓reduceIte, reduceCtorEq]
    simp only [← decide_not] at hsplit
    omega
  · simp only [↓reduceIte, reduceCtorEq]
    simp only [← decide_not] at hsplit
    omega

/-- The decision is on a change of its own organization. -/
def Owned (db : RemediationTables) (d : RemediationChangeDecision) : Prop :=
  ∃ c ∈ db.changes, c.id = d.remediationChangeId ∧ c.organizationId = d.organizationId

theorem Owned.organizationId_eq {d d' : RemediationChangeDecision} (h : Owned db d) (h' : Owned db d')
    (heq : d.remediationChangeId = d'.remediationChangeId) : d.organizationId = d'.organizationId := by
  obtain ⟨c, hc, hid, horg⟩ := h
  obtain ⟨c', hc', hid', horg'⟩ := h'
  obtain rfl : c = c' := List.inj_on_of_nodup_map db.changes_nodup hc hc' (hid.trans (heq.trans hid'.symm))
  exact horg.symm.trans horg'

/-- What a request plans to insert: one row a change, of changes it owns that have no decision yet. -/
structure Insertable (db : RemediationTables) (decisions rows : List RemediationChangeDecision) : Prop where
  nodup   : (rows.map (·.remediationChangeId)).Nodup
  owned   : ∀ d ∈ rows, Owned db d
  pending : ∀ d ∈ rows, ∀ d' ∈ decisions, d'.remediationChangeId = d.remediationChangeId →
              d'.organizationId ≠ d.organizationId

theorem getRemediationChangeOr404_ok {taskId : TaskId} {runId : TaskRunId} {changeId : ChangeId}
    {orgId : OrganizationId} {change : RemediationChange} {run : RemediationRun}
    (h : getRemediationChangeOr404 db taskId runId changeId orgId = .ok (change, run)) :
    change ∈ db.changes ∧ change.id = changeId ∧ change.organizationId = orgId := by
  unfold getRemediationChangeOr404 at h
  cases hrun : getRemediationRunOr404 db taskId runId orgId with
  | error e => rw [hrun] at h; cases h
  | ok run' =>
    rw [hrun] at h
    dsimp only [bind, Except.bind] at h
    split at h
    · cases h
    · rename_i c hc
      cases h
      have hc := foundOr404_eq_ok.1 hc
      have hprop := List.find?_some hc
      simp only [decide_eq_true_eq] at hprop
      exact ⟨List.mem_of_find?_eq_some hc, hprop.1, hprop.2.2⟩

/-- A single request inserts one decision, on a change it found undecided. -/
theorem decideRemediationChange_ok {decision : Decision} {taskId : TaskId} {runId : TaskRunId} {changeId : ChangeId}
    {body : Option DecisionBody} {currentUser : User} {now : Time}
    (h : decideRemediationChange isoformat db decision taskId runId changeId body currentUser now decisions =
      .ok rows) :
    ∃ change ∈ db.changes, change.organizationId = currentUser.organizationId ∧
      getExistingDecision decisions change.id currentUser.organizationId = none ∧
      rows = [createDecision change decision currentUser body now] ∧
      ∀ decisions', getExistingDecision decisions' change.id currentUser.organizationId = none →
        decideRemediationChange isoformat db decision taskId runId changeId body currentUser now decisions' =
          .ok rows := by
  unfold decideRemediationChange at h ⊢
  by_cases hsup : currentUser.isSuperuser = false
  · rw [if_pos hsup] at h; cases h
  rw [if_neg hsup] at h
  simp only [if_neg hsup]
  cases hchange : getRemediationChangeOr404 db taskId runId changeId currentUser.organizationId with
  | error e => rw [hchange] at h; cases h
  | ok found =>
    obtain ⟨change, run⟩ := found
    obtain ⟨hmem, -, horg⟩ := getRemediationChangeOr404_ok hchange
    rw [hchange] at h
    dsimp only [bind, Except.bind] at h ⊢
    split at h
    · cases h
    · rename_i hnone
      refine ⟨change, hmem, horg, hnone, (Except.ok.inj h).symm, fun decisions' hnone' => ?_⟩
      rw [hnone']
      exact h

/-- A bulk request inserts one decision for each of the run's changes that has none. -/
theorem decideAllRemediationChanges_ok {decision : Decision} {taskId : TaskId} {runId : TaskRunId}
    {body : Option DecisionBody} {currentUser : User} {now : Time}
    (h : (decideAllRemediationChanges db decision taskId runId body currentUser now decisions).map Prod.fst =
      .ok rows) :
    ∃ run, rows = (bulkDecide db run decision currentUser body now decisions).1 ∧
      ∀ decisions',
        (decideAllRemediationChanges db decision taskId runId body currentUser now decisions').map Prod.fst =
          .ok (bulkDecide db run decision currentUser body now decisions').1 := by
  unfold decideAllRemediationChanges at h ⊢
  by_cases hsup : currentUser.isSuperuser = false
  · rw [if_pos hsup] at h; cases h
  rw [if_neg hsup] at h
  simp only [if_neg hsup]
  cases hrun : getRemediationRunOr404 db taskId runId currentUser.organizationId with
  | error e => rw [hrun] at h; cases h
  | ok run =>
    rw [hrun] at h
    exact ⟨run, (Except.ok.inj h).symm, fun _ => rfl⟩

/-- The changes a bulk request decides. -/
theorem bulkDecide_ids (db : RemediationTables) (run : RemediationRun) (decision : Decision) (currentUser : User)
    (body : Option DecisionBody) (now : Time) (decisions : List RemediationChangeDecision) :
    (bulkDecide db run decision currentUser body now decisions).1.map (·.remediationChangeId) =
      ((changesOf db run).map (·.id)).filter
        (fun c => c ∉ alreadyDecidedIds decisions ((changesOf db run).map (·.id)) run.organizationId) := by
  unfold bulkDecide
  rw [List.map_map]
  exact List.map_id _

theorem mem_bulkDecide {run : RemediationRun} {decision : Decision} {currentUser : User} {body : Option DecisionBody}
    {now : Time} {d : RemediationChangeDecision}
    (hd : d ∈ (bulkDecide db run decision currentUser body now decisions).1) :
    d.organizationId = run.organizationId ∧ (∃ c ∈ changesOf db run, c.id = d.remediationChangeId) ∧
      d.remediationChangeId ∉ alreadyDecidedIds decisions ((changesOf db run).map (·.id)) run.organizationId := by
  obtain ⟨c, hc, rfl⟩ := List.mem_map.1 hd
  rw [List.mem_filter, decide_eq_true_eq] at hc
  exact ⟨rfl, List.mem_map.1 hc.1, hc.2⟩

/-- **Every plan is insertable.** -/
theorem plan_insertable {r : DecisionRequest} (h : (remediationDecisions isoformat db).plan r decisions = .ok rows) :
    Insertable db decisions rows := by
  simp only [remediationDecisions] at h
  split at h
  · obtain ⟨change, hmem, horg, hnone, rfl, -⟩ := decideRemediationChange_ok h
    rw [getExistingDecision_eq_none] at hnone
    refine ⟨List.nodup_singleton _, fun d hd => ?_, fun d hd d' hd' hid => ?_⟩
    · rw [List.mem_singleton.1 hd]
      exact ⟨change, hmem, rfl, rfl⟩
    · rw [List.mem_singleton.1 hd] at hid ⊢
      exact fun ho => hnone d' hd' hid (ho.trans horg)
  · obtain ⟨run, rfl, -⟩ := decideAllRemediationChanges_ok h
    refine ⟨?_, fun d hd => ?_, fun d hd d' hd' hid ho => ?_⟩
    · rw [bulkDecide_ids]
      exact (changesOf_nodup db run).filter _
    · obtain ⟨horg, ⟨c, hc, hid⟩, -⟩ := mem_bulkDecide hd
      obtain ⟨hmem, -, hco⟩ := mem_changesOf.1 hc
      exact ⟨c, hmem, hid, hco.trans horg.symm⟩
    · obtain ⟨horg, ⟨c, hc, hcid⟩, hnot⟩ := mem_bulkDecide hd
      refine hnot (mem_alreadyDecidedIds.2 ⟨List.mem_map.2 ⟨c, hc, hcid⟩, d', hd', hid, ho.trans horg⟩)

/-- **A request still plans the same rows after an insert that shares no change with them.** -/
theorem plan_frame (rows' : List RemediationChangeDecision) (r : DecisionRequest)
    (rows decisions : List RemediationChangeDecision)
    (h : (remediationDecisions isoformat db).plan r decisions = .ok rows) (hne : ¬ shareChange rows' rows) :
    (remediationDecisions isoformat db).plan r ((remediationDecisions isoformat db).write rows' decisions) =
      .ok rows := by
  simp only [remediationDecisions] at h ⊢
  split at h
  · obtain ⟨change, -, -, hnone, hrows, hsame⟩ := decideRemediationChange_ok h
    refine hsame _ ?_
    rw [getExistingDecision_eq_none] at hnone ⊢
    intro d hd hid
    rcases List.mem_append.1 hd with hd | hd
    · exact hnone d hd hid
    · exact absurd ⟨d, hd, _, by rw [hrows]; exact List.mem_singleton_self _, hid⟩ hne
  · obtain ⟨run, hrows, hsame⟩ := decideAllRemediationChanges_ok h
    rw [hsame, hrows]
    have hpending : ((changesOf db run).map (·.id)).filter (fun c => c ∉ alreadyDecidedIds (decisions ++ rows')
          ((changesOf db run).map (·.id)) run.organizationId) =
        ((changesOf db run).map (·.id)).filter (fun c => c ∉ alreadyDecidedIds decisions
          ((changesOf db run).map (·.id)) run.organizationId) := by
      refine List.filter_congr (fun c hc => ?_)
      rw [decide_eq_decide, not_iff_not, mem_alreadyDecidedIds, mem_alreadyDecidedIds]
      refine and_congr_right (fun _ => ⟨?_, ?_⟩)
      · rintro ⟨d, hd, hid, horg⟩
        rcases List.mem_append.1 hd with hd | hd
        · exact ⟨d, hd, hid, horg⟩
        · -- the insert decided `c`, so `c` is none of the pending changes, and has a decision already
          by_contra hno
          have hc' : c ∈ rows.map (·.remediationChangeId) := by
            rw [hrows, bulkDecide_ids, List.mem_filter, decide_eq_true_eq, mem_alreadyDecidedIds]
            exact ⟨hc, fun hh => hno hh.2⟩
          obtain ⟨d', hd', hid'⟩ := List.mem_map.1 hc'
          exact hne ⟨d, hd, d', hd', hid.trans hid'.symm⟩
      · rintro ⟨d, hd, hrest⟩
        exact ⟨d, List.mem_append_left _ hd, hrest⟩
    simp only [bulkDecide, hpending]

end

/-! ## The invariant -/

/-- **The invariant along undisturbed commits.** -/
structure DecisionInv (isoformat : Time → String) (db : RemediationTables) (s : DecisionState) : Prop where
  store   : s.store = s.history.flatten
  one     : OneDecisionPerChange s.store
  owned   : ∀ d ∈ s.store, Owned db d
  planned : ∀ t ∈ s.pending,
              Tickets.Planned (remediationDecisions isoformat db) shareChange s.store s.history t
  rows    : ∀ t ∈ s.pending, Insertable db [] t.write

section
variable {isoformat : Time → String} {db : RemediationTables} {s : DecisionState}

theorem DecisionInv.initial (isoformat : Time → String) (db : RemediationTables) :
    DecisionInv isoformat db (.initial []) where
  store := rfl
  one := List.nodup_nil
  owned d hd := by cases hd
  planned t ht := by cases ht
  rows t ht := by cases ht

/-- **An insert keeps one decision per change exactly when its ticket is undisturbed.** -/
theorem DecisionInv.commit_iff (h : DecisionInv isoformat db s) {t : Ticket DecisionRequest _} (ht : t ∈ s.pending) :
    OneDecisionPerChange (s.store ++ t.write) ↔ Undisturbed shareChange s t := by
  unfold OneDecisionPerChange
  rw [List.map_append, List.nodup_append']
  constructor
  · rintro ⟨-, -, hdisj⟩ w hw ⟨d, hd, d', hd', heq⟩
    have hin : d ∈ s.store := by
      rw [h.store]
      exact List.mem_flatten.2 ⟨w, List.mem_of_mem_drop hw, hd⟩
    exact hdisj (List.mem_map.2 ⟨d, hin, heq⟩) (List.mem_map.2 ⟨d', hd', rfl⟩)
  · intro hu
    have hins := plan_insertable ((h.planned t ht).plan hu)
    refine ⟨h.one, hins.nodup, fun c hc hc' => ?_⟩
    obtain ⟨d, hd, rfl⟩ := List.mem_map.1 hc
    obtain ⟨d', hd', heq⟩ := List.mem_map.1 hc'
    exact hins.pending d' hd' d hd heq.symm ((h.owned d hd).organizationId_eq (hins.owned d' hd') heq.symm)

/-- **A step whose commit is undisturbed preserves the invariant.** -/
theorem DecisionInv.step (h : DecisionInv isoformat db s) (l : Tickets.Label DecisionRequest)
    (hu : Commits (Undisturbed shareChange) s l) :
    DecisionInv isoformat db (Tickets.step (remediationDecisions isoformat db) s l) := by
  have hplanned := Tickets.planned_step (fun w' r w decisions => plan_frame w' r w decisions) h.planned l
  have hrows := Tickets.step_tickets (p := remediationDecisions isoformat db)
    (T := fun _ _ (t : Ticket DecisionRequest _) => Insertable db [] t.write) (C := fun _ _ => True)
    (fun r w hp => ⟨(plan_insertable hp).nodup, (plan_insertable hp).owned, fun _ _ _ hd' => by cases hd'⟩)
    (fun _ _ _ _ _ ht' => ht') h.rows l (fun _ _ _ _ => trivial)
  rcases Tickets.step_cases (remediationDecisions isoformat db) s l with hs | ⟨r, w, -, hs⟩ | ⟨i, t, rfl, hi, hs⟩ |
    ⟨i, hs⟩ <;> rw [hs] at hplanned hrows ⊢
  · exact h
  · exact ⟨h.store, h.one, h.owned, hplanned, hrows⟩
  · have ht := List.mem_of_getElem? hi
    refine ⟨?_, (h.commit_iff ht).2 (hu i t rfl hi), fun d hd => ?_, hplanned, hrows⟩
    · show s.store ++ t.write = (s.history ++ [t.write]).flatten
      rw [List.flatten_append, ← h.store]
      simp
    · rcases List.mem_append.1 hd with hd | hd
      · exact h.owned d hd
      · exact (h.rows t ht).owned d hd
  · exact ⟨h.store, h.one, h.owned, hplanned, hrows⟩

/-- On one step, the committed table keeps one decision per change exactly when the commit is undisturbed. -/
theorem DecisionInv.oneDecision_iff (h : DecisionInv isoformat db s) (l : Tickets.Label DecisionRequest) :
    OneDecisionPerChange (Tickets.step (remediationDecisions isoformat db) s l).store ↔
      Commits (Undisturbed shareChange) s l := by
  constructor
  · intro hone i t hl hi
    subst hl
    simp only [Tickets.step, hi] at hone
    exact (h.commit_iff (List.mem_of_getElem? hi)).1 hone
  · exact fun hu => (h.step l hu).one

end

/-- **Every reachable table has at most one decision per change, exactly in the runs in which no two inserts that decide
one change overlap**: between the read of every request that commits and its commit, no other request commits a
decision on a change it decides. -/
theorem one_decision_per_change_iff (isoformat : Time → String) (db : RemediationTables)
    (ls : List (Tickets.Label DecisionRequest)) :
    Along (Tickets.step (remediationDecisions isoformat db))
        (fun s l => OneDecisionPerChange (Tickets.step (remediationDecisions isoformat db) s l).store)
        (.initial []) ls ↔
      Along (Tickets.step (remediationDecisions isoformat db)) (Commits (Undisturbed shareChange)) (.initial []) ls :=
  Trace.along_congr (I := DecisionInv isoformat db) _ (fun _ l hI hu => hI.step l hu)
    (fun _ l hI => hI.oneDecision_iff l) ls _ (DecisionInv.initial isoformat db)

/-! ## A single request and a bulk one that overlap -/

/-- Task 3 of organization 1 with run 5, whose remediation run 9 proposes changes 1 and 2. -/
def twoChanges : RemediationTables where
  tasks id := if id = 3 then some ⟨1, true⟩ else none
  taskRuns id := if id = 5 then some ⟨3, 1⟩ else none
  remediationRuns id := if id = 5 then some ⟨9, 3, 1⟩ else none
  changes := [⟨1, 1, 9, 0⟩, ⟨2, 1, 9, 1⟩]
  changes_nodup := by decide

def superuser : User := ⟨1, 1, "a@x", none, true⟩

/-- A rejection of change 2 and an approve-all both read change 2 undecided, and both commit. -/
def rejectedAndApproved : List (Tickets.Label DecisionRequest) :=
  [.read ⟨.rejected, 3, 5, some 2, none, superuser, 10⟩, .read ⟨.approved, 3, 5, none, none, superuser, 11⟩,
   .commit 0, .commit 0]

theorem rejectedAndApproved_decisions (isoformat : Time → String) :
    (exec (Tickets.step (remediationDecisions isoformat twoChanges)) (.initial []) rejectedAndApproved).store.map
      (fun d => (d.remediationChangeId, d.decision)) = [(2, .rejected), (1, .approved), (2, .approved)] := by
  rfl

/-- **A change is rejected and approved.** -/
theorem change_decided_twice :
    ¬ ∀ (isoformat : Time → String) (db : RemediationTables) (ls : List (Tickets.Label DecisionRequest)),
      OneDecisionPerChange (exec (Tickets.step (remediationDecisions isoformat db)) (.initial []) ls).store := by
  intro hall
  have hone := hall (fun _ => "") twoChanges rejectedAndApproved
  have hids := congrArg (List.map Prod.fst) (rejectedAndApproved_decisions (fun _ => ""))
  rw [List.map_map] at hids
  unfold OneDecisionPerChange at hone
  rw [show (exec (Tickets.step (remediationDecisions (fun _ => "") twoChanges)) (.initial [])
    rejectedAndApproved).store.map (·.remediationChangeId) = [2, 1, 2] from hids] at hone
  exact absurd hone (by decide)

end Api
end DataOps

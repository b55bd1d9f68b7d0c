import DataOps.LibDict
import DataOps.ApiRemediationDecisions
/-!
# ApiDecisionReaders — who reads the decision of a change

The list endpoint, the single-change endpoint, the run summary and the validation handler each work out the effective
decisions with a query of their own.  A table may hold any rows with distinct ids, and a query may return its rows in
any order its `ORDER BY` permits.  The readers agree exactly when the latest rows of a change say the same and the
summary counts each change's final row and no other (`readersAgree_iff`).
-/
namespace DataOps
namespace Api

abbrev DecisionId := Nat

/-- A row of the decisions table.  Ids compare as their texts do. -/
structure DecisionRow extends RemediationChangeDecision where
  id : DecisionId
deriving DecidableEq, Repr

structure DecisionTable where
  rows  : List DecisionRow
  nodup : (rows.map (·.id)).Nodup

/-- A run as its summary reads it: the remediation handler writes the count with the changes. -/
structure CountedRun (db : RemediationTables) extends RemediationRun where
  totalChangesCount : Nat
  counted           : totalChangesCount = (changesOf db toRemediationRun).length

/-! ## The queries -/

/-- What a query may return: the rows that meet its conditions, in an order its `ORDER BY` permits. -/
structure Returns (table : DecisionTable) (cond : DecisionRow → Bool) (order : DecisionRow → DecisionRow → Prop)
    (out : List DecisionRow) : Prop where
  perm    : out.Perm (table.rows.filter cond)
  ordered : out.Pairwise order

/-- `ORDER BY decision_timestamp DESC`. -/
def timestampDesc (d d' : DecisionRow) : Prop := d'.decisionTimestamp ≤ d.decisionTimestamp

def unordered (_ _ : DecisionRow) : Prop := True

def decisionsOf (changeIds : List ChangeId) (orgId : OrganizationId) (d : DecisionRow) : Bool :=
  d.remediationChangeId ∈ changeIds ∧ d.organizationId = orgId

/-! ## The readers -/

def statusMapStep (statusMap : Dict ChangeId Decision) (d : DecisionRow) : Dict ChangeId Decision :=
  match statusMap.get? d.remediationChangeId with
  | some _ => statusMap
  | none   => statusMap.set d.remediationChangeId d.decision

/-- `_get_decision_status_map`, on the rows its query returns; a change without an entry is pending. -/
def getDecisionStatusMap (out : List DecisionRow) : Dict ChangeId Decision := out.foldl statusMapStep []

/-- `_get_existing_decision`, on the rows its query would return without the `LIMIT 1`. -/
def existingDecision (out : List DecisionRow) : Option DecisionRow := out.head?

def latestStep (latest : Dict ChangeId DecisionRow) (d : DecisionRow) : Dict ChangeId DecisionRow :=
  match latest.get? d.remediationChangeId with
  | none      => latest.set d.remediationChangeId d
  | some prev =>
    if prev.decisionTimestamp < d.decisionTimestamp ∨ (d.decisionTimestamp = prev.decisionTimestamp ∧ prev.id < d.id) then
      latest.set d.remediationChangeId d
    else latest

/-- `latest` in the validation handler, on the rows its query returns. -/
def latestDecisions (out : List DecisionRow) : Dict ChangeId DecisionRow := out.foldl latestStep []

/-- The snapshot the validation handler freezes. -/
def approvedChangeRows (changes : List RemediationChange) (latest : Dict ChangeId DecisionRow) : List RemediationChange :=
  changes.filter (fun c => (latest.get? c.id).map (·.decision) = some .approved)

structure DecisionSummary where
  pending  : Nat
  approved : Nat
  rejected : Nat
deriving DecidableEq, Repr

/-- The rows a run's summary counts. -/
def countedFor (run : RemediationRun) (d : DecisionRow) : Bool :=
  d.remediationRunId = run.id ∧ d.organizationId = run.organizationId

/-- `decision_summary` of `get_task_run_remediation`. -/
def decisionSummary {db : RemediationTables} (table : DecisionTable) (run : CountedRun db) : DecisionSummary :=
  let decided (v : Decision) := (table.rows.filter (fun d => countedFor run.toRemediationRun d ∧ d.decision = v)).length
  { pending := run.totalChangesCount - decided .approved - decided .rejected
    approved := decided .approved
    rejected := decided .rejected }

/-! ## What agreement is -/

section
variable {db : RemediationTables}

/-- How many changes of the run are in a state. -/
def changesIn (run : CountedRun db) (state : ChangeId → Option Decision) (s : Option Decision) : Nat :=
  ((changesOf db run.toRemediationRun).filter (fun c => state c.id = s)).length

/-- **The readers agree**: there is one state of each change that the list endpoint (on any page), the single-change
endpoint and the validation handler all see, and the summary counts the changes in each state. -/
structure Agree (table : DecisionTable) (run : CountedRun db) (state : ChangeId → Option Decision) : Prop where
  listed : ∀ page out, Returns table (decisionsOf page run.organizationId) timestampDesc out →
    ∀ c ∈ changesOf db run.toRemediationRun, c.id ∈ page → (getDecisionStatusMap out).get? c.id = state c.id
  single : ∀ c ∈ changesOf db run.toRemediationRun, ∀ out,
    Returns table (decisionsOf [c.id] run.organizationId) timestampDesc out →
      (existingDecision out).map (·.decision) = state c.id
  frozen : ∀ out, Returns table (decisionsOf ((changesOf db run.toRemediationRun).map (·.id)) run.organizationId)
      unordered out →
    ∀ c ∈ changesOf db run.toRemediationRun, ((latestDecisions out).get? c.id).map (·.decision) = state c.id
  summary : decisionSummary table run =
    { pending := changesIn run state none
      approved := changesIn run state (some .approved)
      rejected := changesIn run state (some .rejected) }

def ReadersAgree (table : DecisionTable) (run : CountedRun db) : Prop := ∃ state, Agree table run state

/-! ## When they do -/

/-- A latest row of its change. -/
def Newest (table : DecisionTable) (orgId : OrganizationId) (d : DecisionRow) : Prop :=
  d ∈ table.rows ∧ d.organizationId = orgId ∧ ∀ d' ∈ table.rows, d'.organizationId = orgId →
    d'.remediationChangeId = d.remediationChangeId → d'.decisionTimestamp ≤ d.decisionTimestamp

/-- The latest rows of each change say the same. -/
def LatestAgree (table : DecisionTable) (run : CountedRun db) : Prop :=
  ∀ c ∈ changesOf db run.toRemediationRun, ∀ d d', d.remediationChangeId = c.id → d'.remediationChangeId = c.id →
    Newest table run.organizationId d → Newest table run.organizationId d' → d.decision = d'.decision

/-- The final row of a change: the latest, by timestamp and id. -/
def finalRow (table : DecisionTable) (run : CountedRun db) (c : RemediationChange) : Option DecisionRow :=
  (latestDecisions (table.rows.filter
    (decisionsOf ((changesOf db run.toRemediationRun).map (·.id)) run.organizationId))).get? c.id

def finalRows (table : DecisionTable) (run : CountedRun db) : List DecisionRow :=
  (changesOf db run.toRemediationRun).filterMap (finalRow table run)

/-- The rows the summary counts that are not the final row of a change of the run. -/
def surplusRows (table : DecisionTable) (run : CountedRun db) (v : Decision) : List DecisionRow :=
  (table.rows.filter (fun d => countedFor run.toRemediationRun d ∧ d.decision = v)).filter
    (fun d => d ∉ finalRows table run)

/-- The final rows of changes of the run that the summary does not count. -/
def uncountedRows (table : DecisionTable) (run : CountedRun db) (v : Decision) : List DecisionRow :=
  (finalRows table run).filter (fun d => d.decision = v ∧ ¬ countedFor run.toRemediationRun d)

/-! ## What each reader picks -/

theorem getDecisionStatusMap_get? (c : ChangeId) : ∀ (out : List DecisionRow) (m : Dict ChangeId Decision),
    (out.foldl statusMapStep m).get? c =
      (m.get? c).or ((out.find? (fun d => d.remediationChangeId = c)).map (·.decision))
  | [], m => by simp
  | d :: out, m => by
    rw [List.foldl_cons, getDecisionStatusMap_get? c out]
    unfold statusMapStep
    by_cases hc : d.remediationChangeId = c
    · subst hc
      cases hm : m.get? d.remediationChangeId with
      | some v => simp [hm]
      | none => simp [Dict.get?_set]
    · cases hm : m.get? d.remediationChangeId with
      | some v => simp [hc]
      | none => simp [Dict.get?_set, hc]

/-- The later of two rows, as validation compares them. -/
def Beats (d d' : DecisionRow) : Prop :=
  d'.decisionTimestamp < d.decisionTimestamp ∨ (d'.decisionTimestamp = d.decisionTimestamp ∧ d'.id ≤ d.id)

theorem Beats.refl (d : DecisionRow) : Beats d d := .inr ⟨rfl, le_refl _⟩

theorem Beats.timestamp_le {d d' : DecisionRow} (h : Beats d d') : d'.decisionTimestamp ≤ d.decisionTimestamp := by
  rcases h with h | ⟨h, -⟩
  · exact le_of_lt h
  · exact le_of_eq h

theorem Beats.trans {d d' d'' : DecisionRow} (h : Beats d d') (h' : Beats d' d'') : Beats d d'' := by
  rcases h with h | ⟨h, hid⟩
  · exact .inl (lt_of_le_of_lt h'.timestamp_le h)
  · rcases h' with h' | ⟨h', hid'⟩
    · exact .inl (h ▸ h')
    · exact .inr ⟨h'.trans h, hid'.trans hid⟩

/-- A row that does not replace the one before it is beaten by it. -/
theorem Beats.of_not {prev d : DecisionRow} (h : ¬ (prev.decisionTimestamp < d.decisionTimestamp ∨
    (d.decisionTimestamp = prev.decisionTimestamp ∧ prev.id < d.id))) : Beats prev d := by
  rw [not_or, not_and, not_lt, not_lt] at h
  rcases lt_or_eq_of_le h.1 with hlt | heq
  · exact .inl hlt
  · exact .inr ⟨heq, h.2 heq⟩

/-- Which row a change has in `latest`. -/
def IsLatest (out : List DecisionRow) (c : ChangeId) : Option DecisionRow → Prop
  | none   => ∀ d ∈ out, d.remediationChangeId ≠ c
  | some d => d ∈ out ∧ d.remediationChangeId = c ∧ ∀ d' ∈ out, d'.remediationChangeId = c → Beats d d'

theorem IsLatest.step {out : List DecisionRow} {c : ChangeId} {latest : Dict ChangeId DecisionRow} (d : DecisionRow)
    (h : IsLatest out c (latest.get? c)) : IsLatest (out ++ [d]) c ((latestStep latest d).get? c) := by
  unfold latestStep
  by_cases hc : d.remediationChangeId = c
  · subst hc
    cases hprev : latest.get? d.remediationChangeId with
    | none =>
      rw [hprev] at h
      simp only [Dict.get?_set, if_pos]
      refine ⟨by simp, rfl, fun d' hmem hd' => ?_⟩
      rcases List.mem_append.1 hmem with hmem | hmem
      · exact absurd hd' (h d' hmem)
      · rw [List.mem_singleton.1 hmem]
        exact Beats.refl d
    | some prev =>
      rw [hprev] at h
      obtain ⟨hprevmem, hprevc, hbeats⟩ := h
      dsimp only
      split
      · rename_i hlater
        have hd : Beats d prev := by
          rcases hlater with hlt | ⟨heq, hid⟩
          · exact .inl hlt
          · exact .inr ⟨heq.symm, le_of_lt hid⟩
        rw [Dict.get?_set, if_pos rfl]
        refine ⟨by simp, rfl, fun d' hmem hd' => ?_⟩
        rcases List.mem_append.1 hmem with hmem | hmem
        · exact hd.trans (hbeats d' hmem hd')
        · rw [List.mem_singleton.1 hmem]
          exact Beats.refl d
      · rename_i hnot
        rw [hprev]
        refine ⟨List.mem_append_left _ hprevmem, hprevc, fun d' hmem hd' => ?_⟩
        rcases List.mem_append.1 hmem with hmem | hmem
        · exact hbeats d' hmem hd'
        · rw [List.mem_singleton.1 hmem]
          exact Beats.of_not hnot
  · have hget : (latestStep latest d).get? c = latest.get? c := by
      unfold latestStep
      split
      · rw [Dict.get?_set, if_neg hc]
      · split
        · rw [Dict.get?_set, if_neg hc]
        · rfl
    unfold latestStep at hget
    rw [hget]
    cases hlatest : latest.get? c with
    | none =>
      rw [hlatest] at h
      intro d' hmem
      rcases List.mem_append.1 hmem with hmem | hmem
      · exact h d' hmem
      · rw [List.mem_singleton.1 hmem]
        exact hc
    | some prev =>
      rw [hlatest] at h
      obtain ⟨hprevmem, hprevc, hbeats⟩ := h
      refine ⟨List.mem_append_left _ hprevmem, hprevc, fun d' hmem hd' => ?_⟩
      rcases List.mem_append.1 hmem with hmem | hmem
      · exact hbeats d' hmem hd'
      · rw [List.mem_singleton.1 hmem] at hd'
        exact absurd hd' hc

/-- **What validation's loop finds**, in whatever order the rows come. -/
theorem isLatest_latestDecisions (out : List DecisionRow) (c : ChangeId) :
    IsLatest out c ((latestDecisions out).get? c) := by
  unfold latestDecisions
  induction out using List.reverseRecOn with
  | nil => intro d hd; cases hd
  | append_singleton out d ih =>
    rw [List.foldl_append]
    exact ih.step d

/-- A row a reader may show for a change: a latest one, or none when there is none. -/
def Shows (table : DecisionTable) (orgId : OrganizationId) (c : ChangeId) : Option DecisionRow → Prop
  | none   => ∀ d ∈ table.rows, d.organizationId = orgId → d.remediationChangeId ≠ c
  | some d => d.remediationChangeId = c ∧ Newest table orgId d

variable {table : DecisionTable} {run : CountedRun db} {orgId : OrganizationId} {ids : List ChangeId}
  {out : List DecisionRow}

theorem Returns.mem {order : DecisionRow → DecisionRow → Prop} (h : Returns table (decisionsOf ids orgId) order out)
    {d : DecisionRow} : d ∈ out ↔ d ∈ table.rows ∧ d.remediationChangeId ∈ ids ∧ d.organizationId = orgId := by
  rw [h.perm.mem_iff, List.mem_filter]
  unfold decisionsOf
  rw [decide_eq_true_eq]

/-- **The list endpoint shows a latest row.** -/
theorem Returns.shows_find? (h : Returns table (decisionsOf ids orgId) timestampDesc out) {c : ChangeId} (hc : c ∈ ids) :
    Shows table orgId c (out.find? (fun d => d.remediationChangeId = c)) := by
  cases hfind : out.find? (fun d => d.remediationChangeId = c) with
  | none =>
    intro d hd horg hdc
    have hnot := List.find?_eq_none.1 hfind d (h.mem.2 ⟨hd, hdc ▸ hc, horg⟩)
    exact hnot (by simpa using hdc)
  | some d =>
    obtain ⟨hdc, before, after, hout, hbefore⟩ := List.find?_eq_some_iff_append.1 hfind
    have hdc : d.remediationChangeId = c := by simpa using hdc
    have hd : d ∈ out := by rw [hout]; simp
    refine ⟨hdc, (h.mem.1 hd).1, (h.mem.1 hd).2.2, fun d' hd' horg hdc' => ?_⟩
    have hmem : d' ∈ before ++ d :: after := by
      rw [← hout]
      exact h.mem.2 ⟨hd', by rw [hdc', hdc]; exact hc, horg⟩
    have hordered := h.ordered
    rw [hout, List.pairwise_append] at hordered
    rcases List.mem_append.1 hmem with hmem | hmem
    · have hnot := hbefore d' hmem
      simp [hdc', hdc] at hnot
    · rcases List.mem_cons.1 hmem with rfl | hmem
      · exact le_refl _
      · exact List.rel_of_pairwise_cons hordered.2.1 hmem

/-- **The single-change endpoint shows a latest row.** -/
theorem Returns.shows_head? {c : ChangeId} (h : Returns table (decisionsOf [c] orgId) timestampDesc out) :
    Shows table orgId c (existingDecision out) := by
  have hall : ∀ d ∈ out, d.remediationChangeId = c := fun d hd => List.mem_singleton.1 (h.mem.1 hd).2.1
  have hfind : existingDecision out = out.find? (fun d => d.remediationChangeId = c) := by
    unfold existingDecision
    cases out with
    | nil => rfl
    | cons d out => simp [hall d]
  rw [hfind]
  exact h.shows_find? (List.mem_singleton_self c)

/-- **Validation freezes a latest row.** -/
theorem Returns.shows_latest {order : DecisionRow → DecisionRow → Prop}
    (h : Returns table (decisionsOf ids orgId) order out) {c : ChangeId} (hc : c ∈ ids) :
    Shows table orgId c ((latestDecisions out).get? c) := by
  have hlatest := isLatest_latestDecisions out c
  cases hget : (latestDecisions out).get? c with
  | none =>
    rw [hget] at hlatest
    intro d hd horg hdc
    exact hlatest d (h.mem.2 ⟨hd, hdc ▸ hc, horg⟩) hdc
  | some d =>
    rw [hget] at hlatest
    obtain ⟨hd, hdc, hbeats⟩ := hlatest
    refine ⟨hdc, (h.mem.1 hd).1, (h.mem.1 hd).2.2, fun d' hd' horg hdc' => ?_⟩
    exact (hbeats d' (h.mem.2 ⟨hd', by rw [hdc', hdc]; exact hc, horg⟩) (hdc'.trans hdc)).timestamp_le

/-- A query may list any latest row of a change first. -/
theorem Newest.exists_returns {d : DecisionRow} (hd : Newest table orgId d) :
    ∃ out, Returns table (decisionsOf [d.remediationChangeId] orgId) timestampDesc (d :: out) := by
  have hmem : d ∈ table.rows.filter (decisionsOf [d.remediationChangeId] orgId) := by
    rw [List.mem_filter]
    exact ⟨hd.1, by simp [decisionsOf, hd.2.1]⟩
  have hperm := List.perm_cons_erase hmem
  have hsort := List.perm_insertionSort (fun a b : DecisionRow => b.decisionTimestamp ≤ a.decisionTimestamp)
    ((table.rows.filter (decisionsOf [d.remediationChangeId] orgId)).erase d)
  refine ⟨_, (hsort.cons d).trans hperm.symm, List.pairwise_cons.2 ⟨fun d' hd' => ?_, ?_⟩⟩
  · have hmem' := List.mem_of_mem_erase (hsort.mem_iff.1 hd')
    rw [List.mem_filter] at hmem'
    have hcond : d'.remediationChangeId = d.remediationChangeId ∧ d'.organizationId = orgId := by
      simpa [decisionsOf] using hmem'.2
    exact hd.2.2 d' hmem'.1 hcond.2 hcond.1
  · have htotal : Std.Total (fun a b : DecisionRow => b.decisionTimestamp ≤ a.decisionTimestamp) :=
      ⟨fun a b => le_total b.decisionTimestamp a.decisionTimestamp⟩
    have htrans : IsTrans DecisionRow (fun a b => b.decisionTimestamp ≤ a.decisionTimestamp) :=
      ⟨fun _ _ _ hab hbc => le_trans hbc hab⟩
    exact List.pairwise_insertionSort (fun a b : DecisionRow => b.decisionTimestamp ≤ a.decisionTimestamp) _

/-- Where the latest rows agree, it does not matter which of them is shown. -/
theorem LatestAgree.decision_eq (h : LatestAgree table run) {c : RemediationChange}
    (hc : c ∈ changesOf db run.toRemediationRun) {d? d'? : Option DecisionRow}
    (hd : Shows table run.organizationId c.id d?) (hd' : Shows table run.organizationId c.id d'?) :
    d?.map (·.decision) = d'?.map (·.decision) := by
  cases d? with
  | none =>
    cases d'? with
    | none => rfl
    | some d' => exact absurd hd'.1 (hd d' hd'.2.1 hd'.2.2.1)
  | some d =>
    cases d'? with
    | none => exact absurd hd.1 (hd' d hd.2.1 hd.2.2.1)
    | some d' => exact congrArg some (h c hc d d' hd.1 hd'.1 hd.2 hd'.2)

/-! ## Counting -/

theorem returns_frozen (table : DecisionTable) (run : CountedRun db) :
    Returns table (decisionsOf ((changesOf db run.toRemediationRun).map (·.id)) run.organizationId) unordered
      (table.rows.filter (decisionsOf ((changesOf db run.toRemediationRun).map (·.id)) run.organizationId)) :=
  ⟨List.Perm.refl _, List.pairwise_of_forall (fun _ _ => trivial)⟩

theorem shows_finalRow {c : RemediationChange} (hc : c ∈ changesOf db run.toRemediationRun) :
    Shows table run.organizationId c.id (finalRow table run c) :=
  (returns_frozen table run).shows_latest (List.mem_map_of_mem hc)

theorem mem_finalRows {d : DecisionRow} : d ∈ finalRows table run ↔
    ∃ c ∈ changesOf db run.toRemediationRun, finalRow table run c = some d := List.mem_filterMap

theorem finalRows_subset {d : DecisionRow} (hd : d ∈ finalRows table run) : d ∈ table.rows := by
  obtain ⟨c, hc, hfinal⟩ := mem_finalRows.1 hd
  have hshows : Shows table run.organizationId c.id (finalRow table run c) := shows_finalRow hc
  rw [hfinal] at hshows
  exact hshows.2.1

/-- Each change has its own final row. -/
theorem finalRows_nodup (table : DecisionTable) (run : CountedRun db) : (finalRows table run).Nodup := by
  unfold finalRows List.Nodup
  rw [List.pairwise_filterMap]
  have hids := List.pairwise_map.1 (changesOf_nodup db run.toRemediationRun)
  refine hids.imp_of_mem (fun {c c'} hc hc' hne d hd d' hd' heq => hne ?_)
  have hshows : Shows table run.organizationId c.id (finalRow table run c) := shows_finalRow hc
  have hshows' : Shows table run.organizationId c'.id (finalRow table run c') := shows_finalRow hc'
  rw [hd] at hshows
  rw [hd', ← heq] at hshows'
  exact hshows.1.symm.trans hshows'.1

theorem DecisionTable.rows_nodup (table : DecisionTable) : table.rows.Nodup := table.nodup.of_map

theorem length_filter_add {α : Type} (p : α → Bool) (l : List α) :
    l.length = (l.filter p).length + (l.filter (fun a => ¬ p a)).length := by
  have h := List.length_eq_length_filter_add (l := l) p
  simpa using h

/-- The final rows the summary counts, found from either side. -/
theorem counted_finalRows (table : DecisionTable) (run : CountedRun db) (v : Decision) :
    ((table.rows.filter (fun d => countedFor run.toRemediationRun d ∧ d.decision = v)).filter
        (fun d => d ∈ finalRows table run)).length =
      ((finalRows table run).filter (fun d => d.decision = v ∧ countedFor run.toRemediationRun d)).length := by
  refine List.Perm.length_eq ((List.perm_ext_iff_of_nodup ?_ ?_).2 (fun d => ?_))
  · exact (table.rows_nodup.filter _).filter _
  · exact (finalRows_nodup table run).filter _
  · simp only [List.mem_filter, decide_eq_true_eq]
    constructor
    · rintro ⟨⟨-, hcounted, hv⟩, hfinal⟩
      exact ⟨hfinal, hv, hcounted⟩
    · rintro ⟨hfinal, hv, hcounted⟩
      exact ⟨⟨finalRows_subset hfinal, hcounted, hv⟩, hfinal⟩

/-- **What the summary counts too much and what it misses.** -/
theorem counts_balance (table : DecisionTable) (run : CountedRun db) (v : Decision) :
    (table.rows.filter (fun d => countedFor run.toRemediationRun d ∧ d.decision = v)).length +
        (uncountedRows table run v).length =
      ((finalRows table run).filter (fun d => d.decision = v)).length + (surplusRows table run v).length := by
  have hrows := length_filter_add (fun d => decide (d ∈ finalRows table run))
    (table.rows.filter (fun d => countedFor run.toRemediationRun d ∧ d.decision = v))
  have hfinal := length_filter_add (fun d => countedFor run.toRemediationRun d)
    ((finalRows table run).filter (fun d => d.decision = v))
  have hboth := counted_finalRows table run v
  have hcounted : (((finalRows table run).filter (fun d => d.decision = v)).filter
      (fun d => countedFor run.toRemediationRun d)) =
      (finalRows table run).filter (fun d => d.decision = v ∧ countedFor run.toRemediationRun d) := by
    rw [List.filter_filter]
    congr 1
    funext d
    simp [Bool.and_comm]
  have huncounted : (((finalRows table run).filter (fun d => d.decision = v)).filter
      (fun d => ¬ countedFor run.toRemediationRun d)) = uncountedRows table run v := by
    unfold uncountedRows
    rw [List.filter_filter]
    congr 1
    funext d
    simp [Bool.and_comm]
  have hsurplus : ((table.rows.filter (fun d => countedFor run.toRemediationRun d ∧ d.decision = v)).filter
      (fun d => ¬ decide (d ∈ finalRows table run))) = surplusRows table run v := by
    unfold surplusRows
    congr 1
    funext d
    simp
  rw [hsurplus] at hrows
  rw [hcounted, huncounted] at hfinal
  rw [hrows, hfinal, hboth]
  omega

theorem length_decided {state : ChangeId → Option Decision} {row : RemediationChange → Option DecisionRow} (v : Decision) :
    ∀ {changes : List RemediationChange}, (∀ c ∈ changes, state c.id = (row c).map (·.decision)) →
      (changes.filter (fun c => state c.id = some v)).length =
        ((changes.filterMap row).filter (fun d => d.decision = v)).length
  | [], _ => rfl
  | c :: changes, hstate => by
    have hc := hstate c List.mem_cons_self
    have ih := length_decided v (fun c' hc' => hstate c' (List.mem_cons_of_mem _ hc'))
    rw [List.filterMap_cons, List.filter_cons, hc]
    cases hrow : row c with
    | none => simpa using ih
    | some d => by_cases hv : d.decision = v <;> simp [hv, ih]

theorem changesIn_decided {state : ChangeId → Option Decision}
    (hstate : ∀ c ∈ changesOf db run.toRemediationRun, state c.id = (finalRow table run c).map (·.decision))
    (v : Decision) :
    changesIn run state (some v) = ((finalRows table run).filter (fun d => d.decision = v)).length :=
  length_decided v hstate

/-- Every change is in one of the three states. -/
theorem changesIn_total (run : CountedRun db) (state : ChangeId → Option Decision) :
    run.totalChangesCount =
      changesIn run state none + changesIn run state (some .approved) + changesIn run state (some .rejected) := by
  rw [run.counted]
  unfold changesIn
  induction changesOf db run.toRemediationRun with
  | nil => rfl
  | cons c changes ih =>
    rw [List.length_cons, List.filter_cons, List.filter_cons, List.filter_cons, ih]
    rcases state c.id with _ | _ | _ <;> simp <;> omega

theorem summary_iff {state : ChangeId → Option Decision}
    (hstate : ∀ c ∈ changesOf db run.toRemediationRun, state c.id = (finalRow table run c).map (·.decision)) :
    decisionSummary table run =
        { pending := changesIn run state none
          approved := changesIn run state (some .approved)
          rejected := changesIn run state (some .rejected) } ↔
      ∀ v, (surplusRows table run v).length = (uncountedRows table run v).length := by
  have htotal := changesIn_total run state
  have hcount : ∀ v, (table.rows.filter (fun d => countedFor run.toRemediationRun d ∧ d.decision = v)).length =
      changesIn run state (some v) ↔ (surplusRows table run v).length = (uncountedRows table run v).length := by
    intro v
    have hbalance := counts_balance table run v
    rw [changesIn_decided hstate v]
    omega
  unfold decisionSummary
  rw [DecisionSummary.mk.injEq]
  constructor
  · rintro ⟨-, happroved, hrejected⟩ v
    cases v with
    | approved => exact (hcount .approved).1 happroved
    | rejected => exact (hcount .rejected).1 hrejected
  · intro h
    have happroved := (hcount .approved).2 (h .approved)
    have hrejected := (hcount .rejected).2 (h .rejected)
    refine ⟨?_, happroved, hrejected⟩
    dsimp only
    rw [happroved, hrejected]
    omega

/-- **The readers of a decision agree** exactly when the latest rows of each change say the same, and the summary counts
as many rows that are no change's final row as there are final rows it does not count. -/
theorem readersAgree_iff (db : RemediationTables) (table : DecisionTable) (run : CountedRun db) :
    ReadersAgree table run ↔
      LatestAgree table run ∧ ∀ v, (surplusRows table run v).length = (uncountedRows table run v).length := by
  constructor
  · rintro ⟨state, hagree⟩
    have hstate : ∀ c ∈ changesOf db run.toRemediationRun, state c.id = (finalRow table run c).map (·.decision) :=
      fun c hc => (hagree.frozen _ (returns_frozen table run) c hc).symm
    refine ⟨fun c hc d d' hdc hdc' hd hd' => ?_, (summary_iff hstate).1 hagree.summary⟩
    obtain ⟨out, hout⟩ := hd.exists_returns
    obtain ⟨out', hout'⟩ := hd'.exists_returns
    rw [hdc] at hout
    rw [hdc'] at hout'
    have hshown := (hagree.single c hc _ hout).trans (hagree.single c hc _ hout').symm
    exact Option.some.inj hshown
  · rintro ⟨hlatest, hbalance⟩
    let state (c : ChangeId) : Option Decision :=
      ((changesOf db run.toRemediationRun).find? (fun change => change.id = c)).bind
        (fun change => (finalRow table run change).map (·.decision))
    have hstate : ∀ c ∈ changesOf db run.toRemediationRun, state c.id = (finalRow table run c).map (·.decision) := by
      intro c hc
      have hfind : (changesOf db run.toRemediationRun).find? (fun change => change.id = c.id) = some c := by
        cases hfound : (changesOf db run.toRemediationRun).find? (fun change => change.id = c.id) with
        | none => exact absurd (List.find?_eq_none.1 hfound c hc) (by simp)
        | some c' =>
          have hc' : c'.id = c.id := by simpa using List.find?_some hfound
          exact congrArg some (List.inj_on_of_nodup_map (changesOf_nodup db run.toRemediationRun)
            (List.mem_of_find?_eq_some hfound) hc hc')
      change ((changesOf db run.toRemediationRun).find? (fun change => change.id = c.id)).bind _ = _
      rw [hfind]
      rfl
    refine ⟨state, ?_, ?_, ?_, (summary_iff hstate).2 hbalance⟩
    · intro page out hout c hc hpage
      rw [hstate c hc]
      have hget := getDecisionStatusMap_get? c.id out []
      unfold getDecisionStatusMap
      rw [hget]
      exact hlatest.decision_eq hc (hout.shows_find? hpage) (shows_finalRow hc)
    · intro c hc out hout
      rw [hstate c hc]
      exact hlatest.decision_eq hc hout.shows_head? (shows_finalRow hc)
    · intro out hout c hc
      rw [hstate c hc]
      exact hlatest.decision_eq hc (hout.shows_latest (List.mem_map_of_mem hc)) (shows_finalRow hc)

/-- Rows that carry the run and organization of their change, as both endpoints write them. -/
def Denormalized (db : RemediationTables) (table : DecisionTable) : Prop :=
  ∀ d ∈ table.rows, ∃ c ∈ db.changes, c.id = d.remediationChangeId ∧ d.remediationRunId = c.remediationRunId ∧
    d.organizationId = c.organizationId

theorem Denormalized.countedFor (h : Denormalized db table) {c : RemediationChange}
    (hc : c ∈ changesOf db run.toRemediationRun) {d : DecisionRow} (hd : d ∈ table.rows)
    (hdc : d.remediationChangeId = c.id) : countedFor run.toRemediationRun d = true := by
  obtain ⟨c', hc', hid, hrun, horg⟩ := h d hd
  obtain ⟨hmem, hrun', horg'⟩ := mem_changesOf.1 hc
  have heq : c' = c := List.inj_on_of_nodup_map db.changes_nodup hc' hmem (hid.trans hdc)
  rw [heq] at hrun horg
  unfold Api.countedFor
  simp [hrun, hrun', horg, horg']

theorem Denormalized.changeOf (h : Denormalized db table) {d : DecisionRow} (hd : d ∈ table.rows)
    (hcounted : Api.countedFor run.toRemediationRun d = true) :
    ∃ c ∈ changesOf db run.toRemediationRun, c.id = d.remediationChangeId := by
  obtain ⟨c, hc, hid, hrun, horg⟩ := h d hd
  have hcond : d.remediationRunId = run.id ∧ d.organizationId = run.organizationId := by
    simpa [Api.countedFor] using hcounted
  exact ⟨c, mem_changesOf.2 ⟨hc, hrun.symm.trans hcond.1, horg.symm.trans hcond.2⟩, hid⟩

/-- A row of a change is beside its final row in the table. -/
theorem finalRow_isSome {c : RemediationChange} (hc : c ∈ changesOf db run.toRemediationRun) {d : DecisionRow}
    (hd : d ∈ table.rows) (horg : d.organizationId = run.organizationId) (hdc : d.remediationChangeId = c.id) :
    ∃ d', finalRow table run c = some d' ∧ d' ∈ table.rows ∧ d'.remediationChangeId = c.id := by
  have hshows : Shows table run.organizationId c.id (finalRow table run c) := shows_finalRow hc
  cases hfinal : finalRow table run c with
  | none =>
    rw [hfinal] at hshows
    exact absurd hdc (hshows d hd horg)
  | some d' =>
    rw [hfinal] at hshows
    exact ⟨d', rfl, hshows.2.1, hshows.1⟩

/-- **As the endpoints write them, the readers agree exactly when no change has two rows.** -/
theorem agree_iff_single (h : Denormalized db table) :
    (LatestAgree table run ∧ ∀ v, (surplusRows table run v).length = (uncountedRows table run v).length) ↔
      ∀ c ∈ changesOf db run.toRemediationRun, ∀ d ∈ table.rows, ∀ d' ∈ table.rows,
        d.remediationChangeId = c.id → d'.remediationChangeId = c.id → d = d' := by
  have horg : ∀ d, Api.countedFor run.toRemediationRun d = true → d.organizationId = run.organizationId := by
    intro d hd
    have hcond : d.remediationRunId = run.id ∧ d.organizationId = run.organizationId := by
      simpa [Api.countedFor] using hd
    exact hcond.2
  have hnone : ∀ v, uncountedRows table run v = [] := by
    intro v
    refine List.filter_eq_nil_iff.2 (fun d hd hcond => ?_)
    obtain ⟨c, hc, hfinal⟩ := mem_finalRows.1 hd
    have hshows : Shows table run.organizationId c.id (finalRow table run c) := shows_finalRow hc
    rw [hfinal] at hshows
    have hcounted := h.countedFor hc hshows.2.1 hshows.1
    simp [hcounted] at hcond
  constructor
  · rintro ⟨-, hbalance⟩ c hc d hd d' hd' hdc hdc'
    -- every row of the change is its final row, or it would be in surplus
    have hfinal : ∀ e ∈ table.rows, e.remediationChangeId = c.id → finalRow table run c = some e := by
      intro e he hec
      have hcounted := h.countedFor hc he hec
      have hsurplus : surplusRows table run e.decision = [] := by
        have hlen := hbalance e.decision
        rw [hnone e.decision] at hlen
        exact List.length_eq_zero_iff.1 hlen
      have hmem : e ∈ finalRows table run := by
        by_contra hnot
        have hin : e ∈ surplusRows table run e.decision := by simp [surplusRows, he, hcounted, hnot]
        rw [hsurplus] at hin
        cases hin
      obtain ⟨c', hc', hfinal⟩ := mem_finalRows.1 hmem
      have hshows : Shows table run.organizationId c'.id (finalRow table run c') := shows_finalRow hc'
      rw [hfinal] at hshows
      have heq : c' = c := List.inj_on_of_nodup_map (changesOf_nodup db run.toRemediationRun) hc' hc
        (hshows.1.symm.trans hec)
      rw [← heq]
      exact hfinal
    exact Option.some.inj ((hfinal d hd hdc).symm.trans (hfinal d' hd' hdc'))
  · intro hsingle
    refine ⟨fun c hc d d' hdc hdc' hd hd' => ?_, fun v => ?_⟩
    · rw [hsingle c hc d hd.1 d' hd'.1 hdc hdc']
    · have hsurplus : surplusRows table run v = [] := by
        refine List.filter_eq_nil_iff.2 (fun d hd hnot => ?_)
        simp only [List.mem_filter, decide_eq_true_eq] at hd hnot
        obtain ⟨c, hc, hid⟩ := h.changeOf hd.1 hd.2.1
        obtain ⟨d', hfinal, hd', hdc'⟩ := finalRow_isSome hc hd.1 (horg d hd.2.1) hid.symm
        rw [hsingle c hc d hd.1 d' hd' hid.symm hdc'] at hnot
        exact hnot (mem_finalRows.2 ⟨c, hc, hfinal⟩)
      rw [hsurplus, hnone v]

end

/-! ## A change that was rejected and approved -/

/-- The run of `twoChanges`. -/
def runOfTwo : CountedRun twoChanges where
  id := 9
  taskId := 3
  organizationId := 1
  totalChangesCount := 2
  counted := by decide

/-- Change 2 rejected, then both changes approved. -/
def decidedTwice : DecisionTable where
  rows := [⟨⟨1, 9, 2, .rejected, 1, "a@x", "superuser", 10, none⟩, 1⟩,
    ⟨⟨1, 9, 1, .approved, 1, "a@x", "superuser", 11, none⟩, 2⟩,
    ⟨⟨1, 9, 2, .approved, 1, "a@x", "superuser", 11, none⟩, 3⟩]
  nodup := by decide

theorem decidedTwice_disagree : ¬ ReadersAgree decidedTwice runOfTwo := by
  rintro ⟨state, hagree⟩
  have hcount := (summary_iff (fun c hc => (hagree.frozen _ (returns_frozen _ _) c hc).symm)).1 hagree.summary .rejected
  revert hcount
  decide

end Api
end DataOps

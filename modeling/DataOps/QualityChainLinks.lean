import DataOps.QualityChainRuns
/-!
# QualityChainLinks — the rows quality control reads belong together

Remediation reads the detection row of its source run, and validation the remediation row.  Quality control follows the
same links back, over the runs instead of the rows: in every state reached they are the same (`provenance_linked`).  So
what was persisted under the rows it finds is one chain (`exists_chain`).
-/
namespace DataOps
namespace QualityChain

open Api (OrganizationId TaskId TaskRunId)
open Quality (IssueRow RemediationChangeRow ValidationResultRow QualityThresholdConfig)
open Schedule (DataSource DataSourceId Settings TaskRunRow TaskType Tables Write endpoints)
open Trace (exec)

section
variable {py : Backend} (settings : Settings) (describe : QualityThresholdConfig py.toPython → String)

/-! ## The links of remediation rows -/

/-- **A remediation row has the source of its run**, and runs differ in their ids. -/
structure Linked (w : World py) : Prop where
  ids        : (w.tables.runs.map (fun r => r.id)).Nodup
  remediated : ∀ row ∈ w.results.remediationRuns, ∃ run ∈ w.tables.runs,
    run.id = row.taskRunId ∧ run.sourceTaskRunId = some row.sourceTaskRunId ∧ run.organizationId = row.organizationId

/-- Runs are only added, and new. -/
structure AddsRuns (db db' : Tables) : Prop where
  runs : db.runs <+: db'.runs
  ids  : (db.runs.map (fun r => r.id)).Nodup → (db'.runs.map (fun r => r.id)).Nodup

theorem AddsRuns.of_eq {db db' : Tables} (h : db'.runs = db.runs) : AddsRuns db db' :=
  ⟨h ▸ List.prefix_rfl, fun hids => h ▸ hids⟩

theorem AddsRuns.concat {db db' : Tables} {run : TaskRunRow} (h : db'.runs = db.runs ++ [run])
    (hfresh : run.id ∉ db.runs.map (fun r => r.id)) : AddsRuns db db' := by
  refine ⟨h ▸ List.prefix_append _ _, fun hids => ?_⟩
  rw [h]
  exact nodup_ids_concat hfresh hids

/-- **Requests and passes only add runs.** -/
theorem addsRuns_effect {w w' : Schedule.World} {l : Schedule.Label} (h : Schedule.Effect py settings w l w') :
    AddsRuns w.api.store w'.api.store := by
  cases h with
  | stay => exact .of_eq rfl
  | request l hstore => exact .of_eq (congrArg Tables.runs hstore)
  | committed i ticket db hticket hfree hdb hstore =>
    dsimp only
    rw [hstore]
    rcases ticket.write.apply_cases py hdb with ⟨id, row, -, -, -, rfl⟩ | ⟨id, loaded, edited, current, -, -, -, rfl⟩ |
      ⟨run, -, hfresh, rfl⟩
    · exact .of_eq rfl
    · exact .of_eq rfl
    · exact .concat rfl hfresh
  | started => exact .of_eq rfl
  | released => exact .of_eq rfl
  | polled => exact .of_eq rfl
  | advanced => exact .of_eq rfl
  | added => exact .of_eq rfl
  | occurred p logged pass txn newNextRunAt run row hpass htxn hstage hrow hchecks hfresh => exact .concat rfl hfresh

theorem Linked.addsRuns {w : World py} (h : Linked w) {schedule : Schedule.World}
    (hadds : AddsRuns w.tables schedule.api.store) : Linked { w with schedule := schedule } where
  ids := hadds.ids h.ids
  remediated := fun row hrow => by
    obtain ⟨run, hrun, hlinks⟩ := h.remediated row hrow
    exact ⟨run, hadds.runs.subset hrun, hlinks⟩

/-- Remediation adds a row of its run, with the source of its run. -/
theorem RemediationHandler.execute_adds {db db' : ResultTables py.toPython} {context : ExecutionContext}
    (h : RemediationHandler.execute db context = .ok db') : ∀ row ∈ db'.remediationRuns, row ∈ db.remediationRuns ∨
      row.taskRunId = context.taskRun.id ∧ context.taskRun.sourceTaskRunId = some row.sourceTaskRunId ∧
        row.organizationId = context.taskRun.organizationId := by
  unfold RemediationHandler.execute at h
  obtain ⟨dataSource, -, h⟩ := Schedule.bind_eq_ok h
  obtain ⟨sourceTaskRunId, hsource, h⟩ := Schedule.bind_eq_ok h
  obtain ⟨detectionRun, -, h⟩ := Schedule.bind_eq_ok h
  obtain ⟨sourceSha256, -, h⟩ := Schedule.bind_eq_ok h
  split at h
  · cases h
    exact fun row hrow => .inl hrow
  · obtain ⟨loaded, -, h⟩ := Schedule.bind_eq_ok h
    split at h
    · cases h
    · obtain ⟨remediationRuns, hrows, h⟩ := Schedule.bind_eq_ok h
      cases h
      intro row hrow
      rcases mem_of_persist hrows hrow with hold | rfl
      · exact .inl hold
      · exact .inr ⟨rfl, require_eq_ok hsource, rfl⟩

/-- The other handlers leave the table alone. -/
theorem CsvProfilingHandler.execute_remediationRuns {db db' : ResultTables py.toPython} {context : ExecutionContext}
    (h : CsvProfilingHandler.execute db context = .ok db') : db'.remediationRuns = db.remediationRuns := by
  unfold CsvProfilingHandler.execute at h
  obtain ⟨dataSource, -, h⟩ := Schedule.bind_eq_ok h
  obtain ⟨-, -, h⟩ := Schedule.bind_eq_ok h
  obtain ⟨dataProfiles, -, h⟩ := Schedule.bind_eq_ok h
  cases h
  rfl

theorem IssueDetectionHandler.execute_remediationRuns {db db' : ResultTables py.toPython} {context : ExecutionContext}
    (h : IssueDetectionHandler.execute db context = .ok db') : db'.remediationRuns = db.remediationRuns := by
  unfold IssueDetectionHandler.execute at h
  obtain ⟨dataSource, -, h⟩ := Schedule.bind_eq_ok h
  obtain ⟨sourceSha256, -, h⟩ := Schedule.bind_eq_ok h
  obtain ⟨issueDetectionRuns, -, h⟩ := Schedule.bind_eq_ok h
  cases h
  rfl

theorem ValidationHandler.execute_remediationRuns {db db' : ResultTables py.toPython} {context : ExecutionContext}
    (h : ValidationHandler.execute db context = .ok db') : db'.remediationRuns = db.remediationRuns := by
  unfold ValidationHandler.execute at h
  obtain ⟨dataSource, -, h⟩ := Schedule.bind_eq_ok h
  obtain ⟨sourceTaskRunId, -, h⟩ := Schedule.bind_eq_ok h
  obtain ⟨remediationRun, -, h⟩ := Schedule.bind_eq_ok h
  obtain ⟨validationRuns, -, h⟩ := Schedule.bind_eq_ok h
  cases h
  rfl

theorem exportChainHandler_remediationRuns {handler taskType : String} {db db' : ResultTables py.toPython}
    {context : ExecutionContext} (h : exportChainHandler handler taskType db context = .ok db') :
    db'.remediationRuns = db.remediationRuns := by
  unfold exportChainHandler at h
  obtain ⟨-, -, h⟩ := Schedule.bind_eq_ok h
  obtain ⟨-, -, h⟩ := Schedule.bind_eq_ok h
  obtain ⟨-, -, h⟩ := Schedule.bind_eq_ok h
  cases h
  rfl

/-- **An execution adds no other remediation row.** -/
theorem execute_remediations {runs : List TaskRunRow} {taskType : TaskType} {db db' : ResultTables py.toPython}
    {context : ExecutionContext} (h : QualityChain.execute describe runs taskType db context = .ok db') :
    ∀ row ∈ db'.remediationRuns, row ∈ db.remediationRuns ∨
      row.taskRunId = context.taskRun.id ∧ context.taskRun.sourceTaskRunId = some row.sourceTaskRunId ∧
        row.organizationId = context.taskRun.organizationId := by
  suffices hor : db'.remediationRuns = db.remediationRuns ∨ RemediationHandler.execute db context = .ok db' by
    rcases hor with hsame | hremediated
    · exact fun row hrow => .inl (hsame ▸ hrow)
    · exact RemediationHandler.execute_adds hremediated
  cases taskType with
  | sync => exact .inl (CsvProfilingHandler.execute_remediationRuns h)
  | transform => exact .inl (exportChainHandler_remediationRuns h)
  | standardize => exact .inl (exportChainHandler_remediationRuns h)
  | «match» => exact .inl (exportChainHandler_remediationRuns h)
  | «export» => exact .inl (exportChainHandler_remediationRuns h)
  | remediate => exact .inr h
  | validate => exact .inl (ValidationHandler.execute_remediationRuns h)
  | detect => exact .inl (IssueDetectionHandler.execute_remediationRuns h)
  | qualityCtrl =>
    rcases QualityControlHandler.execute_cases describe h with ⟨-, rfl⟩ | ⟨-, -, -, -, rfl⟩
    · exact .inl rfl
    · exact .inl rfl
  | other =>
    simp only [execute] at h
    cases hrest : context.rest with
    | error e => rw [hrest] at h; cases h
    | ok u => rw [hrest] at h; cases h; exact .inl rfl

theorem Linked.execute {w : World py} (h : Linked w) (id : TaskRunId) (env : Environment) :
    Linked (w.execute describe id env) := by
  unfold World.execute
  split
  · rename_i run hrun
    split
    · split
      · rename_i results hok
        refine ⟨h.ids, fun row hrow => ?_⟩
        rcases execute_remediations describe hok row hrow with hold | ⟨hid, hsource, horganization⟩
        · exact h.remediated row hold
        · exact ⟨run, List.mem_of_find?_eq_some hrun, hid.symm, hsource, horganization.symm⟩
      · exact h
    · exact h
  · exact h

theorem Linked.step {w : World py} (h : Linked w) (l : Label py) : Linked (step settings describe w l) := by
  cases l with
  | schedule l => exact h.addsRuns (addsRuns_effect settings (Schedule.step_effect py settings w.schedule l))
  | dataSources rows => exact h.addsRuns (.of_eq rfl)
  | qualityThresholds rows => exact ⟨h.ids, h.remediated⟩
  | execute id env => exact h.execute describe id env

theorem linked_exec (dataSources : Dict DataSourceId DataSource) (ls : List (Label py)) :
    Linked (exec (step settings describe) (World.initial py dataSources) ls) :=
  Trace.exec_invariant _ (fun _ l h => h.step settings describe l) ls _
    ⟨List.nodup_nil, fun _ hrow => (List.not_mem_nil hrow).elim⟩

/-! ## What quality control finds -/

/-- What each step of the way back found. -/
theorem QualityControlHandler.provenance_found {runs : List TaskRunRow} {db : ResultTables py.toPython}
    {organizationId : OrganizationId} {validationRun : ValidationRun} {p : Provenance}
    (h : QualityControlHandler.provenance runs db organizationId validationRun = .ok p) :
    p.validationRun = validationRun ∧ p.remediationRun ∈ db.remediationRuns ∧
      p.remediationRun.id = validationRun.remediationRunId ∧ p.remediationRun.organizationId = organizationId ∧
      p.issueDetectionRun ∈ db.issueDetectionRuns ∧ p.issueDetectionRun.organizationId = organizationId ∧
      ∃ run ∈ runs, run.id = p.remediationRun.taskRunId ∧
        run.sourceTaskRunId = some p.issueDetectionRun.taskRunId := by
  unfold QualityControlHandler.provenance at h
  obtain ⟨remediationRun, hremediation, h⟩ := Schedule.bind_eq_ok h
  obtain ⟨remediateTaskRun, hrun, h⟩ := Schedule.bind_eq_ok h
  obtain ⟨detectTaskRunId, hsource, h⟩ := Schedule.bind_eq_ok h
  obtain ⟨detectTaskRun, hdetect, h⟩ := Schedule.bind_eq_ok h
  obtain ⟨issueDetectionRun, hdetection, h⟩ := Schedule.bind_eq_ok h
  obtain ⟨syncTaskRunId, -, h⟩ := Schedule.bind_eq_ok h
  obtain ⟨syncTaskRun, -, h⟩ := Schedule.bind_eq_ok h
  obtain ⟨dataProfile, -, h⟩ := Schedule.bind_eq_ok h
  cases h
  have hremediation := require_eq_ok hremediation
  have hrun := require_eq_ok hrun
  have hdetect := require_eq_ok hdetect
  have hdetection := require_eq_ok hdetection
  have hremediated := List.find?_some hremediation
  have hran := List.find?_some hrun
  have hdetecting := List.find?_some hdetect
  have hdetected := List.find?_some hdetection
  simp only [decide_eq_true_eq] at hremediated hran hdetecting hdetected
  refine ⟨rfl, List.mem_of_find?_eq_some hremediation, hremediated.1, hremediated.2, List.mem_of_find?_eq_some hdetection,
    hdetected.2, remediateTaskRun, List.mem_of_find?_eq_some hrun, hran.1, ?_⟩
  rw [require_eq_ok hsource, hdetected.1, hdetecting.1]

/-- **The detection row quality control finds is the one remediation read.** -/
theorem Linked.provenance {w : World py} (hlinked : Linked w) {organizationId : OrganizationId}
    {validationRun : ValidationRun} {p : Provenance}
    (h : QualityControlHandler.provenance w.tables.runs w.results organizationId validationRun = .ok p) :
    p.issueDetectionRun.taskRunId = p.remediationRun.sourceTaskRunId ∧
      p.issueDetectionRun.organizationId = p.remediationRun.organizationId := by
  obtain ⟨-, hremediation, -, horganization, -, horganization', run, hrun, hid, hsource⟩ :=
    QualityControlHandler.provenance_found h
  obtain ⟨run', hrun', hid', hsource', -⟩ := hlinked.remediated _ hremediation
  have hsame : run' = run := List.inj_on_of_nodup_map hlinked.ids hrun' hrun (hid'.trans hid.symm)
  rw [hsame] at hsource'
  exact ⟨Option.some.inj (hsource.symm.trans hsource'), horganization'.trans horganization.symm⟩

theorem provenance_linked (dataSources : Dict DataSourceId DataSource) (ls : List (Label py))
    {organizationId : OrganizationId} {validationRun : ValidationRun} {p : Provenance}
    (h : QualityControlHandler.provenance (exec (step settings describe) (World.initial py dataSources) ls).tables.runs
      (exec (step settings describe) (World.initial py dataSources) ls).results organizationId validationRun = .ok p) :
    p.issueDetectionRun.taskRunId = p.remediationRun.sourceTaskRunId ∧
      p.issueDetectionRun.organizationId = p.remediationRun.organizationId :=
  (linked_exec settings describe dataSources ls).provenance h

end

/-! ## The chain -/

/-- What the stages persisted under the ids of their rows. -/
structure Contents (py : Python) where
  dataset           : RowId → Detection.DetectionDataset py
  detectionLimits   : Detection.DetectionLimits
  issues            : RowId → List IssueRow
  columnConfig      : RowId → Dict Str Remediation.RemediationColumnConfig
  datasetConfig     : RowId → Remediation.RemediationDatasetConfigInput
  remediationLimits : Remediation.RemediationLimits
  changes           : RowId → List RemediationChangeRow
  approved          : RowId → Validation.ChangeId → Bool
  validationConfig  : RowId → Dict Str Validation.ValidationColumnConfig
  validationLimits  : Validation.ValidationLimits
  results           : RowId → List ValidationResultRow

/-- **Each stage persisted what its engine makes of what it read**: remediation of the detection row of its source, of the
same table by its hash, and validation of its remediation row. -/
structure Contents.Persisted {py : Python} (x : Contents py) (db : ResultTables py) : Prop where
  detected   : ∀ d ∈ db.issueDetectionRuns,
    ((x.issues d.id).map (fun row => row.toFinding)).Perm
      (Detection.detectIssues (x.dataset d.id) x.detectionLimits).findings ∧
      ((x.issues d.id).map (fun row => row.id)).Nodup
  remediated : ∀ r ∈ db.remediationRuns, ∀ d ∈ db.issueDetectionRuns, d.taskRunId = r.sourceTaskRunId →
    d.organizationId = r.organizationId →
    ((x.changes r.id).map (fun row => row.toRemediationChangeProposal)).Perm
        (Remediation.remediate py (x.dataset d.id).toTable ((x.issues d.id).map IssueRow.input) (x.columnConfig r.id)
          (x.datasetConfig r.id) x.remediationLimits).changes ∧
      ((x.changes r.id).map (fun row => row.id)).Nodup
  validated  : ∀ v ∈ db.validationRuns, ∀ r ∈ db.remediationRuns, r.id = v.remediationRunId →
    List.Forall₂ ValidationResultRow.writes (x.results v.id)
        (Validation.validate py
          (((x.changes r.id).filter (fun row => x.approved v.id row.id)).map RemediationChangeRow.input)
          (x.validationConfig v.id) x.validationLimits).results ∧
      ((x.results v.id).map (fun row => row.id)).Nodup

/-- **What was persisted under the rows quality control finds is one chain.** -/
theorem exists_chain {py : Backend} {w : World py} (hlinked : Linked w) {x : Contents py.toPython}
    (hx : x.Persisted w.results) {organizationId : OrganizationId} {validationRun : ValidationRun}
    (hvalidation : validationRun ∈ w.results.validationRuns) {p : Provenance}
    (h : QualityControlHandler.provenance w.tables.runs w.results organizationId validationRun = .ok p) :
    ∃ c : Quality.Chain py.toPython, c.dataset = x.dataset p.issueDetectionRun.id ∧
      c.issues = x.issues p.issueDetectionRun.id ∧ c.changes = x.changes p.remediationRun.id ∧
      c.results = x.results p.validationRun.id := by
  obtain ⟨hrun, horganization⟩ := hlinked.provenance h
  obtain ⟨rfl, hremediation, hid, -, hdetection, -⟩ := QualityControlHandler.provenance_found h
  obtain ⟨hissues, hissuesIds⟩ := hx.detected _ hdetection
  obtain ⟨hchanges, hchangesIds⟩ := hx.remediated _ hremediation _ hdetection hrun horganization
  obtain ⟨hresults, hresultsIds⟩ := hx.validated _ hvalidation _ hremediation hid
  exact ⟨⟨_, _, _, hissues, hissuesIds, _, _, _, _, hchanges, hchangesIds, _, _, _, _, hresults, hresultsIds⟩,
    rfl, rfl, rfl, rfl⟩

end QualityChain
end DataOps

import DataOps.ReadEndpoints
import DataOps.ReviewQueueIsolation
import DataOps.ScheduleTasks
/-!
# ReadIsolation — a response shows the rows of one organization

Two databases that agree on the rows of an organization give its users the same responses (`reads_isolated`).  Two
queries leave the organization out: the columns a summary counts, which the tenant key of the changes keeps apart, and
the join of a result with its change, where the schema has no tenant key and only the handler's rows do
(`Database.results_own`).
-/
namespace DataOps
namespace Reads

open Api (OrganizationId TaskId TaskRunId User HTTPException ChangeId DecisionRow scalarOneOrNone)
open AuditLogs (PaginationParams PaginatedResponse)
open Relations (partner filter_perm_of_mem)
open Schedule (bind_eq_ok)

/-! ## The databases -/

/-- The keys that the queries rest on, as the schema declares them. -/
structure Constraints {C : Type} (db : Tables C) : Prop where
  issueKeys          : (db.issues.map (fun issue => issue.id)).Nodup
  remediationRunKeys : (db.remediationRuns.map (fun run => run.id)).Nodup
  changeKeys         : (db.remediationChanges.map (fun change => change.id)).Nodup
  resultKeys         : (db.validationResults.map (fun result => result.id)).Nodup
  findingKeys        : (db.qualityFindings.map (fun finding => finding.id)).Nodup
  -- `uq_match_skipped_blocks_run_key` and `uq_export_row_exclusions_run_row`
  skippedBlockKeys   : (db.matchSkippedBlocks.map (fun b => (b.parentId, b.blockingKey))).Nodup
  exclusionKeys      : (db.exportRowExclusions.map (fun e => (e.parentId, e.rowIndex))).Nodup
  -- `fk_remediation_changes_org_remediation_run`
  changes_ref        : ∀ c ∈ db.remediationChanges, ∃ run ∈ db.remediationRuns,
                         run.organizationId = c.organizationId ∧ run.id = c.parentId
  -- `fk_validation_results_remediation_change`
  results_ref        : ∀ result ∈ db.validationResults, ∃ c ∈ db.remediationChanges, c.id = result.remediationChangeId

/-- The tables as the handlers leave them: a validated change is one of the organization, as `ValidationHandler` loads no
other (`results_own_of_validate`); no key says so. -/
structure Database (C : Type) extends Tables C where
  constraints : Constraints toTables
  results_own : ∀ result ∈ validationResults, ∃ c ∈ remediationChanges,
                  c.organizationId = result.organizationId ∧ c.id = result.remediationChangeId

/-- The same rows of an organization, in whatever order. -/
def SameRows {α : Type} (own : α → OrganizationId) (orgId : OrganizationId) (rows rows' : List α) : Prop :=
  (rows.filter (fun a => own a = orgId)).Perm (rows'.filter (fun a => own a = orgId))

structure AgreeOn {C : Type} (orgId : OrganizationId) (db db' : Tables C) : Prop where
  dataSources                  : SameRows (·.organizationId) orgId db.dataSources db'.dataSources
  tasks                        : SameRows (·.organizationId) orgId db.tasks db'.tasks
  taskRuns                     : SameRows (·.organizationId) orgId db.taskRuns db'.taskRuns
  taskRunEvents                : SameRows (·.organizationId) orgId db.taskRunEvents db'.taskRunEvents
  dataProfiles                 : SameRows (·.organizationId) orgId db.dataProfiles db'.dataProfiles
  cleaningRuns                 : SameRows (·.organizationId) orgId db.cleaningRuns db'.cleaningRuns
  cleaningChanges              : SameRows (·.organizationId) orgId db.cleaningChanges db'.cleaningChanges
  standardizationRuns          : SameRows (·.organizationId) orgId db.standardizationRuns db'.standardizationRuns
  standardizationChanges       : SameRows (·.organizationId) orgId db.standardizationChanges db'.standardizationChanges
  standardizationMappings      : SameRows (·.organizationId) orgId db.standardizationMappings db'.standardizationMappings
  standardizationLookupEntries : SameRows (·.organizationId) orgId db.standardizationLookupEntries
                                   db'.standardizationLookupEntries
  matchRuleSets                : SameRows (·.organizationId) orgId db.matchRuleSets db'.matchRuleSets
  matchRuns                    : SameRows (·.organizationId) orgId db.matchRuns db'.matchRuns
  matchGroups                  : SameRows (·.organizationId) orgId db.matchGroups db'.matchGroups
  matchDecisions               : SameRows (·.organizationId) orgId db.matchDecisions db'.matchDecisions
  matchSkippedBlocks           : SameRows (·.organizationId) orgId db.matchSkippedBlocks db'.matchSkippedBlocks
  exportRuns                   : SameRows (·.organizationId) orgId db.exportRuns db'.exportRuns
  exportRowExclusions          : SameRows (·.organizationId) orgId db.exportRowExclusions db'.exportRowExclusions
  issueDetectionRuns           : SameRows (·.organizationId) orgId db.issueDetectionRuns db'.issueDetectionRuns
  issues                       : SameRows (·.organizationId) orgId db.issues db'.issues
  remediationRuns              : SameRows (·.organizationId) orgId db.remediationRuns db'.remediationRuns
  remediationChanges           : SameRows (·.organizationId) orgId db.remediationChanges db'.remediationChanges
  remediationChangeDecisions   : SameRows (·.organizationId) orgId db.remediationChangeDecisions.rows
                                   db'.remediationChangeDecisions.rows
  validationRuns               : SameRows (·.organizationId) orgId db.validationRuns db'.validationRuns
  validationResults            : SameRows (·.organizationId) orgId db.validationResults db'.validationResults
  qualityControlRuns           : SameRows (·.organizationId) orgId db.qualityControlRuns db'.qualityControlRuns
  qualityFindings              : SameRows (·.organizationId) orgId db.qualityFindings db'.qualityFindings

/-! ## The lookups -/

section
variable {α : Type} {l l' : List α}

theorem scalarOneOrNone_perm (h : l.Perm l') : scalarOneOrNone l = scalarOneOrNone l' := by
  have hlength := h.length_eq
  match l, l', hlength with
  | [], [], _ => rfl
  | [a], [b], _ => rw [List.perm_singleton.1 h]
  | _ :: _ :: _, _ :: _ :: _, _ => rfl

theorem oneOr404_perm (h : l.Perm l') (detail : String) : oneOr404 detail l = oneOr404 detail l' := by
  unfold oneOr404
  rw [scalarOneOrNone_perm h]

theorem mem_of_oneOr404 {detail : String} {row : α} (h : oneOr404 detail l = .ok row) : row ∈ l := by
  match l with
  | [] => cases h
  | [_] => cases h; exact List.mem_singleton_self _
  | _ :: _ :: _ => cases h

end

variable {C : Type} {orgId : OrganizationId}

/-- A query within the organization keeps the same rows. -/
theorem SameRows.filter {α : Type} {own : α → OrganizationId} {rows rows' : List α} (h : SameRows own orgId rows rows')
    {p : α → Bool} (hp : ∀ a, p a = true → own a = orgId) : (rows.filter p).Perm (rows'.filter p) :=
  filter_perm_of_mem h (fun a _ ha => decide_eq_true (hp a ha)) (fun a _ ha => decide_eq_true (hp a ha))

theorem SameRows.childRows {α : Type} {child : α → ChildRow C} {rows rows' : List α}
    (h : SameRows (fun a => (child a).organizationId) orgId rows rows') (parentId : RowId) (keeps : α → Bool) :
    (childRows child rows parentId orgId keeps).Perm (childRows child rows' parentId orgId keeps) :=
  h.filter (fun _ ha => (of_decide_eq_true ha).2.1)

theorem getActiveTaskOr404_agree {db db' : Tables C} (h : AgreeOn orgId db db') (taskId : TaskId) :
    getActiveTaskOr404 db orgId taskId = getActiveTaskOr404 db' orgId taskId :=
  oneOr404_perm (h.tasks.filter (fun _ ht => (of_decide_eq_true ht).2.1)) _

theorem getActiveOr404_agree {db db' : Tables C} (h : AgreeOn orgId db db') (dataSourceId : RowId) :
    getActiveOr404 db orgId dataSourceId = getActiveOr404 db' orgId dataSourceId :=
  oneOr404_perm (h.dataSources.filter (fun _ hs => (of_decide_eq_true hs).2.1)) _

theorem taskRunOr404_agree {db db' : Tables C} (h : AgreeOn orgId db db') (taskId : TaskId) (runId : TaskRunId) :
    taskRunOr404 db orgId taskId runId = taskRunOr404 db' orgId taskId runId :=
  oneOr404_perm (h.taskRuns.filter (fun _ hr => (of_decide_eq_true hr).2.2)) _

theorem getResultOr404_agree {db db' : Tables C} (h : AgreeOn orgId db db') {α : Type}
    {row : α → ResultRow C} {rows rows' : List α} (hrows : SameRows (fun a => (row a).organizationId) orgId rows rows')
    (detail : String) (taskId : TaskId) (runId : TaskRunId) :
    getResultOr404 db orgId detail row rows taskId runId = getResultOr404 db' orgId detail row rows' taskId runId := by
  unfold getResultOr404
  rw [getActiveTaskOr404_agree h]
  refine bind_congr (fun task => ?_)
  rw [taskRunOr404_agree h]
  refine bind_congr (fun taskRun => ?_)
  rw [oneOr404_perm (hrows.filter (fun _ hr => (of_decide_eq_true hr).2.2))]

/-- A result that is found is of the organization, and one of the rows. -/
theorem mem_of_getResultOr404 {db : Tables C} {α : Type} {row : α → ResultRow C} {rows : List α}
    {detail : String} {taskId : TaskId} {runId : TaskRunId} {found : α × TaskRunRow C}
    (h : getResultOr404 db orgId detail row rows taskId runId = .ok found) :
    found.1 ∈ rows ∧ (row found.1).organizationId = orgId := by
  obtain ⟨task, -, h⟩ := bind_eq_ok h
  obtain ⟨taskRun, -, h⟩ := bind_eq_ok h
  obtain ⟨result, hresult, h⟩ := bind_eq_ok h
  cases h
  obtain ⟨hmem, hcond⟩ := List.mem_filter.1 (mem_of_oneOr404 hresult)
  exact ⟨hmem, (of_decide_eq_true hcond).2.2⟩

/-! ## Lists -/

/-- Two queries that respond alike. -/
structure Listing.Same {α β : Type} (q q' : Listing α β) : Prop where
  rows    : q.rows.Perm q'.rows
  before  : q.before = q'.before
  present : ∀ page items, q.present page items ↔ q'.present page items

theorem Listing.Same.plain {α : Type} {rows rows' : List α} (h : rows.Perm rows') (before : α → α → Prop) :
    (Listing.plain rows before).Same (Listing.plain rows' before) := ⟨h, rfl, fun _ _ => Iff.rfl⟩

theorem Listing.Same.responds {α β : Type} {q q' : Listing α β} (h : q.Same q') {pagination : PaginationParams}
    {response : PaginatedResponse β} (hresponds : q.Responds pagination response) : q'.Responds pagination response := by
  obtain ⟨⟨page, hpage, hitems⟩, htotal, hlimit, hoffset⟩ := hresponds
  rw [h.before] at hpage
  exact ⟨⟨page, (Relations.Answers.perm h.rows).1 hpage, (h.present page response.items).1 hitems⟩,
    htotal.trans h.rows.length_eq, hlimit, hoffset⟩

/-- Both lookups fail alike, or both find queries that respond alike. -/
inductive SameFound {α β : Type} : Except HTTPException (Listing α β) → Except HTTPException (Listing α β) → Prop
  | error (e : HTTPException) : SameFound (.error e) (.error e)
  | ok {q q' : Listing α β} (h : q.Same q') : SameFound (.ok q) (.ok q')

/-- What follows on one lookup. -/
theorem SameFound.bind {α β ρ : Type} {found found' : Except HTTPException ρ}
    {f f' : ρ → Except HTTPException (Listing α β)} (hfound : found = found')
    (h : ∀ a, found = .ok a → SameFound (f a) (f' a)) : SameFound (found >>= f) (found' >>= f') := by
  subst hfound
  cases found with
  | error e => exact .error e
  | ok a => exact h a rfl

variable {db db' : Database C}

/-- The changes a query takes by their run alone are the run's organization's. -/
theorem changes_own (db : Database C) {run : RemediationRunRow C} (hrun : run ∈ db.remediationRuns)
    {c : RemediationChangeRow C} (hc : c ∈ db.remediationChanges) (hparent : c.parentId = run.id) :
    c.organizationId = run.organizationId := by
  obtain ⟨run', hrun', horg, hid⟩ := db.constraints.changes_ref c hc
  rw [← horg, List.inj_on_of_nodup_map db.constraints.remediationRunKeys hrun' hrun (hid.trans hparent)]

/-- **The join of a result with its change** is within the organization. -/
theorem validationResultsOf_perm (h : AgreeOn orgId db.toTables db'.toTables) {currentUser : User}
    (horg : currentUser.organizationId = orgId) (run : ResultRow C) (filters : ValidationResultFilters) :
    (validationResultsOf db.toTables currentUser run filters).Perm
      (validationResultsOf db'.toTables currentUser run filters) := by
  subst horg
  unfold validationResultsOf
  cases filters.columnName with
  | none => exact h.validationResults.childRows run.id filters.keeps
  | some columnName =>
    have hjoin : ∀ db : Database C, ((Relations.join (fun result change => change.id = result.remediationChangeId)
          db.validationResults db.remediationChanges).filter (fun p =>
        (p.1.parentId = run.id ∧ p.1.organizationId = currentUser.organizationId ∧ filters.keeps p.1 = true) ∧
          p.2.columnName = some columnName)).map Prod.fst =
        (childRows (·.toChildRow) db.validationResults run.id currentUser.organizationId filters.keeps).filter
          (fun result =>
          (partner (fun c : RemediationChangeRow C => c.id) db.remediationChanges result.remediationChangeId).any
            (fun c => c.columnName = some columnName)) := by
      intro db
      have hkeys := Relations.join_filter_fst db.constraints.changeKeys
        (fun result : ValidationResultRow C => result.remediationChangeId)
        (fun result => result.parentId = run.id ∧ result.organizationId = currentUser.organizationId ∧
          filters.keeps result = true)
        (fun c => c.columnName = some columnName) db.validationResults
      simp only [Bool.decide_and] at hkeys ⊢
      rw [hkeys]
      unfold childRows
      rw [List.filter_filter]
      simp only [Bool.decide_and, Bool.and_comm]
    dsimp only
    rw [hjoin db, hjoin db', List.filter_congr (fun result hresult => ?_)]
    · exact (h.validationResults.childRows run.id filters.keeps).filter _
    · obtain ⟨hmem, hcond⟩ := List.mem_filter.1 hresult
      obtain ⟨c, hc, hown, hid⟩ := db.results_own result hmem
      rw [ReviewQueue.partner_agree db.constraints.changeKeys db'.constraints.changeKeys h.remediationChanges
        ⟨c, hc, hown.trans (of_decide_eq_true hcond).2.1, hid⟩]

/-- The decisions a query may return of some changes. -/
theorem returns_agree (h : AgreeOn orgId db.toTables db'.toTables) (ids : List ChangeId)
    {order : DecisionRow → DecisionRow → Prop} {out : List DecisionRow}
    (hout : Api.Returns db.remediationChangeDecisions (Api.decisionsOf ids orgId) order out) :
    Api.Returns db'.remediationChangeDecisions (Api.decisionsOf ids orgId) order out :=
  ⟨hout.perm.trans (h.remediationChangeDecisions.filter (fun _ hd => (of_decide_eq_true hd).2)), hout.ordered⟩

theorem AgreeOn.symm {db db' : Tables C} (h : AgreeOn orgId db db') : AgreeOn orgId db' db where
  dataSources := h.dataSources.symm
  tasks := h.tasks.symm
  taskRuns := h.taskRuns.symm
  taskRunEvents := h.taskRunEvents.symm
  dataProfiles := h.dataProfiles.symm
  cleaningRuns := h.cleaningRuns.symm
  cleaningChanges := h.cleaningChanges.symm
  standardizationRuns := h.standardizationRuns.symm
  standardizationChanges := h.standardizationChanges.symm
  standardizationMappings := h.standardizationMappings.symm
  standardizationLookupEntries := h.standardizationLookupEntries.symm
  matchRuleSets := h.matchRuleSets.symm
  matchRuns := h.matchRuns.symm
  matchGroups := h.matchGroups.symm
  matchDecisions := h.matchDecisions.symm
  matchSkippedBlocks := h.matchSkippedBlocks.symm
  exportRuns := h.exportRuns.symm
  exportRowExclusions := h.exportRowExclusions.symm
  issueDetectionRuns := h.issueDetectionRuns.symm
  issues := h.issues.symm
  remediationRuns := h.remediationRuns.symm
  remediationChanges := h.remediationChanges.symm
  remediationChangeDecisions := h.remediationChangeDecisions.symm
  validationRuns := h.validationRuns.symm
  validationResults := h.validationResults.symm
  qualityControlRuns := h.qualityControlRuns.symm
  qualityFindings := h.qualityFindings.symm

theorem activeRows_same {rows rows' : List (ActiveRow C)} (h : SameRows (·.organizationId) orgId rows rows')
    (includeInactive : Bool) : (activeRows rows orgId includeInactive).Same (activeRows rows' orgId includeInactive) :=
  .plain (h.filter (fun _ hr => (of_decide_eq_true hr).1)) _

/-- A list behind a lookup, whose checks read the request alone. -/
theorem SameFound.checked {α β : Type} {checks : Except HTTPException Unit} {q q' : Except HTTPException (Listing α β)}
    (h : SameFound q q') : SameFound (checks >>= fun _ => q) (checks >>= fun _ => q') :=
  SameFound.bind rfl (fun _ _ => h)

/-- **The two queries of a request respond alike.** -/
theorem query_same (h : AgreeOn orgId db.toTables db'.toTables) {currentUser : User}
    (horg : currentUser.organizationId = orgId) {α β : Type} (request : ListRequest C α β) :
    SameFound (request.query db.toTables currentUser) (request.query db'.toTables currentUser) := by
  subst horg
  cases request with
  | listTasks includeInactive => exact .ok (activeRows_same h.tasks includeInactive)
  | listDataSources includeInactive => exact .ok (activeRows_same h.dataSources includeInactive)
  | listStandardizationColumnMappings includeInactive =>
    exact .ok (activeRows_same h.standardizationMappings includeInactive)
  | listStandardizationLookupEntries includeInactive =>
    exact .ok (activeRows_same h.standardizationLookupEntries includeInactive)
  | listMatchRuleSets includeInactive => exact .ok (activeRows_same h.matchRuleSets includeInactive)
  | listTaskRuns taskId =>
    refine .bind (getActiveTaskOr404_agree h taskId) (fun task _ => .ok (.plain ?_ _))
    exact h.taskRuns.filter (fun _ hr => (of_decide_eq_true hr).2)
  | listTaskRunEvents taskId runId =>
    exact .bind (taskRunOr404_agree h taskId runId) (fun _ _ => .ok (.plain (h.taskRunEvents.childRows runId _) _))
  | listTaskRunCleaningChanges taskId runId =>
    refine .bind ?_ (fun run _ => .ok (.plain (h.cleaningChanges.childRows run.id _) _))
    exact congrArg (· >>= _) (getResultOr404_agree h h.cleaningRuns _ taskId runId)
  | listTaskRunStandardizationChanges taskId runId =>
    refine .bind ?_ (fun run _ => .ok (.plain (h.standardizationChanges.childRows run.id _) _))
    exact congrArg (· >>= _) (getResultOr404_agree h h.standardizationRuns _ taskId runId)
  | listTaskRunMatchingGroups taskId runId =>
    refine .bind ?_ (fun run _ => .ok (.plain (h.matchGroups.childRows run.id _) _))
    exact congrArg (· >>= _) (getResultOr404_agree h h.matchRuns _ taskId runId)
  | listTaskRunMatchingDecisions taskId runId filters =>
    refine .bind (congrArg (· >>= _) (getResultOr404_agree h h.matchRuns _ taskId runId)) (fun run _ => ?_)
    dsimp only
    split
    · exact .error _
    · exact .ok (.plain (h.matchDecisions.childRows run.id _) _)
  | listTaskRunMatchingSkippedBlocks taskId runId =>
    refine .bind ?_ (fun run _ => .ok (.plain (h.matchSkippedBlocks.childRows run.id _) _))
    exact congrArg (· >>= _) (getResultOr404_agree h h.matchRuns _ taskId runId)
  | listTaskRunExportExclusions taskId runId matchGroupId =>
    refine .bind ?_ (fun run _ => .ok (.plain (h.exportRowExclusions.childRows run.id _) _))
    exact congrArg (· >>= _) (getResultOr404_agree h h.exportRuns _ taskId runId)
  | listTaskRunDetectionIssues taskId runId filters =>
    refine .bind ?_ (fun run _ => .checked (.checked (.ok ⟨h.issues.childRows run.id _, rfl, fun _ _ => Iff.rfl⟩)))
    exact congrArg (· >>= _) (getResultOr404_agree h h.issueDetectionRuns _ taskId runId)
  | listTaskRunRemediationChanges taskId runId filters =>
    refine .bind (getResultOr404_agree h h.remediationRuns _ taskId runId) (fun found _ => .checked (.ok ?_))
    refine ⟨h.remediationChanges.childRows found.1.id _, rfl, fun page items => ⟨?_, ?_⟩⟩
    · rintro ⟨out, hout, hitems⟩
      exact ⟨out, returns_agree h _ hout, hitems⟩
    · rintro ⟨out, hout, hitems⟩
      exact ⟨out, returns_agree h.symm _ hout, hitems⟩
  | listTaskRunValidationResults taskId runId filters =>
    refine .bind (getResultOr404_agree h h.validationRuns _ taskId runId)
      (fun found _ => .checked (.checked (.ok (.plain ?_ _))))
    exact validationResultsOf_perm h rfl found.1 filters
  | listTaskRunQualityControlFindings taskId runId filters =>
    refine .bind (getResultOr404_agree h h.qualityControlRuns _ taskId runId) (fun found _ => ?_)
    exact .checked (.checked (.checked (.ok (.plain (h.qualityFindings.childRows found.1.id _) _))))

theorem Lists.agree (h : AgreeOn orgId db.toTables db'.toTables) {currentUser : User}
    (horg : currentUser.organizationId = orgId) {α β : Type} {request : ListRequest C α β} {pagination : PaginationParams}
    {response : Except HTTPException (PaginatedResponse β)}
    (hlists : Lists db.toTables currentUser request pagination response) :
    Lists db'.toTables currentUser request pagination response := by
  have hsame := query_same h horg request
  unfold Lists at hlists ⊢
  generalize request.query db.toTables currentUser = found at hsame hlists
  generalize request.query db'.toTables currentUser = found' at hsame
  cases hsame with
  | error e =>
    cases response with
    | error e' => exact hlists
    | ok response => obtain ⟨q, hq, -⟩ := hlists; cases hq
  | ok hq =>
    cases response with
    | error e' => cases hlists
    | ok response =>
      obtain ⟨q, heq, hresponds⟩ := hlists
      cases heq
      exact ⟨_, rfl, hq.responds hresponds⟩

/-! ## One thing -/

theorem remediationSummaryRows_agree (h : AgreeOn orgId db.toTables db'.toTables) {currentUser : User}
    (horg : currentUser.organizationId = orgId) (taskId : TaskId) (runId : TaskRunId) :
    remediationSummaryRows db.toTables currentUser taskId runId =
      remediationSummaryRows db'.toTables currentUser taskId runId := by
  subst horg
  unfold remediationSummaryRows getRemediationRunOr404
  rw [getResultOr404_agree h h.remediationRuns]
  refine bind_congr (fun found => ?_)
  dsimp only
  rw [scalarOneOrNone_perm (h.issueDetectionRuns.filter (fun _ hr => (of_decide_eq_true hr).2))]

/-- The run of a summary is one of the organization. -/
theorem mem_of_remediationSummaryRows {currentUser : User} {taskId : TaskId} {runId : TaskRunId}
    {run : RemediationRunRow C} {taskRun : TaskRunRow C} {detectionRun : Option (IssueDetectionRunRow C)}
    (h : remediationSummaryRows db.toTables currentUser taskId runId = .ok (run, taskRun, detectionRun)) :
    run ∈ db.remediationRuns ∧ run.organizationId = currentUser.organizationId := by
  obtain ⟨found, hfound, h⟩ := bind_eq_ok h
  obtain ⟨_, -, h⟩ := bind_eq_ok h
  cases h
  exact mem_of_getResultOr404 hfound

/-- The columns a summary counts are those of the organization's changes. -/
theorem changedColumns_perm (h : AgreeOn orgId db.toTables db'.toTables) {run : RemediationRunRow C}
    (hrun : run ∈ db.remediationRuns) (hown : run.organizationId = orgId) :
    (changedColumns db.toTables run).Perm (changedColumns db'.toTables run) := by
  have hrun' : run ∈ db'.remediationRuns :=
    (List.mem_filter.1 (h.remediationRuns.subset (List.mem_filter.2 ⟨hrun, decide_eq_true hown⟩))).1
  refine List.Perm.filterMap _ (filter_perm_of_mem h.remediationChanges (fun c hc hp => ?_) (fun c hc hp => ?_))
  · exact decide_eq_true ((changes_own db hrun hc (of_decide_eq_true hp)).trans hown)
  · exact decide_eq_true ((changes_own db' hrun' hc (of_decide_eq_true hp)).trans hown)

theorem getTaskRunRemediation_agree (h : AgreeOn orgId db.toTables db'.toTables) {currentUser : User}
    (horg : currentUser.organizationId = orgId) {durationMs : Api.Time → Api.Time → Int}
    {taskId : TaskId} {runId : TaskRunId} {response : Except HTTPException (RemediationRunRead C)}
    (hresponse : GetTaskRunRemediation db.toTables currentUser durationMs taskId runId response) :
    GetTaskRunRemediation db'.toTables currentUser durationMs taskId runId response := by
  have hrows := remediationSummaryRows_agree h horg taskId runId
  subst horg
  cases response with
  | error e => exact hrows.symm.trans hresponse
  | ok response =>
    obtain ⟨run, taskRun, detectionRun, columnCounts, decided, hfound, hcolumns, hdecided, hresponse⟩ := hresponse
    obtain ⟨hrun, hown⟩ := mem_of_remediationSummaryRows hfound
    refine ⟨run, taskRun, detectionRun, columnCounts, decided, hrows.symm.trans hfound, ?_, ?_, hresponse⟩
    · exact (Relations.GroupedCounts.perm (changedColumns_perm h hrun hown)).1 hcolumns
    · refine (Relations.GroupedCounts.perm (List.Perm.map _ ?_)).1 hdecided
      exact h.remediationChangeDecisions.filter (fun _ hd => (of_decide_eq_true hd).2)

theorem getRemediationChangeOr404_agree (h : AgreeOn orgId db.toTables db'.toTables) (taskId : TaskId) (runId : TaskRunId)
    (changeId : ChangeId) : getRemediationChangeOr404 db.toTables orgId taskId runId changeId =
      getRemediationChangeOr404 db'.toTables orgId taskId runId changeId := by
  unfold getRemediationChangeOr404 getRemediationRunOr404
  rw [getResultOr404_agree h h.remediationRuns]
  refine bind_congr (fun found => ?_)
  dsimp only
  rw [oneOr404_perm (h.remediationChanges.filter (fun _ hc => (of_decide_eq_true hc).2.2))]

theorem getRemediationChangeDecision_agree (h : AgreeOn orgId db.toTables db'.toTables) {currentUser : User}
    (horg : currentUser.organizationId = orgId) {taskId : TaskId} {runId : TaskRunId} {changeId : ChangeId}
    {response : Except HTTPException DecisionRow}
    (hresponse : GetRemediationChangeDecision db.toTables currentUser taskId runId changeId response) :
    GetRemediationChangeDecision db'.toTables currentUser taskId runId changeId response := by
  subst horg
  unfold GetRemediationChangeDecision at hresponse ⊢
  rw [← getRemediationChangeOr404_agree h taskId runId changeId]
  split at hresponse
  · exact hresponse
  · obtain ⟨out, hout, hresponse⟩ := hresponse
    exact ⟨out, returns_agree h _ hout, hresponse⟩

theorem Gets.agree (h : AgreeOn orgId db.toTables db'.toTables) {currentUser : User}
    (horg : currentUser.organizationId = orgId) {durationMs : Api.Time → Api.Time → Int}
    {β : Type} {request : GetRequest C β} {response : Except HTTPException β}
    (hgets : Gets db.toTables currentUser durationMs request response) :
    Gets db'.toTables currentUser durationMs request response := by
  subst horg
  cases request with
  | getTask taskId => exact hgets.trans (getActiveTaskOr404_agree h taskId)
  | getDataSource dataSourceId => exact hgets.trans (getActiveOr404_agree h dataSourceId)
  | getTaskRun taskId runId =>
    refine hgets.trans ?_
    unfold getTaskRun
    rw [getActiveTaskOr404_agree h]
    exact bind_congr (fun task => taskRunOr404_agree h task.id runId)
  | getTaskRunProfile taskId runId =>
    exact hgets.trans (congrArg (· >>= _) (getResultOr404_agree h h.dataProfiles _ taskId runId))
  | getTaskRunCleaning taskId runId =>
    exact hgets.trans (congrArg (· >>= _) (getResultOr404_agree h h.cleaningRuns _ taskId runId))
  | getTaskRunStandardization taskId runId =>
    exact hgets.trans (congrArg (· >>= _) (getResultOr404_agree h h.standardizationRuns _ taskId runId))
  | getTaskRunMatching taskId runId =>
    exact hgets.trans (congrArg (· >>= _) (getResultOr404_agree h h.matchRuns _ taskId runId))
  | getTaskRunExport taskId runId =>
    exact hgets.trans (congrArg (· >>= _) (getResultOr404_agree h h.exportRuns _ taskId runId))
  | getTaskRunDetection taskId runId =>
    exact hgets.trans (congrArg (· >>= _) (getResultOr404_agree h h.issueDetectionRuns _ taskId runId))
  | getTaskRunRemediation taskId runId => exact getTaskRunRemediation_agree h rfl hgets
  | getRemediationChangeDecision taskId runId changeId => exact getRemediationChangeDecision_agree h rfl hgets
  | getTaskRunValidation taskId runId =>
    exact hgets.trans (congrArg (· >>= _) (getResultOr404_agree h h.validationRuns _ taskId runId))
  | getTaskRunQualityControl taskId runId =>
    exact hgets.trans (congrArg (· >>= _) (getResultOr404_agree h h.qualityControlRuns _ taskId runId))

/-- **A validated change is the organization's**: the handler validates what it loads of a run within the organization. -/
theorem results_own_of_validate (py : Python) (db : Tables C) (remediationRunId : RowId)
    (approved : RemediationChangeRow C → Bool) {input : RemediationChangeRow C → Validation.ValidationChangeInput}
    (hinput : ∀ c, (input c).changeId = c.id) (columnConfig : Dict Str Validation.ValidationColumnConfig)
    (limits : Validation.ValidationLimits) {item : Validation.ValidationResultItem}
    (h : item ∈ (Validation.validate py
      ((childRows (·.toChildRow) db.remediationChanges remediationRunId orgId approved).map input)
      columnConfig limits).results) : ∃ c ∈ db.remediationChanges, c.organizationId = orgId ∧ c.id = item.changeId := by
  have hid := (Validation.map_changeId_results py _ columnConfig limits).subset (List.mem_map_of_mem h)
  rw [List.map_map] at hid
  obtain ⟨c, hc, hitem⟩ := List.mem_map.1 hid
  obtain ⟨hmem, hcond⟩ := List.mem_filter.1 hc
  exact ⟨c, hmem, (of_decide_eq_true hcond).2.1, (hinput c).symm.trans hitem⟩

/-! ## Two tenants -/

/-- A table of one validated change: of the organization 1, or of another. -/
def validated (changeOrganization : OrganizationId) (column : String) : Tables Unit where
  dataSources := []
  tasks := [⟨⟨3, 1, 0, ()⟩, true⟩]
  taskRuns := [⟨⟨5, 1, 0, ()⟩, 3, some 1, some 2⟩]
  taskRunEvents := []
  dataProfiles := []
  cleaningRuns := []
  cleaningChanges := []
  standardizationRuns := []
  standardizationChanges := []
  standardizationMappings := []
  standardizationLookupEntries := []
  matchRuleSets := []
  matchRuns := []
  matchGroups := []
  matchDecisions := []
  matchSkippedBlocks := []
  exportRuns := []
  exportRowExclusions := []
  issueDetectionRuns := []
  issues := []
  remediationRuns := [⟨⟨⟨7, changeOrganization, 0, ()⟩, 4, 3⟩, 2, 1⟩]
  remediationChanges := [⟨⟨⟨20, changeOrganization, 0, ()⟩, 7⟩, 1, some column.toList, .trimWhitespace⟩]
  remediationChangeDecisions := ⟨[], List.nodup_nil⟩
  validationRuns := [⟨⟨9, 1, 0, ()⟩, 5, 3⟩]
  validationResults := [⟨⟨⟨30, 1, 0, ()⟩, 9⟩, 20, some .validateTrimWhitespace, .passed⟩]
  qualityControlRuns := []
  qualityFindings := []

/-- `validated` with a change of another organization beside it. -/
def crowded : Tables Unit :=
  { validated 1 "email" with
    remediationRuns := ⟨⟨⟨8, 2, 0, ()⟩, 6, 5⟩, 2, 1⟩ :: (validated 1 "email").remediationRuns
    remediationChanges :=
      ⟨⟨⟨21, 2, 0, ()⟩, 8⟩, 1, some "email".toList, .trimWhitespace⟩ :: (validated 1 "email").remediationChanges }

theorem validated_constraints (changeOrganization : OrganizationId) (column : String) :
    Constraints (validated changeOrganization column) := by
  constructor <;> simp [validated]

def caller : User := ⟨1, 1, "ana@example.com", none, false⟩

/-- The results on the column `email`. -/
def onEmail : ListRequest Unit (ValidationResultRow Unit) (ValidationResultRow Unit) :=
  .listTaskRunValidationResults 3 5 { columnName := some "email".toList }

def firstPage : PaginationParams := ⟨⟨50, by decide⟩, 0⟩

theorem validated_lists {changeOrganization : OrganizationId} :
    Lists (validated changeOrganization "email") caller onEmail firstPage
      (.ok ⟨(validated changeOrganization "email").validationResults, 1, 50, 0⟩) :=
  ⟨_, rfl, ⟨_, ⟨_, .refl _, List.pairwise_singleton _ _, rfl⟩, rfl⟩, rfl, rfl, rfl⟩

/-- **The keys alone do not isolate**: a result on another organization's change shows which column that change is of. -/
theorem results_leak : Constraints (validated 2 "email") ∧ Constraints (validated 2 "phone") ∧
    AgreeOn 1 (validated 2 "email") (validated 2 "phone") ∧ ∃ response,
      Lists (validated 2 "email") caller onEmail firstPage (.ok response) ∧
        ¬ Lists (validated 2 "phone") caller onEmail firstPage (.ok response) := by
  refine ⟨validated_constraints 2 "email", validated_constraints 2 "phone", by constructor <;> exact .refl _, _,
    validated_lists, ?_⟩
  rintro ⟨q, hq, -, htotal, -⟩
  cases hq
  exact absurd htotal (by decide)

end Reads
end DataOps

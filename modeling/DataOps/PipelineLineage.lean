import DataOps.PipelineRecords
/-!
# PipelineLineage — a row, its run, and the row it came from

A stage finds its upstream row under the source of its run, in the run's organization.  So every row goes back, run by run,
to a profile of its organization.
-/
namespace DataOps
namespace Pipeline

open Api (OrganizationId TaskRunId)
open Programs (Contract Label Safe State step)
open Schedule (TaskRunRow TaskType)
open Trace (exec)

section
variable {py : Python}

/-- The stage of a commit. -/
def Commit.taskType : Commit py → TaskType
  | .dataProfile _ _          => .sync
  | .cleaningRun _ _ _        => .transform
  | .standardizationRun _ _ _ => .standardize
  | .matchRun _ _ _ _         => .match
  | .exportRun _ _ _ _        => .export

def Commit.sourceTaskRunId : Commit py → Option TaskRunId
  | .dataProfile _ _            => none
  | .cleaningRun row _ _        => some row.sourceTaskRunId
  | .standardizationRun row _ _ => some row.sourceTaskRunId
  | .matchRun row _ _ _         => some row.sourceTaskRunId
  | .exportRun row _ _ _        => some row.sourceTaskRunId

/-- The stage whose rows a stage takes. -/
def sourceStage : TaskType → TaskType
  | .transform   => .sync
  | .standardize => .transform
  | .match       => .standardize
  | .export      => .match
  | taskType     => taskType

/-- The rows of a stage that takes rows, each with its `source_task_run_id`. -/
def World.sourcedRows (w : World py) : TaskType → List (RunRow × TaskRunId)
  | .transform   => w.cleaningRuns.map (fun r => (r.toRunRow, r.sourceTaskRunId))
  | .standardize => w.standardizationRuns.map (fun r => (r.toRunRow, r.sourceTaskRunId))
  | .match       => w.matchRuns.map (fun r => (r.toRunRow, r.sourceTaskRunId))
  | .export      => w.exportRuns.map (fun r => (r.toRunRow, r.sourceTaskRunId))
  | _            => []

/-- The row is on the run, which is of its organization and its task. -/
structure OnRun (w : World py) (row : RunRow) (run : TaskRunRow) : Prop where
  found          : w.tables.runs.find? (fun run => run.id = row.taskRunId) = some run
  organizationId : row.organizationId = run.organizationId
  taskId         : row.taskId = run.taskId

/-- **The row goes back to a profile**, through rows that its runs name as their sources, all of one organization. -/
inductive GoesBack (w : World py) : TaskType → RunRow → Prop
  | profile {row : RunRow} {run : TaskRunRow} (hrow : row ∈ w.rowsOf .sync) (hrun : OnRun w row run) : GoesBack w .sync row
  | made {taskType : TaskType} {row upstream : RunRow} {run : TaskRunRow}
      (hrow : (row, upstream.taskRunId) ∈ w.sourcedRows taskType) (hrun : OnRun w row run)
      (hsource : run.sourceTaskRunId = some upstream.taskRunId)
      (horganization : upstream.organizationId = row.organizationId)
      (hupstream : GoesBack w (sourceStage taskType) upstream) : GoesBack w taskType row

/-- Every row goes back to a profile. -/
def Rooted (w : World py) : Prop := ∀ taskType, ∀ row ∈ w.rowsOf taskType, GoesBack w taskType row

/-- The row of a commit is on its run, and the run's source has a row of the stage before. -/
structure Descends (w : World py) (c : Commit py) : Prop where
  run      : ∃ run, OnRun w c.row run ∧ ∀ source, c.sourceTaskRunId = some source → run.sourceTaskRunId = some source
  upstream : ∀ source, c.sourceTaskRunId = some source →
    ∃ row ∈ w.rowsOf (sourceStage c.taskType), row.taskRunId = source ∧ row.organizationId = c.row.organizationId

/-- Rows only go back to rows there are. -/
def lineageContract : Contract (World py) (Query py) (Effect py) TaskRunId Event where
  grows := Extends
  invariant := Rooted
  launches := fun _ _ => True
  looks := fun _ _ => True
  acts := fun _ _ => True
  changes := fun _ _ => True
  meets := fun w effect => ∀ c, effect = .commit c → Descends w c

end

section
variable {py : PythonValues} {dep : Deployment py} {w w' : World py.toPython}

/-! ## What stays -/

theorem Extends.sourcedRows (h : Extends w w') (taskType : TaskType) :
    w.sourcedRows taskType <+: w'.sourcedRows taskType := by
  cases taskType with
  | transform => exact map_prefix (g := fun r => (r.toRunRow, r.sourceTaskRunId)) (fun _ => rfl) h.cleaningRuns
  | standardize => exact map_prefix (g := fun r => (r.toRunRow, r.sourceTaskRunId)) (fun _ => rfl) h.standardizationRuns
  | «match» => exact map_prefix (g := fun r => (r.toRunRow, r.sourceTaskRunId)) (fun _ => rfl) h.matchRuns
  | «export» => exact map_prefix (g := fun r => (r.toRunRow, r.sourceTaskRunId)) (fun _ => rfl) h.exportRuns
  | _ => exact List.prefix_rfl

theorem OnRun.mono {row : RunRow} {run : TaskRunRow} (h : OnRun w row run) (hext : Extends w w') : OnRun w' row run :=
  { h with found := hext.run h.found }

theorem GoesBack.mono (hext : Extends w w') {taskType : TaskType} {row : RunRow} (h : GoesBack w taskType row) :
    GoesBack w' taskType row := by
  induction h with
  | profile hrow hrun => exact .profile ((hext.rowsOf .sync).subset hrow) (hrun.mono hext)
  | made hrow hrun hsource horganization _ ih =>
    exact .made ((hext.sourcedRows _).subset hrow) (hrun.mono hext) hsource horganization ih

theorem Descends.mono {c : Commit py.toPython} (h : Descends w c) (hext : Extends w w') : Descends w' c where
  run := by
    obtain ⟨run, hrun, hsource⟩ := h.run
    exact ⟨run, hrun.mono hext, hsource⟩
  upstream := fun source hsource => by
    obtain ⟨row, hrow, hid, horganization⟩ := h.upstream source hsource
    exact ⟨row, (hext.rowsOf _).subset hrow, hid, horganization⟩

/-! ## What keeps it -/

/-- The new row is of the stage of the commit. -/
theorem mem_rowsOf_insert {c : Commit py.toPython} {taskType : TaskType} {row : RunRow}
    (h : row ∈ (w.insert c).rowsOf taskType) : row ∈ w.rowsOf taskType ∨ taskType = c.taskType ∧ row = c.row := by
  cases c <;> cases taskType <;>
    first
      | exact .inl h
      | simpa [World.insert, World.rowsOf, Commit.taskType, Commit.row] using h

theorem row_mem_insert (w : World py.toPython) (c : Commit py.toPython) : c.row ∈ (w.insert c).rowsOf c.taskType := by
  cases c <;> simp [World.insert, World.rowsOf, Commit.taskType, Commit.row]

theorem sourced_mem_insert {c : Commit py.toPython} {source : TaskRunId} (h : c.sourceTaskRunId = some source) :
    (c.row, source) ∈ (w.insert c).sourcedRows c.taskType := by
  cases c <;> cases h <;> simp [World.insert, World.sourcedRows, Commit.taskType, Commit.row]

/-- **A commit whose row descends from a row there is keeps every row rooted.** -/
theorem Rooted.commit (h : Rooted w) {c : Commit py.toPython} (hc : Descends w c) : Rooted (w.perform (.commit c)).1 := by
  have hext := Extends.perform (w := w) (.commit c)
  simp only [World.perform] at hext ⊢
  split
  · exact h
  · rename_i hrecorded
    rw [if_neg hrecorded] at hext
    intro taskType row hrow
    rcases mem_rowsOf_insert hrow with hold | ⟨rfl, rfl⟩
    · exact (h taskType row hold).mono hext
    · obtain ⟨run, hrun, hsource⟩ := hc.run
      cases hfrom : c.sourceTaskRunId with
      | none =>
        -- only a profile has no source
        have htype : c.taskType = .sync := by cases c <;> first | rfl | cases hfrom
        have hmem : c.row ∈ (w.insert c).rowsOf .sync := htype ▸ row_mem_insert w c
        rw [htype]
        exact .profile hmem (hrun.mono hext)
      | some source =>
        obtain ⟨upstream, hupstream, rfl, horganization⟩ := hc.upstream source hfrom
        exact .made (sourced_mem_insert hfrom) (hrun.mono hext) (hsource _ hfrom) horganization
          ((h _ upstream hupstream).mono hext)

theorem Rooted.happen (h : Rooted w) (event : Event) : Rooted (w.happen event) := by
  have hext := Extends.happen (w := w) event
  have hrows : ∀ taskType, (w.happen event).rowsOf taskType = w.rowsOf taskType := by
    intro taskType
    cases event with
    | createRun taskId sourceTaskRunId currentUser id =>
      obtain ⟨tables, htables, -⟩ := happen_createRun_eq w taskId sourceTaskRunId currentUser id
      rw [htables]
      cases taskType <;> rfl
    | review kind taskRunId action => rw [World.happen, review_rowsOf]
    | _ => cases taskType <;> rfl
  intro taskType row hrow
  rw [hrows] at hrow
  exact (h taskType row hrow).mono hext

/-! ## The handlers -/

/-- The upstream row is of the run's source, and stays. -/
theorem Started.row {α : Type} {row : α → RunRow} {asked : World py.toPython → List α} {upstream : α}
    {rows : World py.toPython → List RunRow} {source id : TaskRunId} {organizationId : OrganizationId}
    {w₁ w₂ : World py.toPython}
    (h : Started (fun w _ w' => Extends w w' ∧ Rooted w' ∧ True) w
      (fun w => ofTaskRun row (asked w) source organizationId) rows id upstream w₁ w₂) :
    row upstream ∈ (asked w₁).map row ∧ (row upstream).taskRunId = source ∧
      (row upstream).organizationId = organizationId ∧ Extends w w₁ ∧ Extends w₁ w₂ := by
  obtain ⟨hmem, hid⟩ := ofTaskRun_some h.upstream
  exact ⟨List.mem_map_of_mem hmem, hid, ofTaskRun_organizationId h.upstream, h.looks.1, h.again.1⟩

/-- **Every stage commits a row of its run, which descends from the row of the run's source.** -/
theorem getHandler_descends {taskType : TaskType} {handler : ExecutionContext → Execution py.toPython}
    (hhandler : getHandler dep taskType = some handler) (context : ExecutionContext)
    (hrun : w.tables.runs.find? (fun run => run.id = context.taskRun.id) = some context.taskRun) :
    (handler context).Sound lineageContract w := by
  have hclosed := Contract.closed (ρ := Outcome) (@lineageContract py.toPython)
  have hwrite : ∀ {path content made} {w : World py.toPython} (c : Commit py.toPython),
      Effect.writeFile path content made = .commit c → Descends w c := by
    intro path content made w c hc
    cases hc
  have hpersist : ∀ (c : Commit py.toPython) (w : World py.toPython), Descends w c →
      (persist c).Sound lineageContract w := by
    intro c w hc
    refine ⟨fun c' hc' => ?_, fun accepted => persisted_closed hclosed trivial c accepted⟩
    cases hc'
    exact hc
  -- a row of the context's run whose source has a row of the stage before
  have hdescends : ∀ (c : Commit py.toPython) (dataSource : DataSource) (w₁ w' : World py.toPython),
      Extends w w' → Extends w₁ w' → c.row = context.row dataSource →
      (∀ source, c.sourceTaskRunId = some source → context.taskRun.sourceTaskRunId = some source ∧
        ∃ row ∈ w₁.rowsOf (sourceStage c.taskType), row.taskRunId = source ∧
          row.organizationId = context.taskRun.organizationId) → Descends w' c := by
    intro c dataSource w₁ w' hext hext₁ hrow hsource
    refine ⟨⟨context.taskRun, ⟨?_, ?_, ?_⟩, fun source hfrom => (hsource source hfrom).1⟩, fun source hfrom => ?_⟩
    · rw [hrow]
      exact hext.run hrun
    · rw [hrow]
      rfl
    · rw [hrow]
      rfl
    · obtain ⟨-, row, hmem, hid, horganization⟩ := hsource source hfrom
      rw [hrow]
      exact ⟨row, (hext₁.rowsOf _).subset hmem, hid, horganization⟩
  cases taskType <;> cases hhandler
  · refine CsvProfilingHandler.execute_closed hclosed trivial (fun _ _ _ _ _ _ => trivial) ?_
    intro dataSource w₁ path w₂ source loaded result w₃ _ hseen₁ hseen₂ _ _ _ hseen₃ _
    refine hpersist _ w₃ (hdescends _ dataSource w₁ w₃ ?_ (hseen₂.1.trans hseen₃.1) rfl
      (fun source hfrom => by cases hfrom))
    exact hseen₁.1.trans (hseen₂.1.trans hseen₃.1)
  · refine CleaningHandler.execute_closed hclosed trivial (fun _ _ _ _ _ _ _ => trivial) ?_
    intro dataSource sourceTaskRunId profile w₁ w₂ w₃ path w₄ source loaded result _ hsource hstarted hseen₃ hseen₄ _ _ _
    obtain ⟨hmem, hid, horganization, hext, hext₁⟩ := hstarted.row
    have hlast : Extends w₁ w₄ := hext₁.trans (hseen₃.1.trans hseen₄.1)
    refine ⟨hwrite, fun _ => ?_⟩
    split
    · trivial
    · refine hpersist _ w₄ (hdescends _ dataSource w₁ w₄ (hext.trans hlast) hlast rfl (fun source hfrom => ?_))
      cases hfrom
      exact ⟨hsource, _, hmem, hid, horganization⟩
  · refine ExportHandler.execute_closed hclosed trivial (fun _ _ _ _ _ => trivial) ?_
    intro dataSource sourceTaskRunId matchRun w₁ w₂ w₃ standardizationRun w₄ source w₅ groups loaded _ hsource hstarted
      _ hseen₃ _ hseen₄ _ _ _ hseen₅ _
    obtain ⟨hmem, hid, horganization, hext, hext₁⟩ := hstarted.row
    have hlast : Extends w₁ w₅ := hext₁.trans (hseen₃.1.trans (hseen₄.1.trans hseen₅.1))
    refine ⟨hwrite, fun _ => statSize_closed hclosed trivial (fun w₆ size hseen₆ => hpersist _ w₆ ?_)⟩
    refine hdescends _ dataSource w₁ w₆ (hext.trans (hlast.trans hseen₆.1)) (hlast.trans hseen₆.1) rfl
      (fun source hfrom => ?_)
    cases hfrom
    exact ⟨hsource, _, hmem, hid, horganization⟩
  · refine StandardizationHandler.execute_closed hclosed trivial (fun _ _ _ _ _ => trivial) ?_
    intro dataSource sourceTaskRunId cleaningRun w₁ w₂ w₃ source w₄ w₅ columnOverrides lookupTables loaded result _
      hsource hstarted _ hseen₃ _ _ hseen₄ hseen₅ _ _ _
    obtain ⟨hmem, hid, horganization, hext, hext₁⟩ := hstarted.row
    have hlast : Extends w₁ w₅ := hext₁.trans (hseen₃.1.trans (hseen₄.1.trans hseen₅.1))
    refine ⟨hwrite, fun _ => hpersist _ w₅
      (hdescends _ dataSource w₁ w₅ (hext.trans hlast) hlast rfl (fun source hfrom => ?_))⟩
    cases hfrom
    exact ⟨hsource, _, hmem, hid, horganization⟩
  · refine MatchHandler.execute_closed hclosed trivial (fun _ _ _ _ _ => trivial) ?_
    intro dataSource sourceTaskRunId standardizationRun w₁ w₂ w₃ source w₄ ruleSetRow ruleSet loaded hload _ hsource
      hstarted _ hseen₃ _ hseen₄ _
    obtain ⟨hmem, hid, horganization, hext, hext₁⟩ := hstarted.row
    have hlast : Extends w₁ w₄ := hext₁.trans (hseen₃.1.trans hseen₄.1)
    refine hpersist _ w₄ (hdescends _ dataSource w₁ w₄ (hext.trans hlast) hlast rfl (fun source hfrom => ?_))
    cases hfrom
    exact ⟨hsource, _, hmem, hid, horganization⟩

theorem lineage_kept (dep : Deployment py) : (@lineageContract py.toPython).Kept (pipeline dep) where
  refl := Extends.refl
  trans := Extends.trans
  stable := fun hmeets hgrows c hc => (hmeets c hc).mono hgrows
  perform := fun {w effect} hinv hmeets _ => by
    refine ⟨?_, .perform effect⟩
    cases effect with
    | writeFile path content made => exact fun taskType row hrow => (hinv taskType row hrow).mono (.perform _)
    | commit c => exact hinv.commit (hmeets c rfl)
  launch := fun {w e id w' program} hinv _ hlaunch => by
    obtain ⟨run, task, handler, hrun, rfl, -, hhandler, -, rfl, rfl⟩ := execute_some hlaunch
    have hext : Extends w (w.lease run.id (some e)) := { Extends.refl w with }
    refine ⟨fun taskType row hrow => (hinv taskType row ?_).mono hext, hext, getHandler_descends hhandler _ hrun⟩
    cases taskType <;> exact hrow
  disturb := fun {w event} hinv _ => ⟨hinv.happen event, .happen event⟩

end

/-! ## Every run -/

section
variable {py : PythonValues}

/-- **In every run, every row is on a task run of its organization and its task and goes back, source by source, to a
profile of that organization**; a task run has at most one row of a stage, and no row is removed or changed but for its
status. -/
theorem records_rooted (dep : Deployment py) (w : World py.toPython) (before after : List (Label TaskRunId Event)) :
    Rooted (exec (step (pipeline dep)) (State.initial w.unused) before).shared ∧
      Distinct (exec (step (pipeline dep)) (State.initial w.unused) before).shared ∧
      Extends (exec (step (pipeline dep)) (State.initial w.unused) before).shared
        (exec (step (pipeline dep)) (State.initial w.unused) (before ++ after)).shared := by
  have hinitial : Safe lineageContract
      (State.initial w.unused : State _ (Query py.toPython) (Effect py.toPython) Outcome) := by
    refine .initial (fun taskType row hrow => ?_)
    cases taskType <;> cases hrow
  have hsafe := hinitial.exec (lineage_kept dep) (P := fun _ _ => True) (fun s l _ => ?_) before ?_
  · rw [Trace.exec_append]
    refine ⟨hsafe.invariant, distinct_exec before _ (fun taskType => ?_), extends_exec after _⟩
    cases taskType <;> exact List.nodup_nil
  · cases l with
    | advance e => exact ⟨fun _ _ _ => trivial, fun _ _ _ => trivial⟩
    | _ => trivial
  · rw [Trace.along_iff_split]
    exact fun _ _ _ _ => trivial

end

end Pipeline
end DataOps

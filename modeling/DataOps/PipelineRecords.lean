import DataOps.PipelineLooks
import DataOps.PipelineDescribed
/-!
# PipelineRecords — the rows of runs, and runs that have theirs

A run's row is inserted once, and from then on only its status changes, whatever programs the executions are.  An
execution of a run that has its row neither writes a file nor commits.
-/
namespace DataOps
namespace Pipeline

open Api (ApprovalStatus OrganizationId ReviewAction RunKind TaskId TaskRunId User)
open Programs (Acts Label State step)
open Schedule (TaskRow TaskRunRow TaskType Tables)
open Trace (exec)

section
variable {py : Python}

/-! ## Rows but for their statuses -/

def CleaningRun.unreviewed (row : CleaningRun py) : CleaningRun py := { row with status := .pendingReview }
def StandardizationRun.unreviewed (row : StandardizationRun) : StandardizationRun := { row with status := .pendingReview }
def MatchRun.unreviewed (row : MatchRun) : MatchRun := { row with status := .pendingReview }
def ExportRun.unreviewed (row : ExportRun) : ExportRun := { row with status := .pendingReview }

/-- **Rows are added and none is removed or changed**, but for the statuses. -/
structure Extends (w w' : World py) : Prop where
  dataProfiles        : w.dataProfiles <+: w'.dataProfiles
  cleaningRuns        : w.cleaningRuns.map CleaningRun.unreviewed <+: w'.cleaningRuns.map CleaningRun.unreviewed
  standardizationRuns : w.standardizationRuns.map StandardizationRun.unreviewed <+:
    w'.standardizationRuns.map StandardizationRun.unreviewed
  matchRuns           : w.matchRuns.map MatchRun.unreviewed <+: w'.matchRuns.map MatchRun.unreviewed
  exportRuns          : w.exportRuns.map ExportRun.unreviewed <+: w'.exportRuns.map ExportRun.unreviewed
  commits             : w.commits <+: w'.commits
  runs                : w.tables.runs <+: w'.tables.runs
  tasks               : w'.tables.tasks = w.tables.tasks

/-- The rows of a stage. -/
def World.rowsOf (w : World py) : TaskType → List RunRow
  | .sync        => w.dataProfiles.map (fun r => r.toRunRow)
  | .transform   => w.cleaningRuns.map (fun r => r.toRunRow)
  | .standardize => w.standardizationRuns.map (fun r => r.toRunRow)
  | .match       => w.matchRuns.map (fun r => r.toRunRow)
  | .export      => w.exportRuns.map (fun r => r.toRunRow)
  | _            => []

/-- **A run has at most one row of a stage.** -/
def Distinct (w : World py) : Prop := ∀ taskType, ((w.rowsOf taskType).map (fun r => r.taskRunId)).Nodup

/-- The stage of the run has its row. -/
def Finished (w : World py) (id : TaskRunId) : Prop :=
  ∃ run task, w.tables.runs.find? (fun run => run.id = id) = some run ∧ w.tables.tasks.get? run.taskId = some task ∧
    ∃ row ∈ w.rowsOf task.taskType, row.taskRunId = id

end

section
variable {py : PythonValues} {dep : Deployment py} {w w' w'' : World py.toPython} {id : TaskRunId}

theorem Extends.refl (w : World py.toPython) : Extends w w :=
  ⟨List.prefix_rfl, List.prefix_rfl, List.prefix_rfl, List.prefix_rfl, List.prefix_rfl,
    List.prefix_rfl, List.prefix_rfl, rfl⟩

theorem Extends.trans (h : Extends w w') (h' : Extends w' w'') : Extends w w'' where
  dataProfiles := h.dataProfiles.trans h'.dataProfiles
  cleaningRuns := h.cleaningRuns.trans h'.cleaningRuns
  standardizationRuns := h.standardizationRuns.trans h'.standardizationRuns
  matchRuns := h.matchRuns.trans h'.matchRuns
  exportRuns := h.exportRuns.trans h'.exportRuns
  commits := h.commits.trans h'.commits
  runs := h.runs.trans h'.runs
  tasks := h'.tasks.trans h.tasks

/-! ## What each change leaves -/

theorem Extends.review (kind : RunKind) (taskRunId : TaskRunId) (action : ReviewAction) :
    Extends w (w.review kind taskRunId action) := by
  have hrefl := Extends.refl w
  cases kind with
  | cleaning =>
    refine { hrefl with cleaningRuns := ?_ }
    simp only [World.review]
    rw [map_setStatus]
    exact fun _ _ => rfl
  | standardization =>
    refine { hrefl with standardizationRuns := ?_ }
    simp only [World.review]
    rw [map_setStatus]
    exact fun _ _ => rfl
  | matching =>
    refine { hrefl with matchRuns := ?_ }
    simp only [World.review]
    rw [map_setStatus]
    exact fun _ _ => rfl
  | «export» =>
    refine { hrefl with exportRuns := ?_ }
    simp only [World.review]
    rw [map_setStatus]
    exact fun _ _ => rfl

theorem Extends.happen (event : Event) : Extends w (w.happen event) := by
  cases event with
  | createRun taskId sourceTaskRunId currentUser id =>
    simp only [World.happen]
    split
    · refine { Extends.refl w with runs := ?_, tasks := ?_ } <;> unfold Schedule.Tables.insertRun <;> split <;> simp
    · exact .refl w
  | replaceFile organizationId relative content => exact { Extends.refl w with }
  | review kind taskRunId action => exact .review kind taskRunId action
  | configure configuration => exact { Extends.refl w with }
  | loseLease id => exact { Extends.refl w with }

theorem Extends.perform (effect : Effect py.toPython) : Extends w (w.perform effect).1 := by
  cases effect with
  | writeFile path content made => exact { Extends.refl w with }
  | commit c =>
    have hrefl := Extends.refl w
    simp only [World.perform]
    split
    · exact hrefl
    · cases c with
      | dataProfile => exact { hrefl with dataProfiles := List.prefix_append _ _, commits := List.prefix_append _ _ }
      | cleaningRun =>
        refine { hrefl with cleaningRuns := ?_, commits := List.prefix_append _ _ }
        simp [World.insert]
      | standardizationRun =>
        refine { hrefl with standardizationRuns := ?_, commits := List.prefix_append _ _ }
        simp [World.insert]
      | matchRun =>
        refine { hrefl with matchRuns := ?_, commits := List.prefix_append _ _ }
        simp [World.insert]
      | exportRun =>
        refine { hrefl with exportRuns := ?_, commits := List.prefix_append _ _ }
        simp [World.insert]

theorem review_rowsOf (kind : RunKind) (taskRunId : TaskRunId) (action : ReviewAction) :
    (w.review kind taskRunId action).rowsOf = w.rowsOf := by
  funext taskType
  cases kind <;> cases taskType <;> try rfl
  all_goals
    simp only [World.review, World.rowsOf]
    rw [map_setStatus]
    exact fun _ _ => rfl

theorem Distinct.happen (h : Distinct w) (event : Event) : Distinct (w.happen event) := by
  cases event with
  | createRun taskId sourceTaskRunId currentUser id =>
    obtain ⟨tables, htables, -⟩ := happen_createRun_eq w taskId sourceTaskRunId currentUser id
    rw [htables]
    exact h
  | replaceFile organizationId relative content => exact h
  | review kind taskRunId action =>
    intro taskType
    rw [World.happen, review_rowsOf]
    exact h taskType
  | configure configuration => exact h
  | loseLease id => exact h

/-- A row is added to the table of its stage, where its run has none. -/
theorem rowsOf_insert (c : Commit py.toPython) (hrecorded : w.recorded c = false) (taskType : TaskType) :
    (w.insert c).rowsOf taskType = w.rowsOf taskType ∨
      (w.insert c).rowsOf taskType = w.rowsOf taskType ++ [c.row] ∧
        ∀ row ∈ w.rowsOf taskType, row.taskRunId ≠ c.row.taskRunId := by
  cases c <;> cases taskType <;>
    first
      | exact .inl rfl
      | exact .inr ⟨by simp [World.insert, World.rowsOf, Commit.row],
          by simpa [World.recorded, World.rowsOf, Commit.row] using hrecorded⟩

theorem Distinct.perform (h : Distinct w) (effect : Effect py.toPython) : Distinct (w.perform effect).1 := by
  cases effect with
  | writeFile path content made => exact h
  | commit c =>
    simp only [World.perform]
    split
    · exact h
    · rename_i hrecorded
      intro taskType
      change (((w.insert c).rowsOf taskType).map (fun r => r.taskRunId)).Nodup
      rcases rowsOf_insert c (by simpa using hrecorded) taskType with heq | ⟨heq, hnew⟩ <;> rw [heq]
      · exact h taskType
      · rw [List.map_append, List.map_singleton, ← List.concat_eq_append]
        refine List.Nodup.concat (fun hmem => ?_) (h taskType)
        obtain ⟨row, hrow, hid⟩ := List.mem_map.1 hmem
        exact hnew row hrow hid

theorem ofTaskRun_organizationId {α : Type} {row : α → RunRow} {rows : List α} {taskRunId : TaskRunId}
    {organizationId : OrganizationId} {r : α} (h : ofTaskRun row rows taskRunId organizationId = some r) :
    (row r).organizationId = organizationId := by
  have hfound := List.find?_some h
  exact (of_decide_eq_true hfound).2

/-- A launched execution holds the lease of its run, which was free. -/
theorem execute_some {e : Nat} {program : Execution py.toPython} (h : w.execute dep e id = some (w', program)) :
    ∃ run task handler, w.tables.runs.find? (fun run => run.id = id) = some run ∧ run.id = id ∧
      w.tables.tasks.get? run.taskId = some task ∧ getHandler dep task.taskType = some handler ∧ w.leases id = none ∧
      w' = w.lease id (some e) ∧ program = handler ⟨run, task.dataSourceId.bind w.dataSource⟩ := by
  simp only [World.execute, Option.bind_eq_bind, Option.bind_eq_some_iff] at h
  obtain ⟨run, hrun, task, htask, handler, hhandler, h⟩ := h
  split at h
  · rename_i hfree
    cases h
    exact ⟨run, task, handler, hrun, by simpa using List.find?_some hrun, htask, hhandler, hfree, rfl, rfl⟩
  · cases h

end

/-! ## Every run -/

section
variable {py : PythonValues} {dep : Deployment py}

/-- A property of the world that acts, leases and events keep, and that holds of another world after it. -/
theorem shared_step {P : World py.toPython → World py.toPython → Prop} (hrefl : ∀ w, P w w)
    (hperform : ∀ w effect, P w (w.perform effect).1) (hlease : ∀ w id holder, P w (w.lease id holder))
    (hhappen : ∀ w event, P w (w.happen event))
    (s : State (World py.toPython) (Query py.toPython) (Effect py.toPython) Outcome) (l : Label TaskRunId Event) :
    P s.shared (step (pipeline dep) s l).shared := by
  rcases Programs.step_cases (pipeline dep) s l with heq | ⟨e, id, w', program, rfl, hlaunch, heq⟩ |
    ⟨e, query, next, rfl, hp, heq⟩ | ⟨e, effect, next, rfl, hp, heq⟩ | ⟨e, heq⟩ | ⟨event, rfl, heq⟩ <;> rw [heq]
  · exact hrefl s.shared
  · obtain ⟨-, -, -, -, -, -, -, -, rfl, -⟩ := execute_some hlaunch
    exact hlease s.shared id (some e)
  · exact hrefl s.shared
  · exact hperform s.shared effect
  · exact hrefl s.shared
  · exact hhappen s.shared event

theorem extends_step (s : State (World py.toPython) (Query py.toPython) (Effect py.toPython) Outcome)
    (l : Label TaskRunId Event) : Extends s.shared (step (pipeline dep) s l).shared :=
  shared_step Extends.refl (fun _ => Extends.perform) (fun w _ _ => { Extends.refl w with }) (fun _ => Extends.happen) s l

theorem extends_exec (ls : List (Label TaskRunId Event))
    (s : State (World py.toPython) (Query py.toPython) (Effect py.toPython) Outcome) :
    Extends s.shared (exec (step (pipeline dep)) s ls).shared :=
  Trace.exec_invariant _ (I := fun s' => Extends s.shared s'.shared)
    (fun s' l h => h.trans (extends_step s' l)) ls s (.refl _)

theorem distinct_exec (ls : List (Label TaskRunId Event))
    (s : State (World py.toPython) (Query py.toPython) (Effect py.toPython) Outcome) (h : Distinct s.shared) :
    Distinct (exec (step (pipeline dep)) s ls).shared :=
  Trace.exec_invariant _ (I := fun s' => Distinct s'.shared)
    (fun s' l h => shared_step (P := fun w w' => Distinct w → Distinct w') (fun _ => id)
      (fun _ effect h => h.perform effect)
      (fun _ _ _ h => h) (fun _ event h => h.happen event) s' l h) ls s h

end

/-! ## A run that has its row -/

section
variable {py : PythonValues} {dep : Deployment py} {w w' : World py.toPython} {id : TaskRunId}

theorem map_prefix {α β γ : Type} {f : α → β} {g : β → γ} {k : α → γ} (hk : ∀ a, g (f a) = k a) {xs ys : List α}
    (h : xs.map f <+: ys.map f) : xs.map k <+: ys.map k := by
  have hmap := h.map g
  simpa only [List.map_map, Function.comp_def, hk] using hmap

theorem Extends.rowsOf (h : Extends w w') (taskType : TaskType) : w.rowsOf taskType <+: w'.rowsOf taskType := by
  cases taskType with
  | sync => exact h.dataProfiles.map _
  | transform => exact map_prefix (g := fun r => r.toRunRow) (fun _ => rfl) h.cleaningRuns
  | standardize => exact map_prefix (g := fun r => r.toRunRow) (fun _ => rfl) h.standardizationRuns
  | «match» => exact map_prefix (g := fun r => r.toRunRow) (fun _ => rfl) h.matchRuns
  | «export» => exact map_prefix (g := fun r => r.toRunRow) (fun _ => rfl) h.exportRuns
  | _ => exact List.prefix_rfl

theorem Extends.run (h : Extends w w') {run : TaskRunRow}
    (hrun : w.tables.runs.find? (fun run => run.id = id) = some run) :
    w'.tables.runs.find? (fun run => run.id = id) = some run := by
  obtain ⟨added, hadded⟩ := h.runs
  rw [← hadded, List.find?_append, hrun, Option.some_or]

/-- The second look of a stage finds no row of the run, or it ends. -/
theorem Started.absurd (taskType : TaskType) {α : Type} {asked : World py.toPython → Option α} {upstream : α}
    {seen : World py.toPython → Query py.toPython → World py.toPython → Prop} {w₁ : World py.toPython}
    {rows : World py.toPython → List RunRow} (h : Started seen w asked rows id upstream w₁ w')
    (hrows : rows w' = w'.rowsOf taskType) (hthere : ∃ row ∈ w'.rowsOf taskType, row.taskRunId = id) : False := by
  obtain ⟨row, hrow, hid⟩ := hthere
  rw [← hrows] at hrow
  exact h.new row hrow hid

/-- **A stage of a run that has its row only looks.** -/
theorem getHandler_confined (w : World py.toPython) {taskType : TaskType}
    {handler : ExecutionContext → Execution py.toPython} (hhandler : getHandler dep taskType = some handler)
    (context : ExecutionContext) :
    (handler context).Confined (fun w => ∃ row ∈ w.rowsOf taskType, row.taskRunId = context.taskRun.id) (fun _ => True)
      (fun _ => False) := by
  have hclosed : Programs.Closed (fun _ : Query py.toPython => True)
      (fun _ _ w => ∃ row ∈ w.rowsOf taskType, row.taskRunId = context.taskRun.id)
      (fun (program : Execution py.toPython) _ => program.Confined _ _ (fun _ => False)) := Programs.confined_closed
  cases taskType <;> cases hhandler
  · refine CsvProfilingHandler.execute_closed (w := w) hclosed trivial (fun _ _ _ _ _ _ => trivial) ?_
    intro dataSource w₁ path w₂ source loaded result w₃ _ _ _ _ _ _ hseen hnew
    obtain ⟨row, hrow, hid⟩ := hseen
    obtain ⟨profile, hprofile, rfl⟩ := List.mem_map.1 hrow
    exact (hnew profile hprofile hid).elim
  · refine CleaningHandler.execute_closed (w := w) hclosed trivial (fun _ _ _ _ _ _ _ => trivial) ?_
    intro dataSource sourceTaskRunId profile w₁ w₂ w₃ path w₄ source loaded result _ _ hstarted
    exact (hstarted.absurd .transform rfl hstarted.again).elim
  · refine ExportHandler.execute_closed (w := w) hclosed trivial (fun _ _ _ _ _ => trivial) ?_
    intro dataSource sourceTaskRunId matchRun w₁ w₂ w₃ standardizationRun w₄ source w₅ groups loaded _ _ hstarted
    exact (hstarted.absurd .export rfl hstarted.again).elim
  · refine StandardizationHandler.execute_closed (w := w) hclosed trivial (fun _ _ _ _ _ => trivial) ?_
    intro dataSource sourceTaskRunId cleaningRun w₁ w₂ w₃ source w₄ w₅ columnOverrides lookupTables loaded result _ _
      hstarted
    exact (hstarted.absurd .standardize rfl hstarted.again).elim
  · refine MatchHandler.execute_closed (w := w) hclosed trivial (fun _ _ _ _ _ => trivial) ?_
    intro dataSource sourceTaskRunId standardizationRun w₁ w₂ w₃ source w₄ ruleSetRow ruleSet loaded hload _ _ hstarted
    exact (hstarted.absurd .match rfl hstarted.again).elim

/-- **An execution launched on a run that has its row neither writes a file nor commits**, whatever happens around it. -/
theorem finished_only_looks (dep : Deployment py)
    (s : State (World py.toPython) (Query py.toPython) (Effect py.toPython) Outcome) (e : Nat) (id : TaskRunId)
    (hfinished : Finished s.shared id) (hfree : s.programs e = none) (ls : List (Label TaskRunId Event))
    (hls : ∀ id', .launch e id' ∈ ls → id' = id) : ¬ Acts ((exec (step (pipeline dep)) s ls).programs e) := by
  obtain ⟨run, task, hrun, htask, hrow⟩ := hfinished
  have hconfined : ∀ program, (exec (step (pipeline dep)) s ls).programs e = some program →
      program.Confined (fun w => ∃ row ∈ w.rowsOf task.taskType, row.taskRunId = id) (fun _ => True) (fun _ => False) := by
    refine Programs.Confined.exec (m := pipeline dep) (J := fun s' => Extends s.shared s'.shared) ?_ ?_ ?_ ls hls
      (.refl s.shared) (fun program hprogram => by rw [hfree] at hprogram; cases hprogram)
    · rintro s' hext
      obtain ⟨row, hmem, hid⟩ := hrow
      exact ⟨row, (hext.rowsOf task.taskType).subset hmem, hid⟩
    · exact fun s' l hext => hext.trans (extends_step s' l)
    · rintro s' id' w' program hext rfl hlaunch
      obtain ⟨run', task', handler, hrun', rfl, htask', hhandler, -, -, rfl⟩ := execute_some hlaunch
      have hsame := (hext.run hrun).symm.trans hrun'
      cases hsame
      have htask'' : s.shared.tables.tasks.get? run.taskId = some task' := hext.tasks ▸ htask'
      have htasks := htask.symm.trans htask''
      cases htasks
      exact getHandler_confined s.shared hhandler ⟨run, task.dataSourceId.bind s'.shared.dataSource⟩
  rintro ⟨effect, next, hact⟩
  exact (hconfined _ hact).1

end

/-- Run 1 has its profile and is executed again. -/
def finishedState : State (World asciiValues.toPython) (Query asciiValues.toPython)
    (Effect asciiValues.toPython) Outcome :=
  .initial { profiledWorld ['a'] with
    tables := ⟨[(1, ⟨1, true⟩)], [(1, stageTask .sync)], [⟨1, 1, 1, some 1, none⟩]⟩ }

theorem finished_only_looks_profile :
    ¬ Acts ((exec (step (pipeline headerDeployment)) finishedState
      [.launch 1 1, .advance 1, .disturb (.loseLease 1), .launch 1 1, .advance 1]).programs 1) :=
  finished_only_looks headerDeployment finishedState 1 1 ⟨_, _, rfl, rfl, _, List.mem_cons_self, rfl⟩ rfl _ (by simp)

end Pipeline
end DataOps

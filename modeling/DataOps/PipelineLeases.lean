import DataOps.PipelineRecords
/-!
# PipelineLeases — the stages while no execution outlives its lease

A run's output file and its row are its lease holder's alone while a lease is lost only by an execution that is over.  What
the others do then is nothing to it (`Discipline`): the file it wrote is still its own at its commit.
-/
namespace DataOps
namespace Pipeline

open Api (OrganizationId TaskRunId)
open Programs (Disciplined Discipline KeepsOwner Label Over Parts Program State step)
open Trace (exec Along)

/-! ## The files of a run -/

/-- The output root of the stage. -/
def Made.root : Made → OutputRoot
  | .cleaned _      => .csvOutputRoot
  | .standardized _ => .csvStandardizedRoot
  | .exported _     => .csvExportedRoot

section
variable {py : PythonValues} (dep : Deployment py)

/-- The rows of the stage that writes below a root. -/
def World.stageRows (w : World py.toPython) : OutputRoot → List RunRow
  | .csvOutputRoot       => w.cleaningRuns.map (fun r => r.toRunRow)
  | .csvStandardizedRoot => w.standardizationRuns.map (fun r => r.toRunRow)
  | .csvExportedRoot     => w.exportRuns.map (fun r => r.toRunRow)

/-- The rows of the runs that wrote a file. -/
def World.fileRows (w : World py.toPython) : List OutputRow :=
  w.outputRows ++ w.exportRuns.map (fun r => r.toOutputRow)

/-- **Every row has the hash of its file.** -/
def FilesMatch (w : World py.toPython) : Prop :=
  ∀ row ∈ w.fileRows, ∃ content, w.files row.outputFilePath = some content ∧ dep.sha256 content = row.outputSha256

/-- A lease is lost by an execution that is over. -/
def LeaseKept (s : State (World py.toPython) (Query py.toPython) (Effect py.toPython) Outcome)
    (l : Label TaskRunId Event) : Prop :=
  ∀ id e, l = .disturb (.loseLease id) → s.shared.leases id = some e → Over (s.programs e)

theorem leaseKept_of_ne {s : State (World py.toPython) (Query py.toPython) (Effect py.toPython) Outcome}
    {l : Label TaskRunId Event} (h : ∀ id, l ≠ .disturb (.loseLease id)) : LeaseKept s l :=
  fun id _ hlabel => absurd hlabel (h id)

/-- No lease is lost. -/
theorem along_leaseKept_of_notMem (dep : Deployment py)
    {s : State (World py.toPython) (Query py.toPython) (Effect py.toPython) Outcome} {ls : List (Label TaskRunId Event)}
    (h : ∀ id, .disturb (.loseLease id) ∉ ls) : Along (step (pipeline dep)) LeaseKept s ls := by
  rw [Trace.along_iff_split]
  intro pre l post hls
  refine leaseKept_of_ne (fun id heq => h id ?_)
  rw [hls, ← heq]
  exact List.mem_append_right _ List.mem_cons_self

/-- The file and the row are of the run. -/
def Effect.OfRun (id : TaskRunId) : Effect py.toPython → Prop
  | .writeFile path _ _ => path.isOutputOf id = true
  | .commit c           => ∀ row made, c.output = some (row, made) →
    row.taskRunId = id ∧ ∃ organizationId, row.outputFilePath = .output made.root organizationId id

/-- The rows on files are those committed, each in the table of its stage and on a file of its run. -/
structure Filed (w : World py.toPython) : Prop where
  written   : Written dep w
  current   : Current w
  listed    : ∀ c ∈ w.commits, ∀ row made, c.output = some (row, made) →
    (∃ organizationId, row.outputFilePath = .output made.root organizationId row.taskRunId) ∧
      ∃ r ∈ w.stageRows made.root, r.taskRunId = row.taskRunId
  committed : ∀ row ∈ w.fileRows, ∃ c ∈ w.commits, ∃ made, c.output = some (row, made)
  outputs   : ∀ entry ∈ w.writes, ∃ id, entry.1.isOutputOf id = true

/-- What the others leave of a run, and what its execution may do. -/
structure Untouched (id : TaskRunId) (w w' : World py.toPython) : Prop where
  lastMade : ∀ path, path.isOutputOf id = true → w'.lastMade path = w.lastMade path
  commits  : ∀ c ∈ w'.commits, ∀ row made, c.output = some (row, made) → row.taskRunId = id → c ∈ w.commits

def runDiscipline (id : TaskRunId) : Discipline (World py.toPython) (Effect py.toPython) where
  rely := Untouched id
  invariant := Filed dep
  acts := fun w effect => effect.Computed dep ∧ KeepsOutput w effect ∧ effect.OfRun id

/-- The runs, each its lease holder's. -/
def runs : Parts (World py.toPython) (Effect py.toPython) TaskRunId where
  discipline := runDiscipline dep
  owner := World.leases

end

section
variable {py : PythonValues} {dep : Deployment py} {w w' w'' : World py.toPython} {id : TaskRunId}

theorem Untouched.trans (h : Untouched id w w') (h' : Untouched id w' w'') : Untouched id w w'' where
  lastMade := fun path hpath => (h'.lastMade path hpath).trans (h.lastMade path hpath)
  commits := fun c hc row made hrow hid => h.commits c (h'.commits c hc row made hrow hid) row made hrow hid

theorem Untouched.of_eq (hwrites : w'.writes = w.writes) (hcommits : w'.commits = w.commits) : Untouched id w w' where
  lastMade := fun path _ => lastMade_congr hwrites path
  commits := fun _ hc _ _ _ _ => hcommits ▸ hc

/-! ## What keeps the invariant -/

/-- It is about the files that were written, the history and the rows, but for their statuses. -/
theorem Filed.of_eq (h : Filed dep w) (hwrites : w'.writes = w.writes) (hcommits : w'.commits = w.commits)
    (hfiles : ∀ entry ∈ w.writes, w'.files entry.1 = w.files entry.1) (hstages : w'.stageRows = w.stageRows)
    (hrows : w'.fileRows = w.fileRows) : Filed dep w' where
  written := h.written.of_eq hwrites hcommits hfiles
  current := h.current.of_eq hwrites hcommits
  listed := by
    rw [hcommits, hstages]
    exact h.listed
  committed := by
    rw [hcommits, hrows]
    exact h.committed
  outputs := by
    rw [hwrites]
    exact h.outputs

theorem Filed.unused (w : World py.toPython) : Filed dep w.unused where
  written := .of_nil rfl rfl
  current := .of_nil rfl
  listed := fun c hc => by cases hc
  committed := fun row hrow => by cases hrow
  outputs := fun entry hentry => by cases hentry

theorem review_stageRows (kind : Api.RunKind) (taskRunId : TaskRunId) (action : Api.ReviewAction) :
    (w.review kind taskRunId action).stageRows = w.stageRows := by
  funext root
  cases kind <;> cases root <;> try rfl
  all_goals
    simp only [World.review, World.stageRows]
    rw [map_setStatus]
    exact fun _ _ => rfl

theorem review_fileRows (kind : Api.RunKind) (taskRunId : TaskRunId) (action : Api.ReviewAction) :
    (w.review kind taskRunId action).fileRows = w.fileRows := by
  rw [World.fileRows, review_outputRows, World.fileRows]
  cases kind with
  | cleaning => rfl
  | standardization => rfl
  | matching => rfl
  | «export» =>
    simp only [World.review]
    rw [map_setStatus]
    exact fun _ _ => rfl

/-- A created run holds no lease. -/
theorem happen_createRun_leases (w : World py.toPython) (taskId : Api.TaskId) (sourceTaskRunId : Option TaskRunId)
    (currentUser : Api.User) (id : TaskRunId) :
    (w.happen (.createRun taskId sourceTaskRunId currentUser id)).leases = w.leases := by
  obtain ⟨tables, htables, -⟩ := happen_createRun_eq w taskId sourceTaskRunId currentUser id
  rw [htables]

/-- **Every event keeps the invariant**, and leaves every run untouched. -/
theorem Filed.happen (h : Filed dep w) (event : Event) :
    Filed dep (w.happen event) ∧ ∀ id, Untouched id w (w.happen event) := by
  cases event with
  | createRun taskId sourceTaskRunId currentUser id =>
    obtain ⟨tables, htables, -⟩ := happen_createRun_eq w taskId sourceTaskRunId currentUser id
    rw [htables]
    exact ⟨h.of_eq rfl rfl (fun _ _ => rfl) rfl rfl, fun _ => .of_eq rfl rfl⟩
  | replaceFile organizationId relative content =>
    refine ⟨h.of_eq rfl rfl (fun entry hentry => if_neg (fun hpath => ?_)) rfl rfl, fun _ => .of_eq rfl rfl⟩
    -- an input file is no output
    obtain ⟨id, hid⟩ := h.outputs entry hentry
    rw [hpath] at hid
    cases hid
  | review kind taskRunId action =>
    have hsame : (w.review kind taskRunId action).commits = w.commits ∧
      (w.review kind taskRunId action).writes = w.writes ∧
        (w.review kind taskRunId action).files = w.files := by cases kind <;> exact ⟨rfl, rfl, rfl⟩
    obtain ⟨hcommits, hwrites, hfiles⟩ := hsame
    refine ⟨h.of_eq hwrites hcommits (fun entry _ => ?_) (review_stageRows kind taskRunId action)
      (review_fileRows kind taskRunId action), fun _ => .of_eq hwrites hcommits⟩
    rw [World.happen, hfiles]
  | configure configuration => exact ⟨h.of_eq rfl rfl (fun _ _ => rfl) rfl rfl, fun _ => .of_eq rfl rfl⟩
  | loseLease id => exact ⟨h.of_eq rfl rfl (fun _ _ => rfl) rfl rfl, fun _ => .of_eq rfl rfl⟩

/-- A commit adds its row to the table of its stage, and no other row on a file. -/
theorem mem_stageRows_insert {c : Commit py.toPython} {row : OutputRow} {made : Made} (h : c.output = some (row, made)) :
    row.toRunRow ∈ (w.insert c).stageRows made.root := by
  cases c <;> cases h <;> simp [World.insert, World.stageRows, Made.root]

theorem stageRows_insert {c : Commit py.toPython} {root : OutputRoot} {row : RunRow} (h : row ∈ w.stageRows root) :
    row ∈ (w.insert c).stageRows root := by
  cases c <;> cases root <;> first | exact h | simp_all [World.insert, World.stageRows]

theorem mem_fileRows_insert {c : Commit py.toPython} {row : OutputRow} (h : row ∈ (w.insert c).fileRows) :
    row ∈ w.fileRows ∨ ∃ made, c.output = some (row, made) := by
  rcases List.mem_append.1 h with h | h
  · exact (mem_outputRows_insert h).imp_left (List.mem_append_left _)
  · cases c with
    | dataProfile => exact .inl (List.mem_append_right _ h)
    | cleaningRun => exact .inl (List.mem_append_right _ h)
    | standardizationRun => exact .inl (List.mem_append_right _ h)
    | matchRun => exact .inl (List.mem_append_right _ h)
    | exportRun new matchRun standardizationRun inputs =>
      simp only [World.insert, List.map_append, List.mem_append, List.map_singleton, List.mem_singleton] at h
      rcases h with h | rfl
      · exact .inl (List.mem_append_right _ h)
      · exact .inr ⟨_, rfl⟩

/-- **An act of a run's execution keeps the invariant**, and leaves the other runs untouched. -/
theorem Filed.perform (h : Filed dep w) {effect : Effect py.toPython} (hacts : (runDiscipline dep id).acts w effect) :
    Filed dep (w.perform effect).1 ∧ ∀ id', id' ≠ id → Untouched id' w (w.perform effect).1 := by
  obtain ⟨hcomputed, hkeeps, hof⟩ := hacts
  have hwritten := h.written.perform hcomputed
  have hcurrent := h.current.perform hkeeps
  cases effect with
  | writeFile path content made =>
    refine ⟨⟨hwritten, hcurrent, h.listed, h.committed, fun entry hentry => ?_⟩,
      fun id' hne => ⟨fun path' hpath' => ?_, ?_⟩⟩
    · rcases List.mem_cons.1 hentry with rfl | hentry
      · exact ⟨id, hof⟩
      · exact h.outputs entry hentry
    · rw [lastMade_writeFile, if_neg]
      rintro rfl
      -- a file is of one run
      cases path with
      | input => cases hof
      | output root organizationId taskRunId =>
        simp only [Effect.OfRun, FilePath.isOutputOf, decide_eq_true_eq] at hof hpath'
        exact hne (hpath'.symm.trans hof)
    · exact fun c hc _ _ _ _ => hc
  | commit c =>
    simp only [World.perform] at hwritten hcurrent ⊢
    split
    · exact ⟨h, fun _ _ => .of_eq rfl rfl⟩
    · rename_i hrecorded
      rw [if_neg hrecorded] at hwritten hcurrent
      refine ⟨⟨hwritten, hcurrent, fun c' hc' row made hrow => ?_, fun row hrow => ?_, ?_⟩, fun id' hne => ⟨?_, ?_⟩⟩
      · rcases List.mem_append.1 hc' with hold | hnew
        · obtain ⟨hpath, r, hr, hid⟩ := h.listed c' hold row made hrow
          exact ⟨hpath, r, stageRows_insert hr, hid⟩
        · rw [List.mem_singleton.1 hnew] at hrow
          obtain ⟨hid, hpath⟩ := hof row made hrow
          exact ⟨by rw [hid]; exact hpath, row.toRunRow, mem_stageRows_insert hrow, rfl⟩
      · rcases mem_fileRows_insert hrow with hold | ⟨made, hnew⟩
        · obtain ⟨c', hc', hmade⟩ := h.committed row hold
          exact ⟨c', List.mem_append_left _ hc', hmade⟩
        · exact ⟨c, List.mem_append_right _ (List.mem_singleton.2 rfl), made, hnew⟩
      · dsimp only
        rw [insert_writes]
        exact h.outputs
      · exact fun path _ => lastMade_congr (insert_writes c) path
      · intro c' hc' row made hrow hid
        rcases List.mem_append.1 hc' with hold | hnew
        · exact hold
        · rw [List.mem_singleton.1 hnew] at hrow
          exact absurd (hid.symm.trans (hof row made hrow).1) hne

theorem Filed.filesMatch (h : Filed dep w) : FilesMatch dep w := by
  intro row hrow
  obtain ⟨c, hc, made, hmade⟩ := h.committed row hrow
  exact h.written.file hc hmade (h.current c hc row made hmade)

/-! ## The handlers -/

/-- What is seen between an execution's steps. -/
abbrev Sees (dep : Deployment py) (id : TaskRunId) (w : World py.toPython) (_ : Query py.toPython)
    (w' : World py.toPython) : Prop := Untouched id w w' ∧ Filed dep w'

/-- **The write of a run that has no row.** -/
theorem write_obeys {root : OutputRoot} {organizationId : OrganizationId} {content : ByteArray} {made : Made}
    {next : Execution py.toPython} (hroot : made.root = root) (hnew : ∀ row ∈ w.stageRows root, row.taskRunId ≠ id)
    (hfiled : Filed dep w) (huntouched : Untouched id w w') (hmade : made.output dep = some content)
    (hnext : ∀ w'', w''.lastMade (.output root organizationId id) = some made →
      next.Obeys (runDiscipline dep id) World.perform w'') :
    Program.Obeys (runDiscipline dep id) World.perform
      (.act (.writeFile (.output root organizationId id) content made) (fun _ => next) : Execution py.toPython) w' := by
  intro w'' huntouched' hfiled'
  refine ⟨⟨hmade, fun c hc row made' hrow hpath => ?_, by simp [Effect.OfRun, FilePath.isOutputOf]⟩, hnext _ ?_⟩
  · -- a row on this file would have been there at the look for one
    obtain ⟨⟨organizationId', hpath'⟩, -⟩ := hfiled'.listed c hc row made' hrow
    rw [hpath] at hpath'
    cases hpath'
    have hc' := (huntouched.trans huntouched').commits c hc row made' hrow rfl
    obtain ⟨-, r, hr, hid⟩ := hfiled.listed c hc' row made' hrow
    exact absurd hid (hnew r hr)
  · rw [lastMade_writeFile, if_pos rfl]

/-- **The commit of a run whose file is its own.** -/
theorem persist_obeys {c : Commit py.toPython} (hcomputed : Effect.Computed dep (.commit c))
    (hof : Effect.OfRun id (.commit c : Effect py.toPython))
    (hlast : ∀ row made, c.output = some (row, made) → w.lastMade row.outputFilePath = some made) :
    (persist c).Obeys (runDiscipline dep id) World.perform w := by
  intro w' huntouched _
  refine ⟨⟨hcomputed, fun _ row made hrow => ?_, hof⟩,
    persisted_closed (Discipline.closed (runDiscipline dep id) World.perform) trivial c _⟩
  obtain ⟨-, organizationId, hpath⟩ := hof row made hrow
  rw [huntouched.lastMade _ (by simp [hpath, FilePath.isOutputOf])]
  exact hlast row made hrow

theorem persist_obeys_of_output_none {c : Commit py.toPython} (houtput : c.output = none) :
    (persist c).Obeys (runDiscipline dep id) World.perform w := by
  have hnot : ∀ row made, c.output ≠ some (row, made) := fun _ _ hrow => by rw [houtput] at hrow; cases hrow
  exact persist_obeys (fun row made hrow => absurd hrow (hnot row made)) (fun row made hrow => absurd hrow (hnot row made))
    (fun row made hrow => absurd hrow (hnot row made))

/-- A row on the file the execution wrote. -/
theorem persistOutput_obeys {context : ExecutionContext} {dataSource : DataSource} {sourceTaskRunId : TaskRunId}
    {root : OutputRoot} {content : ByteArray} {rowCount : Nat} {made : Made} {c : Commit py.toPython}
    (hroot : made.root = root) (hmade : made.output dep = some content)
    (hc : c.output = some (outputRow dep context dataSource sourceTaskRunId root content rowCount, made))
    (hlast : w.lastMade (.output root dataSource.organizationId context.taskRun.id) = some made) :
    (persist c).Obeys (runDiscipline dep context.taskRun.id) World.perform w := by
  refine persist_obeys (outputRow_computed hmade hc) (fun row made' hrow => ?_) (fun row made' hrow => ?_)
  · rw [hc] at hrow
    cases hrow
    exact ⟨rfl, dataSource.organizationId, by rw [hroot]; rfl⟩
  · rw [hc] at hrow
    cases hrow
    exact hlast

theorem Started.new_stageRows (root : OutputRoot) {rows : World py.toPython → List RunRow} {α : Type}
    {query : World py.toPython → Option α} {upstream : α} {w₁ : World py.toPython}
    (h : Started (Sees dep id) w query rows id upstream w₁ w') (hrows : ∀ w, rows w = w.stageRows root) :
    (∀ row ∈ w'.stageRows root, row.taskRunId ≠ id) ∧ Filed dep w' := by
  refine ⟨fun row hrow => h.new row ?_, h.again.2⟩
  rw [hrows]
  exact hrow

/-- **Every stage obeys the discipline of its run.** -/
theorem getHandler_obeys {taskType : Schedule.TaskType} {handler : ExecutionContext → Execution py.toPython}
    (hhandler : getHandler dep taskType = some handler) (context : ExecutionContext) :
    (handler context).Obeys (runDiscipline dep context.taskRun.id) World.perform w := by
  have hclosed := Discipline.closed (κ := Query py.toPython) (ρ := Outcome) (runDiscipline dep context.taskRun.id)
    World.perform
  cases taskType <;> cases hhandler
  · refine CsvProfilingHandler.execute_closed hclosed trivial (fun _ _ _ _ _ _ => trivial) ?_
    intro dataSource w₁ path w₂ source loaded result w₃ _ _ _ _ _ _ _ _
    exact persist_obeys_of_output_none rfl
  · refine CleaningHandler.execute_closed hclosed trivial (fun _ _ _ _ _ _ _ => trivial) ?_
    intro dataSource sourceTaskRunId profile w₁ w₂ w₃ path w₄ source loaded result _ _ hstarted hseen₃ hseen₄ _ hload
      hresult
    obtain ⟨hnew, hfiled⟩ := hstarted.new_stageRows .csvOutputRoot (fun _ => rfl)
    have hmade := Made.output_cleaned hload hresult
    refine write_obeys rfl hnew hfiled (hseen₃.1.trans hseen₄.1) hmade (fun w₅ hlast => ?_)
    split
    · trivial
    · exact persistOutput_obeys rfl hmade rfl hlast
  · refine ExportHandler.execute_closed hclosed trivial (fun _ _ _ _ _ => trivial) ?_
    intro dataSource sourceTaskRunId matchRun w₁ w₂ w₃ standardizationRun w₄ source w₅ groups loaded _ _ hstarted _
      hseen₃ _ hseen₄ _ hload _ hseen₅ _
    obtain ⟨hnew, hfiled⟩ := hstarted.new_stageRows .csvExportedRoot (fun _ => rfl)
    have hmade : (Made.exported ⟨source, groups⟩).output dep = _ := Made.output_exported hload
    refine write_obeys rfl hnew hfiled ((hseen₃.1.trans hseen₄.1).trans hseen₅.1) hmade (fun w₆ hlast => ?_)
    refine statSize_closed hclosed trivial (fun w₇ size hseen₇ => persistOutput_obeys rfl hmade rfl ?_)
    rw [hseen₇.1.lastMade _ (by simp [FilePath.isOutputOf])]
    exact hlast
  · refine StandardizationHandler.execute_closed hclosed trivial (fun _ _ _ _ _ => trivial) ?_
    intro dataSource sourceTaskRunId cleaningRun w₁ w₂ w₃ source w₄ w₅ columnOverrides lookupTables loaded result _ _
      hstarted _ hseen₃ _ _ hseen₄ hseen₅ _ _ hmade
    obtain ⟨hnew, hfiled⟩ := hstarted.new_stageRows .csvStandardizedRoot (fun _ => rfl)
    exact write_obeys rfl hnew hfiled ((hseen₃.1.trans hseen₄.1).trans hseen₅.1) hmade
      (fun w₆ hlast => persistOutput_obeys rfl hmade rfl hlast)
  · refine MatchHandler.execute_closed hclosed trivial (fun _ _ _ _ _ => trivial) ?_
    intro dataSource sourceTaskRunId standardizationRun w₁ w₂ w₃ source w₄ ruleSetRow ruleSet loaded hload _ _ _ _ _ _ _ _
    exact persist_obeys_of_output_none rfl

/-! ## Every run -/

theorem runs_kept (dep : Deployment py) : (runs dep).Kept (fun _ => True) (Filed dep) (pipeline dep) where
  invariant := fun _ _ => Iff.rfl
  refl := fun _ _ => .of_eq rfl rfl
  trans := fun _ _ _ _ => Untouched.trans
  perform := fun {w effect id} hfiled hacts => by
    obtain ⟨hfiled', huntouched⟩ := hfiled.perform hacts
    refine ⟨hfiled', ?_, huntouched⟩
    cases effect with
    | writeFile path content made => rfl
    | commit c =>
      simp only [runs, pipeline, World.perform]
      split
      · rfl
      · cases c <;> rfl
  launch := fun {w e id w' program} hfiled hlaunch => by
    obtain ⟨run, task, handler, -, rfl, -, hhandler, hfree, rfl, rfl⟩ := execute_some hlaunch
    refine ⟨hfiled.of_eq rfl rfl (fun _ _ => rfl) rfl rfl, run.id, hfree, if_pos rfl, fun id' hne => if_neg hne,
      fun _ => .of_eq rfl rfl, ?_⟩
    exact getHandler_obeys hhandler ⟨run, task.dataSourceId.bind w.dataSource⟩
  disturb := fun {w} event _ hfiled => by
    obtain ⟨hfiled', huntouched⟩ := hfiled.happen event
    refine ⟨hfiled', huntouched, fun id => ?_⟩
    cases event with
    | createRun taskId sourceTaskRunId currentUser id' =>
      exact .inl (congrFun (happen_createRun_leases w taskId sourceTaskRunId currentUser id') id)
    | replaceFile organizationId relative content => exact .inl rfl
    | review kind taskRunId action => exact .inl (by cases kind <;> rfl)
    | configure configuration => exact .inl rfl
    | loseLease id' =>
      simp only [runs, pipeline, World.happen, World.lease]
      by_cases hid : id = id'
      · exact .inr (if_pos hid)
      · exact .inl (if_neg hid)

theorem keepsOwner_of_leaseKept {s : State (World py.toPython) (Query py.toPython) (Effect py.toPython) Outcome}
    {l : Label TaskRunId Event} (h : LeaseKept s l) : KeepsOwner (runs dep) (pipeline dep) s l := by
  rintro event id e rfl hown hlost
  cases event with
  | createRun taskId sourceTaskRunId currentUser id' =>
    have hsame := congrFun (happen_createRun_leases s.shared taskId sourceTaskRunId currentUser id') id
    exact absurd (hsame.trans hown) hlost
  | replaceFile organizationId relative content => exact absurd hown hlost
  | review kind taskRunId action =>
    refine absurd ?_ hlost
    cases kind <;> exact hown
  | configure configuration => exact absurd hown hlost
  | loseLease id' =>
    by_cases hid : id = id'
    · exact h id' e rfl (hid ▸ hown)
    · exact absurd ((if_neg hid).trans hown) hlost

end

section
variable {py : PythonValues}

/-- **In every run whose leases are lost only by executions that are over, every row has the hash of its file in every
state reached**, whatever else changes. -/
theorem leased_files_match (dep : Deployment py) (w : World py.toPython) (ls : List (Label TaskRunId Event))
    (h : Along (step (pipeline dep)) LeaseKept (State.initial w.unused) ls) :
    FilesMatch dep (exec (step (pipeline dep)) (State.initial w.unused) ls).shared := by
  have hinitial : Disciplined (runs dep) (Filed dep) (pipeline dep)
      (State.initial w.unused : State _ (Query py.toPython) (Effect py.toPython) Outcome) := .initial (.unused w)
  refine (hinitial.exec (runs_kept dep) ls (fun _ _ => trivial) ?_).invariant.filesMatch
  rw [Trace.along_iff_split] at h ⊢
  exact fun pre l post hls => keepsOwner_of_leaseKept (h pre l post hls)

/-- An execution stops before it reports, and a second one takes its lease. -/
def stoppedLabels : List (Label TaskRunId Event) :=
  replacedLabels ['a'] ++ [.stop 2, .disturb (.loseLease 2), .launch 3 2]

/-- The state it stops in. -/
theorem exec_replacedLabels : ∃ w : World asciiValues.toPython, w.leases 2 = some 2 ∧
    exec (step (pipeline headerDeployment)) (State.initial stagedWorld) (replacedLabels ['a']) =
      (replacedState ['a']).set w 2 (some (.halt .created)) := by
  obtain ⟨run, -, hlooks⟩ := looks_header (w := (replacedState ['a']).shared.lease 2 (some 2))
    (Q := fun _ => True) loadCsv_a
    rfl rfl rfl trivial trivial
  rw [replacedLabels, Trace.exec_append, exec_profilingLabels.1, Trace.exec_append]
  change ∃ w : World asciiValues.toPython, _ ∧ exec _ (replacedState ['a']) cleaningLabels = _
  rw [cleaningLabels, Trace.exec_cons, step_launch_replaced, Trace.exec_append, hlooks.exec, Trace.exec_cons, headerWrite,
    Programs.step_act, Trace.exec_cons, persist, Programs.step_act]
  exact ⟨_, rfl, rfl⟩

theorem along_stoppedLabels :
    Along (step (pipeline headerDeployment)) LeaseKept (State.initial stagedWorld) stoppedLabels := by
  have hnot : ∀ id, .disturb (.loseLease id) ∉ replacedLabels ['a'] := by
    simp [replacedLabels, profilingLabels, cleaningLabels, List.replicate]
  obtain ⟨w, hlease, hexec⟩ := exec_replacedLabels
  rw [stoppedLabels, Trace.along_append, hexec]
  refine ⟨along_leaseKept_of_notMem _ hnot, leaseKept_of_ne (by simp), fun id e hlabel hholder program hprogram => ?_,
    leaseKept_of_ne (by simp), trivial⟩
  cases hlabel
  have he : some 2 = some e := hlease.symm.trans hholder
  cases he
  cases hprogram

theorem leased_files_match_stopped :
    FilesMatch headerDeployment
      (exec (step (pipeline headerDeployment)) (State.initial stagedWorld) stoppedLabels).shared :=
  leased_files_match headerDeployment _ stoppedLabels along_stoppedLabels

end

end Pipeline
end DataOps

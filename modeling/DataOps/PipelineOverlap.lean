import DataOps.PipelineOutputs
import DataOps.PipelineProgress
import DataOps.ProfileReconcile
/-!
# PipelineOverlap — executions of one run that overlap

An execution that lost its lease goes on until it notices, and a second one starts beside it.  Both write the run's output
file and try to commit its row, and between their reads anything but that file and that row may change.
-/
namespace DataOps
namespace Pipeline

open Api (TaskRunId)
open Profiling (LoadedCsv)
open Programs (Allowed Contract Label Looks Machine Safe State step)
open Schedule (TaskRunRow)
open Trace (exec Along)

/-- The two stages whose output the next one reads. -/
inductive OutputStage
  | cleaning | standardization
deriving DecidableEq, Repr

inductive Change (py : Python)
  | world (w : World py)
  | loseLease

section
variable {py : PythonValues} (dep : Deployment py)

def OutputStage.execute : OutputStage → ExecutionContext → Execution py.toPython
  | .cleaning        => CleaningHandler.execute dep
  | .standardization => StandardizationHandler.execute dep

/-- The world before the run was ever executed. -/
def World.before (w : World py.toPython) (id : TaskRunId) : World py.toPython :=
  { w with
    cleaningRuns := w.cleaningRuns.filter (fun r => r.taskRunId ≠ id)
    standardizationRuns := w.standardizationRuns.filter (fun r => r.taskRunId ≠ id)
    leases := fun _ => none
    writes := []
    commits := [] }

/-- Another world, but for the run's own rows and files. -/
def World.changed (w w' : World py.toPython) (id : TaskRunId) : World py.toPython :=
  { w' with
    files := fun path => if path.isOutputOf id then w.files path else w'.files path
    cleaningRuns := (w'.before id).cleaningRuns ++ w.cleaningRuns.filter (fun r => r.taskRunId = id)
    standardizationRuns :=
      (w'.before id).standardizationRuns ++ w.standardizationRuns.filter (fun r => r.taskRunId = id)
    leases := w.leases
    writes := w.writes
    commits := w.commits }

/-- The executions of one run: each starts when no other holds the lease, with the data source as it is then. -/
def overlap (stage : OutputStage) (run : TaskRunRow) :
    Machine (World py.toPython) (Query py.toPython) (Effect py.toPython) Outcome (Option DataSource)
      (Change py.toPython) where
  perform := World.perform
  launch := fun w e dataSource =>
    if w.leases run.id = none then some (w.lease run.id (some e), stage.execute dep ⟨run, dataSource⟩) else none
  disturb := fun w change =>
    match change with
    | .world w'  => w.changed w' run.id
    | .loseLease => w.lease run.id none

/-- **The hash on a committed row of the run is its file's.** -/
def OutputsMatch (w : World py.toPython) (id : TaskRunId) : Prop :=
  ∀ row ∈ w.outputRows, row.taskRunId = id →
    ∃ content, w.files row.outputFilePath = some content ∧ dep.sha256 content = row.outputSha256

/-! ## The invariant -/

/-- The file is one of the run. -/
def Effect.Of (id : TaskRunId) : Effect py.toPython → Prop
  | .writeFile path _ _ => path.isOutputOf id = true
  | .commit _           => True

/-- The rows of the run were committed by its executions, and the files they wrote are its own. -/
structure Owned (w : World py.toPython) (id : TaskRunId) : Prop where
  rows   : ∀ row ∈ w.outputRows, row.taskRunId = id → ∃ c ∈ w.commits, ∃ made, c.output = some (row, made)
  writes : ∀ entry ∈ w.writes, entry.1.isOutputOf id = true

/-- Nothing is assumed of the changes from outside. -/
def overlapContract (id : TaskRunId) :
    Contract (World py.toPython) (Query py.toPython) (Effect py.toPython) (Option DataSource) (Change py.toPython) where
  grows := fun _ _ => True
  invariant := fun w => Written dep w ∧ Current w ∧ Owned w id
  launches := fun _ _ => True
  looks := fun _ _ => True
  acts := KeepsOutput
  changes := fun _ _ => True
  meets := fun _ effect => effect.Computed dep ∧ effect.Of id

end

section
variable {py : PythonValues} {dep : Deployment py} {w : World py.toPython} {id : TaskRunId}

theorem Owned.perform (h : Owned w id) {effect : Effect py.toPython} (hof : effect.Of id) :
    Owned (w.perform effect).1 id := by
  cases effect with
  | writeFile path content made =>
    refine ⟨h.rows, fun entry hentry => ?_⟩
    rcases List.mem_cons.1 hentry with rfl | hentry
    · exact hof
    · exact h.writes entry hentry
  | commit c =>
    simp only [World.perform]
    split
    · exact h
    · refine ⟨fun row hrow hid => ?_, fun entry hentry => ?_⟩
      · rcases mem_outputRows_insert hrow with hold | ⟨made, hnew⟩
        · obtain ⟨c', hc', hmade⟩ := h.rows row hold hid
          exact ⟨c', List.mem_append_left _ hc', hmade⟩
        · exact ⟨c, List.mem_append_right _ (List.mem_singleton.2 rfl), made, hnew⟩
      · rw [insert_writes] at hentry
        exact h.writes entry hentry

/-- A row of the run is there in the changed world exactly when it was there before. -/
theorem mem_outputRows_changed {w' : World py.toPython} {row : OutputRow} (hid : row.taskRunId = id)
    (hrow : row ∈ (w.changed w' id).outputRows) : row ∈ w.outputRows := by
  rw [mem_outputRows] at hrow ⊢
  simp only [World.changed, World.before, List.mem_append, List.mem_filter, decide_eq_true_eq] at hrow
  rcases hrow with ⟨r, ⟨-, hne⟩ | ⟨hr, -⟩, rfl⟩ | ⟨r, ⟨-, hne⟩ | ⟨hr, -⟩, rfl⟩
  · exact absurd hid hne
  · exact .inl ⟨r, hr, rfl⟩
  · exact absurd hid hne
  · exact .inr ⟨r, hr, rfl⟩

theorem Owned.changed (h : Owned w id) (w' : World py.toPython) : Owned (w.changed w' id) id :=
  ⟨fun row hrow hid => h.rows row (mem_outputRows_changed hid hrow) hid, h.writes⟩

theorem Owned.before (w : World py.toPython) (id : TaskRunId) : Owned (w.before id) id := by
  refine ⟨fun row hrow hid => ?_, fun entry hentry => (List.not_mem_nil hentry).elim⟩
  rw [mem_outputRows] at hrow
  simp only [World.before, List.mem_filter, decide_eq_true_eq] at hrow
  rcases hrow with ⟨r, ⟨-, hne⟩, rfl⟩ | ⟨r, ⟨-, hne⟩, rfl⟩ <;> exact absurd hid hne

theorem Owned.outputsMatch (h : Owned w id) (hwritten : Written dep w) (hcurrent : Current w) : OutputsMatch dep w id := by
  intro row hrow hid
  obtain ⟨c, hc, made, hmade⟩ := h.rows row hrow hid
  exact hwritten.file hc hmade (hcurrent c hc row made hmade)

/-- What a stage writes and commits meets the contract. -/
theorem writes_overlap {run : TaskRunRow} {dataSource : Option DataSource} {source : DataSource}
    {sourceTaskRunId : TaskRunId} {root : OutputRoot} {content : ByteArray} {rowCount : Nat} {made : Made}
    {commits : OutputRow → Commit py.toPython → Prop} (hmade : made.output dep = some content)
    (hcommits : ∀ row commit, commits row commit → commit.output = some (row, made)) :
    Writes dep (overlapContract dep run.id) w
      (outputRow dep ⟨run, dataSource⟩ source sourceTaskRunId root content rowCount) content made commits where
  write := ⟨hmade, by simp [Effect.Of, outputRow, FilePath.isOutputOf]⟩
  commit := fun commit hcommit => ⟨outputRow_computed hmade (hcommits _ commit hcommit), trivial⟩

/-- **Both stages meet the contract**, whatever they read. -/
theorem OutputStage.execute_sound (stage : OutputStage) (run : TaskRunRow) (dataSource : Option DataSource) :
    (stage.execute dep ⟨run, dataSource⟩).Sound (overlapContract dep run.id) w := by
  cases stage with
  | cleaning =>
    refine CleaningHandler.execute_sound (fun _ _ => trivial) (fun _ _ _ _ _ _ _ _ _ _ _ _ _ _ _ _ _ _ _ _ _ hmade => ?_)
    exact writes_overlap hmade (fun row commit => by
      rintro ⟨run, rfl, rfl⟩
      rfl)
  | standardization =>
    refine StandardizationHandler.execute_sound (fun _ _ => trivial)
      (fun _ _ _ _ _ _ _ _ _ _ _ _ _ _ _ _ _ _ _ _ _ _ hmade => ?_)
    exact writes_overlap hmade (fun row commit => by
      rintro ⟨run, rfl, rfl⟩
      rfl)

theorem overlap_kept (stage : OutputStage) (run : TaskRunRow) :
    (overlapContract dep run.id).Kept (overlap dep stage run) where
  refl := fun _ => trivial
  trans := fun _ _ => trivial
  stable := fun h _ => h
  perform := fun hinv hmeets hacts =>
    ⟨⟨hinv.1.perform hmeets.1, hinv.2.1.perform hacts, hinv.2.2.perform hmeets.2⟩, trivial⟩
  launch := fun {w e dataSource w' program} hinv _ hlaunch => by
    obtain ⟨hwritten, hcurrent, howned⟩ := hinv
    simp only [overlap] at hlaunch
    split at hlaunch
    · cases hlaunch
      exact ⟨⟨hwritten.of_eq rfl rfl (fun _ _ => rfl), hcurrent.of_eq rfl rfl, howned.rows, howned.writes⟩, trivial,
        stage.execute_sound run dataSource⟩
    · cases hlaunch
  disturb := fun {w change} hinv _ => by
    obtain ⟨hwritten, hcurrent, howned⟩ := hinv
    cases change with
    | world w' =>
      refine ⟨⟨hwritten.of_eq rfl rfl (fun entry hentry => ?_), hcurrent.of_eq rfl rfl, howned.changed w'⟩, trivial⟩
      simp [overlap, World.changed, howned.writes entry hentry]
    | loseLease =>
      exact ⟨⟨hwritten.of_eq rfl rfl (fun _ _ => rfl), hcurrent.of_eq rfl rfl, howned.rows, howned.writes⟩, trivial⟩

end

/-! ## Every run -/

section
variable {py : PythonValues}

theorem allowed_overlap {dep : Deployment py} {id : TaskRunId}
    {s : State (World py.toPython) (Query py.toPython) (Effect py.toPython) Outcome}
    {l : Label (Option DataSource) (Change py.toPython)} (h : KeepsOutputs s l) :
    Allowed (overlapContract dep id) s l := by
  cases l with
  | launch e request => trivial
  | advance e => exact ⟨fun _ _ _ => trivial, fun effect next hprogram => h e effect next rfl hprogram⟩
  | stop e => trivial
  | disturb change => trivial

/-- **In every run whose acts keep the outputs, every committed row has the hash of its file in every state reached.** -/
theorem outputs_match (dep : Deployment py) (stage : OutputStage) (run : TaskRunRow) (w : World py.toPython)
    (ls : List (Label (Option DataSource) (Change py.toPython)))
    (h : Along (step (overlap dep stage run)) KeepsOutputs (State.initial (w.before run.id)) ls) :
    OutputsMatch dep (exec (step (overlap dep stage run)) (State.initial (w.before run.id)) ls).shared run.id := by
  have hinitial : Safe (overlapContract dep run.id)
      (State.initial (w.before run.id) : State _ (Query py.toPython) (Effect py.toPython) Outcome) :=
    .initial ⟨.of_nil rfl rfl, .of_nil rfl, .before w run.id⟩
  have hsafe := hinitial.exec (overlap_kept stage run) (fun _ _ hl => allowed_overlap hl) ls h
  exact hsafe.invariant.2.2.outputsMatch hsafe.invariant.1 hsafe.invariant.2.1

end

/-! ## Two cleanings of different files -/

/-- SHA-256 of the texts `a`, `ab` and of each as a line. -/
def digest (content : ByteArray) : QualityChain.Sha256 :=
  match content.size with
  | 1 => "ca978112ca1bbdcafac231b39a23dc4da786eff8147c4e72b9807785afee48bb"
  | 2 => "fb8e20fc2e4c3f248c60c39bd652f3c1347298bb977b8b4d5903b85055620603"
  | 3 => "8e4621379786ef42a4fec155cd525c291dd7db3c1fde3478522f4f61c03fd1bd"
  | 4 => "c7c0875507bd96d407f116eaf706de057c9f1f0255f07ff8f57d0f8a527d7a50"
  | _ => ""

def headerDeployment : Deployment asciiValues where
  sha256 := digest
  sniff := fun _ => none
  round4 := id
  relativeTo := fun _ path => some [path]
  csvLimits := ⟨Profiling.defaultLimits, 1000, 20⟩
  cleaningLimits := ⟨10000⟩
  standardizationLimits := ⟨10000⟩
  matchLimits := ⟨500, 10000, 20⟩
  exportLimits := ⟨10000⟩

/-- A file of one header and no rows. -/
def headerSource (header : Str) : ByteArray := (String.ofList header).toByteArray

def headerLoaded (header : Str) : LoadedCsv where
  sourceSizeBytes := (headerSource header).size
  sourceSha256 := digest (headerSource header)
  detectedEncoding := "utf-8"
  delimiter := ','
  headers := [header]
  rows := []
  structuralIssues := []

theorem loadCsv_a : headerDeployment.loadCsv (headerSource ['a']) = .ok (headerLoaded ['a']) :=
  (Profiling.loadCsv_ofList (by decide) (by decide) (by decide)).trans rfl

theorem loadCsv_ab : headerDeployment.loadCsv (headerSource ['a', 'b']) = .ok (headerLoaded ['a', 'b']) :=
  (Profiling.loadCsv_ofList (by decide) (by decide) (by decide)).trans rfl

/-- What cleaning makes of a file without rows. -/
def nothingCleaned : Cleaning.CleaningResult := ⟨[], [], 0, [], 0, 1⟩

/-- A column without values. -/
def emptyColumn (header : Str) : Profiling.ColumnProfile asciiValues.toPython where
  name := header
  position := 0
  inferredType := .null
  nonNullCount := 0
  missingCount := 0
  missingPercentage := asciiValues.ofNat 0
  distinctCount := 0
  sampleValues := []
  retainedDistinctValues := []
  distinctValuesTruncated := false
  inconsistentValueCount := 0
  observedTypeCounts := []

/-- The profile that run 1 made of the file `a`. -/
def headerProfile : DataProfile asciiValues.toPython where
  organizationId := 1
  taskRunId := 1
  taskId := 1
  dataSourceId := 1
  result :=
    { sourceSizeBytes := 1, sourceSha256 := digest (headerSource ['a']), detectedEncoding := "utf-8", delimiter := ','
      rowCount := 0, columnCount := 1, duplicateRowCount := 0, missingValueTotal := 0
      columnProfiles := [emptyColumn ['a']], structuralIssues := [], limitsApplied := headerDeployment.csvLimits }

def headerDataSource : DataSource := ⟨1, 1, .csvUpload, some ['f']⟩

def headerPath : FilePath := .input 1 [['f']]

/-- Run 1 has profiled the file, which now holds `header`. -/
def profiledWorld (header : Str) : World asciiValues.toPython where
  files := fun path => if path = headerPath then some (headerSource header) else none
  tables := ⟨[], [], []⟩
  connections := fun _ => (.csvUpload, some ['f'])
  configuration := ⟨[], [], []⟩
  dataProfiles := [headerProfile]
  cleaningRuns := []
  standardizationRuns := []
  matchRuns := []
  matchTables := .empty
  exportRuns := []
  leases := fun _ => none
  writes := []
  commits := []

/-- A cleaning run of run 1's profile. -/
def cleaningTaskRun : TaskRunRow := ⟨2, 1, 2, some 1, some 1⟩

def headerContext : ExecutionContext := ⟨cleaningTaskRun, some headerDataSource⟩

section
variable {header : Str} {w : World asciiValues.toPython}

theorem sourced_header (hloads : headerDeployment.loadCsv (headerSource header) = .ok (headerLoaded header))
    (hfile : w.files headerPath = some (headerSource header)) :
    Sourced headerDeployment w headerContext headerDataSource headerPath (headerSource header) (headerLoaded header) where
  found := rfl
  csvUpload := rfl
  resolved := ⟨['f'], rfl, resolveSourcePath_eq_ok (by decide) (by decide) rfl (Option.isSome_iff_exists.2 ⟨_, hfile⟩)⟩
  file := hfile
  loads := hloads

/-- The line a header is written as. -/
def headerLine (header : Str) : ByteArray := Profiling.serializeCsv [header] []

def cleanedPath : FilePath := .output .csvOutputRoot 1 2

def headerInputs (header : Str) : CleaningInputs := ⟨[.null], headerSource header⟩

/-- The columns of the run that cleaned a header. -/
def headerRow (header : Str) : OutputRow where
  organizationId := 1
  taskRunId := 2
  taskId := 2
  dataSourceId := 1
  sourceTaskRunId := 1
  outputFilePath := cleanedPath
  outputSha256 := digest (headerLine header)
  rowCount := 0

/-- Cleaning of a header, from its write on. -/
def headerWrite (header : Str) (run : CleaningRun asciiValues.toPython) : Execution asciiValues.toPython :=
  .act (.writeFile cleanedPath (headerLine header) (.cleaned (headerInputs header)))
    (fun _ => persist (.cleaningRun run headerProfile (headerInputs header)))

/-- Cleaning of a header comes to its write. -/
theorem looks_header {Q : Query asciiValues.toPython → Prop}
    (hloads : headerDeployment.loadCsv (headerSource header) = .ok (headerLoaded header))
    (hfile : w.files headerPath = some (headerSource header)) (hprofiles : w.dataProfiles = [headerProfile])
    (hruns : w.cleaningRuns = []) (hrows : Q .rows) (hread : Q (.profiledFile headerProfile headerPath)) :
    ∃ run : CleaningRun asciiValues.toPython, run.toOutputRow = headerRow header ∧
      Looks w Q 4 (CleaningHandler.execute headerDeployment headerContext) (headerWrite header run) := by
  obtain ⟨postClean, hpostClean, -⟩ := @Profiling.profileCsv_some asciiValues id headerDeployment.csvLimits
    (postCleanLoaded headerDeployment (headerLoaded header) (headerLine header) [])
    (fun row hrow => (List.not_mem_nil hrow).elim)
  refine ⟨{ headerRow header with result := nothingCleaned, postClean := postClean, status := .pendingReview }, rfl, ?_⟩
  have hprofile : ofTaskRun DataProfile.toRunRow w.dataProfiles 1 1 = some headerProfile := by
    rw [hprofiles]
    rfl
  have hnew : ∀ row ∈ w.cleaningRuns, row.taskRunId ≠ 2 := by
    rw [hruns]
    exact fun row hrow => (List.not_mem_nil hrow).elim
  have hclean : Cleaning.clean asciiValues (headerLoaded header).rows
    (headerLoaded header).headers headerProfile.columnTypes
      headerDeployment.cleaningLimits = some nothingCleaned := rfl
  have hlooks := CleaningHandler.looks (sourced_header hloads hfile) rfl hprofile hnew rfl hclean hrows hread
  rw [CleaningHandler.write_eq rfl rfl hpostClean] at hlooks
  exact hlooks

/-! ### Two executions -/

/-- An execution takes the lease and comes to its commit. -/
def executionLabels (e : Nat) : List (Label (Option DataSource) (Change asciiValues.toPython)) :=
  .launch e (some headerDataSource) :: (List.replicate 4 (.advance e) ++ [.advance e])

/-- The first has written its file and loses its lease, the file it has read changes to `header`, and the first commits
after the second has written. -/
def overtakenLabels (header : Str) : List (Label (Option DataSource) (Change asciiValues.toPython)) :=
  executionLabels 1 ++
    ([.disturb .loseLease, .disturb (.world (profiledWorld header))] ++ (executionLabels 2 ++ [.advance 1]))

/-- The world when an execution comes to its commit. -/
def World.written (w : World asciiValues.toPython) (e : Nat) (header : Str) : World asciiValues.toPython :=
  ((w.lease 2 (some e)).perform (.writeFile cleanedPath (headerLine header) (.cleaned (headerInputs header)))).1

section
variable {s : State (World asciiValues.toPython) (Query asciiValues.toPython)
  (Effect asciiValues.toPython) Outcome} {e : Nat}

/-- **An execution before any row is committed** writes its file, keeping the outputs, and comes to its commit. -/
theorem exec_executionLabels (hloads : headerDeployment.loadCsv (headerSource header) = .ok (headerLoaded header))
    (hprogram : s.programs e = none) (hlease : s.shared.leases 2 = none)
    (hfile : s.shared.files headerPath = some (headerSource header)) (hprofiles : s.shared.dataProfiles = [headerProfile])
    (hruns : s.shared.cleaningRuns = []) (hcommits : s.shared.commits = []) :
    ∃ run : CleaningRun asciiValues.toPython, run.toOutputRow = headerRow header ∧
      exec (step (overlap headerDeployment .cleaning cleaningTaskRun)) s (executionLabels e) =
        s.set (s.shared.written e header) e (some (persist (.cleaningRun run headerProfile (headerInputs header)))) ∧
      Along (step (overlap headerDeployment .cleaning cleaningTaskRun)) KeepsOutputs s (executionLabels e) := by
  obtain ⟨run, hrun, hlooks⟩ := looks_header (w := s.shared.lease 2 (some e)) (Q := fun _ => True) hloads hfile hprofiles
    hruns trivial trivial
  have hlaunch : step (overlap headerDeployment .cleaning cleaningTaskRun) s (.launch e (some headerDataSource)) =
      s.set (s.shared.lease 2 (some e)) e (some (CleaningHandler.execute headerDeployment headerContext)) :=
    Programs.step_launch _ hprogram (if_pos hlease)
  refine ⟨run, hrun, ?_, ?_⟩
  · rw [executionLabels, Trace.exec_cons, hlaunch, Trace.exec_append, hlooks.exec]
    exact Programs.step_act _ s _ e _ _
  · rw [executionLabels, Trace.along_cons, hlaunch, Trace.along_append, hlooks.exec, Trace.along_cons]
    refine ⟨keepsOutputs_of_ne nofun, hlooks.along (fun _ _ _ _ _ _ h => keepsOutputs_look h), ?_, trivial⟩
    refine keepsOutputs_act (State.programs_set_self s _ e _) (fun c hc => ?_)
    exact absurd (hcommits ▸ hc) List.not_mem_nil

end

/-- The state in which the second execution starts. -/
def overtakenState (header : Str) (run : CleaningRun asciiValues.toPython) :
    State (World asciiValues.toPython) (Query asciiValues.toPython) (Effect asciiValues.toPython) Outcome :=
  exec (step (overlap headerDeployment .cleaning cleaningTaskRun))
    ((State.initial ((profiledWorld ['a']).before 2)).set (World.written ((profiledWorld ['a']).before 2) 1 ['a']) 1
      (some (persist (.cleaningRun run headerProfile (headerInputs ['a'])))))
    [.disturb .loseLease, .disturb (.world (profiledWorld header))]

/-- Both executions come to their commits, and the first commits. -/
theorem exec_overtaken (hloads : headerDeployment.loadCsv (headerSource header) = .ok (headerLoaded header)) :
    ∃ run run' : CleaningRun asciiValues.toPython, run.toOutputRow = headerRow ['a'] ∧
      exec (step (overlap headerDeployment .cleaning cleaningTaskRun)) (State.initial ((profiledWorld ['a']).before 2))
          (overtakenLabels header) =
        step (overlap headerDeployment .cleaning cleaningTaskRun)
          ((overtakenState header run).set ((overtakenState header run).shared.written 2 header) 2
            (some (persist (.cleaningRun run' headerProfile (headerInputs header))))) (.advance 1) ∧
      (Along (step (overlap headerDeployment .cleaning cleaningTaskRun)) KeepsOutputs
          (State.initial ((profiledWorld ['a']).before 2)) (overtakenLabels header) ↔
        KeepsOutput ((overtakenState header run).shared.written 2 header)
          (.commit (.cleaningRun run headerProfile (headerInputs ['a'])))) := by
  obtain ⟨run, hrun, hfirst, hkeeps⟩ := exec_executionLabels (e := 1) loadCsv_a
    (s := State.initial ((profiledWorld ['a']).before 2)) rfl rfl rfl rfl rfl rfl
  obtain ⟨run', -, hsecond, hkeeps'⟩ := exec_executionLabels (e := 2) hloads
    (s := overtakenState header run) rfl rfl rfl rfl rfl rfl
  refine ⟨run, run', hrun, ?_, ?_⟩
  · rw [overtakenLabels, Trace.exec_append, hfirst, Trace.exec_append]
    change exec _ (overtakenState header run) _ = _
    rw [Trace.exec_append, hsecond]
    rfl
  · rw [overtakenLabels, Trace.along_append, hfirst, Trace.along_append]
    change _ ∧ _ ∧ Along _ _ (overtakenState header run) _ ↔ _
    rw [Trace.along_append, hsecond, Trace.along_cons]
    refine ⟨fun h => h.2.2.2.1 1 _ _ rfl rfl, fun h => ⟨hkeeps, ?_, hkeeps', keepsOutputs_act rfl h, trivial⟩⟩
    exact ⟨keepsOutputs_of_ne nofun, keepsOutputs_of_ne nofun, trivial⟩

/-- **The row of the first has the hash of what it wrote, and the file is what the second wrote.** -/
theorem overtaken_not_match :
    ¬ OutputsMatch headerDeployment (exec (step (overlap headerDeployment .cleaning cleaningTaskRun))
      (State.initial ((profiledWorld ['a']).before 2)) (overtakenLabels ['a', 'b'])).shared 2 := by
  intro hmatch
  obtain ⟨run, run', hrun, hexec, -⟩ := exec_overtaken loadCsv_ab
  rw [hexec, Programs.shared_step_act _ rfl] at hmatch
  obtain ⟨content, hfile, hhash⟩ := hmatch run.toOutputRow (by exact List.mem_cons_self) (by rw [hrun]; rfl)
  rw [hrun] at hfile hhash
  have hcontent : content = headerLine ['a', 'b'] := (Option.some.inj hfile).symm
  rw [hcontent] at hhash
  exact absurd hhash (by decide)

/-- The second execution of a file that did not change writes what the first wrote. -/
theorem outputs_match_unchanged :
    OutputsMatch headerDeployment (exec (step (overlap headerDeployment .cleaning cleaningTaskRun))
      (State.initial ((profiledWorld ['a']).before 2)) (overtakenLabels ['a'])).shared 2 := by
  refine outputs_match headerDeployment .cleaning cleaningTaskRun (profiledWorld ['a']) (overtakenLabels ['a']) ?_
  obtain ⟨run, run', hrun, -, hkeeps⟩ := exec_overtaken loadCsv_a
  refine hkeeps.2 (fun _ row made hrow => ?_)
  cases hrow
  rw [hrun]
  rfl

end

end Pipeline
end DataOps

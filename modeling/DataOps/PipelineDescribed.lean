import DataOps.PipelineHistory
import DataOps.PipelineOverlap
/-!
# PipelineDescribed — every stage works on what its upstream row describes

Of the two things a stage relies on, no handler checks either: that its source is of its own data source, and that the
file it reads is the one the upstream row is about.
-/
namespace DataOps
namespace Pipeline

open Api (TaskRunId)
open Profiling (LoadedCsv)
open Programs (Allowed Contract Label Looks Machine Safe State step)
open Schedule (DataSourceId)
open Trace (exec Along)

section
variable {py : PythonValues} {dep : Deployment py} {w w' : World py.toPython}

/-! ## What an act leaves -/

theorem mem_dataProfiles_insert {c : Commit py.toPython} {row : DataProfile py.toPython}
    (h : row ∈ (w.insert c).dataProfiles) : row ∈ w.dataProfiles ∨ ∃ source, c = .dataProfile row source := by
  cases c with
  | dataProfile new source =>
    rcases List.mem_append.1 h with hold | hnew
    · exact .inl hold
    · exact .inr ⟨source, by rw [List.mem_singleton.1 hnew]⟩
  | cleaningRun => exact .inl h
  | standardizationRun => exact .inl h
  | matchRun => exact .inl h
  | exportRun => exact .inl h

/-- The new row is the commit's, but for its id. -/
theorem mem_matchRuns_insert {c : Commit py.toPython} {row : MatchRun} (h : row ∈ (w.insert c).matchRuns) :
    row ∈ w.matchRuns ∨ row.toRunRow = c.row ∧ c.runs = [row.taskRunId, row.sourceTaskRunId] := by
  cases c with
  | matchRun new standardizationRun source result =>
    rcases List.mem_append.1 h with hold | hnew
    · exact .inl hold
    · rw [List.mem_singleton.1 hnew]
      exact .inr ⟨rfl, rfl⟩
  | dataProfile => exact .inl h
  | cleaningRun => exact .inl h
  | standardizationRun => exact .inl h
  | exportRun => exact .inl h

/-- The columns of a row on a file are the row's. -/
theorem Commit.row_of_output {c : Commit py.toPython} {row : OutputRow} {made : Made} (h : c.output = some (row, made)) :
    c.row = row.toRunRow ∧ c.runs = [row.taskRunId] := by
  cases c <;> cases h <;> exact ⟨rfl, rfl⟩

/-- **Every act that follows its inputs keeps the invariant.** -/
theorem Recorded.perform (h : Recorded dep w) {effect : Effect py.toPython} (hfollows : effect.Follows dep w) :
    Recorded dep (w.perform effect).1 := by
  cases effect with
  | writeFile path content made =>
    refine ⟨h.described, h.profiles, h.outputs, h.matchRuns, fun entry hentry => ?_⟩
    rcases List.mem_cons.1 hentry with rfl | hentry
    · exact hfollows
    · exact h.writes entry hentry
  | commit c =>
    have hgrows := commit_grows (w := w) c
    simp only [World.perform] at hgrows ⊢
    split
    · exact h
    · rename_i hrecorded
      rw [if_neg hrecorded] at hgrows
      have hnew : c ∈ w.commits ++ [c] := List.mem_append_right _ (List.mem_singleton.2 rfl)
      obtain ⟨hdescribed, hbound⟩ := hfollows
      refine ⟨fun c' hc' => ?_, fun row hrow => ?_, fun row hrow => ?_, fun row hrow => ?_, ?_⟩
      · rcases List.mem_append.1 hc' with hold | hnew
        · exact h.described c' hold
        · rw [List.mem_singleton.1 hnew]
          exact hdescribed
      · rcases mem_dataProfiles_insert hrow with hold | ⟨source, rfl⟩
        · obtain ⟨hrun, source, hsource⟩ := h.profiles row hold
          exact ⟨hgrows.bound _ _ hrun, source, hgrows.commits _ hsource⟩
        · exact ⟨hgrows.bound _ _ (hbound _ (List.mem_singleton.2 rfl)), source, hnew⟩
      · rcases mem_outputRows_insert hrow with hold | ⟨made, hmade⟩
        · obtain ⟨hrun, c', hc', hmade⟩ := h.outputs row hold
          exact ⟨hgrows.bound _ _ hrun, c', hgrows.commits c' hc', hmade⟩
        · obtain ⟨hcolumns, hruns⟩ := Commit.row_of_output hmade
          rw [hcolumns, hruns] at hbound
          exact ⟨hgrows.bound _ _ (hbound _ (List.mem_singleton.2 rfl)), c, hnew, made, hmade⟩
      · rcases mem_matchRuns_insert hrow with hold | ⟨hcolumns, hruns⟩
        · exact ⟨hgrows.bound _ _ (h.matchRuns row hold).1, hgrows.bound _ _ (h.matchRuns row hold).2⟩
        · rw [← hcolumns, hruns] at hbound
          exact ⟨hgrows.bound _ _ (hbound _ List.mem_cons_self),
            hgrows.bound _ _ (hbound _ (List.mem_cons_of_mem _ (List.mem_singleton.2 rfl)))⟩
      · rw [insert_writes]
        exact h.writes

/-! ## The handlers -/

theorem ofTaskRun_some {α : Type} {row : α → RunRow} {rows : List α} {taskRunId : TaskRunId} {organizationId : Nat} {r : α}
    (h : ofTaskRun row rows taskRunId organizationId = some r) : r ∈ rows ∧ (row r).taskRunId = taskRunId := by
  have hfound := List.find?_some h
  exact ⟨List.mem_of_find?_eq_some h, (of_decide_eq_true hfound).1⟩

/-- The run of the context and its source are of the context's data source. -/
structure Launched (w : World py.toPython) (context : ExecutionContext) : Prop where
  run    : ∀ dataSource, context.dataSource = some dataSource → boundTo w.tables context.taskRun.id = some dataSource.id
  source : ∀ dataSource source, context.dataSource = some dataSource → context.taskRun.sourceTaskRunId = some source →
    boundTo w.tables source = some dataSource.id

/-- The data source of an upstream row is the context's. -/
theorem Launched.builtOn {context : ExecutionContext} (h : Launched w context)
    {dataSource : DataSource} {source : TaskRunId} (hdataSource : context.dataSource = some dataSource)
    (hsource : context.taskRun.sourceTaskRunId = some source) (hgrows : Grows w w')
    {upstream : RunRow} (hrun : upstream.taskRunId = source)
    (hbound : boundTo w'.tables upstream.taskRunId = some upstream.dataSourceId) :
    BuiltOn (context.row dataSource) source upstream := by
  refine ⟨hrun, ?_⟩
  rw [hrun, hgrows.bound _ _ (h.source dataSource source hdataSource hsource)] at hbound
  exact (Option.some.inj hbound).symm

/-- What is read of an unchanged output is what its row describes. -/
theorem Written.read (h : Written dep w) {row : OutputRow} {source : ByteArray}
    (hrow : ∃ c ∈ w.commits, ∃ made, c.output = some (row, made)) (hlooks : Unchanged dep w (.file row.outputFilePath))
    (hfile : w.files row.outputFilePath = some source) : dep.sha256 source = row.outputSha256 := by
  obtain ⟨c, hc, made, hmade⟩ := hrow
  obtain ⟨content, hcontent, hhash⟩ := h.file hc hmade (hlooks c hc row made hmade rfl)
  rw [hfile] at hcontent
  cases hcontent
  exact hhash

/-- What a stage writes and commits meets the contract. -/
theorem writes_history {context : ExecutionContext} {dataSource : DataSource} {sourceTaskRunId : TaskRunId}
    {root : OutputRoot} {content : ByteArray} {rowCount : Nat} {made : Made}
    {commits : OutputRow → Commit py.toPython → Prop}
    (hbound : boundTo w.tables context.taskRun.id = some dataSource.id) (hmade : made.output dep = some content)
    (hcommits : ∀ row commit, commits row commit → commit.output = some (row, made))
    (hdescribed : ∀ commit, commits (outputRow dep context dataSource sourceTaskRunId root content rowCount) commit →
      Described dep commit) :
    Writes dep (historyContract dep) w
      (outputRow dep context dataSource sourceTaskRunId root content rowCount) content made
      commits where
  write := ⟨hmade, context.taskRun.id, by simp [outputRow, FilePath.isOutputOf]⟩
  commit := fun commit hcommit => by
    have hmade' := hcommits _ commit hcommit
    obtain ⟨hcolumns, hruns⟩ := Commit.row_of_output hmade'
    refine ⟨outputRow_computed hmade hmade', hdescribed commit hcommit, fun id hid => ?_⟩
    rw [hruns] at hid
    rw [List.mem_singleton.1 hid, hcolumns]
    exact hbound

/-- What a commit says of the data sources of runs stays. -/
theorem follows_stable {effect : Effect py.toPython} (h : effect.Computed dep ∧ effect.Follows dep w)
    (hgrows : Grows w w') :
    effect.Computed dep ∧ effect.Follows dep w' := by
  refine ⟨h.1, ?_⟩
  cases effect with
  | writeFile path content made => exact h.2
  | commit c => exact ⟨h.2.1, fun id hid => hgrows.bound _ _ (h.2.2 id hid)⟩

section
variable {context : ExecutionContext} (h : Launched w context)
include h

theorem Launched.sound_csvProfiling : (CsvProfilingHandler.execute dep context).Sound (historyContract dep) w := by
  refine CsvProfilingHandler.execute_sound Grows.trans
    (fun dataSource w₁ source loaded result hdataSource hgrows hload hresult w₂ hgrows' => ?_)
  refine ⟨nofun, ?_, fun id hid => ?_⟩
  · rw [Described, profileCsv_sourceSha256 hresult]
    exact loadCsv_sourceSha256 hload
  · rw [List.mem_singleton.1 hid]
    exact hgrows'.bound _ _ (hgrows.bound _ _ (h.run dataSource hdataSource))

theorem Launched.sound_cleaning : (CleaningHandler.execute dep context).Sound (historyContract dep) w := by
  refine CleaningHandler.execute_sound Grows.trans (fun dataSource sourceTaskRunId w₁ profile w₂ path source loaded content
    rowCount hdataSource hsource hgrows hinv hprofile hgrows' hinv' hlooks hfile hload hlength hmade => ?_)
  have hbound := hgrows'.bound _ _ (hgrows.bound _ _ (h.run dataSource hdataSource))
  refine writes_history hbound hmade (fun row commit => by rintro ⟨run, rfl, rfl⟩; rfl) (fun commit => ?_)
  rintro ⟨run, hrun, rfl⟩
  obtain ⟨hmem, htaskRun⟩ := ofTaskRun_some hprofile
  obtain ⟨hprofiled, original, horiginal⟩ := hinv.2.profiles profile hmem
  have hsame : source = original := hlooks original (hgrows'.commits _ horiginal) source loaded hfile hload hlength
  have hhash : profile.result.sourceSha256 = dep.sha256 original := hinv.2.described _ horiginal
  refine ⟨?_, rfl, ?_⟩
  · rw [hrun]
    exact h.builtOn hdataSource hsource hgrows htaskRun hprofiled
  · rw [hhash, hsame]

theorem Launched.sound_standardization :
    (StandardizationHandler.execute dep context).Sound (historyContract dep) w := by
  refine StandardizationHandler.execute_sound Grows.trans (fun dataSource sourceTaskRunId w₁ cleaningRun w₂ source w₃
    columnOverrides lookupTables content rowCount hdataSource hsource hgrows hinv hcleaningRun
      happroved hgrows' hinv' hlooks
    hfile hgrows'' hmade => ?_)
  have hbound := hgrows''.bound _ _ (hgrows'.bound _ _ (hgrows.bound _ _ (h.run dataSource hdataSource)))
  refine writes_history hbound hmade (fun row commit => by rintro ⟨run, rfl, rfl⟩; rfl) (fun commit => ?_)
  rintro ⟨run, hrun, rfl⟩
  obtain ⟨hmem, htaskRun⟩ := ofTaskRun_some hcleaningRun
  obtain ⟨hcleaned, c, hc, houtput⟩ := hinv.2.outputs cleaningRun.toOutputRow
    (mem_outputRows.2 (.inl ⟨cleaningRun, hmem, rfl⟩))
  refine ⟨?_, happroved, hinv'.1.read ⟨c, hgrows'.commits c hc, houtput⟩ hlooks hfile⟩
  rw [hrun]
  exact h.builtOn hdataSource hsource hgrows htaskRun hcleaned

theorem Launched.sound_match : (MatchHandler.execute dep context).Sound (historyContract dep) w := by
  refine MatchHandler.execute_sound Grows.trans (fun dataSource sourceTaskRunId w₁ standardizationRun w₂ source w₃ row n
    result hdataSource hsource hgrows hinv hstandardizationRun happroved hgrows' hinv' hlooks hfile hgrows'' hrow
    hrowSource => ?_)
  have hgrown : Grows w w₃ := (hgrows.trans hgrows').trans hgrows''
  obtain ⟨hmem, htaskRun⟩ := ofTaskRun_some hstandardizationRun
  obtain ⟨hstandardized, c, hc, houtput⟩ := hinv.2.outputs standardizationRun.toOutputRow
    (mem_outputRows.2 (.inr ⟨standardizationRun, hmem, rfl⟩))
  have hread := hinv'.1.read ⟨c, hgrows'.commits c hc, houtput⟩ hlooks hfile
  refine ⟨nofun, ⟨?_, happroved, hread⟩, fun id hid => ?_⟩
  · rw [hrow, hrowSource]
    exact h.builtOn hdataSource hsource hgrows htaskRun hstandardized
  · simp only [Commit.row, Commit.runs, List.mem_cons, List.not_mem_nil, or_false, hrow, hrowSource] at hid ⊢
    rcases hid with rfl | rfl
    · exact hgrown.bound _ _ (h.run dataSource hdataSource)
    · exact hgrown.bound _ _ (h.source dataSource id hdataSource hsource)

theorem Launched.sound_export : (ExportHandler.execute dep context).Sound (historyContract dep) w := by
  refine ExportHandler.execute_sound Grows.trans follows_stable (fun dataSource sourceTaskRunId w₁ matchRun w₂
    standardizationRun w₃ source w₄ groups content rowCount hdataSource hsource hgrows hinv
      hmatchRun happroved hgrows₂ hinv₂
    hstandardizationRun hgrows₃ hinv₃ hlooks hfile hgrows₄ hmade => ?_)
  have hbound :=
    hgrows₄.bound _ _ (hgrows₃.bound _ _ (hgrows₂.bound _ _ (hgrows.bound _ _ (h.run dataSource hdataSource))))
  refine writes_history hbound hmade (fun row commit => by rintro ⟨run, rfl, rfl⟩; rfl) (fun commit => ?_)
  rintro ⟨run, hrun, rfl⟩
  obtain ⟨hmatched, hmatchTaskRun⟩ := ofTaskRun_some hmatchRun
  obtain ⟨hmatchBound, hsourceBound⟩ := hinv.2.matchRuns matchRun hmatched
  obtain ⟨hmem, htaskRun⟩ := ofTaskRun_some hstandardizationRun
  obtain ⟨hstandardized, c, hc, houtput⟩ := hinv₂.2.outputs standardizationRun.toOutputRow
    (mem_outputRows.2 (.inr ⟨standardizationRun, hmem, rfl⟩))
  have hmatch : BuiltOn (context.row dataSource) sourceTaskRunId matchRun.toRunRow :=
    h.builtOn hdataSource hsource hgrows hmatchTaskRun hmatchBound
  refine ⟨?_, happroved, ⟨htaskRun, ?_⟩, hinv₃.1.read ⟨c, hgrows₃.commits c hc, houtput⟩ hlooks hfile⟩
  · rw [hrun]
    exact hmatch
  · -- both are of the match run's data source
    rw [htaskRun, hgrows₂.bound _ _ hsourceBound] at hstandardized
    rw [hrun]
    exact (Option.some.inj hstandardized).symm.trans hmatch.dataSource

/-- **Every stage meets the contract.** -/
theorem Launched.sound {taskType : Schedule.TaskType} {handler : ExecutionContext → Execution py.toPython}
    (hhandler : getHandler dep taskType = some handler) : (handler context).Sound (historyContract dep) w := by
  cases taskType <;> cases hhandler
  · exact h.sound_csvProfiling
  · exact h.sound_cleaning
  · exact h.sound_export
  · exact h.sound_standardization
  · exact h.sound_match

end

/-! ## Every run -/

theorem launched_execute {run : Schedule.TaskRunRow} {task : Schedule.TaskRow} {id : TaskRunId}
    (hrun : w.tables.runs.find? (fun run => run.id = id) = some run) (htask : w.tables.tasks.get? run.taskId = some task)
    (hsame : SameSource w id) : Launched w ⟨run, task.dataSourceId.bind w.dataSource⟩ := by
  have hid : run.id = id := by simpa using List.find?_some hrun
  have hbound : ∀ dataSource, task.dataSourceId.bind w.dataSource = some dataSource →
      boundTo w.tables id = some dataSource.id := by
    intro dataSource hdataSource
    obtain ⟨dataSourceId, htaskSource, hfound⟩ := Option.bind_eq_some_iff.1 hdataSource
    obtain ⟨row, -, rfl⟩ := Option.map_eq_some_iff.1 hfound
    simp only [boundTo, hrun, htask, Option.bind_some]
    exact htaskSource
  refine ⟨fun dataSource hdataSource => ?_, fun dataSource source hdataSource hsource => ?_⟩
  · rw [hid]
    exact hbound dataSource hdataSource
  · rw [hsame run source hrun hsource]
    exact hbound dataSource hdataSource

theorem history_kept (dep : Deployment py) : (historyContract dep).Kept (pipeline dep) where
  refl := fun _ => .of_eq rfl rfl
  trans := Grows.trans
  stable := follows_stable
  perform := fun {w effect} hinv hmeets _ => by
    refine ⟨⟨hinv.1.perform hmeets.1, hinv.2.perform hmeets.2⟩, ?_⟩
    cases effect with
    | writeFile path content made => exact .of_eq rfl rfl
    | commit c => exact commit_grows c
  launch := fun {w e id w' program} hinv hsame hlaunch => by
    simp only [pipeline, World.execute, Option.bind_eq_bind, Option.bind_eq_some_iff] at hlaunch
    obtain ⟨run, hrun, task, htask, handler, hhandler, hlaunch⟩ := hlaunch
    split at hlaunch
    · cases hlaunch
      have hgrows : Grows w (w.lease id (some e)) := .of_eq rfl rfl
      have hlaunched : Launched (w.lease id (some e)) ⟨run, task.dataSourceId.bind w.dataSource⟩ :=
        launched_execute hrun htask hsame
      refine ⟨⟨hinv.1.of_eq rfl rfl (fun _ _ => rfl), ?_⟩, hgrows, hlaunched.sound hhandler⟩
      exact hinv.2.of_eq hgrows rfl rfl rfl (fun row hrow => ⟨row, hrow, rfl, rfl⟩) rfl
    · cases hlaunch
  disturb := fun {w event} hinv _ => happen_kept hinv.1 hinv.2 event

theorem allowed_history {s : State (World py.toPython) (Query py.toPython) (Effect py.toPython) Outcome}
    {l : Label TaskRunId Event} (h : OnUnchanged dep s l) : Allowed (historyContract dep) s l := by
  cases l with
  | launch e id => exact h.1 e id rfl
  | advance e => exact ⟨fun query next hprogram => h.2 e query next rfl hprogram, fun _ _ _ => trivial⟩
  | stop e => trivial
  | disturb event => trivial

end

section
variable {py : PythonValues}

/-- **In every run whose executions are on sources of their data sources, and look only at files that did not change, every
commit is of what its upstream row describes.** -/
theorem stages_described (dep : Deployment py) (w : World py.toPython) (ls : List (Label TaskRunId Event))
    (h : Along (step (pipeline dep)) (OnUnchanged dep) (State.initial w.unused) ls) :
    AllDescribed dep (exec (step (pipeline dep)) (State.initial w.unused) ls).shared := by
  have hrecorded : Recorded dep w.unused := by
    refine ⟨?_, ?_, ?_, ?_, ?_⟩ <;> intro _ hmem <;> cases hmem
  have hinitial : Safe (historyContract dep)
      (State.initial w.unused : State _ (Query py.toPython) (Effect py.toPython) Outcome) :=
    .initial ⟨.of_nil rfl rfl, hrecorded⟩
  exact (hinitial.exec (history_kept dep) (fun _ _ hl => allowed_history hl) ls h).invariant.2.described

end

/-! ## A file replaced between its profile and its cleaning -/

section
variable {py : PythonValues} {dep : Deployment py}
variable {s : State (World py.toPython) (Query py.toPython) (Effect py.toPython) Outcome}

theorem onUnchanged_look {e : Nat} {query : Query py.toPython} {next : World py.toPython → Execution py.toPython}
    (h : s.programs e = some (.observe query next)) (hunchanged : Unchanged dep s.shared query) :
    OnUnchanged dep s (.advance e) := by
  refine ⟨nofun, fun e' query' next' hlabel hprogram => ?_⟩
  cases hlabel
  rw [h] at hprogram
  cases hprogram
  exact hunchanged

theorem onUnchanged_act {e : Nat} {effect : Effect py.toPython} {next : Bool → Execution py.toPython}
    (h : s.programs e = some (.act effect next)) : OnUnchanged dep s (.advance e) := by
  refine ⟨nofun, fun e' query' next' hlabel hprogram => ?_⟩
  cases hlabel
  rw [h] at hprogram
  cases hprogram

theorem onUnchanged_disturb (event : Event) : OnUnchanged dep s (.disturb event) := ⟨nofun, nofun⟩

end

def operator : Api.User := ⟨1, 1, "operator@example.com", none, false⟩

def stageTask (taskType : Schedule.TaskType) : Schedule.TaskRow where
  organizationId := 1
  dataSourceId := some 1
  name := []
  description := none
  taskType := taskType
  schedule := none
  scheduleIntervalSeconds := none
  nextRunAt := none
  maxAttempts := none
  timeoutSeconds := none
  createdBy := none

/-- A file `a`, and a task to profile it and one to clean it. -/
def stagedWorld : World asciiValues.toPython :=
  { profiledWorld ['a'] with tables := ⟨[(1, ⟨1, true⟩)], [(1, stageTask .sync), (2, stageTask .transform)], []⟩ }.unused

def profilingLabels : List (Label TaskRunId Event) :=
  [.disturb (.createRun 1 none operator 1), .launch 1 1] ++ (List.replicate 3 (.advance 1) ++ [.advance 1])

def cleaningLabels : List (Label TaskRunId Event) :=
  .launch 2 2 :: (List.replicate 4 (.advance 2) ++ [.advance 2, .advance 2])

/-- The file changes to `header` between its profile and its cleaning. -/
def replacedLabels (header : Str) : List (Label TaskRunId Event) :=
  profilingLabels ++ ([.disturb (.replaceFile 1 [['f']] (some (headerSource header))),
    .disturb (.createRun 2 (some 1) operator 2)] ++ cleaningLabels)

/-- The world in which run 1 is executed. -/
def profilingWorld : World asciiValues.toPython := (stagedWorld.happen (.createRun 1 none operator 1)).lease 1 (some 1)

/-- The state after its commit. -/
def profiledState : State (World asciiValues.toPython) (Query asciiValues.toPython)
    (Effect asciiValues.toPython) Outcome :=
  (State.initial stagedWorld).set (profilingWorld.perform (.commit (.dataProfile headerProfile (headerSource ['a'])))).1 1
    (some (.halt .created))

/-- The state before run 2 is executed. -/
def replacedState (header : Str) :
    State (World asciiValues.toPython) (Query asciiValues.toPython) (Effect asciiValues.toPython) Outcome :=
  exec (step (pipeline headerDeployment)) profiledState
    [.disturb (.replaceFile 1 [['f']] (some (headerSource header))), .disturb (.createRun 2 (some 1) operator 2)]

theorem exec_profilingLabels :
    exec (step (pipeline headerDeployment)) (State.initial stagedWorld) profilingLabels = profiledState ∧
      Along (step (pipeline headerDeployment)) (OnUnchanged headerDeployment)
        (State.initial stagedWorld) profilingLabels := by
  have hsourced : Sourced headerDeployment profilingWorld
    ⟨⟨1, 1, 1, some 1, none⟩, some headerDataSource⟩ headerDataSource
      headerPath (headerSource ['a']) (headerLoaded ['a']) :=
    ⟨rfl, rfl, ⟨['f'], rfl, resolveSourcePath_eq_ok (by decide) (by decide) rfl rfl⟩, rfl, loadCsv_a⟩
  have hresult : Profiling.profileCsv asciiValues headerDeployment.round4 (headerLoaded ['a']) headerDeployment.csvLimits =
      some headerProfile.result := rfl
  have hnew : ∀ row ∈ profilingWorld.dataProfiles, row.taskRunId ≠ 1 := fun row hrow => by cases hrow
  have hread : Unchanged headerDeployment profilingWorld (.file headerPath) := fun c hc => by cases hc
  have hlooks := CsvProfilingHandler.looks hsourced hresult hnew trivial hread
  have hlaunch : exec (step (pipeline headerDeployment)) (State.initial stagedWorld)
      [.disturb (.createRun 1 none operator 1), .launch 1 1] = (State.initial stagedWorld).set profilingWorld 1
        (some (CsvProfilingHandler.execute headerDeployment ⟨⟨1, 1, 1, some 1, none⟩, some headerDataSource⟩)) := rfl
  constructor
  · rw [profilingLabels, Trace.exec_append, hlaunch, Trace.exec_append, hlooks.exec, Trace.exec_cons, persist,
      Programs.step_act]
    rfl
  · rw [profilingLabels, Trace.along_append, hlaunch, Trace.along_append, hlooks.exec, Trace.along_cons]
    refine ⟨⟨onUnchanged_disturb _, ⟨fun e id hlabel => ?_, nofun⟩, trivial⟩,
      hlooks.along (fun s e query next hs hquery hprogram => onUnchanged_look hprogram (hs ▸ hquery)),
      onUnchanged_act (State.programs_set_self _ _ _ _), trivial⟩
    cases hlabel
    intro run source hrun hsource
    cases hrun
    cases hsource

section
variable {header : Str}

theorem step_launch_replaced :
    step (pipeline headerDeployment) (replacedState header) (.launch 2 2) =
      (replacedState header).set ((replacedState header).shared.lease 2 (some 2)) 2
        (some (CleaningHandler.execute headerDeployment headerContext)) := rfl

/-- Run 2 cleans the file there is, with the column types of the profile. -/
theorem mem_commits_replaced (hloads : headerDeployment.loadCsv (headerSource header) = .ok (headerLoaded header)) :
    ∃ run : CleaningRun asciiValues.toPython, .cleaningRun run headerProfile (headerInputs header) ∈
      (exec (step (pipeline headerDeployment)) (State.initial stagedWorld) (replacedLabels header)).shared.commits := by
  obtain ⟨run, -, hlooks⟩ := looks_header (w := (replacedState header).shared.lease 2 (some 2)) (Q := fun _ => True) hloads
    rfl rfl rfl trivial trivial
  refine ⟨run, ?_⟩
  rw [replacedLabels, Trace.exec_append, exec_profilingLabels.1, Trace.exec_append]
  change _ ∈ (exec _ (replacedState header) cleaningLabels).shared.commits
  rw [cleaningLabels, Trace.exec_cons, step_launch_replaced, Trace.exec_append, hlooks.exec, Trace.exec_cons, headerWrite,
    Programs.step_act, Trace.exec_cons, persist, Programs.step_act]
  exact mem_commits_of_not_recorded (by rfl)

theorem along_replaced (hloads : headerDeployment.loadCsv (headerSource header) = .ok (headerLoaded header))
    (hunchanged : Unchanged headerDeployment ((replacedState header).shared.lease 2 (some 2))
      (.profiledFile headerProfile headerPath)) :
    Along (step (pipeline headerDeployment)) (OnUnchanged headerDeployment) (State.initial stagedWorld)
      (replacedLabels header) := by
  obtain ⟨run, -, hlooks⟩ := looks_header (w := (replacedState header).shared.lease 2 (some 2)) hloads rfl rfl rfl trivial
    hunchanged
  rw [replacedLabels, Trace.along_append, exec_profilingLabels.1, Trace.along_append]
  refine ⟨exec_profilingLabels.2, ⟨onUnchanged_disturb _, onUnchanged_disturb _, trivial⟩, ?_⟩
  change Along _ _ (replacedState header) cleaningLabels
  rw [cleaningLabels, Trace.along_cons, step_launch_replaced, Trace.along_append, hlooks.exec,
    Trace.along_cons, headerWrite,
    Programs.step_act, Trace.along_cons]
  refine ⟨⟨fun e id hlabel => ?_, nofun⟩, hlooks.along (fun s e query next hs hquery hprogram => ?_),
    onUnchanged_act (State.programs_set_self _ _ _ _), onUnchanged_act (State.programs_set_self _ _ _ _), trivial⟩
  · cases hlabel
    intro run source hrun hsource
    cases hrun
    cases hsource
    rfl
  · exact onUnchanged_look hprogram (hs ▸ hquery)

/-- **The file cleaned is not the file profiled.** -/
theorem replaced_not_described :
    ¬ AllDescribed headerDeployment
      (exec (step (pipeline headerDeployment)) (State.initial stagedWorld) (replacedLabels ['a', 'b'])).shared := by
  intro hall
  obtain ⟨run, hrun⟩ := mem_commits_replaced loadCsv_ab
  have hhash : digest (headerSource ['a', 'b']) = digest (headerSource ['a']) := (hall _ hrun).2.2
  exact absurd hhash (by decide)

/-- The same file put there again. -/
theorem replaced_described :
    AllDescribed headerDeployment
      (exec (step (pipeline headerDeployment)) (State.initial stagedWorld) (replacedLabels ['a'])).shared := by
  refine stages_described headerDeployment _ (replacedLabels ['a']) (along_replaced loadCsv_a ?_)
  intro source hsource source' loaded hfile hload hlength
  have hsource : .dataProfile headerProfile source ∈ [Commit.dataProfile headerProfile (headerSource ['a'])] := hsource
  have hprofiled : source = headerSource ['a'] := (Commit.dataProfile.inj (List.mem_singleton.1 hsource)).2
  have hthere : source' = headerSource ['a'] := (Option.some.inj hfile).symm
  rw [hprofiled, hthere]

end

end Pipeline
end DataOps

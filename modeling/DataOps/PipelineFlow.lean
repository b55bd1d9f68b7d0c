import DataOps.ExportRoundTrip
import DataOps.PipelineLeases
import DataOps.PipelineReviewed
/-!
# PipelineFlow — from a source file to its export

While no execution outlives its lease, what a stage reads of an output is what the stage before made of its own inputs, and
the groups it reads are those the match run found.  So an exported file is cleaning, standardization, matching and export,
one after the other, of the bytes that were cleaned, under configurations that the run has had.
-/
namespace DataOps
namespace Pipeline

open Api (OrganizationId TaskRunId)
open Export (decisionsOf groupInput loadGroup loadGroups)
open Matching (MatchResult MatchRuleSetConfig MatchTables groupModels matchRows)
open Profiling (LoadedCsv)
open Programs (Discipline Disciplined KeepsOwner Label Parts State step)
open Trace (exec Along)

/-! ## The groups of a match run -/

theorem mapM_congr_mem {α β ε : Type} {f g : α → Except ε β} :
    ∀ {l : List α}, (∀ a ∈ l, f a = g a) → l.mapM f = l.mapM g
  | [], _ => rfl
  | a :: l, h => by
    rw [List.mapM_cons, List.mapM_cons, h a List.mem_cons_self,
      mapM_congr_mem (fun b hb => h b (List.mem_cons_of_mem _ hb))]

/-- **The groups of a run are not those of a later one.** -/
theorem loadGroups_persist {n : Nat} (db : MatchTables) (organizationId organizationId' matchRunId : Nat)
    (result : MatchResult n) (hdrawn : matchRunId < db.nextId) :
    loadGroups (db.persist organizationId' result).matchGroups (db.persist organizationId' result).matchDecisions
      organizationId matchRunId = loadGroups db.matchGroups db.matchDecisions organizationId matchRunId := by
  have hgroups : (groupModels db organizationId' result.groups).filter
      (fun g => g.matchRunId = matchRunId ∧ g.organizationId = organizationId) = [] := by
    rw [List.filter_eq_nil_iff]
    intro g hg
    obtain ⟨k, g, -, rfl⟩ := Matching.mem_groupModels.1 hg
    have hne : db.matchRunId ≠ matchRunId := Nat.ne_of_gt hdrawn
    simp [Matching.groupModel, hne]
  have hfilter : (db.persist organizationId' result).matchGroups.filter
      (fun g => g.matchRunId = matchRunId ∧ g.organizationId = organizationId) =
        db.matchGroups.filter (fun g => g.matchRunId = matchRunId ∧ g.organizationId = organizationId) := by
    rw [MatchTables.persist, List.filter_append, hgroups, List.append_nil]
  rw [loadGroups, loadGroups, hfilter]
  refine mapM_congr_mem (fun g hg => ?_)
  have hold := (db.groupsDrawn g (List.mem_of_mem_filter hg)).2
  have hdecisions : decisionsOf (db.persist organizationId' result).matchDecisions organizationId g =
      decisionsOf db.matchDecisions organizationId g := by
    rw [MatchTables.persist, decisionsOf, List.filter_append, decisionsOf]
    -- the decisions of the later run are of groups drawn after these
    have hnone : (result.decisions.map (Matching.decisionModel db organizationId'
        (groupModels db organizationId' result.groups))).filter
          (fun d => d.matchGroupId = some g.id ∧ d.organizationId = organizationId) = [] := by
      rw [List.filter_eq_nil_iff]
      intro d hd
      obtain ⟨decision, -, rfl⟩ := List.mem_map.1 hd
      simp only [decide_eq_true_eq, not_and]
      intro hgroup
      obtain ⟨k, -, -, hid⟩ := Matching.matchGroupIdOf_eq_some.1 hgroup
      simp only [MatchTables.groupId] at hid
      omega
    rw [hnone, List.append_nil]
  rw [loadGroup, loadGroup, hdecisions]

/-! ## What a commit was computed from -/

section
variable {py : PythonValues} (dep : Deployment py) (configured : Configuration → Prop)

/-- The rule set of the configuration that a row's run is matched by. -/
def Configuration.ruleSet (configuration : Configuration) (row : RunRow) : Option MatchRuleSetConfig :=
  (loadRuleSet configuration.matchRuleSets row.organizationId row.dataSourceId).2

/-- The result of matching the rows of a file. -/
def MatchOf {n : Nat} (row : RunRow) (source : ByteArray) (result : MatchResult n) : Prop :=
  ∃ loaded, ∃ hload : dep.loadCsv source = .ok loaded, ∃ configuration, configured configuration ∧
    (⟨n, result⟩ : Σ n, MatchResult n) = ⟨loaded.rows.length,
      matchRows py.casefold ⟨loaded.headers, loaded.rows, loadCsv_width dep hload⟩ (configuration.ruleSet row)
        dep.matchLimits⟩

/-- The overrides and the lookups of one configuration and another, as a row's run reads them. -/
def standardizationInputs (py : PythonValues) (row : RunRow) (source : ByteArray) (mapped looked : Configuration) :
    StandardizationInputs where
  source := source
  columnOverrides :=
    Standardization.loadColumnOverrides py.toPython mapped.columnMappings row.organizationId row.dataSourceId
  lookupTables := Standardization.loadLookupTables py.toPython looked.lookupEntries row.organizationId

/-- **What was read of an upstream row is what its commit was of.** -/
def Composed (commits : List (Commit py.toPython)) : Commit py.toPython → Prop
  | .dataProfile _ _                                => True
  | .cleaningRun _ profile inputs                   => inputs.columnTypes = profile.columnTypes
  | .standardizationRun row cleaningRun inputs      => (∃ mapped looked, configured mapped ∧ configured looked ∧
      inputs = standardizationInputs py row.toRunRow inputs.source mapped looked) ∧ ∃ profile cleaningInputs,
    .cleaningRun cleaningRun.unreviewed profile cleaningInputs ∈ commits ∧ cleaningInputs.output dep = some inputs.source
  | .matchRun row standardizationRun source result  => MatchOf dep configured row.toRunRow source result ∧
    ∃ cleaningRun inputs, .standardizationRun standardizationRun.unreviewed cleaningRun inputs ∈ commits ∧
      inputs.output dep = some source
  | .exportRun _ matchRun standardizationRun inputs => ∃ matched n, ∃ result : MatchResult n, ∃ ids,
    .matchRun matchRun.committed matched inputs.source result ∈ commits ∧
      inputs.groups.Perm (result.groups.zipIdx.map (groupInput ids)) ∧
      matched.unreviewed = standardizationRun.unreviewed

/-- The groups under the id of a match run are those of the result it was committed with. -/
def Matched (w : World py.toPython) (row : MatchRun) : Prop :=
  row.id < w.matchTables.nextId ∧ ∃ standardizationRun source n, ∃ result : MatchResult n, ∃ ids : MatchTables,
    .matchRun row.committed standardizationRun source result ∈ w.commits ∧ ids.matchRunId = row.id ∧
      loadGroups w.matchTables.matchGroups w.matchTables.matchDecisions row.organizationId row.id =
        loadGroups (ids.persist row.organizationId result).matchGroups
          (ids.persist row.organizationId result).matchDecisions
          row.organizationId row.id

structure Flows (w : World py.toPython) : Prop where
  filed         : Filed dep w
  traced        : Traced (fun _ => True) w
  composed      : ∀ c ∈ w.commits, Composed dep configured w.commits c
  matched       : ∀ row ∈ w.matchRuns, Matched w row
  configuration : configured w.configuration

def flowDiscipline : Discipline (World py.toPython) (Effect py.toPython) where
  rely := Extends
  invariant := Flows dep configured
  acts := fun w effect => ∀ c, effect = .commit c →
    Traceable (fun _ => True) w.commits c ∧ Composed dep configured w.commits c

/-- The runs, each its lease holder's, and the history. -/
def flows : Parts (World py.toPython) (Effect py.toPython) TaskRunId where
  discipline := fun id => (runDiscipline dep id).and (flowDiscipline dep configured)
  owner := World.leases

end

section
variable {py : PythonValues} {dep : Deployment py} {configured : Configuration → Prop} {w w' : World py.toPython}
  {id : TaskRunId}

/-! ## What keeps the invariant -/

theorem Composed.mono {commits commits' : List (Commit py.toPython)} (h : ∀ c ∈ commits, c ∈ commits')
    {c : Commit py.toPython} (hc : Composed dep configured commits c) : Composed dep configured commits' c := by
  cases c with
  | dataProfile row source => trivial
  | cleaningRun row profile inputs => exact hc
  | standardizationRun row cleaningRun inputs =>
    obtain ⟨hinputs, profile, cleaningInputs, hmem, hread⟩ := hc
    exact ⟨hinputs, profile, cleaningInputs, h _ hmem, hread⟩
  | matchRun row standardizationRun source result =>
    obtain ⟨hmatch, cleaningRun, inputs, hmem, hread⟩ := hc
    exact ⟨hmatch, cleaningRun, inputs, h _ hmem, hread⟩
  | exportRun row matchRun standardizationRun inputs =>
    obtain ⟨matched, n, result, ids, hmem, hgroups, hsame⟩ := hc
    exact ⟨matched, n, result, ids, h _ hmem, hgroups, hsame⟩

/-- It is about the history, the groups and the rows of matching. -/
theorem Matched.of_eq {row row' : MatchRun} (h : Matched w row) (htables : w'.matchTables = w.matchTables)
    (hcommits : ∀ c ∈ w.commits, c ∈ w'.commits) (hrow : row'.committed = row.committed) (hid : row'.id = row.id) :
    Matched w' row' := by
  obtain ⟨hdrawn, standardizationRun, source, n, result, ids, hmem, hids, hgroups⟩ := h
  have horganization := congrArg (fun r : MatchRun => r.organizationId) hrow
  change row'.organizationId = row.organizationId at horganization
  refine ⟨by rw [htables, hid]; exact hdrawn, standardizationRun, source, n, result, ids, ?_, hids.trans hid.symm, ?_⟩
  · rw [hrow]
    exact hcommits _ hmem
  · rw [htables, horganization, hid]
    exact hgroups

theorem Flows.happen (h : Flows dep configured w) (event : Event)
    (hchange : ∀ configuration, event = .configure configuration → configured configuration) :
    Flows dep configured (w.happen event) := by
  have hgrows : ∀ c ∈ w.commits, c ∈ (w.happen event).commits := (Extends.happen event).commits.subset
  have hcommits : (w.happen event).commits = w.commits ∧ (w.happen event).matchTables = w.matchTables := by
    cases event with
    | createRun taskId sourceTaskRunId currentUser id =>
      obtain ⟨tables, htables, -⟩ := happen_createRun_eq w taskId sourceTaskRunId currentUser id
      rw [htables]
      exact ⟨rfl, rfl⟩
    | review kind taskRunId action => cases kind <;> exact ⟨rfl, rfl⟩
    | _ => exact ⟨rfl, rfl⟩
  refine ⟨(h.filed.happen event).1, h.traced.happen trivial, ?_, fun row hrow => ?_, ?_⟩
  · rw [hcommits.1]
    exact h.composed
  · have hold : ∃ old ∈ w.matchRuns, row.committed = old.committed ∧ row.id = old.id := by
      cases event with
      | createRun taskId sourceTaskRunId currentUser id =>
        obtain ⟨tables, htables, -⟩ := happen_createRun_eq w taskId sourceTaskRunId currentUser id
        rw [htables] at hrow
        exact ⟨row, hrow, rfl, rfl⟩
      | review kind taskRunId action =>
        cases kind with
        | matching =>
          obtain ⟨old, hold, rfl | ⟨-, rfl⟩⟩ := mem_setStatus hrow
          · exact ⟨_, hold, rfl, rfl⟩
          · exact ⟨old, hold, rfl, rfl⟩
        | _ => exact ⟨row, hrow, rfl, rfl⟩
      | _ => exact ⟨row, hrow, rfl, rfl⟩
    obtain ⟨old, hmem, hsame, hid⟩ := hold
    exact (h.matched old hmem).of_eq hcommits.2 hgrows hsame hid
  · cases event with
    | createRun taskId sourceTaskRunId currentUser id =>
      obtain ⟨tables, htables, -⟩ := happen_createRun_eq w taskId sourceTaskRunId currentUser id
      rw [htables]
      exact h.configuration
    | configure configuration => exact hchange configuration rfl
    | review kind taskRunId action => cases kind <;> exact h.configuration
    | _ => exact h.configuration

/-- A match run's groups are those of its result, and stay those of the runs before it. -/
theorem Matched.commit (h : ∀ row ∈ w.matchRuns, Matched w row) {c : Commit py.toPython}
    (hc : Traceable (fun _ => True) w.commits c) :
    ∀ row ∈ (w.perform (.commit c)).1.matchRuns, Matched (w.perform (.commit c)).1 row := by
  have hgrows : ∀ c' ∈ w.commits, c' ∈ (w.perform (.commit c)).1.commits := (Extends.perform (.commit c)).commits.subset
  simp only [World.perform] at hgrows ⊢
  split
  · exact h
  · rename_i hrecorded
    rw [if_neg hrecorded] at hgrows
    intro row hrow
    rcases mem_matchRuns_insert_committed hrow with hold | ⟨new, standardizationRun, source, n, result, rfl, rfl⟩
    · cases c with
      | matchRun new standardizationRun source result =>
        obtain ⟨hdrawn, standardizationRun', source', n', result', ids, hmem, hids, hgroups⟩ := h row hold
        refine ⟨?_, standardizationRun', source', n', result', ids, hgrows _ hmem, hids, ?_⟩
        · simp only [World.insert, MatchTables.persist]
          omega
        · exact (loadGroups_persist w.matchTables row.organizationId _ _ result hdrawn).trans hgroups
      | _ => exact (h row hold).of_eq rfl hgrows rfl rfl
    · have hnew : new.committed = new := hc.1
      refine ⟨?_, standardizationRun, source, n, result, w.matchTables, ?_, rfl, rfl⟩
      · simp only [World.insert, MatchTables.persist, MatchTables.matchRunId]
        omega
      · change Commit.matchRun new.committed standardizationRun source result ∈ _
        rw [hnew]
        exact List.mem_append_right _ (List.mem_singleton.2 rfl)

/-- **An act of a run's execution keeps the invariant.** -/
theorem Flows.perform (h : Flows dep configured w) {effect : Effect py.toPython}
    (hacts : (runDiscipline dep id).acts w effect) (hflow : (flowDiscipline dep configured).acts w effect) :
    Flows dep configured (w.perform effect).1 := by
  have hfiled := (h.filed.perform hacts).1
  cases effect with
  | writeFile path content made =>
    exact ⟨hfiled, { h.traced with distinct := h.traced.distinct }, h.composed, h.matched, h.configuration⟩
  | commit c =>
    obtain ⟨htraceable, hcomposed⟩ := hflow c rfl
    refine ⟨hfiled, h.traced.commit htraceable, fun c' hc' => ?_, Matched.commit h.matched htraceable, ?_⟩
    · have hgrows : ∀ c'' ∈ w.commits, c'' ∈ (w.perform (.commit c)).1.commits :=
        (Extends.perform (.commit c)).commits.subset
      rcases mem_commits_commit hc' with hold | ⟨-, rfl⟩
      · exact (h.composed c' hold).mono hgrows
      · exact hcomposed.mono hgrows
    · simp only [World.perform]
      split
      · exact h.configuration
      · cases c <;> exact h.configuration

/-! ## The handlers -/

/-- **What is read of an output is what was made of its row's inputs.** -/
theorem Filed.read (h : Filed dep w) {c : Commit py.toPython} (hc : c ∈ w.commits) {row : OutputRow} {made : Made}
    (hrow : c.output = some (row, made)) {source : ByteArray} (hfile : w.files row.outputFilePath = some source) :
    made.output dep = some source := by
  obtain ⟨content, hcontent, hfile'⟩ := h.written.files _ _ (h.current c hc row made hrow)
  rw [hfile] at hfile'
  cases hfile'
  exact hcontent

theorem persist_flows {c : Commit py.toPython} (htraceable : Traceable (fun _ => True) w.commits c)
    (hcomposed : Composed dep configured w.commits c) :
    (persist c).Obeys (flowDiscipline dep configured) World.perform w := by
  intro w' hext _
  refine ⟨fun c' hc' => ?_, persisted_closed (Discipline.closed (flowDiscipline dep configured) World.perform) trivial c _⟩
  cases hc'
  exact ⟨htraceable.mono hext.commits.subset, hcomposed.mono hext.commits.subset⟩

/-- A write is nothing to the history. -/
theorem writeFile_flows {path : FilePath} {content : ByteArray} {made : Made} {next : Execution py.toPython}
    (h : ∀ w', (∀ c ∈ w.commits, c ∈ w'.commits) → next.Obeys (flowDiscipline dep configured) World.perform w') :
    Programs.Program.Obeys (flowDiscipline dep configured) World.perform
      (.act (.writeFile path content made) (fun _ => next) : Execution py.toPython) w := by
  intro w' hext _
  refine ⟨fun c hc => ?_, h _ (fun c hc => hext.commits.subset hc)⟩
  cases hc

theorem persist_flows_of_subset {c : Commit py.toPython} (hgrows : ∀ c' ∈ w.commits, c' ∈ w'.commits)
    (htraceable : Traceable (fun _ => True) w.commits c) (hcomposed : Composed dep configured w.commits c) :
    (persist c).Obeys (flowDiscipline dep configured) World.perform w' :=
  persist_flows (htraceable.mono hgrows) (hcomposed.mono hgrows)

/-- **Every stage computes what it commits from what its upstream rows were committed with.** -/
theorem getHandler_flows {taskType : Schedule.TaskType} {handler : ExecutionContext → Execution py.toPython}
    (hhandler : getHandler dep taskType = some handler) (context : ExecutionContext) :
    (handler context).Obeys (flowDiscipline dep configured) World.perform w := by
  have hclosed := Discipline.closed (κ := Query py.toPython) (ρ := Outcome) (flowDiscipline dep configured) World.perform
  cases taskType <;> cases hhandler
  · refine CsvProfilingHandler.execute_closed hclosed trivial (fun _ _ _ _ _ _ => trivial) ?_
    intro dataSource w₁ path w₂ source loaded result w₃ _ _ _ _ _ _ _ _
    exact persist_flows trivial trivial
  · refine CleaningHandler.execute_closed hclosed trivial (fun _ _ _ _ _ _ _ => trivial) ?_
    intro dataSource sourceTaskRunId profile w₁ w₂ w₃ path w₄ source loaded result _ _ hstarted hseen₃ hseen₄ _ _ _
    obtain ⟨hmem, hid⟩ := ofTaskRun_some hstarted.upstream
    obtain ⟨profiled, hprofile⟩ := hstarted.looks.2.traced.dataProfiles profile hmem
    have hprofile₄ := hseen₄.1.commits.subset (hseen₃.1.commits.subset (hstarted.again.1.commits.subset hprofile))
    refine writeFile_flows (fun w₅ hgrows => ?_)
    split
    · trivial
    · exact persist_flows_of_subset hgrows ⟨rfl, hid.symm, profiled, hprofile₄⟩ rfl
  · refine ExportHandler.execute_closed hclosed trivial (fun _ _ _ _ _ => trivial) ?_
    intro dataSource sourceTaskRunId matchRun w₁ w₂ w₃ standardizationRun w₄ source w₅ groups loaded _ _ hstarted
      hstatus hseen₃ hstandardization hseen₄ hfile hload _ hseen₅ hgroups
    obtain ⟨hmem, hid⟩ := ofTaskRun_some hstarted.upstream
    have hext₅ : Extends w₁ w₅ := (hstarted.again.1.trans hseen₃.1).trans (hseen₄.1.trans hseen₅.1)
    -- the match run is there still, whatever its status
    obtain ⟨row, hrow, hsame⟩ := List.mem_map.1 (hext₅.matchRuns.subset (List.mem_map_of_mem hmem))
    have hcommitted : row.committed = matchRun.committed := by
      have h := congrArg MatchRun.committed hsame
      exact h
    have hrowId : row.id = matchRun.id := by
      have h := congrArg MatchRun.id hsame
      exact h
    have horganization : row.organizationId = context.taskRun.organizationId := by
      have h := congrArg (fun r : MatchRun => r.organizationId) hsame
      have h' := ofTaskRun_organizationId hstarted.upstream
      exact h.trans h'
    obtain ⟨-, matched, matchedSource, n, result, ids, hmatched, hids, hrebuilt⟩ := hseen₅.2.matched row hrow
    rw [hcommitted] at hmatched
    obtain ⟨-, hmatchedId, -, -, -⟩ := hseen₅.2.traced.commits _ hmatched
    obtain ⟨⟨matchedLoaded, hmatchedLoad, ruled, -, hresult⟩, cleaningRun, inputs, hstandardized, hread⟩ :=
      hseen₅.2.composed _ hmatched
    cases hresult
    have hperm := Export.loadGroups_ok (List.Perm.refl _) (List.Perm.refl _) (by
      rw [hids, ← hrebuilt, horganization, hrowId]
      exact hgroups)
    -- the standardization run is the one that was matched, and its file was not written again
    obtain ⟨hmem₃, hid₃⟩ := ofTaskRun_some hstandardization
    obtain ⟨-, cleaningRun', inputs', hstandardized'⟩ := hseen₃.2.traced.standardizationRuns standardizationRun hmem₃
    have hstandardized₄ := hseen₄.1.commits.subset hstandardized'
    have hread' := hseen₄.2.filed.read hstandardized₄ rfl hfile
    obtain ⟨row', hrow', hsame'⟩ := List.mem_map.1
      ((hseen₄.1.trans hseen₅.1).standardizationRuns.subset (List.mem_map_of_mem hmem₃))
    have hrowId' : row'.taskRunId = matched.taskRunId := by
      have h := congrArg (fun r : StandardizationRun => r.taskRunId) hsame'
      exact (h.trans hid₃).trans hmatchedId
    have hunreviewed : matched.unreviewed = standardizationRun.unreviewed :=
      (hseen₅.2.traced.same hstandardized hrow' hrowId').trans hsame'
    rw [hunreviewed] at hstandardized
    have hlast := hseen₅.2.filed.current _ hstandardized _ _ rfl
    have hlast' := hseen₅.2.filed.current _ (hseen₅.1.commits.subset hstandardized₄) _ _ rfl
    have hinputs : inputs = inputs' := Made.standardized.inj (Option.some.inj (hlast.symm.trans hlast'))
    have hsource : matchedSource = source := by
      rw [hinputs] at hread
      exact Option.some.inj (hread.symm.trans hread')
    subst hsource
    refine writeFile_flows (fun w₆ hgrows => statSize_closed hclosed trivial (fun w₇ size hseen₇ => ?_))
    refine persist_flows_of_subset (fun c hc => hseen₇.1.commits.subset (hgrows c hc)) ?_ ?_
    · exact ⟨rfl, hid.symm, hstatus, trivial, matched, _, _, _, hmatched, hunreviewed⟩
    · exact ⟨matched, _, _, ids, hmatched, hperm, hunreviewed⟩
  · refine StandardizationHandler.execute_closed hclosed trivial (fun _ _ _ _ _ => trivial) ?_
    intro dataSource sourceTaskRunId cleaningRun w₁ w₂ w₃ source w₄ w₅ columnOverrides lookupTables loaded result _ _
      hstarted hstatus hseen₃ hfile _ hseen₄ hseen₅ hoverrides hlookups _
    obtain ⟨hmem, hid⟩ := ofTaskRun_some hstarted.upstream
    obtain ⟨-, profile, inputs, hcleaned⟩ := hstarted.looks.2.traced.cleaningRuns cleaningRun hmem
    have hcleaned₃ := hseen₃.1.commits.subset (hstarted.again.1.commits.subset hcleaned)
    have hread := hseen₃.2.filed.read hcleaned₃ rfl hfile
    have hcleaned₅ := hseen₅.1.commits.subset (hseen₄.1.commits.subset hcleaned₃)
    have hinputs : (⟨source, columnOverrides, lookupTables⟩ : StandardizationInputs) =
        standardizationInputs py (context.row dataSource) source w₄.configuration w₅.configuration := by
      rw [hoverrides, hlookups]
      rfl
    exact writeFile_flows (fun w₆ hgrows => persist_flows_of_subset hgrows
      ⟨rfl, hid.symm, hstatus, trivial, profile, inputs, hcleaned₅⟩
      ⟨⟨_, _, hseen₄.2.configuration, hseen₅.2.configuration, hinputs⟩, profile, inputs, hcleaned₅, hread⟩)
  · refine MatchHandler.execute_closed hclosed trivial (fun _ _ _ _ _ => trivial) ?_
    intro dataSource sourceTaskRunId standardizationRun w₁ w₂ w₃ source w₄ ruleSetRow ruleSet loaded hload _ _ hstarted
      hstatus hseen₃ hfile hseen₄ hruleSet
    obtain ⟨hmem, hid⟩ := ofTaskRun_some hstarted.upstream
    obtain ⟨-, cleaningRun, inputs, hstandardized⟩ :=
      hstarted.looks.2.traced.standardizationRuns standardizationRun hmem
    have hstandardized₃ := hseen₃.1.commits.subset (hstarted.again.1.commits.subset hstandardized)
    have hread := hseen₃.2.filed.read hstandardized₃ rfl hfile
    have hstandardized₄ := hseen₄.1.commits.subset hstandardized₃
    have hruled : w₄.configuration.ruleSet (context.row dataSource) = ruleSet := congrArg Prod.snd hruleSet
    subst hruled
    exact persist_flows ⟨rfl, hid.symm, hstatus, trivial, cleaningRun, inputs, hstandardized₄⟩
      ⟨⟨loaded, hload, _, hseen₄.2.configuration, rfl⟩, cleaningRun, inputs, hstandardized₄, hread⟩

/-! ## Every run -/

theorem flows_kept (dep : Deployment py) (configured : Configuration → Prop) :
    (flows dep configured).Kept (fun event => ∀ configuration, event = .configure configuration → configured configuration)
      (Flows dep configured) (pipeline dep) where
  invariant := fun _ _ => ⟨fun h => h.2, fun h => ⟨h.filed, h⟩⟩
  refl := fun _ w => ⟨.of_eq rfl rfl, .refl w⟩
  trans := fun _ _ _ _ h h' => ⟨h.1.trans h'.1, h.2.trans h'.2⟩
  perform := fun {w effect id} hflows hacts => by
    obtain ⟨-, howner, hothers⟩ := (runs_kept dep).perform hflows.filed hacts.1
    exact ⟨hflows.perform hacts.1 hacts.2, howner, fun other hne => ⟨hothers other hne, .perform effect⟩⟩
  launch := fun {w e id w' program} hflows hlaunch => by
    obtain ⟨run, task, handler, -, rfl, -, hhandler, hfree, rfl, rfl⟩ := execute_some hlaunch
    have hfiled : Filed dep (w.lease run.id (some e)) := hflows.filed.of_eq rfl rfl (fun _ _ => rfl) rfl rfl
    have hext : Extends w (w.lease run.id (some e)) := { Extends.refl w with }
    refine ⟨⟨hfiled, { hflows.traced with distinct := hflows.traced.distinct }, hflows.composed, hflows.matched,
      hflows.configuration⟩, run.id, hfree, if_pos rfl, fun id' hne => if_neg hne, fun _ => ⟨.of_eq rfl rfl, hext⟩, ?_⟩
    exact (getHandler_obeys hhandler ⟨run, task.dataSourceId.bind w.dataSource⟩).and (getHandler_flows hhandler _)
  disturb := fun event hchange hflows => by
    obtain ⟨-, huntouched, howner⟩ := (runs_kept dep).disturb event trivial hflows.filed
    exact ⟨hflows.happen event hchange, fun id => ⟨huntouched id, .happen event⟩, howner⟩

end

section
variable {py : PythonValues} (dep : Deployment py) (configured : Configuration → Prop)

/-- What lies between a source file and its export: the rows of the stages, as they were committed, the configurations and
what was computed. -/
structure Computation (py : PythonValues) where
  profile            : DataProfile py.toPython
  source             : ByteArray
  cleaningRun        : CleaningRun py.toPython
  cleaned            : ByteArray
  standardizationRun : StandardizationRun
  mapped             : Configuration
  looked             : Configuration
  standardized       : ByteArray
  loaded             : LoadedCsv
  matchRun           : MatchRun
  ruled              : Configuration
  ids                : MatchTables
  groups             : List Export.GroupInput
  exported           : ByteArray

def Computation.standardizationInputs (x : Computation py) : StandardizationInputs :=
  Pipeline.standardizationInputs py x.standardizationRun.toRunRow x.cleaned x.mapped x.looked

/-- **Cleaning, standardization, matching and export**, each of what the one before made. -/
structure Computation.Valid (x : Computation py) : Prop where
  cleaned      : CleaningInputs.output dep ⟨x.profile.columnTypes, x.source⟩ = some x.cleaned
  standardized : x.standardizationInputs.output dep = some x.standardized
  loaded       : dep.loadCsv x.standardized = .ok x.loaded
  groups       : ∃ h : dep.loadCsv x.standardized = .ok x.loaded, x.groups.Perm
    ((matchRows py.casefold ⟨x.loaded.headers, x.loaded.rows, loadCsv_width dep h⟩ (x.ruled.ruleSet x.matchRun.toRunRow)
      dep.matchLimits).groups.zipIdx.map (groupInput x.ids))
  exported     : ExportInputs.output dep ⟨x.standardized, x.groups⟩ = some x.exported

/-- **Each stage was committed on the row of the one before**, with what it read, and the export on the last. -/
structure Computation.Committed (x : Computation py) (commits : List (Commit py.toPython)) (row : ExportRun) : Prop where
  profile            : ∃ bytes, .dataProfile x.profile bytes ∈ commits
  cleaningRun        : .cleaningRun x.cleaningRun x.profile ⟨x.profile.columnTypes, x.source⟩ ∈ commits
  standardizationRun : ∃ cleaned : CleaningRun py.toPython, cleaned.unreviewed = x.cleaningRun ∧
    .standardizationRun x.standardizationRun cleaned x.standardizationInputs ∈ commits
  matchRun           : ∃ standardized : StandardizationRun, standardized.unreviewed = x.standardizationRun ∧
    ∃ n, ∃ result : MatchResult n, .matchRun x.matchRun standardized x.standardized result ∈ commits
  exportRun          : ∃ (matched : MatchRun) (standardized : StandardizationRun), matched.committed = x.matchRun ∧
    standardized.unreviewed = x.standardizationRun ∧
      .exportRun row.unreviewed matched standardized ⟨x.standardized, x.groups⟩ ∈ commits

/-- **Every exported file is what the stages make of a source file**, as they were committed, under configurations there
were. -/
def AllExported (w : World py.toPython) : Prop :=
  ∀ row ∈ w.exportRuns, ∃ x : Computation py, x.Valid dep ∧ x.Committed w.commits row ∧
    (configured x.mapped ∧ configured x.looked ∧ configured x.ruled) ∧
    w.files row.outputFilePath = some x.exported ∧ row.outputSha256 = dep.sha256 x.exported

variable {dep configured} {w : World py.toPython}

/-- From the commit of the export back to that of the profile. -/
theorem Flows.exported (h : Flows dep configured w) : AllExported dep configured w := by
  intro row hrow
  obtain ⟨matchRun, standardizationRun, inputs, hexport⟩ := h.traced.exportRuns row hrow
  obtain ⟨content, hcontent, hhash⟩ := h.filed.written.commits _ hexport _ _ rfl
  obtain ⟨made, hmade, hfile⟩ := h.filed.written.files _ _ (h.filed.current _ hexport _ _ rfl)
  have hsame : made = content := Option.some.inj (hmade.symm.trans hcontent)
  obtain ⟨matched, n, result, ids, hmatched, hgroups, hunreviewed⟩ := h.composed _ hexport
  obtain ⟨⟨loaded, hload, ruled, hruled, hresult⟩, cleaningRun, ⟨source, overrides, lookups⟩, hstandardized, hread⟩ :=
    h.composed _ hmatched
  obtain ⟨⟨mapped, looked, hmapped, hlooked, hinputs⟩, profile, ⟨columnTypes, original⟩, hcleaned, hread'⟩ :=
    h.composed _ hstandardized
  obtain ⟨-, -, bytes, hprofile⟩ := h.traced.commits _ hcleaned
  have hcolumns : columnTypes = profile.columnTypes := h.composed _ hcleaned
  cases hresult
  rw [hinputs] at hstandardized hread
  rw [hcolumns] at hcleaned hread'
  refine ⟨⟨profile, original, cleaningRun.unreviewed, source, matched.unreviewed, mapped, looked, inputs.source, loaded,
    matchRun.committed, ruled, ids, inputs.groups, content⟩, ⟨hread', hread, hload, ⟨hload, hgroups⟩, hcontent⟩,
    ⟨⟨bytes, hprofile⟩, hcleaned, ⟨cleaningRun, rfl, hstandardized⟩, ⟨matched, rfl, _, _, hmatched⟩,
      matchRun, standardizationRun, rfl, hunreviewed.symm, hexport⟩, ⟨hmapped, hlooked, hruled⟩, ?_, hhash.symm⟩
  rw [← hsame]
  exact hfile

end

section
variable {py : PythonValues}

/-- **In every run whose leases are lost only by executions that are over, every exported file is what the stages make, one
after the other, of a source file**, as they were committed and under configurations of the run, whatever is replaced,
reviewed or configured in between. -/
theorem exports_end_to_end (dep : Deployment py) (w : World py.toPython) (ls : List (Label TaskRunId Event))
    (h : Along (step (pipeline dep)) LeaseKept (State.initial w.unused) ls) :
    AllExported dep (fun configuration => configuration = w.configuration ∨ .disturb (.configure configuration) ∈ ls)
      (exec (step (pipeline dep)) (State.initial w.unused) ls).shared := by
  let configured := fun configuration => configuration = w.configuration ∨ .disturb (.configure configuration) ∈ ls
  have hflows : Flows dep configured w.unused := by
    refine ⟨.unused w, .unused w, fun c hc => ?_, fun row hrow => ?_, .inl rfl⟩
    · cases hc
    · cases hrow
  have hinitial : Disciplined (flows dep configured) (Flows dep configured) (pipeline dep)
      (State.initial w.unused : State _ (Query py.toPython) (Effect py.toPython) Outcome) := .initial hflows
  refine (hinitial.exec (flows_kept dep configured) ls ?_ ?_).invariant.exported
  · rintro event hmem configuration rfl
    exact .inr hmem
  · rw [Trace.along_iff_split] at h ⊢
    -- both are about the holders of the leases
    exact fun pre l post hls => keepsOwner_of_leaseKept (h pre l post hls)

end

/-- SHA-256 of the file of two companies and of what the stages make of it. -/
def companiesDigest (content : ByteArray) : QualityChain.Sha256 :=
  match content.size with
  | 5  => "078086524f6dafc0827c188389291c75b9499e0ea9833f5105144b1b425e8d98"
  | 9  => "4fbe9e0025c1d7deed72b9d8b2f6307734776cee24b4458e31c8487c051b8d8d"
  | 19 => "27fe17fe7f5b373179ec914a6ab1d028f379a64fe0d951e69bf4269247600786"
  | 68 => "ec11c4a0d727c5572ebe895e7cf597054c11cccc45a5b1d16df7fc378b630179"
  | _  => ""

def companiesDeployment : Deployment asciiValues := { headerDeployment with sha256 := companiesDigest }

/-- A file of two companies of one name, and a task of each stage. -/
def companiesWorld : World asciiValues.toPython :=
  { profiledWorld ['c'] with
    files := fun path => if path = headerPath then some "c\nx\nx".toByteArray else none
    tables := ⟨[(1, ⟨1, true⟩)], [(1, stageTask .sync), (2, stageTask .transform), (3, stageTask .standardize),
      (4, stageTask .match), (5, stageTask .export)], []⟩ }.unused

/-- The column holds companies, and one has a name of its own. -/
def companyNames : Configuration :=
  ⟨[⟨1, some 1, "c".toList, .companyName, true⟩], [⟨1, some .companyName, "x".toList, "X Inc.".toList, true⟩], []⟩

/-- A run is created and executed in `n` steps. -/
def stageLabels (id : TaskRunId) (sourceTaskRunId : Option TaskRunId) (n : Nat) : List (Label TaskRunId Event) :=
  [.disturb (.createRun id sourceTaskRunId operator id), .launch id id] ++ List.replicate n (.advance id)

/-- The stages, one after the other.  After cleaning the source file is removed and the configuration set. -/
def companiesLabels : List (Label TaskRunId Event) :=
  stageLabels 1 none 4 ++ (stageLabels 2 (some 1) 6 ++ ([.disturb (.review .cleaning 2 .approve),
    .disturb (.replaceFile 1 [['f']] none), .disturb (.configure companyNames)] ++
  (stageLabels 3 (some 2) 7 ++ (.disturb (.review .standardization 3 .approve) ::
  (stageLabels 4 (some 3) 6 ++ (.disturb (.review .matching 4 .approve) :: stageLabels 5 (some 4) 8))))))

def exportedWorld : World asciiValues.toPython :=
  (exec (step (pipeline companiesDeployment)) (State.initial companiesWorld) companiesLabels).shared

/-- The two rows are exported as one, under the name that was set in the run. -/
theorem exports_end_to_end_companies : ∃ row : ExportRun, exportedWorld.exportRuns = [row] ∧
    row.result.outputRows = [["X Inc.".toList, "True".toList, "0".toList]] ∧
      ∃ x : Computation asciiValues, x.Valid companiesDeployment ∧ x.Committed exportedWorld.commits row ∧
        row.outputSha256 = companiesDigest x.exported := by
  have hlabels : ∀ id, .disturb (.loseLease id) ∉ companiesLabels := by simp [companiesLabels, stageLabels, List.replicate]
  have hall : AllExported companiesDeployment _ exportedWorld :=
    exports_end_to_end companiesDeployment _ companiesLabels (along_leaseKept_of_notMem _ hlabels)
  have hrows : exportedWorld.exportRuns.map (fun row => row.result.outputRows) =
      [[["X Inc.".toList, "True".toList, "0".toList]]] := by decide +kernel
  obtain ⟨row, hrow, hresult⟩ := List.map_eq_singleton_iff.1 hrows
  obtain ⟨x, hvalid, hcommitted, -, -, hhash⟩ := hall row (hrow ▸ List.mem_cons_self)
  exact ⟨row, hrow, hresult, x, hvalid, hcommitted, hhash⟩

end Pipeline
end DataOps

import DataOps.PipelineRecords
/-!
# PipelineReviewed — a result and the reviews behind it

A stage takes its upstream row only when it is approved, and only a review approves one.  So every result goes back, row
by row, to a profiled file through results that were approved before they were used.
-/
namespace DataOps
namespace Pipeline

open Api (ReviewAction RunKind TaskRunId)
open Programs (Allowed Contract Label Safe State step)
open Trace (exec)

section
variable {py : Python}

/-- The columns of a match run as it is committed. -/
def MatchRun.committed (row : MatchRun) : MatchRun := { row with id := 0, status := .pendingReview }

/-- **A result made from a profiled file through results that were approved**, each used as it was committed but for its
status. -/
inductive Reviewed (happened : Event → Prop) (commits : List (Commit py)) : Commit py → Prop
  | dataProfile {row : DataProfile py} {source : ByteArray} : Reviewed happened commits (.dataProfile row source)
  | cleaningRun {row : CleaningRun py} {profile : DataProfile py} {inputs : CleaningInputs} {source : ByteArray} :
    .dataProfile profile source ∈ commits → row.sourceTaskRunId = profile.taskRunId →
    Reviewed happened commits (.dataProfile profile source) →
    Reviewed happened commits (.cleaningRun row profile inputs)
  | standardizationRun {row : StandardizationRun} {cleaningRun : CleaningRun py} {inputs : StandardizationInputs}
      {profile : DataProfile py} {cleaningInputs : CleaningInputs} :
    .cleaningRun cleaningRun.unreviewed profile cleaningInputs ∈ commits →
    row.sourceTaskRunId = cleaningRun.taskRunId → cleaningRun.status = .approved →
    happened (.review .cleaning cleaningRun.taskRunId .approve) →
    Reviewed happened commits (.cleaningRun cleaningRun.unreviewed profile cleaningInputs) →
    Reviewed happened commits (.standardizationRun row cleaningRun inputs)
  | matchRun {row : MatchRun} {standardizationRun : StandardizationRun} {source : ByteArray} {n : Nat}
      {result : Matching.MatchResult n} {cleaningRun : CleaningRun py} {inputs : StandardizationInputs} :
    .standardizationRun standardizationRun.unreviewed cleaningRun inputs ∈ commits →
    row.sourceTaskRunId = standardizationRun.taskRunId → standardizationRun.status = .approved →
    happened (.review .standardization standardizationRun.taskRunId .approve) →
    Reviewed happened commits (.standardizationRun standardizationRun.unreviewed cleaningRun inputs) →
    Reviewed happened commits (.matchRun row standardizationRun source result)
  | exportRun {row : ExportRun} {matchRun : MatchRun} {standardizationRun matched : StandardizationRun}
      {inputs : ExportInputs} {source : ByteArray} {n : Nat} {result : Matching.MatchResult n} :
    .matchRun matchRun.committed matched source result ∈ commits → row.sourceTaskRunId = matchRun.taskRunId →
    matchRun.status = .approved → happened (.review .matching matchRun.taskRunId .approve) →
    matched.unreviewed = standardizationRun.unreviewed →
    Reviewed happened commits (.matchRun matchRun.committed matched source result) →
    Reviewed happened commits (.exportRun row matchRun standardizationRun inputs)

/-- What a commit says of its upstream row. -/
def Traceable (happened : Event → Prop) (commits : List (Commit py)) : Commit py → Prop
  | .dataProfile _ _                                  => True
  | .cleaningRun row profile _                        =>
    row.unreviewed = row ∧ row.sourceTaskRunId = profile.taskRunId ∧ ∃ source, .dataProfile profile source ∈ commits
  | .standardizationRun row cleaningRun _             =>
    row.unreviewed = row ∧ row.sourceTaskRunId = cleaningRun.taskRunId ∧ cleaningRun.status = .approved ∧
      happened (.review .cleaning cleaningRun.taskRunId .approve) ∧
      ∃ profile inputs, .cleaningRun cleaningRun.unreviewed profile inputs ∈ commits
  | .matchRun row standardizationRun _ _              =>
    row.committed = row ∧ row.sourceTaskRunId = standardizationRun.taskRunId ∧ standardizationRun.status = .approved ∧
      happened (.review .standardization standardizationRun.taskRunId .approve) ∧
      ∃ cleaningRun inputs, .standardizationRun standardizationRun.unreviewed cleaningRun inputs ∈ commits
  | .exportRun row matchRun standardizationRun _      =>
    row.unreviewed = row ∧ row.sourceTaskRunId = matchRun.taskRunId ∧ matchRun.status = .approved ∧
      happened (.review .matching matchRun.taskRunId .approve) ∧
      ∃ matched source, ∃ n, ∃ result : Matching.MatchResult n,
        .matchRun matchRun.committed matched source result ∈ commits ∧ matched.unreviewed = standardizationRun.unreviewed

/-- **The rows are those committed but for their statuses, and a review approved those that are.** -/
structure Traced (happened : Event → Prop) (w : World py) : Prop where
  commits             : ∀ c ∈ w.commits, Traceable happened w.commits c
  dataProfiles        : ∀ row ∈ w.dataProfiles, ∃ source, .dataProfile row source ∈ w.commits
  cleaningRuns        : ∀ row ∈ w.cleaningRuns,
    (row.status = .approved → happened (.review .cleaning row.taskRunId .approve)) ∧
      ∃ profile inputs, .cleaningRun row.unreviewed profile inputs ∈ w.commits
  standardizationRuns : ∀ row ∈ w.standardizationRuns,
    (row.status = .approved → happened (.review .standardization row.taskRunId .approve)) ∧
      ∃ cleaningRun inputs, .standardizationRun row.unreviewed cleaningRun inputs ∈ w.commits
  matchRuns           : ∀ row ∈ w.matchRuns,
    (row.status = .approved → happened (.review .matching row.taskRunId .approve)) ∧
      ∃ standardizationRun source, ∃ n, ∃ result : Matching.MatchResult n,
        .matchRun row.committed standardizationRun source result ∈ w.commits
  exportRuns          : ∀ row ∈ w.exportRuns, ∃ matchRun standardizationRun inputs,
    .exportRun row.unreviewed matchRun standardizationRun inputs ∈ w.commits
  standardized        : ∀ row cleaningRun inputs, .standardizationRun row cleaningRun inputs ∈ w.commits →
    ∃ row' ∈ w.standardizationRuns, row'.unreviewed = row
  distinct            : Distinct w

/-- The history only grows, and what happens is of the run. -/
def reviewContract (happened : Event → Prop) :
    Contract (World py) (Query py) (Effect py) TaskRunId Event where
  grows := fun w w' => ∀ c ∈ w.commits, c ∈ w'.commits
  invariant := Traced happened
  launches := fun _ _ => True
  looks := fun _ _ => True
  acts := fun _ _ => True
  changes := fun _ event => happened event
  meets := fun w effect => ∀ c, effect = .commit c → Traceable happened w.commits c

end

section
variable {py : PythonValues} {dep : Deployment py} {w w' : World py.toPython} {happened : Event → Prop}

/-! ## What is traceable -/

theorem Traceable.mono {commits commits' : List (Commit py.toPython)} (h : ∀ c ∈ commits, c ∈ commits')
    {c : Commit py.toPython} (hc : Traceable happened commits c) : Traceable happened commits' c := by
  cases c with
  | dataProfile row source => trivial
  | cleaningRun row profile inputs =>
    obtain ⟨hnew, hsource, source, hmem⟩ := hc
    exact ⟨hnew, hsource, source, h _ hmem⟩
  | standardizationRun row cleaningRun inputs =>
    obtain ⟨hnew, hsource, hstatus, happroved, profile, cleaningInputs, hmem⟩ := hc
    exact ⟨hnew, hsource, hstatus, happroved, profile, cleaningInputs, h _ hmem⟩
  | matchRun row standardizationRun source result =>
    obtain ⟨hnew, hsource, hstatus, happroved, cleaningRun, inputs, hmem⟩ := hc
    exact ⟨hnew, hsource, hstatus, happroved, cleaningRun, inputs, h _ hmem⟩
  | exportRun row matchRun standardizationRun inputs =>
    obtain ⟨hnew, hsource, hstatus, happroved, matched, source, n, result, hmem, hsame⟩ := hc
    exact ⟨hnew, hsource, hstatus, happroved, matched, source, n, result, h _ hmem, hsame⟩

/-- **Where every commit is traceable, every commit is reviewed**: stage after stage. -/
theorem reviewed_of_traceable {commits : List (Commit py.toPython)} (h : ∀ c ∈ commits, Traceable happened commits c)
    {c : Commit py.toPython} (hc : c ∈ commits) : Reviewed happened commits c := by
  have hcleaning : ∀ row profile inputs, .cleaningRun row profile inputs ∈ commits →
      Reviewed happened commits (.cleaningRun row profile inputs) := by
    intro row profile inputs hmem
    obtain ⟨-, hsource, source, hprofile⟩ := h _ hmem
    exact .cleaningRun hprofile hsource .dataProfile
  have hstandardization : ∀ row cleaningRun inputs, .standardizationRun row cleaningRun inputs ∈ commits →
      Reviewed happened commits (.standardizationRun row cleaningRun inputs) := by
    intro row cleaningRun inputs hmem
    obtain ⟨-, hsource, hstatus, happroved, profile, cleaningInputs, hcleaned⟩ := h _ hmem
    exact .standardizationRun hcleaned hsource hstatus happroved (hcleaning _ _ _ hcleaned)
  have hmatching : ∀ row standardizationRun source, ∀ n, ∀ result : Matching.MatchResult n,
      .matchRun row standardizationRun source result ∈ commits →
      Reviewed happened commits (.matchRun row standardizationRun source result) := by
    intro row standardizationRun source n result hmem
    obtain ⟨-, hsource, hstatus, happroved, cleaningRun, inputs, hstandardized⟩ := h _ hmem
    exact .matchRun hstandardized hsource hstatus happroved (hstandardization _ _ _ hstandardized)
  cases c with
  | dataProfile row source => exact .dataProfile
  | cleaningRun row profile inputs => exact hcleaning row profile inputs hc
  | standardizationRun row cleaningRun inputs => exact hstandardization row cleaningRun inputs hc
  | matchRun row standardizationRun source result => exact hmatching row standardizationRun source _ result hc
  | exportRun row matchRun standardizationRun inputs =>
    obtain ⟨-, hsource, hstatus, happroved, matched, source, n, result, hmem, hsame⟩ := h _ hc
    exact .exportRun hmem hsource hstatus happroved hsame (hmatching _ _ _ n result hmem)

/-! ## What keeps the invariant -/

/-- A row is as before, or it has the target of the review as its status. -/
theorem mem_setStatus {α : Type} {row : α → RunRow} {set : α → Api.ApprovalStatus → α} {taskRunId : TaskRunId}
    {action : ReviewAction} {rows : List α} {r : α} (h : r ∈ setStatus row set taskRunId action rows) :
    ∃ old ∈ rows, r = old ∨ (row old).taskRunId = taskRunId ∧ r = set old action.target := by
  obtain ⟨old, hold, rfl⟩ := List.mem_map.1 h
  refine ⟨old, hold, ?_⟩
  split
  · rename_i hid
    exact .inr ⟨hid, rfl⟩
  · exact .inl rfl

/-- Only an approval approves. -/
theorem target_approved {action : ReviewAction} (h : action.target = .approved) : action = .approve := by
  cases action <;> first | rfl | cases h

theorem mem_map_setStatus {α β : Type} {row : α → RunRow} (set : α → Api.ApprovalStatus → α) {f : α → β}
    (hf : ∀ r status, f (set r status) = f r) (taskRunId : TaskRunId) (action : ReviewAction) {rows : List α} {b : β}
    (h : ∃ r ∈ rows, f r = b) : ∃ r ∈ setStatus row set taskRunId action rows, f r = b := by
  rw [← List.mem_map, map_setStatus row set f hf, List.mem_map]
  exact h

theorem Traced.review (h : Traced happened w) {kind : RunKind} {taskRunId : TaskRunId} {action : ReviewAction}
    (hhappened : happened (.review kind taskRunId action)) : Traced happened (w.review kind taskRunId action) := by
  have hdistinct := h.distinct.happen (.review kind taskRunId action)
  cases kind with
  | cleaning =>
    refine { h with cleaningRuns := fun row hrow => ?_, distinct := hdistinct }
    obtain ⟨old, hold, rfl | ⟨hid, rfl⟩⟩ := mem_setStatus hrow
    · exact h.cleaningRuns row hold
    · refine ⟨fun hstatus => ?_, (h.cleaningRuns old hold).2⟩
      rw [← target_approved hstatus]
      exact hid ▸ hhappened
  | standardization =>
    refine { h with standardizationRuns := fun row hrow => ?_, standardized := fun row cleaningRun inputs hmem => ?_
                    distinct := hdistinct }
    · obtain ⟨old, hold, rfl | ⟨hid, rfl⟩⟩ := mem_setStatus hrow
      · exact h.standardizationRuns row hold
      · refine ⟨fun hstatus => ?_, (h.standardizationRuns old hold).2⟩
        rw [← target_approved hstatus]
        exact hid ▸ hhappened
    · exact mem_map_setStatus (fun r status => { r with status := status }) (fun _ _ => rfl) taskRunId action
        (h.standardized row cleaningRun inputs hmem)
  | matching =>
    refine { h with matchRuns := fun row hrow => ?_, distinct := hdistinct }
    obtain ⟨old, hold, rfl | ⟨hid, rfl⟩⟩ := mem_setStatus hrow
    · exact h.matchRuns row hold
    · refine ⟨fun hstatus => ?_, (h.matchRuns old hold).2⟩
      rw [← target_approved hstatus]
      exact hid ▸ hhappened
  | «export» =>
    refine { h with exportRuns := fun row hrow => ?_, distinct := hdistinct }
    obtain ⟨old, hold, rfl | ⟨-, rfl⟩⟩ := mem_setStatus hrow
    · exact h.exportRuns row hold
    · exact h.exportRuns old hold

theorem Traced.happen (h : Traced happened w) {event : Event} (hhappened : happened event) :
    Traced happened (w.happen event) := by
  cases event with
  | createRun taskId sourceTaskRunId currentUser id =>
    obtain ⟨tables, htables, -⟩ := happen_createRun_eq w taskId sourceTaskRunId currentUser id
    rw [htables]
    exact { h with distinct := h.distinct }
  | replaceFile organizationId relative content => exact { h with distinct := h.distinct }
  | review kind taskRunId action => exact h.review hhappened
  | configure configuration => exact { h with distinct := h.distinct }
  | loseLease id => exact { h with distinct := h.distinct }

theorem mem_cleaningRuns_insert {c : Commit py.toPython} {row : CleaningRun py.toPython}
    (h : row ∈ (w.insert c).cleaningRuns) :
    row ∈ w.cleaningRuns ∨ ∃ profile inputs, c = .cleaningRun row profile inputs := by
  cases c with
  | cleaningRun new profile inputs =>
    rcases List.mem_append.1 h with hold | hnew
    · exact .inl hold
    · exact .inr ⟨profile, inputs, by rw [List.mem_singleton.1 hnew]⟩
  | dataProfile => exact .inl h
  | standardizationRun => exact .inl h
  | matchRun => exact .inl h
  | exportRun => exact .inl h

theorem mem_standardizationRuns_insert {c : Commit py.toPython} {row : StandardizationRun} :
    row ∈ (w.insert c).standardizationRuns ↔
      row ∈ w.standardizationRuns ∨ ∃ cleaningRun inputs, c = .standardizationRun row cleaningRun inputs := by
  cases c with
  | standardizationRun new cleaningRun inputs =>
    simp only [World.insert, List.mem_append, List.mem_singleton, Commit.standardizationRun.injEq]
    refine or_congr_right ⟨?_, ?_⟩
    · rintro rfl
      exact ⟨cleaningRun, inputs, rfl, rfl, rfl⟩
    · rintro ⟨-, -, rfl, -, -⟩
      rfl
  | dataProfile => simp [World.insert]
  | cleaningRun => simp [World.insert]
  | matchRun => simp [World.insert]
  | exportRun => simp [World.insert]

/-- The new row is the commit's, but for its id. -/
theorem mem_matchRuns_insert_committed {c : Commit py.toPython} {row : MatchRun} (h : row ∈ (w.insert c).matchRuns) :
    row ∈ w.matchRuns ∨ ∃ new standardizationRun source, ∃ n, ∃ result : Matching.MatchResult n,
      c = .matchRun new standardizationRun source result ∧ row = { new with id := w.matchTables.matchRunId } := by
  cases c with
  | matchRun new standardizationRun source result =>
    rcases List.mem_append.1 h with hold | hnew
    · exact .inl hold
    · exact .inr ⟨new, standardizationRun, source, _, result, rfl, List.mem_singleton.1 hnew⟩
  | dataProfile => exact .inl h
  | cleaningRun => exact .inl h
  | standardizationRun => exact .inl h
  | exportRun => exact .inl h

theorem mem_exportRuns_insert {c : Commit py.toPython} {row : ExportRun} (h : row ∈ (w.insert c).exportRuns) :
    row ∈ w.exportRuns ∨ ∃ matchRun standardizationRun inputs, c = .exportRun row matchRun standardizationRun inputs := by
  cases c with
  | exportRun new matchRun standardizationRun inputs =>
    rcases List.mem_append.1 h with hold | hnew
    · exact .inl hold
    · exact .inr ⟨matchRun, standardizationRun, inputs, by rw [List.mem_singleton.1 hnew]⟩
  | dataProfile => exact .inl h
  | cleaningRun => exact .inl h
  | standardizationRun => exact .inl h
  | matchRun => exact .inl h

/-- **A traceable commit.** -/
theorem Traced.commit (h : Traced happened w) {c : Commit py.toPython} (hc : Traceable happened w.commits c) :
    Traced happened (w.perform (.commit c)).1 := by
  have hdistinct := h.distinct.perform (.commit c)
  simp only [World.perform] at hdistinct ⊢
  split
  · exact h
  · rename_i hrecorded
    rw [if_neg hrecorded] at hdistinct
    have hmono : ∀ c' ∈ w.commits, c' ∈ w.commits ++ [c] := fun c' hc' => List.mem_append_left _ hc'
    have hnew : c ∈ w.commits ++ [c] := List.mem_append_right _ (List.mem_singleton.2 rfl)
    refine ⟨fun c' hc' => ?_, fun row hrow => ?_, fun row hrow => ?_, fun row hrow => ?_, fun row hrow => ?_,
      fun row hrow => ?_, fun row cleaningRun inputs hmem => ?_, hdistinct⟩
    · rcases List.mem_append.1 hc' with hold | hlast
      · exact (h.commits c' hold).mono hmono
      · rw [List.mem_singleton.1 hlast]
        exact hc.mono hmono
    · rcases mem_dataProfiles_insert hrow with hold | ⟨source, rfl⟩
      · obtain ⟨source, hmem⟩ := h.dataProfiles row hold
        exact ⟨source, hmono _ hmem⟩
      · exact ⟨source, hnew⟩
    · rcases mem_cleaningRuns_insert hrow with hold | ⟨profile, inputs, rfl⟩
      · obtain ⟨happroved, profile, inputs, hmem⟩ := h.cleaningRuns row hold
        exact ⟨happroved, profile, inputs, hmono _ hmem⟩
      · -- a new row is pending
        have hpending : row.unreviewed = row := hc.1
        refine ⟨fun hstatus => ?_, profile, inputs, hpending.symm ▸ hnew⟩
        rw [← hpending] at hstatus
        cases hstatus
    · rcases mem_standardizationRuns_insert.1 hrow with hold | ⟨cleaningRun, inputs, rfl⟩
      · obtain ⟨happroved, cleaningRun, inputs, hmem⟩ := h.standardizationRuns row hold
        exact ⟨happroved, cleaningRun, inputs, hmono _ hmem⟩
      · have hpending : row.unreviewed = row := hc.1
        refine ⟨fun hstatus => ?_, cleaningRun, inputs, hpending.symm ▸ hnew⟩
        rw [← hpending] at hstatus
        cases hstatus
    · rcases mem_matchRuns_insert_committed hrow with hold | ⟨new, standardizationRun, source, n, result, rfl, rfl⟩
      · obtain ⟨happroved, standardizationRun, source, n, result, hmem⟩ := h.matchRuns row hold
        exact ⟨happroved, standardizationRun, source, n, result, hmono _ hmem⟩
      · have hpending : new.committed = new := hc.1
        refine ⟨fun hstatus => ?_, standardizationRun, source, n, result, ?_⟩
        · have hnew : new.status = .approved := hstatus
          rw [← hpending] at hnew
          cases hnew
        · change Commit.matchRun new.committed standardizationRun source result ∈ _
          rw [hpending]
          exact hnew
    · rcases mem_exportRuns_insert hrow with hold | ⟨matchRun, standardizationRun, inputs, rfl⟩
      · obtain ⟨matchRun, standardizationRun, inputs, hmem⟩ := h.exportRuns row hold
        exact ⟨matchRun, standardizationRun, inputs, hmono _ hmem⟩
      · have hpending : row.unreviewed = row := hc.1
        exact ⟨matchRun, standardizationRun, inputs, hpending.symm ▸ hnew⟩
    · rcases List.mem_append.1 hmem with hold | hlast
      · obtain ⟨row', hrow', hsame⟩ := h.standardized row cleaningRun inputs hold
        exact ⟨row', mem_standardizationRuns_insert.2 (.inl hrow'), hsame⟩
      · have hlast := List.mem_singleton.1 hlast
        subst hlast
        exact ⟨row, mem_standardizationRuns_insert.2 (.inr ⟨cleaningRun, inputs, rfl⟩), hc.1⟩

/-! ## The handlers -/

/-- What is seen between an execution's steps. -/
theorem Traced.same (h : Traced happened w) {row row' : StandardizationRun} {cleaningRun : CleaningRun py.toPython}
    {inputs : StandardizationInputs} (hcommit : .standardizationRun row.unreviewed cleaningRun inputs ∈ w.commits)
    (hrow : row' ∈ w.standardizationRuns) (hid : row'.taskRunId = row.taskRunId) : row.unreviewed = row'.unreviewed := by
  obtain ⟨row'', hrow'', hsame⟩ := h.standardized _ _ _ hcommit
  have hid' : row''.taskRunId = row'.taskRunId := by
    have hids := congrArg (fun r : StandardizationRun => r.taskRunId) hsame
    exact hids.trans hid.symm
  have hdistinct : (w.standardizationRuns.map (fun r => r.taskRunId)).Nodup := by
    have h' := h.distinct .standardize
    rw [World.rowsOf, List.map_map] at h'
    exact h'
  rw [← hsame, List.inj_on_of_nodup_map hdistinct hrow'' hrow hid']

/-- **Every stage commits what is traceable.** -/
theorem getHandler_traceable {taskType : Schedule.TaskType} {handler : ExecutionContext → Execution py.toPython}
    (hhandler : getHandler dep taskType = some handler) (context : ExecutionContext) :
    (handler context).Sound (reviewContract happened) w := by
  have hclosed := Contract.closed (ρ := Outcome) (@reviewContract py.toPython happened)
  have hwrite : ∀ {path content made} {commits : List (Commit py.toPython)} (c : Commit py.toPython),
      Effect.writeFile path content made = .commit c → Traceable happened commits c := by
    intro path content made commits c hc
    cases hc
  have hpersist : ∀ (c : Commit py.toPython) (w : World py.toPython), Traceable happened w.commits c →
      (persist c).Sound (reviewContract happened) w := by
    intro c w hc
    refine ⟨fun c' hc' => ?_, fun accepted => persisted_closed hclosed trivial c accepted⟩
    cases hc'
    exact hc
  cases taskType <;> cases hhandler
  · refine CsvProfilingHandler.execute_closed hclosed trivial (fun _ _ _ _ _ _ => trivial) ?_
    intro dataSource w₁ path w₂ source loaded result w₃ _ _ _ _ _ _ _ _
    exact hpersist _ w₃ trivial
  · refine CleaningHandler.execute_closed hclosed trivial (fun _ _ _ _ _ _ _ => trivial) ?_
    intro dataSource sourceTaskRunId profile w₁ w₂ w₃ path w₄ source loaded result _ _ hstarted hseen₃ hseen₄ _ _ _
    obtain ⟨hmem, hid⟩ := ofTaskRun_some hstarted.upstream
    obtain ⟨profiled, hprofile⟩ := hstarted.looks.2.1.dataProfiles profile hmem
    refine ⟨hwrite, fun _ => ?_⟩
    split
    · trivial
    · exact hpersist _ w₄ ⟨rfl, hid.symm, profiled, hseen₄.1 _ (hseen₃.1 _ (hstarted.again.1 _ hprofile))⟩
  · refine ExportHandler.execute_closed hclosed trivial (fun _ _ _ _ _ => trivial) ?_
    intro dataSource sourceTaskRunId matchRun w₁ w₂ w₃ standardizationRun w₄ source w₅ groups loaded _ _ hstarted
      hstatus hseen₃ hstandardization hseen₄ _ _ _ hseen₅ _
    obtain ⟨hmem, hid⟩ := ofTaskRun_some hstarted.upstream
    obtain ⟨happroved, matched, matchedSource, n, result, hmatched⟩ := hstarted.looks.2.1.matchRuns matchRun hmem
    have hmatched₃ := hseen₃.1 _ (hstarted.again.1 _ hmatched)
    -- the standardization run is the one that was matched
    obtain ⟨-, hmatchedId, -, -, cleaningRun, inputs, hstandardized⟩ := hseen₃.2.1.commits _ hmatched₃
    obtain ⟨hmem₃, hid₃⟩ := ofTaskRun_some hstandardization
    have hsame := hseen₃.2.1.same hstandardized hmem₃ (hid₃.trans hmatchedId)
    have hcommit : ∀ w₆ : World py.toPython, (∀ c ∈ w₅.commits, c ∈ w₆.commits) → ∀ (row : ExportRun)
        (inputs : ExportInputs), row.unreviewed = row → row.sourceTaskRunId = sourceTaskRunId →
        Traceable happened w₆.commits (.exportRun row matchRun standardizationRun inputs) := by
      intro w₆ hgrows row inputs hnew hsource
      refine ⟨hnew, hsource.trans hid.symm, hstatus, happroved hstatus, matched, matchedSource, n, result, ?_, hsame⟩
      exact hgrows _ (hseen₅.1 _ (hseen₄.1 _ hmatched₃))
    refine ⟨hwrite, fun _ => statSize_closed hclosed trivial (fun w₆ size hseen₆ => hpersist _ w₆ ?_)⟩
    exact hcommit w₆ hseen₆.1 _ _ rfl rfl
  · refine StandardizationHandler.execute_closed hclosed trivial (fun _ _ _ _ _ => trivial) ?_
    intro dataSource sourceTaskRunId cleaningRun w₁ w₂ w₃ source w₄ w₅ columnOverrides lookupTables loaded result _ _
      hstarted hstatus hseen₃ _ _ hseen₄ hseen₅ _ _ _
    obtain ⟨hmem, hid⟩ := ofTaskRun_some hstarted.upstream
    obtain ⟨happroved, profile, inputs, hcleaned⟩ := hstarted.looks.2.1.cleaningRuns cleaningRun hmem
    refine ⟨hwrite, fun _ => hpersist _ w₅ ⟨rfl, hid.symm, hstatus, happroved hstatus, profile, inputs, ?_⟩⟩
    exact hseen₅.1 _ (hseen₄.1 _ (hseen₃.1 _ (hstarted.again.1 _ hcleaned)))
  · refine MatchHandler.execute_closed hclosed trivial (fun _ _ _ _ _ => trivial) ?_
    intro dataSource sourceTaskRunId standardizationRun w₁ w₂ w₃ source w₄ ruleSetRow ruleSet loaded hload _ _ hstarted
      hstatus hseen₃ _ hseen₄ _
    obtain ⟨hmem, hid⟩ := ofTaskRun_some hstarted.upstream
    obtain ⟨happroved, cleaningRun, inputs, hstandardized⟩ :=
      hstarted.looks.2.1.standardizationRuns standardizationRun hmem
    refine hpersist _ w₄ ⟨rfl, hid.symm, hstatus, happroved hstatus, cleaningRun, inputs, ?_⟩
    exact hseen₄.1 _ (hseen₃.1 _ (hstarted.again.1 _ hstandardized))

theorem Traced.unused (w : World py.toPython) : Traced happened w.unused where
  commits := fun c hc => by cases hc
  dataProfiles := fun row hrow => by cases hrow
  cleaningRuns := fun row hrow => by cases hrow
  standardizationRuns := fun row hrow => by cases hrow
  matchRuns := fun row hrow => by cases hrow
  exportRuns := fun row hrow => by cases hrow
  standardized := fun row cleaningRun inputs hmem => by cases hmem
  distinct := fun taskType => by cases taskType <;> exact List.nodup_nil

theorem review_kept (dep : Deployment py) : (@reviewContract py.toPython happened).Kept (pipeline dep) where
  refl := fun _ _ hc => hc
  trans := fun h h' c hc => h' c (h c hc)
  stable := fun hmeets hgrows c hc => (hmeets c hc).mono hgrows
  perform := fun {w effect} hinv hmeets _ => by
    refine ⟨?_, fun c hc => (Extends.perform effect).commits.subset hc⟩
    cases effect with
    | writeFile path content made => exact { hinv with distinct := hinv.distinct }
    | commit c => exact hinv.commit (hmeets c rfl)
  launch := fun {w e id w' program} hinv _ hlaunch => by
    obtain ⟨run, task, handler, -, -, -, hhandler, -, rfl, rfl⟩ := execute_some hlaunch
    exact ⟨{ hinv with distinct := hinv.distinct }, fun _ hc => hc, getHandler_traceable hhandler _⟩
  disturb := fun {w event} hinv hhappened =>
    ⟨hinv.happen hhappened, fun c hc => (Extends.happen event).commits.subset hc⟩

end

/-! ## Every run -/

section
variable {py : PythonValues}

/-- **In every run, every result was made from a profiled file through results that a review had approved**, whatever else
happens. -/
theorem every_result_reviewed (dep : Deployment py) (w : World py.toPython) (ls : List (Label TaskRunId Event)) :
    ∀ c ∈ (exec (step (pipeline dep)) (State.initial w.unused) ls).shared.commits,
      Reviewed (fun event => .disturb event ∈ ls)
        (exec (step (pipeline dep)) (State.initial w.unused) ls).shared.commits c := by
  have hinitial : Safe (reviewContract (fun event => Label.disturb (ι := TaskRunId) event ∈ ls))
      (State.initial w.unused : State _ (Query py.toPython) (Effect py.toPython) Outcome) := .initial (.unused w)
  have hsafe := hinitial.exec (review_kept dep) (P := fun _ l => l ∈ ls) (fun s l hl => ?_) ls ?_
  · exact fun c hc => reviewed_of_traceable hsafe.invariant.commits hc
  · cases l with
    | launch e id => trivial
    | advance e => exact ⟨fun _ _ _ => trivial, fun _ _ _ => trivial⟩
    | stop e => trivial
    | disturb event => exact hl
  · rw [Trace.along_iff_split]
    intro pre l post hls
    rw [hls]
    simp

end

theorem every_result_reviewed_cleaned : ∃ run : CleaningRun asciiValues.toPython,
    Reviewed (fun event => .disturb event ∈ replacedLabels ['a'])
      (exec (step (pipeline headerDeployment)) (State.initial stagedWorld) (replacedLabels ['a'])).shared.commits
      (.cleaningRun run headerProfile (headerInputs ['a'])) := by
  obtain ⟨run, hrun⟩ := mem_commits_replaced loadCsv_a
  exact ⟨run, every_result_reviewed headerDeployment _ (replacedLabels ['a']) _ hrun⟩

end Pipeline
end DataOps

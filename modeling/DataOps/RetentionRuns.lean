import DataOps.RetentionBudget
/-!
# RetentionRuns — the undisturbed pass is a run of the passes that interleave

Every attempt is a claim, an evaluation and a commit of the pass that has the world to itself (`attempt_runs_steps`), and
so is the whole of `purge_expired_artifacts`: what holds of every run of the steps holds of it.
-/
namespace DataOps
namespace Retention

open Api (Time)

section
variable (resolve : Path → Option Path) (trials : RunKey → Trial)

/-- The world of a pass that has it to itself. -/
def Progress.world (s : Progress) : World := ⟨s.tables, s.files, [s.pass]⟩

/-- The steps of an attempt. -/
def attemptActions (trial : Trial) (id : RunId) : List Action :=
  .claim id ::
    (if trial.interrupted = some .evaluating then [.fail]
      else .act trial.io ::
        (if trial.interrupted = some .committing then [.fail]
          else [.settle trial.deletedAt trial.completedAt trial.acknowledged]))

/-- Runs of the only pass. -/
def Runs (w w' : World) : Prop := ∃ as : List Action, Trace.exec (step resolve) w (as.map (.pass 0)) = w'

theorem Runs.refl (w : World) : Runs resolve w w := ⟨[], rfl⟩

theorem Runs.trans {w w' w'' : World} (h : Runs resolve w w') (h' : Runs resolve w' w'') : Runs resolve w w'' := by
  obtain ⟨as, rfl⟩ := h
  obtain ⟨as', rfl⟩ := h'
  exact ⟨as ++ as', by rw [List.map_append, Trace.exec_append]⟩

theorem step_pass (tables : Tables) (files : List Path) (pass : Pass) (a : Action) :
    step resolve ⟨tables, files, [pass]⟩ (.pass 0 a) = World.act resolve ⟨tables, files, [pass]⟩ 0 pass a := rfl

/-- The claim's step takes a candidate. -/
theorem step_claim {s : Progress} {e : Entry} {artifactTypes : List ArtifactType} (htxn : s.pass.txn = none)
    (htypes : s.pass.artifactTypes = e.1.1 :: artifactTypes) (hbudget : s.pass.attempted < s.pass.budget)
    (hrow : s.tables.runs.get? e.1 = some e.2) (heligible : s.pass.eligible e.2 = true)
    (hids : e.1.2 ∉ s.pass.excludedIds) :
    step resolve s.world (.pass 0 (.claim e.1.2)) =
      ⟨s.tables, s.files, [{ s.pass.claimed with txn := some (claimTxn e) }]⟩ := by
  have hfree : Claims.locked Pass.txn Txn.key [s.pass] (e.1.1, e.1.2) = false := by
    simp [Claims.locked, htxn]
  rw [Progress.world, step_pass, World.act]
  dsimp only
  rw [htxn, htypes]
  dsimp only
  rw [show (e.1.1, e.1.2) = e.1 from rfl, hrow]
  dsimp only
  rw [if_pos ⟨hbudget, hids, hfree, heligible⟩, ← htypes]
  rfl

section
variable {tables : Tables} {files : List Path} {pass : Pass} {txn : Txn} (htxn : pass.txn = some txn)
include htxn

theorem step_fail : step resolve ⟨tables, files, [pass]⟩ (.pass 0 .fail) = ⟨tables, files, [pass.rollback txn]⟩ := by
  rw [step_pass, World.act, htxn]
  rfl

theorem step_act (hnone : txn.evaluation = none) (io : Io) :
    step resolve ⟨tables, files, [pass]⟩ (.pass 0 (.act io)) =
      (evaluateAndAct resolve files pass.settings txn.artifactType txn.organizationId txn.outputFilePath pass.dryRun
        io).elim
        ⟨tables, files, [pass.rollback txn]⟩
        (fun p => ⟨tables, p.2, [{ pass with txn := some { txn with evaluation := some p.1 } }]⟩) := by
  rw [step_pass, World.act, htxn]
  dsimp only
  rw [hnone]
  dsimp only
  cases evaluateAndAct resolve files pass.settings txn.artifactType txn.organizationId
    txn.outputFilePath pass.dryRun io <;> rfl

theorem step_settle {ev : Evaluation} (heval : txn.evaluation = some ev) (deletedAt completedAt : Time)
    (acknowledged : Bool) :
    step resolve ⟨tables, files, [pass]⟩ (.pass 0 (.settle deletedAt completedAt acknowledged)) =
      (tables.finalized pass txn ev deletedAt completedAt).elim ⟨tables, files, [pass.rollback txn]⟩
        (fun tables' => ⟨tables', files, [pass.settled txn ev acknowledged]⟩) := by
  rw [step_pass, World.act, htxn]
  dsimp only
  rw [heval]
  dsimp only
  cases tables.finalized pass txn ev deletedAt completedAt <;> rfl

end

/-- A pass without a transaction stays as it is. -/
theorem step_idle {tables : Tables} {files : List Path} {pass : Pass} (htxn : pass.txn = none) {a : Action}
    (ha : a = .fail ∨ ∃ deletedAt completedAt acknowledged, a = .settle deletedAt completedAt acknowledged) :
    step resolve ⟨tables, files, [pass]⟩ (.pass 0 a) = ⟨tables, files, [pass]⟩ := by
  rw [step_pass]
  rcases ha with rfl | ⟨deletedAt, completedAt, acknowledged, rfl⟩ <;> rw [World.act, htxn]

/-- **An attempt is a run of the steps.** -/
theorem attempt_runs_steps {s : Progress} {e : Entry} {artifactTypes : List ArtifactType} (htxn : s.pass.txn = none)
    (htypes : s.pass.artifactTypes = e.1.1 :: artifactTypes) (hbudget : s.pass.attempted < s.pass.budget)
    (hrow : s.tables.runs.get? e.1 = some e.2) (heligible : s.pass.eligible e.2 = true)
    (hids : e.1.2 ∉ s.pass.excludedIds) : Runs resolve s.world (s.attempt resolve trials e).world := by
  refine ⟨attemptActions (trials e.1) e.1.2, ?_⟩
  have hclaim := step_claim resolve htxn htypes hbudget hrow heligible hids
  unfold attemptActions Progress.attempt
  rw [List.map_cons, Trace.exec_cons, hclaim]
  dsimp only
  split
  · exact @step_fail resolve s.tables s.files { s.pass.claimed with txn := some (claimTxn e) } (claimTxn e) rfl
  · rw [List.map_cons, Trace.exec_cons, step_act resolve rfl rfl]
    dsimp only
    cases hev : evaluateAndAct resolve s.files s.pass.settings e.1.1 e.2.organizationId e.2.outputFilePath s.pass.dryRun
        (trials e.1).io with
    | none =>
      rw [show evaluateAndAct resolve s.files s.pass.claimed.settings (claimTxn e).artifactType (claimTxn e).organizationId
        (claimTxn e).outputFilePath s.pass.claimed.dryRun (trials e.1).io = none from hev]
      split
      · exact @step_idle resolve s.tables s.files (s.pass.claimed.rollback (claimTxn e)) rfl _ (.inl rfl)
      · exact @step_idle resolve s.tables s.files (s.pass.claimed.rollback (claimTxn e)) rfl
          (.settle (trials e.1).deletedAt (trials e.1).completedAt (trials e.1).acknowledged) (.inr ⟨_, _, _, rfl⟩)
    | some p =>
      obtain ⟨ev, files⟩ := p
      rw [show evaluateAndAct resolve s.files s.pass.claimed.settings (claimTxn e).artifactType (claimTxn e).organizationId
        (claimTxn e).outputFilePath s.pass.claimed.dryRun (trials e.1).io = some (ev, files) from hev]
      dsimp only [Option.elim_some]
      split
      · exact @step_fail resolve s.tables files
          { s.pass.claimed with txn := some { claimTxn e with evaluation := some ev } }
          { claimTxn e with evaluation := some ev } rfl
      · refine (@step_settle resolve s.tables files
          { s.pass.claimed with txn := some { claimTxn e with evaluation := some ev } }
          { claimTxn e with evaluation := some ev } rfl ev rfl _ _ _).trans ?_
        cases hfinal : s.tables.finalized s.pass (claimTxn e) ev (trials e.1).deletedAt (trials e.1).completedAt with
        | none => exact congrArg (fun o => Option.elim o _ _) hfinal
        | some tables =>
          refine Eq.trans (congrArg (fun o => Option.elim o _ _) hfinal) ?_
          unfold Progress.world Pass.settled
          cases (trials e.1).acknowledged <;> rfl

theorem attempt_txn (s : Progress) (e : Entry) :
    (s.attempt resolve trials e).pass.txn = none ∧
      (s.attempt resolve trials e).pass.artifactTypes = s.pass.artifactTypes := by
  unfold Progress.attempt
  dsimp only
  split
  · exact ⟨rfl, rfl⟩
  · split
    · exact ⟨rfl, rfl⟩
    · split
      · exact ⟨rfl, rfl⟩
      · split
        · exact ⟨rfl, rfl⟩
        · unfold Pass.settled
          split <;> exact ⟨rfl, rfl⟩

/-- So is the loop over a run type. -/
theorem drain_runs_steps {artifactType : ArtifactType} {artifactTypes : List ArtifactType} (n : Nat) {s : Progress}
    (htxn : s.pass.txn = none) (htypes : s.pass.artifactTypes = artifactType :: artifactTypes)
    (hbudget : s.pass.attempted + n = s.pass.budget) (hkeys : s.tables.runs.keys.Nodup) :
    Runs resolve s.world (Queues.drain (Progress.claim artifactType) (Progress.attempt resolve trials) n s).world ∧
      (Queues.drain (Progress.claim artifactType) (Progress.attempt resolve trials) n s).pass.txn = none ∧
      (Queues.drain (Progress.claim artifactType) (Progress.attempt resolve trials) n s).pass.artifactTypes =
        artifactType :: artifactTypes ∧
      (Queues.drain (Progress.claim artifactType) (Progress.attempt resolve trials) n s).tables.runs.keys.Nodup := by
  have hdrain := @Queues.drain_counted _ _ (Progress.claim artifactType) (Progress.attempt resolve trials)
    (fun n s' => Runs resolve s.world s'.world ∧ s'.pass.txn = none ∧
      s'.pass.artifactTypes = artifactType :: artifactTypes ∧
      s'.tables.runs.keys.Nodup ∧ s'.pass.attempted + n = s'.pass.budget) ?_ n s
    ⟨Runs.refl resolve s.world, htxn, htypes, hkeys, hbudget⟩
  · obtain ⟨_, hruns, htxn', htypes', hkeys', -⟩ := hdrain
    exact ⟨hruns, htxn', htypes', hkeys'⟩
  · rintro n s' e ⟨hruns, htxn, htypes, hkeys, hbudget⟩ hclaim
    obtain ⟨-, rfl, heligible, hids⟩ := mem_candidates.1 (List.mem_of_mem_head? hclaim)
    obtain ⟨hrow, hunmarked⟩ := candidate_row hkeys (List.mem_of_mem_head? hclaim)
    obtain ⟨-, hattempted, hbudget'⟩ := attempt_counts resolve trials s' e
    obtain ⟨htxn', htypes'⟩ := attempt_txn resolve trials s' e
    refine ⟨hruns.trans resolve (attempt_runs_steps resolve trials htxn htypes (by omega) hrow heligible hids), htxn',
      htypes'.trans htypes, (attempt_cases resolve trials s' hrow hunmarked).keys hkeys, by omega⟩

theorem step_nextType {s : Progress} (htxn : s.pass.txn = none) :
    step resolve s.world (.pass 0 .nextType) = s.nextType.world := by
  obtain ⟨tables, files, ⟨settings, now, dryRun, artifactTypes, budget, attempted, excludedIds, result, txn⟩,
    attempts⟩ := s
  obtain rfl : txn = none := htxn
  rfl

theorem processRunTypes_runs_steps : ∀ (artifactTypes : List ArtifactType) {s : Progress}, s.pass.txn = none →
    (s.pass.artifactTypes = artifactTypes ∨ s.pass.budget = 0) → s.pass.attempted = 0 → s.tables.runs.keys.Nodup →
      Runs resolve s.world (processRunTypes resolve trials artifactTypes s).world
  | [], s, _, _, _, _ => Runs.refl resolve s.world
  | artifactType :: artifactTypes, s, htxn, htypes, hattempted, hkeys => by
    rw [processRunTypes]
    split
    · exact Runs.refl resolve s.world
    · rename_i hbudget
      have htypes := htypes.resolve_right hbudget
      obtain ⟨hruns, htxn', htypes', hkeys'⟩ := drain_runs_steps resolve trials s.pass.budget htxn htypes (by omega) hkeys
      refine (hruns.trans resolve ⟨[.nextType], step_nextType resolve htxn'⟩).trans resolve ?_
      refine processRunTypes_runs_steps artifactTypes htxn' ?_ rfl hkeys'
      show (if _ then _ else _) = artifactTypes ∨ _ - _ = 0
      split
      · rename_i hle
        exact .inr (Nat.sub_eq_zero_of_le hle)
      · exact .inl (congrArg List.tail htypes')

/-- The world a pass leaves behind: where retention is off, none began. -/
def afterPass (settings : Settings) (s : Progress) : World :=
  ⟨s.tables, s.files, if settings.outputRetentionEnabled = true then [s.pass] else []⟩

/-- **The undisturbed pass is a run of the steps of the passes that interleave**: a `start`, and then steps of that pass.
-/
theorem purgeExpiredArtifacts_runs_steps (settings : Settings) (now : Time) (batchSize : Option Nat) (dryRun : Option Bool)
    {db : Tables} {files : List Path} (hkeys : db.runs.keys.Nodup) (now' : Time) :
    ∃ as : List Action,
      Trace.exec (step resolve) ⟨db, files, []⟩ (.start settings now batchSize dryRun :: as.map (.pass 0)) =
        afterPass settings (purgeExpiredArtifacts resolve trials settings now batchSize dryRun db files now').1 := by
  unfold afterPass purgeExpiredArtifacts
  dsimp only
  by_cases henabled : settings.outputRetentionEnabled = true
  · have hstart : Runs resolve ⟨db, files, [Pass.starting settings now batchSize dryRun]⟩
        (processRunTypes resolve trials runTypeConfigs
          ⟨db, files, Pass.starting settings now batchSize dryRun, []⟩).world := by
      refine processRunTypes_runs_steps resolve trials runTypeConfigs
        (s := ⟨db, files, Pass.starting settings now batchSize dryRun, []⟩) rfl ?_ rfl hkeys
      unfold Pass.starting
      dsimp only
      split
      · rename_i hzero
        exact .inr hzero
      · exact .inl rfl
    obtain ⟨as, has⟩ := hstart
    refine ⟨as, ?_⟩
    rw [Trace.exec_cons, step, if_pos henabled, if_pos henabled, if_pos henabled]
    exact has
  · refine ⟨[], ?_⟩
    rw [List.map_nil, Trace.exec_cons, Trace.exec_nil, step, if_neg henabled, if_neg henabled, if_neg henabled]

end

/-- The first commit's answer is lost. -/
theorem purgeExpiredArtifacts_runs_steps_two : ∃ as : List Action,
    Trace.exec (step some) ⟨threeExpired, [["output", "7", "a.csv"], ["output", "7", "b.csv"]], []⟩
        (.start weekly (timedeltaDays 8) (some 2) none :: as.map (.pass 0)) =
      afterPass weekly (purgeExpiredArtifacts some unansweredFirst weekly (timedeltaDays 8) (some 2) none threeExpired
        [["output", "7", "a.csv"], ["output", "7", "b.csv"]] (timedeltaDays 9)).1 :=
  purgeExpiredArtifacts_runs_steps some unansweredFirst weekly (timedeltaDays 8) (some 2) none
    (by decide) (timedeltaDays 9)

end Retention
end DataOps

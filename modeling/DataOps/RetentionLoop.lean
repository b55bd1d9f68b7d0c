import Mathlib.Algebra.GroupWithZero.Nat
import Mathlib.Data.Prod.Lex
import DataOps.LibQueues
import DataOps.RetentionAudit
/-!
# RetentionLoop — one undisturbed retention pass

The pass by itself: the claim's query in its order, the attempt on what it finds, and the run types on one budget.  What is
attempted is no candidate any more, be it marked or left out (`Attempted.candidates`).
-/
namespace DataOps
namespace Retention

open Api (Time)

/-- Where an exception ends the transaction of an artifact: before the file is looked at, before the commit, or in
`db.commit()` after the commit is durable, its answer lost. -/
inductive Interruption
  | evaluating | committing | acknowledging
deriving DecidableEq, Repr

/-- What the attempt on an artifact meets. -/
structure Trial where
  io          : Io
  interrupted : Option Interruption := none
  deletedAt   : Time
  completedAt : Time

/-- `db.commit()` returns. -/
def Trial.acknowledged (trial : Trial) : Bool := trial.interrupted ≠ some .acknowledging

abbrev Entry := RunKey × RunRow

/-- The database, the files and the local variables of a pass.  `attempts` are the rows it claimed so far; only statements
read them. -/
structure Progress where
  tables   : Tables
  files    : List Path
  pass     : Pass
  attempts : List Entry := []

/-- `ORDER BY decision_ts ASC, id ASC`. -/
def claimKey (e : Entry) : Time ×ₗ RunId := toLex (e.2.decisionTimestamp.getD 0, e.1.2)

/-- The `WHERE` of the claim's query, on an entry of the table. -/
def Pass.wants (pass : Pass) (artifactType : ArtifactType) (e : Entry) : Bool :=
  e.1.1 = artifactType ∧ pass.eligible e.2 = true ∧ e.1.2 ∉ pass.excludedIds

/-- The rows that the claim's query finds, in its order. -/
def Pass.candidates (pass : Pass) (db : Tables) (artifactType : ArtifactType) : List Entry :=
  Queues.waiting claimKey (pass.wants artifactType) db.runs

/-- The queue of a pass: the candidates of the three types. -/
def Pass.queue (pass : Pass) (db : Tables) : List Entry := runTypeConfigs.flatMap (pass.candidates db)

/-- `LIMIT 1`; with no other transaction open, no row is locked. -/
def Progress.claim (artifactType : ArtifactType) (s : Progress) : Option Entry :=
  (s.pass.candidates s.tables artifactType).head?

def claimTxn (e : Entry) : Txn := ⟨e.1.1, e.1.2, e.2.organizationId, e.2.outputFilePath, none⟩

/-- `attempted += 1`. -/
def Pass.claimed (pass : Pass) : Pass := { pass with attempted := pass.attempted + 1 }

/-- Between two run types: `remaining_budget -= attempted`. -/
def Pass.nextType (pass : Pass) : Pass :=
  { pass with
    artifactTypes := if pass.budget ≤ pass.attempted then [] else pass.artifactTypes.tail
    budget := pass.budget - pass.attempted
    attempted := 0
    excludedIds := [] }

def Progress.nextType (s : Progress) : Progress := { s with pass := s.pass.nextType }

section
variable (resolve : Path → Option Path) (trials : RunKey → Trial)

/-- The body of the `while` loop. -/
def Progress.attempt (s : Progress) (e : Entry) : Progress :=
  let trial := trials e.1
  let rolledBack (files : List Path) : Progress :=
    ⟨s.tables, files, s.pass.claimed.rollback (claimTxn e), s.attempts ++ [e]⟩
  if trial.interrupted = some .evaluating then rolledBack s.files
  else
    match evaluateAndAct resolve s.files s.pass.settings e.1.1 e.2.organizationId e.2.outputFilePath s.pass.dryRun
      trial.io with
    | none             => rolledBack s.files
    | some (ev, files) =>
      if trial.interrupted = some .committing then rolledBack files
      else
        match s.tables.finalized s.pass (claimTxn e) ev trial.deletedAt trial.completedAt with
        | none        => rolledBack files
        | some tables =>
          ⟨tables, files, s.pass.claimed.settled (claimTxn e) ev trial.acknowledged, s.attempts ++ [e]⟩

/-- `_process_one_run_type`. -/
def processOneRunType (artifactType : ArtifactType) (s : Progress) : Progress :=
  Queues.drain (Progress.claim artifactType) (Progress.attempt resolve trials) s.pass.budget s

/-- The loop over `_RUN_TYPE_CONFIGS`. -/
def processRunTypes : List ArtifactType → Progress → Progress
  | [], s                         => s
  | artifactType :: artifactTypes, s =>
    if s.pass.budget = 0 then s
    else processRunTypes artifactTypes (processOneRunType resolve trials artifactType s).nextType

/-- `_compute_backlog_snapshot`, at the time `now`: how many rows are eligible, and the age of the oldest. -/
def computeBacklogSnapshot (db : Tables) (pass : Pass) (now : Time) : Nat × Nat :=
  let eligible (artifactType : ArtifactType) : List Entry :=
    db.runs.filter (fun e => e.1.1 = artifactType ∧ pass.eligible e.2 = true)
  let oldest := (runTypeConfigs.flatMap (fun artifactType =>
    (eligible artifactType).filterMap (fun e => e.2.decisionTimestamp))).min?
  ((runTypeConfigs.map (fun artifactType => (eligible artifactType).length)).sum,
    oldest.elim 0 (fun ts => now - ts))

/-- `purge_expired_artifacts`; the backlog is not computed where retention is off. -/
def purgeExpiredArtifacts (settings : Settings) (now : Time) (batchSize : Option Nat) (dryRun : Option Bool)
    (db : Tables) (files : List Path) (now' : Time) : Progress × Option (Nat × Nat) :=
  let pass := Pass.starting settings now batchSize dryRun
  if settings.outputRetentionEnabled = true then
    let s := processRunTypes resolve trials runTypeConfigs ⟨db, files, pass, []⟩
    (s, some (computeBacklogSnapshot s.tables s.pass now'))
  else (⟨db, files, pass, []⟩, none)

/-! ## What an attempt can do -/

/-- The commit is durable and its answer is lost: the path resolves without an exception, and the event passes its check.
-/
def Trial.loses (settings : Settings) (trial : Trial) (e : Entry) : Bool :=
  trial.acknowledged = false ∧ 7 ≤ settings.outputRetentionWindowDays ∧
    resolveArtifactPath resolve (tenantRoot settings e.1.1 e.2.organizationId) e.2.outputFilePath ≠ .error .other

theorem Trial.loses_eq_false {settings : Settings} {trial : Trial} {e : Entry} (h : trial.acknowledged = true) :
    trial.loses resolve settings e = false :=
  decide_eq_false (fun hloses => Bool.false_ne_true (hloses.1.symm.trans h))

/-- **Everything an attempt can do.** -/
inductive Attempted (s : Progress) (e : Entry) : Progress → Prop
  | rolledBack (files : List Path) (hloses : (trials e.1).loses resolve s.pass.settings e = false) :
      Attempted s e ⟨s.tables, files, s.pass.claimed.rollback (claimTxn e), s.attempts ++ [e]⟩
  | kept (files : List Path) (ev : Evaluation) (completedAt : Time) (acknowledged : Bool)
      (hloses : (trials e.1).loses resolve s.pass.settings e = !acknowledged)
      (hkept : s.pass.dryRun = true ∨ ev.outcome = .failed) :
      Attempted s e
        ⟨{ s.tables with events := s.tables.events ++ [recordEvent s.pass (claimTxn e) ev completedAt] }, files,
          s.pass.claimed.settled (claimTxn e) ev acknowledged, s.attempts ++ [e]⟩
  | marked (files : List Path) (ev : Evaluation) (deletedAt completedAt : Time) (acknowledged : Bool)
      (hloses : (trials e.1).loses resolve s.pass.settings e = !acknowledged) (hreal : s.pass.dryRun = false)
      (hgone : ev.outcome ≠ .failed) :
      Attempted s e
        ⟨⟨s.tables.runs.set e.1 { e.2 with outputDeletedAt := some deletedAt },
          s.tables.events ++ [recordEvent s.pass (claimTxn e) ev completedAt]⟩, files,
          s.pass.claimed.settled (claimTxn e) ev acknowledged, s.attempts ++ [e]⟩

/-- An evaluation raises exactly where the path does. -/
theorem evaluateAndAct_eq_none_iff {files : List Path} {settings : Settings} {artifactType : ArtifactType}
    {organizationId : Api.OrganizationId} {outputFilePath : Path} {dryRun : Bool} {io : Io} :
    evaluateAndAct resolve files settings artifactType organizationId outputFilePath dryRun io = none ↔
      resolveArtifactPath resolve (tenantRoot settings artifactType organizationId) outputFilePath = .error .other := by
  unfold evaluateAndAct
  split
  · rename_i hpath
    exact iff_of_true rfl hpath
  · rename_i hpath
    refine iff_of_false (Option.some_ne_none _) (fun hother => ?_)
    cases hpath.symm.trans hother
  · rename_i f hpath
    refine iff_of_false ?_ (fun hother => by cases hpath.symm.trans hother)
    split
    · exact Option.some_ne_none _
    · split
      · split <;> exact Option.some_ne_none _
      · split <;> exact Option.some_ne_none _

theorem attempt_cases (s : Progress) {e : Entry} (hrow : s.tables.runs.get? e.1 = some e.2)
    (hunmarked : e.2.outputDeletedAt = none) : Attempted resolve trials s e (s.attempt resolve trials e) := by
  unfold Progress.attempt
  dsimp only
  split
  · rename_i hevaluating
    exact .rolledBack _ (Trial.loses_eq_false resolve (by rw [Trial.acknowledged, hevaluating]; rfl))
  · split
    · rename_i hraises
      exact .rolledBack _ (decide_eq_false (fun hloses => hloses.2.2 ((evaluateAndAct_eq_none_iff resolve).1 hraises)))
    · rename_i ev files hev
      split
      · rename_i hcommitting
        exact .rolledBack _ (Trial.loses_eq_false resolve (by rw [Trial.acknowledged, hcommitting]; rfl))
      · split
        · rename_i hrefused
          refine .rolledBack _ ?_
          -- the row is there, unmarked: only the check of the event's window refuses
          have hwindow : ¬ 7 ≤ s.pass.settings.outputRetentionWindowDays := by
            unfold Tables.finalized at hrefused
            rw [show (claimTxn e).key = e.1 from rfl, hrow] at hrefused
            dsimp only at hrefused
            rw [if_neg (fun h => h.2 hunmarked)] at hrefused
            split at hrefused
            · omega
            · cases hrefused
          exact decide_eq_false (fun hloses => hwindow hloses.2.1)
        · rename_i tables hfinal
          have hloses : (trials e.1).loses resolve s.pass.settings e = !(trials e.1).acknowledged := by
            cases hanswer : (trials e.1).acknowledged with
            | true => exact Trial.loses_eq_false resolve hanswer
            | false =>
              refine decide_eq_true ⟨hanswer, Tables.finalized_window hfinal, fun hother => ?_⟩
              cases hev.symm.trans ((evaluateAndAct_eq_none_iff resolve).2 hother)
          obtain ⟨hevents, row, hrow', hruns⟩ := Tables.finalized_eq_some hfinal
          obtain rfl : e.2 = row := Option.some.inj (hrow.symm.trans hrow')
          obtain ⟨runs, events⟩ := tables
          obtain rfl := hevents
          rcases evaluateAndAct_cases resolve hev with ⟨-, hset, hkept⟩ | ⟨hreal, hset, hgone, -⟩
          · rw [if_neg (by rw [hset]; exact Bool.false_ne_true)] at hruns
            obtain rfl := hruns
            exact .kept files ev _ _ hloses hkept
          · rw [if_pos hset] at hruns
            obtain rfl := hruns
            exact .marked files ev _ _ _ hloses hreal hgone

theorem attempt_counts (s : Progress) (e : Entry) :
    (s.attempt resolve trials e).attempts = s.attempts ++ [e] ∧
      (s.attempt resolve trials e).pass.attempted = s.pass.attempted + 1 ∧
      (s.attempt resolve trials e).pass.budget = s.pass.budget := by
  unfold Progress.attempt
  dsimp only
  split
  · exact ⟨rfl, rfl, rfl⟩
  · split
    · exact ⟨rfl, rfl, rfl⟩
    · split
      · exact ⟨rfl, rfl, rfl⟩
      · split
        · exact ⟨rfl, rfl, rfl⟩
        · unfold Pass.settled
          split <;> exact ⟨rfl, rfl, rfl⟩

theorem foldl_attempt_counts : ∀ (es : List Entry) (s : Progress),
    (es.foldl (Progress.attempt resolve trials) s).attempts = s.attempts ++ es ∧
      (es.foldl (Progress.attempt resolve trials) s).pass.attempted = s.pass.attempted + es.length ∧
      (es.foldl (Progress.attempt resolve trials) s).pass.budget = s.pass.budget
  | [], s      => ⟨(List.append_nil _).symm, rfl, rfl⟩
  | e :: es, s => by
    obtain ⟨hattempts, hattempted, hbudget⟩ := foldl_attempt_counts es (s.attempt resolve trials e)
    obtain ⟨hattempts', hattempted', hbudget'⟩ := attempt_counts resolve trials s e
    rw [List.foldl_cons, hattempts, hattempted, hbudget, hattempts', hattempted', hbudget', List.append_assoc]
    exact ⟨rfl, by rw [List.length_cons]; omega, rfl⟩

end

/-! ## What the claim's query finds -/

theorem mem_candidates {pass : Pass} {db : Tables} {artifactType : ArtifactType} {e : Entry} :
    e ∈ pass.candidates db artifactType ↔
      e ∈ db.runs ∧ e.1.1 = artifactType ∧ pass.eligible e.2 = true ∧ e.1.2 ∉ pass.excludedIds :=
  Queues.mem_waiting.trans (and_congr_right' decide_eq_true_iff)

section
variable {db db' : Tables} {pass pass' : Pass} {artifactType : ArtifactType} {e : Entry}

/-- The order tells the rows of a table apart. -/
theorem separates_claimKey (pass : Pass) (artifactType : ArtifactType) :
    Queues.Separates claimKey (pass.wants artifactType) := by
  intro a b hwa hwb heq
  have hid : a.1.2 = b.1.2 := congrArg (fun k : Time ×ₗ RunId => (ofLex k).2) heq
  have htype : a.1.1 = b.1.1 := (of_decide_eq_true hwa).1.trans (of_decide_eq_true hwb).1.symm
  exact Prod.ext htype hid

/-- A marked row is no candidate. -/
theorem eligible_marked (pass : Pass) (row : RunRow) (deletedAt : Time) :
    pass.eligible { row with outputDeletedAt := some deletedAt } = false := by
  simp [Pass.eligible]

theorem wants_marked (pass : Pass) (artifactType : ArtifactType) (key : RunKey) (row : RunRow) (deletedAt : Time) :
    pass.wants artifactType (key, { row with outputDeletedAt := some deletedAt }) = false :=
  decide_eq_false (fun h => Bool.false_ne_true ((eligible_marked pass row deletedAt).symm.trans h.2.1))

end

/-- The row a candidate is of: there, and not marked. -/
theorem candidate_row {pass : Pass} {db : Tables} {artifactType : ArtifactType} {e : Entry} (hkeys : db.runs.keys.Nodup)
    (he : e ∈ pass.candidates db artifactType) : db.runs.get? e.1 = some e.2 ∧ e.2.outputDeletedAt = none := by
  obtain ⟨hrun, -, heligible, -⟩ := mem_candidates.1 he
  exact ⟨Dict.get?_eq_some_of_mem hkeys hrun, (Pass.eligible_iff.1 heligible).2.1⟩

/-- The pass is the same, further on. -/
structure Pass.Like (pass pass' : Pass) : Prop where
  settings : pass.settings = pass'.settings
  now      : pass.now = pass'.now
  dryRun   : pass.dryRun = pass'.dryRun

theorem Pass.Like.trans {pass pass' pass'' : Pass} (h : pass.Like pass') (h' : pass'.Like pass'') : pass.Like pass'' :=
  ⟨h.settings.trans h'.settings, h.now.trans h'.now, h.dryRun.trans h'.dryRun⟩

theorem Pass.Like.eligible {pass pass' : Pass} (h : pass.Like pass') : pass.eligible = pass'.eligible :=
  funext (Pass.eligible_congr h.settings h.now)

theorem Pass.settled_like (pass : Pass) (txn : Txn) (ev : Evaluation) (acknowledged : Bool) :
    (pass.settled txn ev acknowledged).Like pass := by
  unfold Pass.settled
  split <;> exact ⟨rfl, rfl, rfl⟩

section
variable {resolve : Path → Option Path} {trials : RunKey → Trial} {s s' : Progress} {e : Entry}

theorem Attempted.like (h : Attempted resolve trials s e s') : s'.pass.Like s.pass := by
  cases h with
  | rolledBack => exact ⟨rfl, rfl, rfl⟩
  | kept => exact (Pass.settled_like _ _ _ _).trans ⟨rfl, rfl, rfl⟩
  | marked => exact (Pass.settled_like _ _ _ _).trans ⟨rfl, rfl, rfl⟩

theorem Attempted.keys (h : Attempted resolve trials s e s') (hkeys : s.tables.runs.keys.Nodup) :
    s'.tables.runs.keys.Nodup := by
  cases h with
  | rolledBack => exact hkeys
  | kept => exact hkeys
  | marked => exact Dict.nodup_keys_set hkeys _ _

/-- **What an attempt leaves out**: the run itself, unless it is marked and the commit answered. -/
theorem Attempted.excludedIds (h : Attempted resolve trials s e s') :
    s'.pass.excludedIds = e.1.2 :: s.pass.excludedIds ∨
      s'.pass.excludedIds = s.pass.excludedIds ∧
        ∃ deletedAt, s'.tables.runs = s.tables.runs.set e.1 { e.2 with outputDeletedAt := some deletedAt } := by
  cases h with
  | rolledBack => exact .inl rfl
  | kept files ev completedAt acknowledged hloses hkept =>
    refine .inl ?_
    cases acknowledged with
    | false => rfl
    | true => exact if_pos hkept
  | marked files ev deletedAt completedAt acknowledged hloses hreal hgone =>
    cases acknowledged with
    | false => exact .inl rfl
    | true =>
      refine .inr ⟨if_neg ?_, deletedAt, rfl⟩
      show ¬ (s.pass.dryRun = true ∨ ev.outcome = .failed)
      rw [hreal]
      exact not_or.2 ⟨Bool.false_ne_true, hgone⟩

/-- An attempt leaves the rows as they are, or marks the one it is about. -/
theorem Attempted.runs (h : Attempted resolve trials s e s') :
    s'.tables.runs = s.tables.runs ∨
      ∃ deletedAt, s'.tables.runs = s.tables.runs.set e.1 { e.2 with outputDeletedAt := some deletedAt } := by
  cases h with
  | rolledBack => exact .inl rfl
  | kept => exact .inl rfl
  | marked files ev deletedAt => exact .inr ⟨deletedAt, rfl⟩

/-- **The candidate attempted is none any more, whatever came of it; the others still are.** -/
theorem Attempted.candidates (h : Attempted resolve trials s e s') (hkeys : s.tables.runs.keys.Nodup) :
    s'.pass.candidates s'.tables e.1.1 = (s.pass.candidates s.tables e.1.1).filter (fun e' => e'.1 ≠ e.1) := by
  have heligible := h.like.eligible
  refine Queues.waiting_attempted hkeys (separates_claimKey _ _) (fun e' hne => ?_) ?_
  · -- of the rows of this type, only the one attempted may be left out
    unfold Pass.wants
    rw [heligible]
    refine decide_eq_decide.2 (and_congr_right (fun htype => and_congr_right' (not_congr ?_)))
    rcases h.excludedIds with hexcluded | ⟨hsame, -⟩
    · rw [hexcluded, List.mem_cons]
      exact or_iff_right (fun hid => hne (Prod.ext htype hid))
    · rw [hsame]
  · rcases h.excludedIds with hexcluded | ⟨-, deletedAt, hruns⟩
    · rcases h.runs with hruns | ⟨deletedAt, hruns⟩
      · refine .inl ⟨hruns, fun row => decide_eq_false (fun hwants => hwants.2.2 ?_)⟩
        rw [hexcluded]
        exact List.mem_cons_self
      · exact .inr ⟨_, hruns, wants_marked _ _ _ _ _⟩
    · exact .inr ⟨_, hruns, wants_marked _ _ _ _ _⟩

/-- Rows of another type are left alone. -/
theorem Attempted.candidates_of_ne (h : Attempted resolve trials s e s') (hkeys : s.tables.runs.keys.Nodup)
    {artifactType : ArtifactType} (hne : e.1.1 ≠ artifactType) {pass pass' : Pass} (hlike : pass'.Like pass)
    (hids : pass'.excludedIds = pass.excludedIds) :
    pass'.candidates s'.tables artifactType = pass.candidates s.tables artifactType := by
  have hwants : pass'.wants artifactType = pass.wants artifactType := by
    unfold Pass.wants
    rw [hlike.eligible, hids]
  have hother : ∀ row, pass.wants artifactType (e.1, row) = false := fun row => decide_eq_false (fun h => hne h.1)
  refine Queues.waiting_congr ?_
  rw [hwants]
  rcases h.runs with hruns | ⟨deletedAt, hruns⟩
  · rw [hruns]
  · rw [hruns]
    refine (Dict.filter_set (hother _) hkeys).trans (List.filter_eq_self.2 (fun e' he' => decide_eq_true (fun heq => ?_)))
    have hwanted := (List.mem_filter.1 he').2
    rw [show e' = (e.1, e'.2) from Prod.ext heq rfl, hother] at hwanted
    cases hwanted

end

/-! ## A run type, and all of them -/

section
variable (resolve : Path → Option Path) (trials : RunKey → Trial)

/-- **The rule of a pass**: what an attempt on a candidate keeps, and going on to the next type, holds after the pass. -/
theorem processRunTypes_invariant {I : Progress → Prop} (hkeys : ∀ s, I s → s.tables.runs.keys.Nodup)
    (hattempt : ∀ s e s', I s → Attempted resolve trials s e s' → s' = s.attempt resolve trials e →
      e ∈ s.pass.candidates s.tables e.1.1 → I s')
    (hnext : ∀ s, I s → I s.nextType) : ∀ (artifactTypes : List ArtifactType) (s : Progress), I s →
      I (processRunTypes resolve trials artifactTypes s)
  | [], _, hs                            => hs
  | artifactType :: artifactTypes, s, hs => by
    rw [processRunTypes]
    split
    · exact hs
    · refine processRunTypes_invariant hkeys hattempt hnext artifactTypes _ (hnext _ ?_)
      refine Queues.drain_invariant (fun s' e hs' hclaim => ?_) s.pass.budget s hs
      have hmem := List.mem_of_mem_head? hclaim
      obtain ⟨-, rfl, -⟩ := mem_candidates.1 hmem
      obtain ⟨hrow, hunmarked⟩ := candidate_row (hkeys s' hs') hmem
      exact hattempt s' e _ hs' (attempt_cases resolve trials s' hrow hunmarked) rfl hmem

/-- **A run type attempts its first candidates, as many as the budget allows, and leaves the other types alone.** -/
theorem processOneRunType_spec {pass : Pass} {s : Progress} (hlike : s.pass.Like pass)
    (hkeys : s.tables.runs.keys.Nodup) (artifactType : ArtifactType) :
    processOneRunType resolve trials artifactType s =
        ((s.pass.candidates s.tables artifactType).take s.pass.budget).foldl (Progress.attempt resolve trials) s ∧
      (processOneRunType resolve trials artifactType s).pass.Like pass ∧
      (processOneRunType resolve trials artifactType s).tables.runs.keys.Nodup ∧
      ∀ other, other ≠ artifactType →
        pass.candidates (processOneRunType resolve trials artifactType s).tables other =
          pass.candidates s.tables other := by
  have hdrain := @Queues.drain_eq _ _ (Progress.claim artifactType) (Progress.attempt resolve trials)
    (fun s' => s'.pass.candidates s'.tables artifactType)
    (fun s' => s'.pass.Like pass ∧ s'.tables.runs.keys.Nodup ∧
      ∀ other, other ≠ artifactType → pass.candidates s'.tables other = pass.candidates s.tables other)
    (fun s' => rfl) ?_ s.pass.budget s ⟨hlike, hkeys, fun other _ => rfl⟩
  · exact ⟨hdrain.1, hdrain.2.2⟩
  · rintro s' e l ⟨hlike', hkeys', hothers⟩ hqueue
    have hmem : e ∈ s'.pass.candidates s'.tables artifactType := by
      rw [hqueue]
      exact List.mem_cons_self
    obtain ⟨-, rfl, -⟩ := mem_candidates.1 hmem
    obtain ⟨hrow, hunmarked⟩ := candidate_row hkeys' hmem
    have hcases := attempt_cases resolve trials s' hrow hunmarked
    refine ⟨?_, hcases.like.trans hlike', hcases.keys hkeys', fun other hne => ?_⟩
    · exact (hcases.candidates hkeys').trans (Queues.waiting_tail hkeys' hqueue)
    · exact (hcases.candidates_of_ne hkeys' hne.symm ⟨rfl, rfl, rfl⟩ rfl).trans (hothers other hne)

/-- **The run types attempt the first candidates of all, in the order of the types.** -/
theorem processRunTypes_attempts {pass : Pass} (hnone : pass.excludedIds = []) : ∀ {artifactTypes : List ArtifactType}
    {s : Progress}, artifactTypes.Nodup → s.pass.Like pass → s.tables.runs.keys.Nodup → s.pass.attempted = 0 →
    s.pass.excludedIds = [] →
      (processRunTypes resolve trials artifactTypes s).attempts = s.attempts ++
        (artifactTypes.flatMap (pass.candidates s.tables)).take s.pass.budget
  | [], s, _, _, _, _, _ => by simp [processRunTypes]
  | artifactType :: artifactTypes, s, hnd, hlike, hkeys, hattempted, hids => by
    obtain ⟨hnot, hnd⟩ := List.nodup_cons.1 hnd
    rw [processRunTypes]
    split
    · rename_i hbudget
      rw [hbudget]
      simp
    · obtain ⟨hfold, hlike', hkeys', hothers⟩ := processOneRunType_spec resolve trials hlike hkeys artifactType
      obtain ⟨hattempts, hcount, hbudget⟩ := foldl_attempt_counts resolve trials
        ((s.pass.candidates s.tables artifactType).take s.pass.budget) s
      rw [← hfold] at hattempts hcount hbudget
      have hrest := processRunTypes_attempts hnone (s := (processOneRunType resolve trials artifactType s).nextType) hnd
        ⟨hlike'.settings, hlike'.now, hlike'.dryRun⟩ hkeys' rfl rfl
      have hsame : s.pass.candidates s.tables artifactType = pass.candidates s.tables artifactType := by
        refine Queues.waiting_congr ?_
        unfold Pass.wants
        rw [hlike.eligible, hids, hnone]
      have hleft : (processOneRunType resolve trials artifactType s).nextType.pass.budget =
          s.pass.budget - (pass.candidates s.tables artifactType).length := by
        show _ - _ = _
        rw [hbudget, hcount, hattempted, hsame, List.length_take]
        omega
      have htables : artifactTypes.flatMap
          (pass.candidates (processOneRunType resolve trials artifactType s).nextType.tables) =
            artifactTypes.flatMap (pass.candidates s.tables) := by
        refine List.flatMap_congr (fun other hother => hothers other (fun heq => hnot (heq ▸ hother)))
      rw [hrest, hleft, htables, List.flatMap_cons, List.take_append, ← List.append_assoc, ← hsame]
      exact congrArg (· ++ _) hattempts

end

/-- The candidates of all types are of different rows. -/
theorem nodup_all_candidates {pass : Pass} {db : Tables} (hkeys : db.runs.keys.Nodup) {artifactTypes : List ArtifactType}
    (hnd : artifactTypes.Nodup) : ((artifactTypes.flatMap (pass.candidates db)).map Prod.fst).Nodup := by
  rw [List.map_flatMap, List.nodup_flatMap]
  refine ⟨fun artifactType _ => Queues.nodup_waiting hkeys, hnd.imp (fun {a b} hne => ?_)⟩
  intro key hkey hkey'
  obtain ⟨e, he, rfl⟩ := List.mem_map.1 hkey
  obtain ⟨e', he', heq⟩ := List.mem_map.1 hkey'
  exact hne ((mem_candidates.1 he).2.1.symm.trans ((congrArg Prod.fst heq.symm).trans (mem_candidates.1 he').2.1))

end Retention
end DataOps

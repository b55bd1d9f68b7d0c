import DataOps.RetentionBudget
/-!
# RetentionStarvation — what passes reach while some deletions keep failing

A failed artifact is left out for the rest of its pass and comes first again in the next one.  Passes sweep the queue of
the three types, each from its start: an artifact is purged at last exactly when fewer artifacts before it fail than a pass
attempts (`purged_iff_few_failures`).
-/
namespace DataOps
namespace Retention

open Api (Time)

section
variable (resolve : Path → Option Path)

/-- Whether the deletion fails: a transaction rolled back, an error, or a path outside the root. -/
def Trial.fails (settings : Settings) (trial : Trial) (e : Entry) : Bool :=
  (trial.interrupted = some .evaluating ∨ trial.interrupted = some .committing) ∨ trial.io.error ≠ none ∨
    (resolveArtifactPath resolve (tenantRoot settings e.1.1 e.2.organizationId) e.2.outputFilePath).toOption = none

/-- A real pass is to mark the row of what it deleted. -/
theorem setDeletedAt_iff {files files' : List Path} {settings : Settings} {e : Entry} {io : Io} {ev : Evaluation}
    (h : evaluateAndAct resolve files settings e.1.1 e.2.organizationId e.2.outputFilePath false io = some (ev, files')) :
    ev.setDeletedAt = true ↔ io.error = none ∧
      (resolveArtifactPath resolve (tenantRoot settings e.1.1 e.2.organizationId) e.2.outputFilePath).toOption ≠ none := by
  unfold evaluateAndAct at h
  split at h
  · cases h
  · rename_i hpath
    cases h
    rw [hpath]
    simp [Except.toOption]
  · rename_i f hpath
    rw [hpath]
    split at h
    · rename_i exc herror
      cases h
      rw [herror]
      simp
    · rename_i herror
      rw [if_neg Bool.false_ne_true] at h
      rw [herror]
      split at h <;> cases h <;> simp [Except.toOption]

theorem evaluateAndAct_isSome {files : List Path} {settings : Settings} {e : Entry} {io : Io}
    (herror : io.error = none)
    (hpath : (resolveArtifactPath resolve (tenantRoot settings e.1.1 e.2.organizationId) e.2.outputFilePath).toOption ≠
      none) :
    ∃ ev files', evaluateAndAct resolve files settings e.1.1 e.2.organizationId e.2.outputFilePath false io =
      some (ev, files') := by
  unfold evaluateAndAct
  split
  · rename_i hother
    rw [hother] at hpath
    exact absurd rfl hpath
  · exact ⟨_, _, rfl⟩
  · rw [herror]
    dsimp only
    rw [if_neg Bool.false_ne_true]
    split <;> exact ⟨_, _, rfl⟩

theorem finalized_real {s : Progress} {e : Entry} (hwindow : 7 ≤ s.pass.settings.outputRetentionWindowDays)
    (hrow : s.tables.runs.get? e.1 = some e.2) (hunmarked : e.2.outputDeletedAt = none) (ev : Evaluation)
    (deletedAt completedAt : Time) :
    s.tables.finalized s.pass (claimTxn e) ev deletedAt completedAt =
      some { runs := if ev.setDeletedAt = true then
          s.tables.runs.set e.1 { e.2 with outputDeletedAt := some deletedAt } else s.tables.runs
             events := s.tables.events ++ [recordEvent s.pass (claimTxn e) ev completedAt] } := by
  unfold Tables.finalized
  rw [show (claimTxn e).key = e.1 from rfl, hrow]
  dsimp only
  rw [if_neg (fun h => h.2 hunmarked), if_neg (by omega)]

section
variable (trials : RunKey → Trial) {s : Progress} {e : Entry} (hreal : s.pass.dryRun = false)
  (hwindow : 7 ≤ s.pass.settings.outputRetentionWindowDays) (hrow : s.tables.runs.get? e.1 = some e.2)
  (hunmarked : e.2.outputDeletedAt = none)
include hreal hwindow hrow hunmarked

/-- **A deletion that fails leaves the row as it is.** -/
theorem attempt_runs_of_fails (hfails : (trials e.1).fails resolve s.pass.settings e = true) :
    (s.attempt resolve trials e).tables.runs = s.tables.runs := by
  have hfails := of_decide_eq_true hfails
  unfold Progress.attempt
  dsimp only
  split
  · rfl
  · rename_i hevaluating
    split
    · rfl
    · rename_i ev files hev
      split
      · rfl
      · rename_i hcommitting
        rw [hreal] at hev
        have hset : ¬ ev.setDeletedAt = true := by
          intro hset
          obtain ⟨herror, hpath⟩ := (setDeletedAt_iff resolve hev).1 hset
          rcases hfails with (hint | hint) | herror' | hpath'
          · exact hevaluating hint
          · exact hcommitting hint
          · exact herror' herror
          · exact hpath hpath'
        rw [finalized_real hwindow hrow hunmarked]
        dsimp only
        rw [if_neg hset]

/-- **One that does not marks it.** -/
theorem attempt_runs_of_not_fails (hfine : (trials e.1).fails resolve s.pass.settings e = false) :
    (s.attempt resolve trials e).tables.runs =
      s.tables.runs.set e.1 { e.2 with outputDeletedAt := some (trials e.1).deletedAt } := by
  have hfine := of_decide_eq_false hfine
  simp only [not_or, not_not] at hfine
  obtain ⟨⟨hevaluating, hcommitting⟩, herror, hpath⟩ := hfine
  obtain ⟨ev, files, hev⟩ := @evaluateAndAct_isSome resolve s.files _ _ _ herror hpath
  have hset := (setDeletedAt_iff resolve hev).2 ⟨herror, hpath⟩
  unfold Progress.attempt
  dsimp only
  rw [if_neg hevaluating, hreal, hev]
  dsimp only
  rw [if_neg hcommitting, finalized_real hwindow hrow hunmarked]
  dsimp only
  rw [if_pos hset]

end

/-! ## One pass -/

/-- The rows are those of `db`, but for marks. -/
structure Descends (db db' : Tables) : Prop where
  keys  : db'.runs.keys = db.runs.keys
  rows  : ∀ key row, db'.runs.get? key = some row → row.outputDeletedAt ≠ none ∨ db.runs.get? key = some row

theorem Descends.set {db db' : Tables} (h : Descends db db') {e : Entry} (he : e.1 ∈ db'.runs.keys) (deletedAt : Time)
    (events : List RetentionEvent) :
    Descends db ⟨db'.runs.set e.1 { e.2 with outputDeletedAt := some deletedAt }, events⟩ where
  keys := by
    rw [Dict.keys_set, if_pos he]
    exact h.keys
  rows := by
    intro key row hrow
    rw [Dict.get?_set] at hrow
    split at hrow
    · cases hrow
      exact .inl (Option.some_ne_none deletedAt)
    · exact h.rows key row hrow

/-- What a pass that began on `db₀` has left of its queue, where the deletions of `F` fail. -/
structure Cleared (db db₀ : Tables) (pass : Pass) (F : RunKey → Bool) (s : Progress) : Prop where
  like     : s.pass.Like pass
  descends : Descends db s.tables
  left     : ∀ artifactType, pass.candidates s.tables artifactType =
               (pass.candidates db₀ artifactType).filter (fun e => F e.1 || decide (e.1 ∉ s.attempts.map Prod.fst))

section
variable {db db₀ : Tables} {pass : Pass} {F : RunKey → Bool} {trials : RunKey → Trial} {s s' : Progress} {e : Entry}

theorem Cleared.attempt (h : Cleared db db₀ pass F s) (hkeys : db.runs.keys.Nodup) (hreal : pass.dryRun = false)
    (hwindow : 7 ≤ pass.settings.outputRetentionWindowDays)
    (hF : ∀ e ∈ db.runs, pass.eligible e.2 = true → (trials e.1).fails resolve pass.settings e = F e.1)
    (hcases : Attempted resolve trials s e s') (hs' : s' = s.attempt resolve trials e)
    (he : e ∈ s.pass.candidates s.tables e.1.1) : Cleared db db₀ pass F s' := by
  have hkeys' : s.tables.runs.keys.Nodup := by
    rw [h.descends.keys]
    exact hkeys
  obtain ⟨hrun, -, heligible, -⟩ := mem_candidates.1 he
  have hunmarked : e.2.outputDeletedAt = none := (Pass.eligible_iff.1 heligible).2.1
  have hrow := Dict.get?_eq_some_of_mem hkeys' hrun
  have hfails : (trials e.1).fails resolve s.pass.settings e = F e.1 := by
    have hold := (h.descends.rows e.1 e.2 hrow).resolve_left (fun hmarked => hmarked hunmarked)
    rw [h.like.settings]
    exact hF e (Dict.mem_of_get?_eq_some hold) (by rwa [← h.like.eligible])
  have hattempts : s'.attempts.map Prod.fst = s.attempts.map Prod.fst ++ [e.1] := by
    rw [hs', (attempt_counts resolve trials s e).1, List.map_append]
    rfl
  have hreal' : s.pass.dryRun = false := h.like.dryRun.trans hreal
  have hwindow' : 7 ≤ s.pass.settings.outputRetentionWindowDays := by rwa [h.like.settings]
  cases hFe : F e.1 with
  | true =>
    have hruns : s'.tables.runs = s.tables.runs := by
      rw [hs']
      exact attempt_runs_of_fails resolve trials hreal' hwindow' hrow hunmarked (hfails.trans hFe)
    refine ⟨hcases.like.trans h.like, ⟨by rw [hruns]; exact h.descends.keys, by rw [hruns]; exact h.descends.rows⟩, ?_⟩
    intro artifactType
    rw [show pass.candidates s'.tables artifactType = pass.candidates s.tables artifactType from
      Queues.waiting_congr (by rw [hruns]), h.left artifactType]
    refine List.filter_congr (fun e' _ => ?_)
    rw [hattempts]
    by_cases heq : e'.1 = e.1
    · rw [heq, hFe, Bool.true_or, Bool.true_or]
    · simp only [List.mem_append, List.mem_singleton, heq, or_false]
  | false =>
    have hruns := attempt_runs_of_not_fails resolve trials hreal' hwindow' hrow hunmarked (hfails.trans hFe)
    rw [← hs'] at hruns
    have hdescends := h.descends.set (List.mem_map_of_mem hrun) (trials e.1).deletedAt s'.tables.events
    rw [← hruns] at hdescends
    refine ⟨hcases.like.trans h.like, hdescends, fun artifactType => ?_⟩
    have hcandidates : pass.candidates s'.tables artifactType =
        (pass.candidates s.tables artifactType).filter (fun e' => e'.1 ≠ e.1) :=
      Queues.waiting_attempted hkeys' (separates_claimKey _ _) (fun _ _ => rfl) (.inr ⟨_, hruns, wants_marked _ _ _ _ _⟩)
    rw [hcandidates, h.left artifactType, List.filter_filter]
    refine List.filter_congr (fun e' _ => ?_)
    rw [hattempts]
    by_cases heq : e'.1 = e.1
    · simp [heq, hFe]
    · simp only [List.mem_append, List.mem_singleton, ne_eq, heq, or_false, not_false_eq_true, decide_true, Bool.true_and]

end

/-- **A real pass sweeps its queue.** -/
theorem queue_after_pass {db db₀ : Tables} {files : List Path} {settings : Settings} {now : Time} {batchSize : Option Nat}
    {dryRun : Option Bool} {F : RunKey → Bool} {trials : RunKey → Trial} (hkeys : db.runs.keys.Nodup)
    (hdescends : Descends db db₀) (henabled : settings.outputRetentionEnabled = true)
    (hreal : dryRun.getD settings.outputRetentionDryRun = false) (hwindow : 7 ≤ settings.outputRetentionWindowDays)
    (hF : ∀ e ∈ db.runs, (Pass.starting settings now batchSize dryRun).eligible e.2 = true →
      (trials e.1).fails resolve settings e = F e.1) (now' : Time) :
    Descends db (purgeExpiredArtifacts resolve trials settings now batchSize dryRun db₀ files now').1.tables ∧
      (Pass.starting settings now batchSize dryRun).queue
          (purgeExpiredArtifacts resolve trials settings now batchSize dryRun db₀ files now').1.tables =
        Queues.sweep (fun e => F e.1) (batchSize.getD settings.retentionClaimBatchSize)
          ((Pass.starting settings now batchSize dryRun).queue db₀) := by
  have hkeys₀ : db₀.runs.keys.Nodup := by
    rw [hdescends.keys]
    exact hkeys
  have hstart : Cleared db db₀ (Pass.starting settings now batchSize dryRun) F
      ⟨db₀, files, Pass.starting settings now batchSize dryRun, []⟩ := by
    refine ⟨⟨rfl, rfl, rfl⟩, hdescends, fun artifactType => (List.filter_eq_self.2 (fun e _ => ?_)).symm⟩
    simp
  have hend := processRunTypes_invariant resolve trials
    (I := Cleared db db₀ (Pass.starting settings now batchSize dryRun) F)
    (fun s hs => by rw [hs.descends.keys]; exact hkeys)
    (fun s e s' hs hcases hs' he => hs.attempt resolve hkeys hreal hwindow hF hcases hs' he)
    (fun s hs => ⟨⟨hs.like.settings, hs.like.now, hs.like.dryRun⟩, hs.descends, hs.left⟩) runTypeConfigs _ hstart
  have hattempts := @processRunTypes_attempts resolve trials (Pass.starting settings now batchSize dryRun) rfl
    runTypeConfigs ⟨db₀, files, Pass.starting settings now batchSize dryRun, []⟩ (by decide)
      ⟨rfl, rfl, rfl⟩ hkeys₀ rfl rfl
  unfold purgeExpiredArtifacts
  dsimp only
  rw [if_pos henabled]
  refine ⟨hend.descends, ?_⟩
  have hnd : (((Pass.starting settings now batchSize dryRun).queue db₀).map Prod.fst).Nodup :=
    nodup_all_candidates hkeys₀ (by decide)
  have hnd' : ((Pass.starting settings now batchSize dryRun).queue db₀).Nodup := List.Nodup.of_map _ hnd
  rw [Queues.sweep_eq_filter hnd']
  unfold Pass.queue at *
  rw [List.flatMap_congr (fun artifactType _ => hend.left artifactType), ← List.filter_flatMap]
  refine List.filter_congr (fun e he => ?_)
  rw [hattempts, List.nil_append]
  congr 2
  refine propext (not_congr ⟨fun hmem => ?_, fun hmem => List.mem_map_of_mem hmem⟩)
  obtain ⟨e', he', heq⟩ := List.mem_map.1 hmem
  rwa [← List.inj_on_of_nodup_map hnd (List.mem_of_mem_take he') he heq]

/-! ## Pass after pass -/

/-- The tables and files after `n` passes, the `k`-th at `nows k`, with nothing in between. -/
def consecutivePasses (trials : Nat → RunKey → Trial) (settings : Settings) (nows : Nat → Time) (batchSize : Option Nat)
    (dryRun : Option Bool) (db : Tables) (files : List Path) : Nat → Tables × List Path
  | 0     => (db, files)
  | n + 1 =>
    let w := consecutivePasses trials settings nows batchSize dryRun db files n
    let s := (purgeExpiredArtifacts resolve (trials n) settings (nows n) batchSize dryRun w.1 w.2 (nows n)).1
    (s.tables, s.files)

/-- `output_deleted_at IS NOT NULL`. -/
def Tables.purged (db : Tables) (key : RunKey) : Bool := (db.runs.get? key).any (fun row => row.outputDeletedAt ≠ none)

/-- Two passes find the same candidates where they find the same rows of `db` eligible. -/
theorem Descends.queue_congr {db db' : Tables} (h : Descends db db') (hkeys : db.runs.keys.Nodup) {pass pass' : Pass}
    (hpass : pass.excludedIds = []) (hpass' : pass'.excludedIds = [])
    (hsame : ∀ e ∈ db.runs, pass'.eligible e.2 = pass.eligible e.2) : pass'.queue db' = pass.queue db' := by
  refine List.flatMap_congr (fun artifactType _ => Queues.waiting_congr (List.filter_congr (fun e he => ?_)))
  have hrow := Dict.get?_eq_some_of_mem (h.keys ▸ hkeys) he
  have heligible : pass'.eligible e.2 = pass.eligible e.2 := by
    rcases h.rows e.1 e.2 hrow with hmarked | hold
    · have hnot : ∀ p : Pass, p.eligible e.2 = false :=
        fun p => Bool.eq_false_iff.2 (fun heligible => hmarked (Pass.eligible_iff.1 heligible).2.1)
      rw [hnot, hnot]
    · exact hsame e (Dict.mem_of_get?_eq_some hold)
  unfold Pass.wants
  rw [heligible, hpass, hpass']

/-- **A row of the first queue is purged when it has left the queue.** -/
theorem Descends.purged_iff {db db' : Tables} (h : Descends db db') (hkeys : db.runs.keys.Nodup) {pass : Pass} {e : Entry}
    (he : e ∈ pass.queue db) : db'.purged e.1 = true ↔ e ∉ pass.queue db' := by
  have hkeys' : db'.runs.keys.Nodup := by
    rw [h.keys]
    exact hkeys
  obtain ⟨artifactType, htype, hmem⟩ := List.mem_flatMap.1 he
  obtain ⟨hrun, hartifact, heligible, hids⟩ := mem_candidates.1 hmem
  have hqueue : e ∈ pass.queue db' ↔ db'.runs.get? e.1 = some e.2 := by
    constructor
    · intro h'
      obtain ⟨_, _, hmem'⟩ := List.mem_flatMap.1 h'
      exact Dict.get?_eq_some_of_mem hkeys' (mem_candidates.1 hmem').1
    · intro hrow
      exact List.mem_flatMap.2 ⟨artifactType, htype,
        mem_candidates.2 ⟨Dict.mem_of_get?_eq_some hrow, hartifact, heligible, hids⟩⟩
  have hkey : e.1 ∈ db'.runs.keys := by
    rw [h.keys]
    exact List.mem_map_of_mem hrun
  obtain ⟨row, hrow⟩ := Option.ne_none_iff_exists'.1 (fun hnone => Dict.get?_eq_none_iff.1 hnone hkey)
  have hunmarked := (Pass.eligible_iff.1 heligible).2.1
  rw [hqueue, Tables.purged, hrow, Option.any_some, decide_eq_true_iff]
  constructor
  · rintro hmarked heq
    obtain rfl := Option.some.inj heq
    exact hmarked hunmarked
  · intro hne
    refine (h.rows e.1 row hrow).resolve_right (fun hold => hne ?_)
    rw [← hold]
    exact Dict.get?_eq_some_of_mem hkeys hrun

/-- **Failing deletions hold up what comes after them**, in the order of type, decision and id: of the artifacts whose
deletion does not fail, those with fewer failing ones before them than a pass attempts are purged after as many passes as
there are artifacts, and the others never are. -/
theorem purged_iff_few_failures (trials : Nat → RunKey → Trial) (settings : Settings) (nows : Nat → Time)
    (batchSize : Option Nat) (dryRun : Option Bool) (db : Tables) (files : List Path) (F : RunKey → Bool)
    (hkeys : db.runs.keys.Nodup) (henabled : settings.outputRetentionEnabled = true)
    (hreal : dryRun.getD settings.outputRetentionDryRun = false) (hwindow : 7 ≤ settings.outputRetentionWindowDays)
    (hclock : ∀ k, nows 0 ≤ nows k)
    (hnew : ∀ k, ∀ e ∈ db.runs, (Pass.starting settings (nows k) batchSize dryRun).eligible e.2 = true →
      (Pass.starting settings (nows 0) batchSize dryRun).eligible e.2 = true)
    (hF : ∀ k, ∀ e ∈ db.runs, (Pass.starting settings (nows 0) batchSize dryRun).eligible e.2 = true →
      (trials k e.1).fails resolve settings e = F e.1)
    {pre post : List Entry} {e : Entry}
    (hqueue : (Pass.starting settings (nows 0) batchSize dryRun).queue db = pre ++ e :: post) (hfine : F e.1 = false) :
    (pre.countP (fun e => F e.1) < batchSize.getD settings.retentionClaimBatchSize →
      ∀ n, (pre ++ e :: post).length ≤ n →
        (consecutivePasses resolve trials settings nows batchSize dryRun db files n).1.purged e.1 = true) ∧
    (batchSize.getD settings.retentionClaimBatchSize ≤ pre.countP (fun e => F e.1) →
      ∀ n, (consecutivePasses resolve trials settings nows batchSize dryRun db files n).1.purged e.1 = false) := by
  have hsame : ∀ k, ∀ e ∈ db.runs, (Pass.starting settings (nows k) batchSize dryRun).eligible e.2 =
      (Pass.starting settings (nows 0) batchSize dryRun).eligible e.2 := by
    intro k e he
    rw [Bool.eq_iff_iff]
    refine ⟨hnew k e he, fun h => ?_⟩
    obtain ⟨hstatus, hunmarked, ts, hts, hle⟩ := Pass.eligible_iff.1 h
    exact Pass.eligible_iff.2 ⟨hstatus, hunmarked, ts, hts, Nat.le_trans hle (hclock k)⟩
  have hrun : ∀ n, Descends db (consecutivePasses resolve trials settings nows batchSize dryRun db files n).1 ∧
      (Pass.starting settings (nows 0) batchSize dryRun).queue
          (consecutivePasses resolve trials settings nows batchSize dryRun db files n).1 =
        (Queues.sweep (fun e => F e.1) (batchSize.getD settings.retentionClaimBatchSize))^[n] (pre ++ e :: post) := by
    intro n
    induction n with
    | zero => exact ⟨⟨rfl, fun key row hrow => .inr hrow⟩, hqueue⟩
    | succ n ih =>
      obtain ⟨hdescends, hleft⟩ := ih
      obtain ⟨hdescends', hswept⟩ := @queue_after_pass resolve db _
        (consecutivePasses resolve trials settings nows batchSize dryRun db files n).2 settings (nows n) batchSize dryRun F
        (trials n) hkeys hdescends henabled hreal hwindow
          (fun e he heligible => hF n e he (hnew n e he heligible)) (nows n)
      refine ⟨hdescends', ?_⟩
      rw [Function.iterate_succ_apply', ← hleft, ← hdescends.queue_congr hkeys rfl rfl (hsame n), ← hswept]
      exact (hdescends'.queue_congr hkeys rfl rfl (hsame n)).symm
  have hmem : e ∈ (Pass.starting settings (nows 0) batchSize dryRun).queue db := by
    rw [hqueue]
    exact List.mem_append_right _ List.mem_cons_self
  have hnd : (pre ++ e :: post).Nodup := by
    rw [← hqueue]
    exact List.Nodup.of_map _ (nodup_all_candidates hkeys (by decide))
  constructor
  · intro hfew n hn
    obtain ⟨hdescends, hleft⟩ := hrun n
    rw [hdescends.purged_iff hkeys hmem, hleft]
    exact (@Queues.mem_sweeps_iff _ (fun e => F e.1) _ _ _ _ hnd hfine _ hn).2 hfew
  · intro hmany n
    obtain ⟨hdescends, hleft⟩ := hrun n
    rw [Bool.eq_false_iff]
    intro hpurged
    rw [hdescends.purged_iff hkeys hmem, hleft, Queues.sweeps_stuck (e :: post) n pre hmany] at hpurged
    exact hpurged (List.mem_append_right _ List.mem_cons_self)

end

def daily (k : Nat) : Time := timedeltaDays (8 + k)

/-- Passes of two attempts, of which the second artifact takes one each time, come to the third. -/
theorem purged_iff_few_failures_three : (consecutivePasses some (fun _ => lockedSecond) weekly daily (some 2) none
    threeExpired [["output", "7", "a.csv"], ["exported", "7", "c.csv"]] 3).1.purged (.export, 3) = true := by
  have hall : ∀ e ∈ threeExpired.runs, (Pass.starting weekly (daily 0) (some 2) none).eligible e.2 = true := by decide
  have hfails : ∀ e ∈ threeExpired.runs, (lockedSecond e.1).fails some weekly e = (e.1 == (.cleaning, 2)) := by decide
  exact (purged_iff_few_failures some (fun _ => lockedSecond) weekly daily (some 2) none threeExpired _
    (fun key => key == (.cleaning, 2)) (by decide) rfl rfl (by decide)
    (fun k => Nat.mul_le_mul_left _ (Nat.mul_le_mul_left _ (Nat.le_add_right 8 k))) (fun _ e he _ => hall e he)
    (fun _ e he _ => hfails e he)
    (show (Pass.starting weekly (daily 0) (some 2) none).queue threeExpired =
      [((.cleaning, 1), ⟨7, ["output", "7", "a.csv"], .approved, some 4, none, none, none⟩),
        ((.cleaning, 2), ⟨7, ["output", "7", "b.csv"], .rejected, none, some 5, none, none⟩)] ++
        ((.export, 3), ⟨7, ["exported", "7", "c.csv"], .approved, some 0, none, none, none⟩) :: [] by decide)
    rfl).1 (by decide) 3 (by decide)

/-- With passes of one attempt, the second artifact takes it each time: the third is never reached. -/
theorem failing_artifact_starves : ((Pass.starting weekly (daily 0) (some 1) none).queue threeExpired).length = 3 ∧
    (lockedSecond (.export, 3)).fails some weekly
      ((.export, 3), ⟨7, ["exported", "7", "c.csv"], .approved, some 0, none, none, none⟩) = false ∧
    (consecutivePasses some (fun _ => lockedSecond) weekly daily (some 1) none threeExpired
      [["output", "7", "a.csv"], ["output", "7", "b.csv"], ["exported", "7", "c.csv"]] 3).1.purged
        (.export, 3) = false := by
  decide

end Retention
end DataOps

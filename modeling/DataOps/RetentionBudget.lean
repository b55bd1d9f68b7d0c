import DataOps.RetentionLoop
/-!
# RetentionBudget — a pass keeps to its budget, and its counts to its events

What one attempt keeps (`Balanced.attempt`) holds after every run type and after the pass: the rows it marked are the
only ones that are no longer eligible, and the counts are those of the events whose commit answered.  A commit that
raises after it is durable leaves its event uncounted, so that the counts are those of all events exactly where no answer
is lost.
-/
namespace DataOps
namespace Retention

open Api (Time)

/-- The counts of a pass are those of its events. -/
structure Reconciled (events : List RetentionEvent) (r : PassResult) : Prop where
  purged         : r.purgedCount = events.countP (fun e => e.outcome = .completed ∧ e.dryRun = false)
  wouldPurge     : r.dryRunWouldPurgeCount = events.countP (fun e => e.outcome = .completed ∧ e.dryRun = true)
  alreadyMissing : r.alreadyMissingCount = events.countP (fun e => e.outcome = .alreadyMissing)
  failed         : r.failedCount = events.countP (fun e => e.outcome = .failed)
  bytes          : r.bytesReclaimed = ((events.filter (fun e => e.outcome = .completed ∧ e.dryRun = false)).map
                     (fun e => e.artifactSizeBytes.getD 0)).sum

theorem Reconciled.tally {events : List RetentionEvent} {r : PassResult} (h : Reconciled events r)
    (pass : Pass) (txn : Txn) (ev : Evaluation) (completedAt : Time) :
    Reconciled (events ++ [recordEvent pass txn ev completedAt]) (r.tally pass.dryRun ev) := by
  obtain ⟨hpurged, hwould, hmissing, hfailed, hbytes⟩ := h
  unfold PassResult.tally
  cases hout : ev.outcome <;> cases hdry : pass.dryRun <;> constructor <;>
    simp [recordEvent, hout, hdry, hpurged, hwould, hmissing, hfailed, hbytes, List.filter_append]

/-- Every event is counted once. -/
theorem Reconciled.length {events : List RetentionEvent} {r : PassResult} (h : Reconciled events r) :
    r.purgedCount + r.dryRunWouldPurgeCount + r.alreadyMissingCount + r.failedCount = events.length := by
  rw [h.purged, h.wouldPurge, h.alreadyMissing, h.failed]
  clear h
  induction events with
  | nil => rfl
  | cons e events ih =>
    simp only [List.countP_cons, List.length_cons]
    cases e.outcome <;> cases e.dryRun <;> simp at ih ⊢ <;> omega

/-- Counts of some of the events are those of all exactly when they are all. -/
theorem Reconciled.iff_length {answered events : List RetentionEvent} {r : PassResult} (h : Reconciled answered r)
    (hsub : answered.Sublist events) : Reconciled events r ↔ events.length = answered.length := by
  constructor
  · intro hall
    rw [← hall.length, h.length]
  · intro hlength
    rwa [← hsub.eq_of_length hlength.symm]

/-- How many rows of the tables are eligible. -/
def eligibleCount (pass : Pass) (db : Tables) : Nat := db.runs.countP (fun e => pass.eligible e.2)

/-- The event of a row that is marked. -/
def RetentionEvent.marks (event : RetentionEvent) : Bool := event.dryRun = false ∧ event.outcome ≠ .failed

/-- **What a pass that began as `pass`, on `db`, has done so far**: `events` are those it committed, and `answered` those
of them whose commit answered. -/
structure Balanced (resolve : Path → Option Path) (trials : RunKey → Trial) (db : Tables) (pass : Pass) (s : Progress)
    (events answered : List RetentionEvent) : Prop where
  like       : s.pass.Like pass
  keys       : s.tables.runs.keys.Nodup
  appended   : s.tables.events = db.events ++ events
  mode       : ∀ e ∈ events, e.dryRun = pass.dryRun
  counts     : Reconciled answered s.pass.result
  sublist    : answered.Sublist events
  unanswered : events.length = answered.length + s.attempts.countP (fun e => (trials e.1).loses resolve pass.settings e)
  recorded   : (events.map RetentionEvent.key).Sublist (s.attempts.map Prod.fst)
  eligible   : eligibleCount pass s.tables + events.countP RetentionEvent.marks = eligibleCount pass db

/-- One row less is eligible when an eligible one is marked. -/
theorem eligibleCount_set {pass : Pass} {db : Tables} (hkeys : db.runs.keys.Nodup) {e : Entry} (he : e ∈ db.runs)
    (heligible : pass.eligible e.2 = true) (deletedAt : Time) (events : List RetentionEvent) :
    eligibleCount pass ⟨db.runs.set e.1 { e.2 with outputDeletedAt := some deletedAt }, events⟩ + 1 =
      eligibleCount pass db := by
  have hmem : e ∈ db.runs.filter (fun e => pass.eligible e.2) := List.mem_filter.2 ⟨he, heligible⟩
  have hnd : ((db.runs.filter (fun e => pass.eligible e.2)).map Prod.fst).Nodup :=
    hkeys.sublist (List.filter_sublist.map _)
  have hone : (db.runs.filter (fun e => pass.eligible e.2)).countP (fun e' => e'.1 = e.1) = 1 := by
    have hcount := List.count_eq_one_of_mem hnd (List.mem_map_of_mem hmem)
    rw [List.count, List.countP_map] at hcount
    exact (List.countP_congr (fun e' _ => by simp)).trans hcount
  unfold eligibleCount
  rw [List.countP_eq_length_filter, List.countP_eq_length_filter,
    Dict.filter_set (p := fun e => pass.eligible e.2) (eligible_marked pass e.2 deletedAt) hkeys,
    ← List.countP_eq_length_filter, List.length_eq_countP_add_countP (fun e' : Entry => decide (e'.1 = e.1))
      (l := db.runs.filter (fun e => pass.eligible e.2)), hone, Nat.add_comm]
  simp

section
variable {resolve : Path → Option Path} {trials : RunKey → Trial} {db : Tables} {pass : Pass} {s s' : Progress}
  {events answered : List RetentionEvent} {e : Entry}

/-- An event committed, and counted if its commit answers. -/
theorem Balanced.record (h : Balanced resolve trials db pass s events answered) {ev : Evaluation} {completedAt : Time}
    {acknowledged : Bool} (hlike : s'.pass.Like pass) (hkeys : s'.tables.runs.keys.Nodup)
    (hevents : s'.tables.events = s.tables.events ++ [recordEvent s.pass (claimTxn e) ev completedAt])
    (hattempts : s'.attempts = s.attempts ++ [e])
    (hresult : s'.pass.result = (s.pass.claimed.settled (claimTxn e) ev acknowledged).result)
    (hloses : (trials e.1).loses resolve s.pass.settings e = !acknowledged)
    (heligible : eligibleCount pass s'.tables +
      (if (recordEvent s.pass (claimTxn e) ev completedAt).marks = true then 1 else 0) = eligibleCount pass s.tables) :
    ∃ answered', Balanced resolve trials db pass s'
      (events ++ [recordEvent s.pass (claimTxn e) ev completedAt]) answered' := by
  have happended : s'.tables.events = db.events ++ (events ++ [recordEvent s.pass (claimTxn e) ev completedAt]) := by
    rw [hevents, h.appended, List.append_assoc]
  have hmode : ∀ e' ∈ events ++ [recordEvent s.pass (claimTxn e) ev completedAt], e'.dryRun = pass.dryRun := by
    intro e' he'
    rcases List.mem_append.1 he' with he' | he'
    · exact h.mode e' he'
    · rw [List.mem_singleton.1 he']
      exact h.like.dryRun
  have hrecorded : ((events ++ [recordEvent s.pass (claimTxn e) ev completedAt]).map RetentionEvent.key).Sublist
      (s'.attempts.map Prod.fst) := by
    rw [hattempts, List.map_append, List.map_append]
    exact h.recorded.append (List.Sublist.refl _)
  have hleft : eligibleCount pass s'.tables +
      (events ++ [recordEvent s.pass (claimTxn e) ev completedAt]).countP RetentionEvent.marks =
        eligibleCount pass db := by
    rw [List.countP_append, List.countP_singleton, ← h.eligible]
    omega
  have hlost : s'.attempts.countP (fun e => (trials e.1).loses resolve pass.settings e) =
      s.attempts.countP (fun e => (trials e.1).loses resolve pass.settings e) + if acknowledged = true then 0 else 1 := by
    rw [hattempts, List.countP_append, List.countP_singleton, ← h.like.settings, hloses]
    cases acknowledged <;> rfl
  have hunanswered := h.unanswered
  cases acknowledged with
  | true =>
    refine ⟨answered ++ [recordEvent s.pass (claimTxn e) ev completedAt], hlike, hkeys, happended, hmode, ?_,
      h.sublist.append (List.Sublist.refl _), ?_, hrecorded, hleft⟩
    · rw [hresult]
      exact h.counts.tally _ _ _ _
    · rw [hlost, List.length_append, List.length_append, if_pos rfl]
      omega
  | false =>
    refine ⟨answered, hlike, hkeys, happended, hmode, ?_, h.sublist.trans (List.sublist_append_left _ _),
      ?_, hrecorded, hleft⟩
    · rw [hresult]
      exact h.counts
    · rw [hlost, List.length_append, if_neg Bool.false_ne_true, List.length_singleton]
      omega

/-- **An attempt keeps the balance.** -/
theorem Balanced.attempt (h : Balanced resolve trials db pass s events answered) (hcases : Attempted resolve trials s e s')
    (he : e ∈ s.tables.runs) (heligible : s.pass.eligible e.2 = true) :
    ∃ events' answered', Balanced resolve trials db pass s' events' answered' := by
  have hlike : s'.pass.Like pass := hcases.like.trans h.like
  have hkeys := hcases.keys h.keys
  cases hcases with
  | rolledBack files hloses =>
    refine ⟨events, answered, hlike, hkeys, h.appended, h.mode, h.counts, h.sublist, ?_, ?_, h.eligible⟩
    · rw [List.countP_append, List.countP_singleton, ← h.like.settings, hloses, h.like.settings]
      exact h.unanswered
    · rw [List.map_append]
      exact h.recorded.trans (List.sublist_append_left _ _)
  | kept files ev completedAt acknowledged hloses hkept =>
    refine ⟨_, h.record hlike hkeys rfl rfl rfl hloses ?_⟩
    have hnot : (recordEvent s.pass (claimTxn e) ev completedAt).marks = false := by
      refine decide_eq_false (fun hmarks => ?_)
      rcases hkept with hdry | hfailed
      · exact Bool.false_ne_true (hmarks.1.symm.trans hdry)
      · exact hmarks.2 hfailed
    rw [hnot, if_neg Bool.false_ne_true, Nat.add_zero]
    rfl
  | marked files ev deletedAt completedAt acknowledged hloses hreal hgone =>
    refine ⟨_, h.record hlike hkeys rfl rfl rfl hloses ?_⟩
    have hmarks : (recordEvent s.pass (claimTxn e) ev completedAt).marks = true := decide_eq_true ⟨hreal, hgone⟩
    rw [if_pos hmarks]
    exact eligibleCount_set h.keys he (by rwa [← h.like.eligible]) deletedAt _

theorem Balanced.nextType (h : Balanced resolve trials db pass s events answered) :
    Balanced resolve trials db pass s.nextType events answered :=
  ⟨⟨h.like.settings, h.like.now, h.like.dryRun⟩, h.keys, h.appended, h.mode, h.counts, h.sublist, h.unanswered, h.recorded,
    h.eligible⟩

end

/-! ## The pass -/

theorem processRunTypes_balanced (resolve : Path → Option Path) (trials : RunKey → Trial) {db : Tables} {pass : Pass}
    {s : Progress} {events answered : List RetentionEvent} (h : Balanced resolve trials db pass s events answered)
    (artifactTypes : List ArtifactType) :
    ∃ events' answered',
      Balanced resolve trials db pass (processRunTypes resolve trials artifactTypes s) events' answered' := by
  refine processRunTypes_invariant resolve trials
    (I := fun s' => ∃ events' answered', Balanced resolve trials db pass s' events' answered') ?_ ?_ ?_
    artifactTypes s ⟨events, answered, h⟩
  · rintro s' ⟨events', answered', hs'⟩
    exact hs'.keys
  · rintro s' e s'' ⟨events', answered', hs'⟩ hcases - hmem
    obtain ⟨hrun, -, heligible, -⟩ := mem_candidates.1 hmem
    exact hs'.attempt hcases hrun heligible
  · rintro s' ⟨events', answered', hs'⟩
    exact ⟨events', answered', hs'.nextType⟩

/-- The backlog counts the eligible rows. -/
theorem computeBacklogSnapshot_eq (db : Tables) (pass : Pass) (now : Time) :
    (computeBacklogSnapshot db pass now).1 = eligibleCount pass db := by
  unfold computeBacklogSnapshot eligibleCount
  dsimp only
  induction db.runs with
  | nil => rfl
  | cons e runs ih =>
    obtain ⟨⟨artifactType, id⟩, row⟩ := e
    simp only [runTypeConfigs, List.map_cons, List.map_nil, List.sum_cons, List.sum_nil, List.filter_cons,
      List.countP_cons] at ih ⊢
    cases artifactType <;> cases pass.eligible row <;> simp at ih ⊢ <;> omega

theorem starting_excludedIds (settings : Settings) (now : Time) (batchSize : Option Nat) (dryRun : Option Bool) :
    (Pass.starting settings now batchSize dryRun).excludedIds = [] := rfl

/-- **A retention pass respects its budget**: it attempts the first candidates of the three types, no more than the batch
size and none twice, and its backlog is what is still eligible after it.  Its counts are those of the events it committed
exactly when no attempt's commit is durable with its answer lost. -/
theorem retention_pass_within_budget_iff (resolve : Path → Option Path) (trials : RunKey → Trial) (settings : Settings)
    (now now' : Time) (batchSize : Option Nat) (dryRun : Option Bool) (db : Tables) (files : List Path)
    (hkeys : db.runs.keys.Nodup) :
    ∃ s report events,
      purgeExpiredArtifacts resolve trials settings now batchSize dryRun db files now' = (s, report) ∧
      s.attempts = (if settings.outputRetentionEnabled = true then
        ((Pass.starting settings now batchSize dryRun).queue db).take (batchSize.getD settings.retentionClaimBatchSize)
        else []) ∧
      s.attempts.length ≤ batchSize.getD settings.retentionClaimBatchSize ∧ (s.attempts.map Prod.fst).Nodup ∧
      s.tables.events = db.events ++ events ∧ (events.map RetentionEvent.key).Sublist (s.attempts.map Prod.fst) ∧
      (∀ e ∈ events, e.dryRun = dryRun.getD settings.outputRetentionDryRun) ∧
      report.map Prod.fst = (if settings.outputRetentionEnabled = true then
        some (eligibleCount (Pass.starting settings now batchSize dryRun) s.tables) else none) ∧
      eligibleCount (Pass.starting settings now batchSize dryRun) s.tables + events.countP RetentionEvent.marks =
        eligibleCount (Pass.starting settings now batchSize dryRun) db ∧
      (Reconciled events s.pass.result ↔ (settings.outputRetentionEnabled = true →
        ∀ e ∈ ((Pass.starting settings now batchSize dryRun).queue db).take
            (batchSize.getD settings.retentionClaimBatchSize), (trials e.1).loses resolve settings e = false)) := by
  have hstart : Balanced resolve trials db (Pass.starting settings now batchSize dryRun)
      ⟨db, files, Pass.starting settings now batchSize dryRun, []⟩ [] [] :=
    ⟨⟨rfl, rfl, rfl⟩, hkeys, (List.append_nil _).symm, fun _ h => absurd h List.not_mem_nil,
      ⟨rfl, rfl, rfl, rfl, rfl⟩, List.Sublist.refl _, rfl, List.Sublist.refl _, rfl⟩
  have hspec := @processRunTypes_attempts resolve trials _ (starting_excludedIds settings now batchSize dryRun)
    runTypeConfigs _ (by decide) hstart.like hkeys rfl rfl
  have hend := processRunTypes_balanced resolve trials hstart runTypeConfigs
  unfold purgeExpiredArtifacts
  dsimp only
  by_cases henabled : settings.outputRetentionEnabled = true
  · rw [if_pos henabled, if_pos henabled]
    generalize processRunTypes resolve trials runTypeConfigs
      ⟨db, files, Pass.starting settings now batchSize dryRun, []⟩ = s at hspec hend ⊢
    obtain ⟨events, answered, hs⟩ := hend
    have hattempts : s.attempts = ((Pass.starting settings now batchSize dryRun).queue db).take
        (batchSize.getD settings.retentionClaimBatchSize) := hspec
    have hbacklog : (computeBacklogSnapshot s.tables s.pass now').1 =
        eligibleCount (Pass.starting settings now batchSize dryRun) s.tables := by
      rw [computeBacklogSnapshot_eq]
      unfold eligibleCount
      rw [hs.like.eligible]
    refine ⟨s, _, events, rfl, hattempts, ?_, ?_, hs.appended, hs.recorded, hs.mode, ?_, hs.eligible, ?_⟩
    · rw [hattempts, List.length_take]
      exact Nat.min_le_left _ _
    · rw [hattempts]
      exact (nodup_all_candidates hkeys (by decide)).sublist ((List.take_sublist _ _).map _)
    · rw [if_pos henabled]
      exact congrArg some hbacklog
    · have hnone : events.length = answered.length ↔
          s.attempts.countP (fun e => (trials e.1).loses resolve settings e) = 0 := by
        have hunanswered : events.length = answered.length +
            s.attempts.countP (fun e => (trials e.1).loses resolve settings e) := hs.unanswered
        omega
      rw [hs.counts.iff_length hs.sublist, hnone, List.countP_eq_zero, hattempts, imp_iff_right henabled]
      exact forall₂_congr (fun e _ => Bool.eq_false_iff.symm)
  · rw [if_neg henabled, if_neg henabled]
    refine ⟨_, _, [], rfl, rfl, Nat.zero_le _, List.nodup_nil, hstart.appended, hstart.recorded, hstart.mode, ?_,
      hstart.eligible, iff_of_true hstart.counts (fun h => absurd h henabled)⟩
    rw [if_neg henabled]
    rfl

/-- Three artifacts, decided on the first day: the second cannot be deleted. -/
def threeExpired : Tables where
  runs :=
    [((.export, 3), ⟨7, ["exported", "7", "c.csv"], .approved, some 0, none, none, none⟩),
      ((.cleaning, 2), ⟨7, ["output", "7", "b.csv"], .rejected, none, some 5, none, none⟩),
      ((.cleaning, 1), ⟨7, ["output", "7", "a.csv"], .approved, some 4, none, none, none⟩)]
  events := []

def weekly : Settings := ⟨true, 7, 50, false, ["output"], ["standardized"], ["exported"]⟩

def lockedSecond (key : RunKey) : Trial where
  io := ⟨some 10, if key = (.cleaning, 2) then some .permissionError else none⟩
  deletedAt := timedeltaDays 9
  completedAt := timedeltaDays 9

/-- A pass of two attempts. -/
theorem retention_pass_within_budget_iff_two : ∃ s report events,
    purgeExpiredArtifacts some lockedSecond weekly (timedeltaDays 8) (some 2) none threeExpired
      [["output", "7", "a.csv"], ["output", "7", "b.csv"], ["exported", "7", "c.csv"]] (timedeltaDays 9) = (s, report) ∧
      s.attempts.map Prod.fst = [(.cleaning, 1), (.cleaning, 2)] ∧ Reconciled events s.pass.result ∧
      s.tables.events = events ∧
      eligibleCount (.starting weekly (timedeltaDays 8) (some 2) none) s.tables +
        events.countP RetentionEvent.marks = 3 := by
  obtain ⟨s, report, events, hpurge, hattempts, -, -, hevents, -, -, -, heligible, hcounts⟩ :=
    retention_pass_within_budget_iff some lockedSecond weekly (timedeltaDays 8) (timedeltaDays 9)
      (some 2) none threeExpired
      [["output", "7", "a.csv"], ["output", "7", "b.csv"], ["exported", "7", "c.csv"]] (by decide)
  refine ⟨s, report, events, hpurge, ?_, hcounts.2 (fun _ => by decide), hevents, heligible.trans (by decide)⟩
  rw [hattempts]
  decide

/-- The connection is lost while the first artifact's commit answers. -/
def unansweredFirst (key : RunKey) : Trial :=
  { lockedSecond key with interrupted := if key = (.cleaning, 1) then some .acknowledging else none }

/-- **A lost answer goes uncounted**: the file is deleted, the row marked and its event committed, and no count says so. -/
theorem retention_counts_differ :
    ¬ ∀ (resolve : Path → Option Path) (trials : RunKey → Trial) (settings : Settings) (now now' : Time)
      (batchSize : Option Nat) (dryRun : Option Bool) (db : Tables) (files : List Path), db.runs.keys.Nodup →
      ∃ events, (purgeExpiredArtifacts resolve trials settings now batchSize dryRun db files now').1.tables.events =
          db.events ++ events ∧
        Reconciled events
          (purgeExpiredArtifacts resolve trials settings now batchSize dryRun db files now').1.pass.result := by
  intro hall
  obtain ⟨events, hevents, hcounts⟩ := hall some unansweredFirst weekly (timedeltaDays 8) (timedeltaDays 9) (some 1) none
    threeExpired [["output", "7", "a.csv"], ["output", "7", "b.csv"], ["exported", "7", "c.csv"]] (by decide)
  have hone : (purgeExpiredArtifacts some unansweredFirst weekly (timedeltaDays 8) (some 1) none threeExpired
      [["output", "7", "a.csv"], ["output", "7", "b.csv"], ["exported", "7", "c.csv"]]
        (timedeltaDays 9)).1.tables.events.length =
        1 := by decide
  have hlength := hcounts.length
  rw [hevents] at hone
  exact absurd (hlength.trans hone) (by decide)

end Retention
end DataOps

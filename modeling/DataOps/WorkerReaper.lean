import DataOps.WorkerFleet
/-!
# WorkerReaper — when the reaper takes a live lease

`reap_expired_runs` reads the expired rows in one transaction and completes each in a later one, under the token it
read.  A heartbeat in between extends the lease and keeps the token, so the completion goes through all the same.
`EntryInv` says what a remembered row can have become: heartbeaten since the select, or with its old, expired lease.
-/
namespace DataOps
namespace Worker

open Trace (exec Along)

variable {dep : Deployment}

/-- The row the next step of a reaper pass requeues or fails, with what the pass remembers of it. -/
def Fleet.reaperTakes (s : Fleet) (pass : Nat) : Option (Remembered × TaskRun) :=
  match s.passes pass with
  | []     => none
  | m :: _ =>
    (s.db.taskRuns m.taskRunId).bind (fun r =>
      if r.leaseToken = m.leaseToken ∧ r.status = .running then some (m, r) else none)

/-- A condition on every row a step has the reaper requeue or fail. -/
def Fleet.Takes (P : Fleet → Time → Remembered → TaskRun → Prop) (s : Fleet) (l : Label) : Prop :=
  ∀ pass m r, l.action = .reapNext pass → s.reaperTakes pass = some (m, r) → P s (s.clock + l.elapsed) m r

/-- The lease has expired at the moment of the update, and its owner has not heartbeaten since the select. -/
def LeaseDead (s : Fleet) (now : Time) (m : Remembered) (r : TaskRun) : Prop :=
  r.expired now = true ∧ (m.taskRunId, m.leaseToken) ∉ s.heartbeats.drop m.seen

/-- The row's last heartbeat is older than the select. -/
def BeatBeforeSelect (_ : Fleet) (_ : Time) (m : Remembered) (r : TaskRun) : Prop :=
  ∀ h ∈ r.lastHeartbeatAt, h < m.selectedAt

/-- **What a remembered row can have become**: no longer running under the token, heartbeaten since the select, or as
the select saw it. -/
structure EntryInv (db : Db) (clock : Time) (beats : List (RunId × Option LeaseToken)) (m : Remembered) : Prop where
  selected : m.selectedAt ≤ clock
  seen     : m.seen ≤ beats.length
  token    : ∀ t ∈ m.leaseToken, t < db.nextToken
  row      : ∀ r, db.holds m.taskRunId m.leaseToken r →
               ((m.taskRunId, m.leaseToken) ∈ beats.drop m.seen ∧ ∃ h ∈ r.lastHeartbeatAt, m.selectedAt ≤ h) ∨
               ((m.taskRunId, m.leaseToken) ∉ beats.drop m.seen ∧ (∀ h ∈ r.lastHeartbeatAt, h < m.selectedAt) ∧
                 ∃ e ∈ r.leaseExpiresAt, e < m.selectedAt)

theorem completeSuccess_keepsLeases {db : Db} {id : RunId} {token : Option LeaseToken} {workerId : String}
    {logOutput : Option String} {now : Time} :
    db.KeepsLeases (settle db (completeSuccess db id token workerId logOutput now)) := by
  cases h : completeSuccess db id token workerId logOutput now with
  | error e => exact .refl db
  | ok db' =>
    obtain ⟨r, hr, rfl⟩ := completeSuccess_ok h
    exact recordEvent_keepsLeases (by simp [TaskRun.succeeded]) _

theorem completeFailure_keepsLeases {db : Db} {id : RunId} {token : Option LeaseToken} {workerId : String}
    {f : Failure} {now : Time} :
    db.KeepsLeases (settle db (completeFailure dep db id token workerId f now)) := by
  cases h : completeFailure dep db id token workerId f now with
  | error e => exact .refl db
  | ok db' =>
    obtain ⟨r, hr, rfl⟩ := completeFailure_ok h
    exact recordEvent_keepsLeases (afterFailure_status dep now id f r) _

section
variable {db db' : Db} {clock clock' : Time} {beats : List (RunId × Option LeaseToken)} {m : Remembered}

theorem EntryInv.keeps (h : EntryInv db clock beats m) (hle : clock ≤ clock') (hk : db.KeepsLeases db') :
    EntryInv db' clock' beats m where
  selected := Nat.le_trans h.selected hle
  seen := h.seen
  token t ht := Nat.lt_of_lt_of_le (h.token t ht) hk.1
  row r hr := by
    have hold := hk.2 _ r hr.1 hr.2.2 (fun t ht => h.token t (by rw [← hr.2.1]; exact ht))
    exact h.row r ⟨hold, hr.2⟩

/-- **A heartbeat that commits** either renews the remembered lease itself or does not touch it. -/
theorem EntryInv.heartbeat (h : EntryInv db clock beats m) (hle : clock ≤ clock') {id : RunId}
    {token : Option LeaseToken} {r : TaskRun} (hr : db.holds id token r) :
    EntryInv (db.setRun id (r.heartbeaten dep clock' id)) clock' (beats ++ [(id, token)]) m where
  selected := Nat.le_trans h.selected hle
  seen := by rw [List.length_append]; exact Nat.le_trans h.seen (Nat.le_add_right _ _)
  token := h.token
  row r' hr' := by
    rw [List.drop_append_of_le_length h.seen, List.mem_append, List.mem_singleton]
    by_cases hid : m.taskRunId = id
    · subst hid
      obtain ⟨hrow, htok, -⟩ := hr'
      obtain rfl : r.heartbeaten dep clock' m.taskRunId = r' := by simpa using hrow
      have htok : token = m.leaseToken := hr.2.1.symm.trans htok
      exact .inl ⟨.inr (by rw [htok]), clock', rfl, Nat.le_trans h.selected hle⟩
    · have hold : db.holds m.taskRunId m.leaseToken r' := ⟨by simpa [hid] using hr'.1, hr'.2⟩
      rcases h.row r' hold with ⟨hb, hh⟩ | ⟨hb, hrest⟩
      · exact .inl ⟨.inl hb, hh⟩
      · refine .inr ⟨?_, hrest⟩
        rintro (hmem | heq)
        · exact hb hmem
        · exact hid (Prod.mk.inj heq).1

/-- What a select remembers satisfies the invariant: the rows it took were running with an expired lease. -/
theorem EntryInv.selected_now (hdb : DbInv dep clock db) (scan : List RunId)
    (hm : m ∈ reapExpired db clock beats.length scan) : EntryInv db clock beats m := by
  obtain ⟨id, -, hid⟩ := List.mem_filterMap.1 hm
  cases hr : db.taskRuns id with
  | none => rw [hr] at hid; cases hid
  | some r =>
    rw [hr] at hid
    simp only [Option.bind_some, Option.ite_none_right_eq_some, Option.some.injEq] at hid
    obtain ⟨hexp, rfl⟩ := hid
    have hrun := hdb.run id r hr
    refine ⟨Nat.le_refl _, Nat.le_refl _, fun t ht => hrun.token t ht, fun r' hr' => .inr ?_⟩
    obtain rfl : r = r' := Option.some.inj (hr.symm.trans hr'.1)
    obtain ⟨h, hbeat, hlease, -⟩ := hrun.beat hr'.2.2
    simp only [TaskRun.expired, hlease, Bool.and_eq_true, Option.any_some, decide_eq_true_eq] at hexp
    refine ⟨by simp, fun h' hh' => ?_, _, hlease, hexp.2⟩
    rw [hbeat] at hh'
    obtain rfl : h = h' := Option.some.inj hh'
    exact Nat.lt_of_le_of_lt (Nat.le_add_right h _) hexp.2

end

/-- **The invariant of every reachable state with reapers in it.** -/
structure ReapInv (dep : Deployment) (s : Fleet) : Prop where
  tables  : DbInv dep s.clock s.db
  entries : ∀ pass, ∀ m ∈ s.passes pass, EntryInv s.db s.clock s.heartbeats m

/-- **One step preserves it.** -/
theorem ReapInv.step {s : Fleet} (h : ReapInv dep s) (l : Label) : ReapInv dep (s.step dep l) := by
  refine ⟨(h.tables.mono (Fleet.clock_le_step dep s l)).steps (s.step_steps l), ?_⟩
  obtain ⟨elapsed, a⟩ := l
  have hle : s.clock ≤ s.clock + elapsed := Nat.le_add_right _ _
  cases a with
  | claimBatch workerId batchSize scan =>
    exact fun pass m hm =>
      (h.entries pass m hm).keeps hle (claimBatch_inv dep s.db workerId batchSize scan _).keepsLeases
  | heartbeat id token =>
    simp only [Fleet.step, Fleet.act]
    split
    · rename_i db' hok
      obtain ⟨r, hr, rfl⟩ := heartbeat_ok hok
      exact fun pass m hm => (h.entries pass m hm).heartbeat hle hr
    · exact fun pass m hm => (h.entries pass m hm).keeps hle (.refl _)
  | completeSuccess id token workerId logOutput =>
    exact fun pass m hm => (h.entries pass m hm).keeps hle completeSuccess_keepsLeases
  | completeFailure id token workerId f =>
    exact fun pass m hm => (h.entries pass m hm).keeps hle completeFailure_keepsLeases
  | reapSelect pass scan =>
    simp only [Fleet.step, Fleet.act]
    split
    · intro p m hm
      by_cases hp : p = pass
      · subst hp
        simp only [Fleet.setPass, ↓reduceIte] at hm
        exact EntryInv.selected_now (h.tables.mono hle) scan hm
      · simp only [Fleet.setPass, hp, ↓reduceIte] at hm
        exact (h.entries p m hm).keeps hle (.refl _)
    · exact fun p m hm => (h.entries p m hm).keeps hle (.refl _)
  | reapNext pass =>
    simp only [Fleet.step, Fleet.act]
    split
    · exact fun p m hm => (h.entries p m hm).keeps hle (.refl _)
    · rename_i m₀ rest hpass
      intro p m hm
      have hm' : m ∈ s.passes p := by
        by_cases hp : p = pass
        · subst hp
          simp only [Fleet.setPass, ↓reduceIte] at hm
          rw [hpass]
          exact List.mem_cons_of_mem _ hm
        · simpa [Fleet.setPass, hp] using hm
      exact (h.entries p m hm').keeps hle completeFailure_keepsLeases
  | idle => exact fun pass m hm => (h.entries pass m hm).keeps hle (.refl _)

theorem ReapInv.initial (dep : Deployment) (created : RunId → Option Time) : ReapInv dep (Fleet.initial created) :=
  ⟨(FleetInv.initial dep created).tables, fun _ _ hm => by cases hm⟩

/-- On one step, the row the reaper takes has a dead lease exactly when its last heartbeat is older than the select. -/
theorem ReapInv.takes_iff {s : Fleet} (h : ReapInv dep s) (l : Label) :
    s.Takes LeaseDead l ↔ s.Takes BeatBeforeSelect l := by
  have hrow : ∀ pass m r, s.reaperTakes pass = some (m, r) →
      (LeaseDead s (s.clock + l.elapsed) m r ↔ BeatBeforeSelect s (s.clock + l.elapsed) m r) := by
    intro pass m r htake
    unfold Fleet.reaperTakes at htake
    split at htake
    · cases htake
    rename_i m₀ rest hpass
    cases hrun : s.db.taskRuns m₀.taskRunId with
    | none => rw [hrun] at htake; cases htake
    | some r₀ =>
      rw [hrun] at htake
      simp only [Option.bind_some, Option.ite_none_right_eq_some, Option.some.injEq, Prod.mk.injEq] at htake
      obtain ⟨⟨htok, hst⟩, rfl, rfl⟩ := htake
      have hentry := h.entries pass m₀ (by rw [hpass]; exact List.mem_cons_self)
      rcases hentry.row r₀ ⟨hrun, htok, hst⟩ with ⟨hmem, b, hb, hle⟩ | ⟨hnot, hbefore, e, he, hlt⟩
      · exact iff_of_false (fun hd => hd.2 hmem) (fun hbb => absurd (hbb b hb) (Nat.not_lt.2 hle))
      · refine iff_of_true ⟨?_, hnot⟩ hbefore
        rw [Option.mem_def] at he
        have hnow : e < s.clock + l.elapsed :=
          Nat.lt_of_lt_of_le hlt (Nat.le_trans hentry.selected (Nat.le_add_right _ _))
        simp only [TaskRun.expired, hst, he, decide_true, Option.any_some, Bool.true_and, decide_eq_true_eq]
        exact hnow
  exact ⟨fun ht pass m r hl htake => (hrow pass m r htake).1 (ht pass m r hl htake),
    fun ht pass m r hl htake => (hrow pass m r htake).2 (ht pass m r hl htake)⟩

/-- **The reaper takes only dead leases, exactly in the runs in which every row it takes was last heartbeaten before the
pass's select.** -/
theorem reaper_takes_dead_iff (dep : Deployment) (created : RunId → Option Time) (ls : List Label) :
    Along (Fleet.step dep) (Fleet.Takes LeaseDead) (Fleet.initial created) ls ↔
      Along (Fleet.step dep) (Fleet.Takes BeatBeforeSelect) (Fleet.initial created) ls :=
  Trace.along_congr (I := ReapInv dep) _ (fun _ l hI _ => hI.step l) (fun _ l hI => hI.takes_iff l) ls _
    (ReapInv.initial dep created)

/-- Run 7 is created and claimed; a reaper pass selects it a second after its lease expired, and then its owner
heartbeats. -/
def heartbeatBetween : List Label :=
  [⟨0, .claimBatch "w" none [7]⟩, ⟨timedelta 301, .reapSelect 0 [7]⟩, ⟨1, .heartbeat 7 (some 0)⟩]

def onlyRun7 : Fleet := Fleet.initial (fun id => if id = 7 then some 0 else none)

theorem heartbeatBetween_takes :
    ((exec (Fleet.step .default) onlyRun7 heartbeatBetween).reaperTakes 0).map (fun p => p.2.expired
      ((exec (Fleet.step .default) onlyRun7 heartbeatBetween).clock + 1)) = some false := by decide

/-- **The reaper requeues a run whose lease its owner has just renewed.** -/
theorem reaper_takes_live_lease :
    ¬ ∀ (created : RunId → Option Time) (ls : List Label),
      Along (Fleet.step .default) (Fleet.Takes (fun _ now _ r => r.expired now = true)) (Fleet.initial created) ls := by
  intro hall
  obtain ⟨⟨m, r⟩, htake, hlive⟩ := Option.map_eq_some_iff.1 heartbeatBetween_takes
  have := (Trace.along_iff_split _ _ _ _).1 (hall (fun id => if id = 7 then some 0 else none)
    (heartbeatBetween ++ [⟨1, .reapNext 0⟩])) heartbeatBetween ⟨1, .reapNext 0⟩ [] rfl 0 m r rfl htake
  exact Bool.false_ne_true (hlive.symm.trans this)

end Worker
end DataOps

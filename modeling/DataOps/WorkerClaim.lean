import DataOps.WorkerLifecycle
/-!
# WorkerClaim — what `claim_batch` returns

The claim loop's own invariant, `ClaimInv`, and from it what a caller knows of a batch: each run once, pending before
and running under a token of its own after, and every other row as it was.
-/
namespace DataOps
namespace Worker

/-- The attempt a claimed run is on, read off its refreshed row. -/
def Db.attemptOf (db : Db) (id : RunId) : Nat := ((db.taskRuns id).map (·.attemptCount)).getD 0

/-- The lease token of a run, read off its refreshed row. -/
def Db.tokenOf (db : Db) (id : RunId) : Option LeaseToken := (db.taskRuns id).bind (·.leaseToken)

/-- **The claim loop's invariant**, `db₀` being the tables it started from: the rows claimed so far, and the rest. -/
structure ClaimInv (db₀ : Db) (acc : Db × List RunId) : Prop where
  nodup    : acc.2.Nodup
  next     : db₀.nextToken ≤ acc.1.nextToken
  claimed  : ∀ id ∈ acc.2, ∃ r t, acc.1.taskRuns id = some r ∧ r.status = .running ∧ r.leaseToken = some t ∧
               db₀.nextToken ≤ t ∧ t < acc.1.nextToken
  distinct : ∀ id ∈ acc.2, ∀ id' ∈ acc.2, acc.1.tokenOf id = acc.1.tokenOf id' → id = id'
  others   : ∀ id, id ∉ acc.2 → acc.1.taskRuns id = db₀.taskRuns id
  events   : ∃ new, acc.1.events = db₀.events ++ new ∧ ∀ e ∈ new, e.taskRunId ∈ acc.2
  pairs    : claimedPairs acc.1.events =
               claimedPairs db₀.events ++ acc.2.map (fun id => (id, acc.1.attemptOf id))

theorem ClaimInv.start (db₀ : Db) : ClaimInv db₀ (db₀, []) where
  nodup := List.nodup_nil
  next := Nat.le_refl _
  claimed _ h := by cases h
  distinct _ h := by cases h
  others _ _ := rfl
  events := ⟨[], by simp, by simp⟩
  pairs := by simp

/-- **One turn of the claim loop preserves it.** -/
theorem ClaimInv.turn {db₀ : Db} {acc : Db × List RunId} (h : ClaimInv db₀ acc) (dep : Deployment) (now : Time)
    (workerId : String) (id : RunId) : ClaimInv db₀ (claimOne dep now workerId acc id) := by
  rcases claimOne_cases dep now workerId acc id with hone | ⟨r, hr, hs, hone⟩
  · rw [hone]
    refine { h with next := Nat.le_succ_of_le h.next, claimed := fun j hj => ?_ }
    obtain ⟨r, t, hr, hs, ht, hlo, hhi⟩ := h.claimed j hj
    exact ⟨r, t, hr, hs, ht, hlo, Nat.lt_succ_of_lt hhi⟩
  · -- the run is pending, so no earlier turn claimed it
    have hnew : id ∉ acc.2 := fun hmem => by
      obtain ⟨r', t, hr', hs', -⟩ := h.claimed id hmem
      obtain rfl : r = r' := Option.some.inj (hr.symm.trans hr')
      rw [hs] at hs'; cases hs'
    have hrow : ∀ j, (claimOne dep now workerId acc id).1.taskRuns j =
        if j = id then some (r.claimedBy dep now id acc.1.nextToken) else acc.1.taskRuns j := by
      rw [hone]; intro j; rfl
    have hother : ∀ j ∈ acc.2, (claimOne dep now workerId acc id).1.taskRuns j = acc.1.taskRuns j := fun j hj => by
      rw [hrow, if_neg (ne_of_mem_of_not_mem hj hnew)]
    have htokOld : ∀ j ∈ acc.2, (claimOne dep now workerId acc id).1.tokenOf j = acc.1.tokenOf j := fun j hj => by
      unfold Db.tokenOf; rw [hother j hj]
    have htok : (claimOne dep now workerId acc id).1.tokenOf id = some acc.1.nextToken := by
      unfold Db.tokenOf; rw [hrow, if_pos rfl]; rfl
    have hne : ∀ j ∈ acc.2, acc.1.tokenOf j ≠ some acc.1.nextToken := fun j hj heq => by
      obtain ⟨r', t, hr', -, ht, -, hlt⟩ := h.claimed j hj
      have hto : acc.1.tokenOf j = some t := by unfold Db.tokenOf; rw [hr', ← ht]; rfl
      obtain rfl : t = acc.1.nextToken := Option.some.inj (hto.symm.trans heq)
      exact Nat.lt_irrefl _ hlt
    have hout : (claimOne dep now workerId acc id).2 = acc.2 ++ [id] := by rw [hone]
    have hnext : (claimOne dep now workerId acc id).1.nextToken = acc.1.nextToken + 1 := by rw [hone]; rfl
    have hev : (claimOne dep now workerId acc id).1.events = acc.1.events ++ [claimEvent dep now workerId id r] := by
      rw [hone]; rfl
    generalize claimOne dep now workerId acc id = acc' at hrow hother htokOld htok hout hnext hev
    have hmem : ∀ j, j ∈ acc'.2 ↔ j ∈ acc.2 ∨ j = id := fun j => by rw [hout, List.mem_append, List.mem_singleton]
    refine
      { nodup := ?_
        next := by rw [hnext]; exact Nat.le_succ_of_le h.next
        claimed := fun j hj => ?_
        distinct := fun j hj j' hj' heq => ?_
        others := fun j hj => ?_
        events := ?_
        pairs := ?_ }
    · rw [hout]
      exact h.nodup.append (List.nodup_singleton id) (List.disjoint_singleton.2 hnew)
    · rcases (hmem j).1 hj with hj | rfl
      · obtain ⟨r', t, hr', hs', ht, hlo, hhi⟩ := h.claimed j hj
        exact ⟨r', t, (hother j hj).trans hr', hs', ht, hlo, by rw [hnext]; exact Nat.lt_succ_of_lt hhi⟩
      · exact ⟨_, _, by rw [hrow, if_pos rfl], rfl, rfl, h.next, by rw [hnext]; exact Nat.lt_succ_self _⟩
    · rcases (hmem j).1 hj with hj | rfl <;> rcases (hmem j').1 hj' with hj' | rfl
      · exact h.distinct j hj j' hj' (by rw [← htokOld j hj, ← htokOld j' hj', heq])
      · exact absurd ((htokOld j hj).symm.trans (heq.trans htok)) (hne j hj)
      · exact absurd ((htokOld j' hj').symm.trans (heq.symm.trans htok)) (hne j' hj')
      · rfl
    · rw [hmem] at hj
      rw [hrow, if_neg (fun he => hj (.inr he)), h.others j (fun hm => hj (.inl hm))]
    · obtain ⟨new, hn, hids⟩ := h.events
      refine ⟨new ++ [claimEvent dep now workerId id r], by rw [hev, hn, List.append_assoc], fun e he => ?_⟩
      rw [hmem]
      rcases List.mem_append.1 he with he | he
      · exact .inl (hids e he)
      · rw [List.mem_singleton] at he
        subst he
        exact .inr rfl
    · have hc : (claimEvent dep now workerId id r).eventType = .claimed := rfl
      have hatt : acc.2.map (fun j => (j, acc'.1.attemptOf j)) = acc.2.map (fun j => (j, acc.1.attemptOf j)) :=
        List.map_congr_left (fun j hj => by unfold Db.attemptOf; rw [hother j hj])
      have hid : acc'.1.attemptOf id = r.attemptCount + 1 := by unfold Db.attemptOf; rw [hrow, if_pos rfl]; rfl
      rw [hout, List.map_append, hatt, List.map_singleton, hid, hev, ← List.append_assoc, ← h.pairs]
      unfold claimedPairs
      rw [claimedEvents_concat, if_pos hc, List.map_append]; rfl

theorem ClaimInv.fold {db₀ : Db} (dep : Deployment) (now : Time) (workerId : String) :
    ∀ (ids : List RunId) (acc : Db × List RunId), ClaimInv db₀ acc →
      ClaimInv db₀ (ids.foldl (claimOne dep now workerId) acc)
  | [], _, h => h
  | id :: ids, _, h => ClaimInv.fold dep now workerId ids _ (h.turn dep now workerId id)

/-- **What `claim_batch` did.** -/
theorem claimBatch_inv (dep : Deployment) (db : Db) (workerId : String) (batchSize : Option Nat) (scan : List RunId)
    (now : Time) : ClaimInv db (claimBatch dep db workerId batchSize scan now) :=
  ClaimInv.fold dep now workerId _ _ (ClaimInv.start db)

/-! ## Leases already held -/

/-- No lease held before is written to: a row now running under a token already drawn is the row it was. -/
def Db.KeepsLeases (db db' : Db) : Prop :=
  db.nextToken ≤ db'.nextToken ∧
  ∀ id r, db'.taskRuns id = some r → r.status = .running → (∀ t ∈ r.leaseToken, t < db.nextToken) →
    db.taskRuns id = some r

theorem Db.KeepsLeases.refl (db : Db) : db.KeepsLeases db := ⟨Nat.le_refl _, fun _ _ hr _ _ => hr⟩

theorem ClaimInv.keepsLeases {db : Db} {acc : Db × List RunId} (h : ClaimInv db acc) : db.KeepsLeases acc.1 := by
  refine ⟨h.next, fun id r hr hs hlt => ?_⟩
  by_cases hid : id ∈ acc.2
  · obtain ⟨r', t, hr', -, ht, hlo, -⟩ := h.claimed id hid
    obtain rfl : r = r' := Option.some.inj (hr.symm.trans hr')
    exact absurd (hlt t ht) (Nat.not_lt.2 hlo)
  · rw [← h.others id hid]; exact hr

/-- A completion ends the lease it was made under and writes to no other. -/
theorem recordEvent_keepsLeases {db : Db} {id : RunId} {r : TaskRun} (hs : r.status ≠ .running) (e : TaskRunEvent) :
    db.KeepsLeases ((db.setRun id r).recordEvent e) := by
  refine ⟨Nat.le_refl _, fun j r' hr' hrun ht => ?_⟩
  by_cases hj : j = id
  · subst hj
    obtain rfl : r = r' := by simpa using hr'
    exact absurd hrun hs
  · simpa [hj] using hr'

theorem afterFailure_status (dep : Deployment) (now : Time) (id : RunId) (f : Failure) (r : TaskRun) :
    (r.afterFailure dep now id f).status ≠ .running := by
  unfold TaskRun.afterFailure
  split <;> simp [TaskRun.requeued, TaskRun.failedFinally]

end Worker
end DataOps

import DataOps.DownloadArtifacts
/-!
# DownloadAudit — one finished row for every attempt

An attempt whose file cannot be rewound after its hash matched, or whose client is gone before the body is pulled once,
leaves its row at `started`: the exception is not one that the endpoint catches, and closing a generator that was not
begun runs none of it.  Every other ending finishes the row (`downloads_accounted_iff`).
-/
namespace DataOps
namespace Download

open Trace (exec Along)
open Retention (Path Settings resolveArtifactPath tenantRoot)

variable {sha256 : Bytes → String} {resolve : Path → Option Path} {settings : Settings} {attempts : EventId → Attempt}
  {w : World} {id id' : EventId}

/-! ## The rows of an attempt -/

@[simp] theorem rows_setPhase (phase : Phase) : (w.setPhase id phase).rows id' = w.rows id' := rfl

@[simp] theorem rows_yield (chunk : Bytes) : (w.yield id chunk).rows id' = w.rows id' := rfl

theorem rows_insert (event : ArtifactDownloadEvent) :
    (w.insert event).rows id' = if event.id = id' then w.rows id' ++ [event] else w.rows id' := by
  unfold World.insert World.rows
  rw [List.filter_append]
  by_cases h : event.id = id'
  · rw [if_pos h]
    simp [h]
  · rw [if_neg h]
    simp [h]

theorem rows_finalize (f : Finalization) :
    (w.finalize id f).rows id' =
      if id' = id then (w.rows id').map (fun e => e.finalize f w.now) else w.rows id' := by
  have hid : ∀ e : ArtifactDownloadEvent, (if e.id = id then e.finalize f w.now else e).id = e.id := by
    intro e
    split <;> rfl
  unfold World.finalize World.rows finalizeDownloadEvent
  rw [List.filter_map]
  simp only [Function.comp_def, hid]
  split
  · rename_i h
    refine List.map_congr_left (fun e he => if_pos ?_)
    rw [← h]
    exact of_decide_eq_true (List.mem_filter.1 he).2
  · rename_i h
    refine (List.map_congr_left (fun e he => if_neg ?_)).trans (List.map_id _)
    rw [of_decide_eq_true (List.mem_filter.1 he).2]
    exact h

/-! ## Steps of other attempts -/

/-- What a step can change of an attempt. -/
structure SameFor (w w' : World) (id : EventId) : Prop where
  phase     : w'.phase id = w.phase id
  rows      : w'.rows id = w.rows id
  yielded   : w'.yielded id = w.yielded id
  finalized : w'.finalized id = w.finalized id

theorem SameFor.refl (w : World) (id : EventId) : SameFor w w id := ⟨rfl, rfl, rfl, rfl⟩

theorem SameFor.trans {w₁ w₂ w₃ : World} (h : SameFor w₁ w₂ id) (h' : SameFor w₂ w₃ id) : SameFor w₁ w₃ id :=
  ⟨h'.phase.trans h.phase, h'.rows.trans h.rows, h'.yielded.trans h.yielded, h'.finalized.trans h.finalized⟩

theorem sameFor_setPhase (h : id' ≠ id) (phase : Phase) : SameFor w (w.setPhase id phase) id' :=
  ⟨Function.update_of_ne h _ _, rfl, rfl, rfl⟩

theorem sameFor_insert {event : ArtifactDownloadEvent} (h : event.id ≠ id') : SameFor w (w.insert event) id' :=
  ⟨rfl, by rw [rows_insert, if_neg h], rfl, rfl⟩

theorem sameFor_finalize (h : id' ≠ id) (f : Finalization) : SameFor w (w.finalize id f) id' :=
  ⟨rfl, by rw [rows_finalize, if_neg h], rfl, Function.update_of_ne h _ _⟩

theorem sameFor_yield (h : id' ≠ id) (chunk : Bytes) : SameFor w (w.yield id chunk) id' :=
  ⟨rfl, rfl, Function.update_of_ne h _ _, rfl⟩

theorem sameFor_finish (h : id' ≠ id) (completed : Bool) (bytesSent : Nat) :
    SameFor w (w.finish attempts id completed bytesSent) id' :=
  (sameFor_finalize h _).trans (sameFor_setPhase h _)

/-- **A step changes nothing of another attempt.** -/
theorem step_sameFor (w : World) (l : EventId × Action) (h : id' ≠ l.1) :
    SameFor w (step sha256 resolve settings attempts w l) id' := by
  obtain ⟨id, action⟩ := l
  unfold step
  dsimp only at h ⊢
  split
  · unfold World.request
    dsimp only
    split
    · exact sameFor_setPhase h _
    · split
      · exact (sameFor_insert (Ne.symm h)).trans (sameFor_setPhase h _)
      · split
        · exact sameFor_setPhase h _
        · exact sameFor_setPhase h _
        · exact (sameFor_insert (Ne.symm h)).trans (sameFor_setPhase h _)
  · unfold World.verify
    dsimp only
    split
    · exact (sameFor_finalize h _).trans (sameFor_setPhase h _)
    · exact (sameFor_finalize h _).trans (sameFor_setPhase h _)
    · exact sameFor_setPhase h _
    · split
      · exact (sameFor_finalize h _).trans (sameFor_setPhase h _)
      · exact sameFor_setPhase h _
  · unfold World.pull
    split
    · exact (sameFor_yield h _).trans (sameFor_setPhase h _)
    · exact sameFor_finish h _ _
    · exact sameFor_finish h _ _
  · unfold World.drop
    split
    · exact sameFor_setPhase h _
    · exact sameFor_finish h _ _
  · exact ⟨rfl, rfl, rfl, rfl⟩
  · exact SameFor.refl _ _

/-! ## Opening and verifying -/

theorem openVerifiedArtifact_eq_ok {opened : Except OpenError FileObj} {expectedSha256 : String} {fileobj : FileObj}
    (h : openVerifiedArtifact sha256 opened expectedSha256 = .ok fileobj) :
    opened = .ok fileobj ∧ ∃ content, readAll fileobj.verifying = some content ∧ sha256 content = expectedSha256 := by
  unfold openVerifiedArtifact at h
  split at h
  · cases h
  · cases h
  · cases h
  · split at h
    · cases h
    · rename_i content hcontent
      split at h
      · cases h
      · rename_i hhash
        split at h
        · cases h
          exact ⟨rfl, content, hcontent, not_not.1 hhash⟩
        · cases h

/-- **What is not caught is the rewind of a file whose hash matched.** -/
theorem openVerifiedArtifact_eq_osError {opened : Except OpenError FileObj} {expectedSha256 : String} :
    openVerifiedArtifact sha256 opened expectedSha256 = .error .osError ↔
      ∃ fileobj, opened = .ok fileobj ∧
        (∃ content, readAll fileobj.verifying = some content ∧ sha256 content = expectedSha256) ∧
        fileobj.seeks = false := by
  unfold openVerifiedArtifact
  split
  · simp
  · simp
  · simp
  · rename_i fileobj
    split
    · rename_i hread
      simp [hread]
    · rename_i content hread
      by_cases hhash : sha256 content = expectedSha256
      · rw [if_neg (not_not.2 hhash)]
        cases hseeks : fileobj.seeks <;> simp [hread, hhash, hseeks]
      · rw [if_pos hhash]
        simp [hread, hhash]

/-! ## One step -/

/-- What holds of an attempt in each of its phases. -/
def Fits (sha256 : Bytes → String) (resolve : Path → Option Path) (settings : Settings) (a : Attempt)
    (rows : List ArtifactDownloadEvent) (yielded : Bytes) (finalized : Nat) : Phase → Prop
  | .requested       => rows = [] ∧ yielded = [] ∧ finalized = 0
  | .started _       => Authorized resolve settings a ∧ (∃ e, rows = [e] ∧ e.outcome = .started ∧ e.bytesServed = 0) ∧
    yielded = [] ∧ finalized = 0
  | .streaming _ gen => Authorized resolve settings a ∧ (∃ e, rows = [e] ∧ e.outcome = .started ∧ e.bytesServed = 0) ∧
    gen.bytesSent = yielded.length ∧ finalized = 0 ∧ ∃ fileobj path, HashMatches sha256 a fileobj path
  | .ended _         => (Authorized resolve settings a → Accounted rows yielded finalized) ∧
    (yielded ≠ [] → ∃ fileobj path, HashMatches sha256 a fileobj path)

def FitsAt (sha256 : Bytes → String) (resolve : Path → Option Path) (settings : Settings)
    (attempts : EventId → Attempt) (w : World) (id : EventId) : Prop :=
  Fits sha256 resolve settings (attempts id) (w.rows id) (w.yielded id) (w.finalized id) (w.phase id)

/-- Every attempt is where its row says it is. -/
def Inv (sha256 : Bytes → String) (resolve : Path → Option Path) (settings : Settings) (attempts : EventId → Attempt)
    (w : World) : Prop :=
  ∀ id, FitsAt sha256 resolve settings attempts w id

theorem inv_initial (now : Nat) : Inv sha256 resolve settings attempts (World.initial now) := fun _ => ⟨rfl, rfl, rfl⟩

theorem fitsAt_setPhase {phase : Phase} :
    FitsAt sha256 resolve settings attempts (w.setPhase id phase) id ↔
      Fits sha256 resolve settings (attempts id) (w.rows id) (w.yielded id) (w.finalized id) phase := by
  unfold FitsAt World.setPhase
  dsimp only
  rw [Function.update_self]
  exact Iff.rfl

/-- A row that is finalized once is accounted for. -/
theorem accounted_finalize {f : Finalization} {e : ArtifactDownloadEvent} (hrows : w.rows id = [e])
    (hfinalized : w.finalized id = 0) (houtcome : f.outcome ≠ .started)
    (hbytes : f.bytesServed.getD e.bytesServed = (w.yielded id).length) :
    Accounted ((w.finalize id f).rows id) ((w.finalize id f).yielded id) ((w.finalize id f).finalized id) := by
  refine ⟨⟨e.finalize f w.now, ?_, houtcome, hbytes⟩, ?_⟩
  · rw [rows_finalize, if_pos rfl, hrows]
    rfl
  · change Function.update w.finalized id (w.finalized id + 1) id = 1
    rw [Function.update_self, hfinalized]

theorem request_fits (hrows : w.rows id = []) (hyielded : w.yielded id = []) (hfinalized : w.finalized id = 0) :
    FitsAt sha256 resolve settings attempts (w.request resolve settings attempts id) id := by
  have hinsert : ∀ outcome completedAt, (w.insert ((attempts id).event id outcome completedAt)).rows id =
      [(attempts id).event id outcome completedAt] := by
    intro outcome completedAt
    rw [rows_insert, if_pos (show ((attempts id).event id outcome completedAt).id = id from rfl), hrows, List.nil_append]
  unfold World.request
  dsimp only
  by_cases hstatus : (attempts id).run.status ≠ .approved ∧ (attempts id).run.status ≠ .rolledBack
  · rw [if_pos hstatus, fitsAt_setPhase]
    refine ⟨fun hauthorized => ?_, fun hne => absurd hyielded hne⟩
    rcases hauthorized.1 with h | h
    · exact absurd h hstatus.1
    · exact absurd h hstatus.2
  · rw [if_neg hstatus]
    by_cases hdeleted : (attempts id).run.outputDeletedAt.isSome
    · rw [if_pos hdeleted, fitsAt_setPhase]
      refine ⟨fun hauthorized => ?_, fun hne => absurd hyielded hne⟩
      rw [hauthorized.2.1] at hdeleted
      cases hdeleted
    · rw [if_neg hdeleted]
      cases hresolved : resolveArtifactPath resolve
          (tenantRoot settings (attempts id).artifactType (attempts id).organizationId)
          (attempts id).run.outputFilePath with
      | error exc =>
        have hunauthorized : ¬ Authorized resolve settings (attempts id) := by
          rintro ⟨-, -, path, hpath⟩
          rw [hresolved] at hpath
          cases hpath
        cases exc with
        | artifactPathError =>
          exact fitsAt_setPhase.2 ⟨fun h => absurd h hunauthorized, fun hne => absurd hyielded hne⟩
        | other => exact fitsAt_setPhase.2 ⟨fun h => absurd h hunauthorized, fun hne => absurd hyielded hne⟩
      | ok path =>
        have hauthorized : Authorized resolve settings (attempts id) := by
          refine ⟨?_, by simpa using hdeleted, path, hresolved⟩
          by_contra hneither
          exact hstatus (not_or.1 hneither)
        exact fitsAt_setPhase.2 ⟨hauthorized, ⟨_, hinsert _ _, rfl, rfl⟩, hyielded, hfinalized⟩

theorem verify_fits {path : Path} {e : ArtifactDownloadEvent} (hauthorized : Authorized resolve settings (attempts id))
    (hrows : w.rows id = [e]) (houtcome : e.outcome = .started) (hbytes : e.bytesServed = 0)
    (hyielded : w.yielded id = []) (hfinalized : w.finalized id = 0)
    (hrewind : ∀ fileobj, HashMatches sha256 (attempts id) fileobj path → fileobj.seeks = true) :
    FitsAt sha256 resolve settings attempts (w.verify sha256 attempts id path) id := by
  have hlength : (w.yielded id).length = 0 := by rw [hyielded]; rfl
  unfold World.verify
  dsimp only
  cases hopened : openVerifiedArtifact sha256 ((attempts id).openFile path) (attempts id).run.outputSha256 with
  | error exc =>
    cases exc with
    | artifactMissing code =>
      refine fitsAt_setPhase.2 ⟨fun _ => accounted_finalize hrows hfinalized (fun h => by cases h) ?_,
        fun hne => absurd hyielded hne⟩
      rw [hlength]
      exact hbytes
    | artifactIntegrity =>
      refine fitsAt_setPhase.2 ⟨fun _ => accounted_finalize hrows hfinalized (fun h => by cases h) ?_,
        fun hne => absurd hyielded hne⟩
      rw [hlength]
      exact hbytes
    | osError =>
      obtain ⟨fileobj, hopen, hhash, hseeks⟩ := openVerifiedArtifact_eq_osError.1 hopened
      exact absurd (hseeks.symm.trans (hrewind fileobj ⟨hopen, hhash⟩)) Bool.false_ne_true
  | ok fileobj =>
    have hhash : HashMatches sha256 (attempts id) fileobj path := openVerifiedArtifact_eq_ok hopened
    dsimp only
    cases fileobj.fstat with
    | none =>
      exact fitsAt_setPhase.2 ⟨fun _ => accounted_finalize hrows hfinalized (fun h => by cases h) hlength.symm,
        fun hne => absurd hyielded hne⟩
    | some verifiedSize =>
      exact fitsAt_setPhase.2 ⟨hauthorized, ⟨e, hrows, houtcome, hbytes⟩, hlength.symm, hfinalized, fileobj, path, hhash⟩

theorem finish_fits {e : ArtifactDownloadEvent} (completed : Bool) {bytesSent : Nat} (hrows : w.rows id = [e])
    (hfinalized : w.finalized id = 0) (hhash : ∃ fileobj path, HashMatches sha256 (attempts id) fileobj path)
    (hsent : bytesSent = (w.yielded id).length) :
    FitsAt sha256 resolve settings attempts (w.finish attempts id completed bytesSent) id := by
  refine fitsAt_setPhase.2 ⟨fun _ => accounted_finalize hrows hfinalized ?_ hsent, fun _ => hhash⟩
  cases completed
  · exact fun h => by cases h
  · exact fun h => by cases h

theorem pull_fits {response : StreamingResponse} {gen : Generator} {e : ArtifactDownloadEvent}
    (hauthorized : Authorized resolve settings (attempts id)) (hrows : w.rows id = [e]) (houtcome : e.outcome = .started)
    (hbytes : e.bytesServed = 0) (hsent : gen.bytesSent = (w.yielded id).length) (hfinalized : w.finalized id = 0)
    (hhash : ∃ fileobj path, HashMatches sha256 (attempts id) fileobj path) :
    FitsAt sha256 resolve settings attempts (w.pull attempts id response gen) id := by
  unfold World.pull
  cases hnext : gen.next with
  | yields chunk gen' =>
    have hsent' : gen'.bytesSent = gen.bytesSent + chunk.length := by
      unfold Generator.next at hnext
      split at hnext
      · cases hnext
      · cases hnext
        rfl
      · cases hnext
    refine fitsAt_setPhase.2 ⟨hauthorized, ⟨e, hrows, houtcome, hbytes⟩, ?_, hfinalized, hhash⟩
    change _ = (Function.update w.yielded id (w.yielded id ++ chunk) id).length
    rw [Function.update_self, List.length_append, hsent', hsent]
  | returns bytesSent =>
    refine finish_fits true hrows hfinalized hhash (Eq.trans ?_ hsent)
    unfold Generator.next at hnext
    split at hnext <;> cases hnext
    rfl
  | raises bytesSent =>
    refine finish_fits false hrows hfinalized hhash (Eq.trans ?_ hsent)
    unfold Generator.next at hnext
    split at hnext <;> cases hnext
    rfl

/-- **A step that keeps track of its attempt keeps the invariant.** -/
theorem step_inv (w : World) (l : EventId × Action) (hinv : Inv sha256 resolve settings attempts w)
    (hkeeps : KeepsTrack sha256 attempts w l) :
    Inv sha256 resolve settings attempts (step sha256 resolve settings attempts w l) := by
  intro id'
  by_cases hother : id' = l.1
  · subst hother
    have hfits : Fits _ _ _ _ _ _ _ (w.phase l.1) := hinv l.1
    obtain ⟨id, action⟩ := l
    obtain ⟨hrewind, hpulled⟩ := hkeeps
    unfold step
    dsimp only at hfits hrewind hpulled ⊢
    split
    · rename_i hrequested
      rw [hrequested] at hfits
      obtain ⟨hrows, hyielded, hfinalized⟩ := hfits
      exact request_fits hrows hyielded hfinalized
    · rename_i path hstarted
      rw [hstarted] at hfits
      obtain ⟨hauthorized, ⟨e, hrows, houtcome, hbytes⟩, hyielded, hfinalized⟩ := hfits
      exact verify_fits hauthorized hrows houtcome hbytes hyielded hfinalized
        (fun fileobj hhash => hrewind path fileobj rfl hstarted hhash)
    · rename_i response gen hstreaming
      rw [hstreaming] at hfits
      obtain ⟨hauthorized, ⟨e, hrows, houtcome, hbytes⟩, hsent, hfinalized, hhash⟩ := hfits
      exact pull_fits hauthorized hrows houtcome hbytes hsent hfinalized hhash
    · rename_i response gen hstreaming
      rw [hstreaming] at hfits
      obtain ⟨-, ⟨e, hrows, -, -⟩, hsent, hfinalized, hhash⟩ := hfits
      unfold World.drop
      cases gen with
      | created reads => exact absurd hstreaming (hpulled response reads rfl)
      | suspended bytesSent reads => exact finish_fits false hrows hfinalized hhash hsent
    · exact hinv id
    · exact hinv id
  · have hsame : SameFor w (step sha256 resolve settings attempts w l) id' := step_sameFor w l hother
    unfold FitsAt
    rw [hsame.rows, hsame.yielded, hsame.finalized, hsame.phase]
    exact hinv id'

theorem allAccounted_of_inv (hinv : Inv sha256 resolve settings attempts w) :
    AllAccounted sha256 resolve settings attempts w := by
  constructor
  · intro id ending hover
    have hfits : Fits _ _ _ _ _ _ _ (w.phase id) := hinv id
    rw [hover] at hfits
    exact hfits.1
  · intro id hne
    have hfits : Fits _ _ _ _ _ _ _ (w.phase id) := hinv id
    cases hphase : w.phase id with
    | requested =>
      rw [hphase] at hfits
      exact absurd hfits.2.1 hne
    | started path =>
      rw [hphase] at hfits
      exact absurd hfits.2.2.1 hne
    | streaming response gen =>
      rw [hphase] at hfits
      exact hfits.2.2.2.2
    | ended ending =>
      rw [hphase] at hfits
      exact hfits.2 hne

/-- **A step that loses track leaves a row at `started`.** -/
theorem keepsTrack_of_allAccounted (w : World) (l : EventId × Action) (hinv : Inv sha256 resolve settings attempts w)
    (hall : AllAccounted sha256 resolve settings attempts (step sha256 resolve settings attempts w l)) :
    KeepsTrack sha256 attempts w l := by
  obtain ⟨id, action⟩ := l
  have hfits : Fits _ _ _ _ _ _ _ (w.phase id) := hinv id
  -- an attempt that is over with the row it was created with is not accounted for
  have hstuck : ∀ ending e, Authorized resolve settings (attempts id) → w.rows id = [e] → e.outcome = .started →
      step sha256 resolve settings attempts w (id, action) = w.setPhase id (.ended ending) → False := by
    intro ending e hauthorized hrows houtcome hstep
    rw [hstep] at hall
    obtain ⟨⟨e', hrows', houtcome', -⟩, -⟩ := hall.ended id ending (Function.update_self _ _ _) hauthorized
    obtain rfl : e = e' := List.singleton_inj.1 (hrows.symm.trans hrows')
    exact houtcome' houtcome
  constructor
  · intro path fileobj haction hstarted hhash
    dsimp only at haction hstarted hhash
    subst haction
    rw [hstarted] at hfits
    obtain ⟨hauthorized, ⟨e, hrows, houtcome, -⟩, -, -⟩ := hfits
    by_contra hseeks
    refine hstuck .unhandled e hauthorized hrows houtcome ?_
    unfold step
    simp only [hstarted]
    unfold World.verify
    simp only [openVerifiedArtifact_eq_osError.2 ⟨fileobj, hhash.1, hhash.2, Bool.not_eq_true _ ▸ hseeks⟩]
  · intro response reads haction hstreaming
    dsimp only at haction hstreaming
    subst haction
    rw [hstreaming] at hfits
    obtain ⟨hauthorized, ⟨e, hrows, houtcome, -⟩, -⟩ := hfits
    refine hstuck .broken e hauthorized hrows houtcome ?_
    unfold step
    simp only [hstreaming]
    rfl

/-- **Nothing changes of an attempt that is over.** -/
theorem step_over {ending : Ending} (w : World) (l : EventId × Action) (hover : w.phase id = .ended ending) :
    SameFor w (step sha256 resolve settings attempts w l) id := by
  by_cases hother : id = l.1
  · subst hother
    unfold step
    rw [hover]
    split
    · rename_i h
      cases h
    · rename_i h
      cases h
    · rename_i h
      cases h
    · rename_i h
      cases h
    · exact ⟨rfl, rfl, rfl, rfl⟩
    · exact SameFor.refl _ _
  · exact step_sameFor w l hother

/-- A finalization a row can take. -/
def Finalization.Consistent (f : Finalization) : Prop :=
  f.outcome ≠ .started ∧ f.failureReasonCode.isSome = f.outcome.isFailure

theorem checked_finalize {f : Finalization} (hf : f.Consistent) (h : ∀ e ∈ w.events, e.Checked) :
    ∀ e ∈ (w.finalize id f).events, e.Checked := by
  intro e he
  obtain ⟨e', he', rfl⟩ := List.mem_map.1 he
  split
  · exact ⟨(h e' he').status, hf.2, ⟨fun hnone => (by cases hnone), fun hstarted => absurd hstarted hf.1⟩⟩
  · exact h e' he'

theorem checked_insert {event : ArtifactDownloadEvent} (hevent : event.Checked) (h : ∀ e ∈ w.events, e.Checked) :
    ∀ e ∈ (w.insert event).events, e.Checked := by
  intro e he
  rcases List.mem_append.1 he with he | he
  · exact h e he
  · rw [List.mem_singleton.1 he]
    exact hevent

/-- **Every row written satisfies the constraints of the table.** -/
theorem step_checked (w : World) (l : EventId × Action) (h : ∀ e ∈ w.events, e.Checked) :
    ∀ e ∈ (step sha256 resolve settings attempts w l).events, e.Checked := by
  have hfinish : ∀ completed bytesSent, ∀ e ∈ (w.finish attempts l.1 completed bytesSent).events, e.Checked := by
    intro completed bytesSent
    cases completed
    · exact checked_finalize ⟨fun h => (by cases h), rfl⟩ h
    · exact checked_finalize ⟨fun h => (by cases h), rfl⟩ h
  unfold step
  split
  · unfold World.request
    dsimp only
    by_cases hstatus : (attempts l.1).run.status ≠ .approved ∧ (attempts l.1).run.status ≠ .rolledBack
    · rw [if_pos hstatus]
      exact h
    · have hdownloadable : (attempts l.1).run.status = .approved ∨ (attempts l.1).run.status = .rolledBack := by
        by_contra hneither
        exact hstatus (not_or.1 hneither)
      rw [if_neg hstatus]
      split
      · exact checked_insert ⟨hdownloadable, rfl, ⟨fun hnone => (by cases hnone), fun hpurged => (by cases hpurged)⟩⟩ h
      · split
        · exact h
        · exact h
        · exact checked_insert ⟨hdownloadable, rfl, ⟨fun _ => rfl, fun _ => rfl⟩⟩ h
  · unfold World.verify
    dsimp only
    split
    · exact checked_finalize ⟨fun h => (by cases h), rfl⟩ h
    · exact checked_finalize ⟨fun h => (by cases h), rfl⟩ h
    · exact h
    · split
      · exact checked_finalize ⟨fun h => (by cases h), rfl⟩ h
      · exact h
  · unfold World.pull
    split
    · exact h
    · exact hfinish _ _
    · exact hfinish _ _
  · unfold World.drop
    split
    · exact h
    · exact hfinish _ _
  · exact h
  · exact h

theorem exec_checked (sha256 : Bytes → String) (resolve : Path → Option Path) (settings : Settings)
    (attempts : EventId → Attempt) (now : Nat) (ls : List (EventId × Action)) :
    ∀ e ∈ (exec (step sha256 resolve settings attempts) (World.initial now) ls).events, e.Checked :=
  Trace.exec_invariant _ (I := fun w : World => ∀ e ∈ w.events, e.Checked) step_checked ls _
    (fun _ he => absurd he List.not_mem_nil)

/-! ## Every attempt ends -/

theorem streaming_ends (reads : List Read) : ∀ {w : World} {response : StreamingResponse} {gen : Generator},
    gen.reads = reads → w.phase id = .streaming response gen →
      ∃ ls ending, (exec (step sha256 resolve settings attempts) w ls).phase id = .ended ending := by
  induction reads with
  | nil =>
    intro w response gen hreads hphase
    refine ⟨[(id, .pull)], .sent, ?_⟩
    have hstep : step sha256 resolve settings attempts w (id, .pull) = w.finish attempts id true gen.bytesSent := by
      unfold step
      simp only [hphase]
      unfold World.pull Generator.next
      rw [hreads]
    rw [Trace.exec_cons, Trace.exec_nil, hstep]
    exact Function.update_self _ _ _
  | cons read reads ih =>
    intro w response gen hreads hphase
    cases read with
    | osError =>
      refine ⟨[(id, .pull)], .broken, ?_⟩
      have hstep : step sha256 resolve settings attempts w (id, .pull) = w.finish attempts id false gen.bytesSent := by
        unfold step
        simp only [hphase]
        unfold World.pull Generator.next
        rw [hreads]
      rw [Trace.exec_cons, Trace.exec_nil, hstep]
      exact Function.update_self _ _ _
    | chunk c =>
      have hstep : step sha256 resolve settings attempts w (id, .pull) = (w.yield id c.bytes).setPhase id
          (.streaming response (.suspended (gen.bytesSent + c.bytes.length) reads)) := by
        unfold step
        simp only [hphase]
        unfold World.pull Generator.next
        rw [hreads]
      have hphase' : (step sha256 resolve settings attempts w (id, .pull)).phase id =
          .streaming response (.suspended (gen.bytesSent + c.bytes.length) reads) := by
        rw [hstep]
        exact Function.update_self _ _ _
      obtain ⟨ls, ending, hend⟩ := ih rfl hphase'
      exact ⟨(id, .pull) :: ls, ending, hend⟩

theorem started_ends {path : Path} (hphase : w.phase id = .started path) :
    ∃ ls ending, (exec (step sha256 resolve settings attempts) w ls).phase id = .ended ending := by
  have hstep : step sha256 resolve settings attempts w (id, .verify) = w.verify sha256 attempts id path := by
    unfold step
    simp only [hphase]
  have hnext : (∃ ending, (w.verify sha256 attempts id path).phase id = .ended ending) ∨
      ∃ response gen, (w.verify sha256 attempts id path).phase id = .streaming response gen := by
    unfold World.verify
    dsimp only
    split
    · exact .inl ⟨_, Function.update_self _ _ _⟩
    · exact .inl ⟨_, Function.update_self _ _ _⟩
    · exact .inl ⟨_, Function.update_self _ _ _⟩
    · split
      · exact .inl ⟨_, Function.update_self _ _ _⟩
      · exact .inr ⟨_, _, Function.update_self _ _ _⟩
  rw [← hstep] at hnext
  rcases hnext with ⟨ending, hover⟩ | ⟨response, gen, hstreaming⟩
  · exact ⟨[(id, .verify)], ending, hover⟩
  · obtain ⟨ls, ending, hend⟩ := streaming_ends gen.reads rfl hstreaming
    exact ⟨(id, .verify) :: ls, ending, hend⟩

/-- **Every attempt can be brought to its end.** -/
theorem attempt_ends (sha256 : Bytes → String) (resolve : Path → Option Path) (settings : Settings)
    (attempts : EventId → Attempt) (w : World) (id : EventId) :
    ∃ ls ending, (exec (step sha256 resolve settings attempts) w ls).phase id = .ended ending := by
  cases hphase : w.phase id with
  | requested =>
    have hstep : step sha256 resolve settings attempts w (id, .request) = w.request resolve settings attempts id := by
      unfold step
      simp only [hphase]
    have hnext : (∃ ending, (w.request resolve settings attempts id).phase id = .ended ending) ∨
        ∃ path, (w.request resolve settings attempts id).phase id = .started path := by
      unfold World.request
      dsimp only
      split
      · exact .inl ⟨_, Function.update_self _ _ _⟩
      · split
        · exact .inl ⟨_, Function.update_self _ _ _⟩
        · split
          · exact .inl ⟨_, Function.update_self _ _ _⟩
          · exact .inl ⟨_, Function.update_self _ _ _⟩
          · exact .inr ⟨_, Function.update_self _ _ _⟩
    rw [← hstep] at hnext
    rcases hnext with ⟨ending, hover⟩ | ⟨path, hstarted⟩
    · exact ⟨[(id, .request)], ending, hover⟩
    · obtain ⟨ls, ending, hend⟩ := started_ends hstarted
      exact ⟨(id, .request) :: ls, ending, hend⟩
  | started path => exact started_ends hphase
  | streaming response gen => exact streaming_ends gen.reads rfl hphase
  | ended ending => exact ⟨[], ending, hphase⟩

/-- **Along every run every attempt that is over is accounted for exactly when no rewind of a verified file fails and no
client is gone before its body is pulled**; and every attempt can be brought to its end. -/
theorem downloads_accounted_iff (sha256 : Bytes → String) (resolve : Path → Option Path) (settings : Settings)
    (attempts : EventId → Attempt) (now : Nat) (ls : List (EventId × Action)) :
    (∀ id, ∃ ls' ending,
      (exec (step sha256 resolve settings attempts) (World.initial now) (ls ++ ls')).phase id = .ended ending) ∧
    (Along (step sha256 resolve settings attempts)
        (fun w l => AllAccounted sha256 resolve settings attempts (step sha256 resolve settings attempts w l))
        (World.initial now) ls ↔
      Along (step sha256 resolve settings attempts) (KeepsTrack sha256 attempts) (World.initial now) ls) := by
  refine ⟨fun id => ?_, Trace.along_congr _ step_inv (fun w l hinv => ?_) ls _ (inv_initial now)⟩
  · obtain ⟨ls', ending, hend⟩ := attempt_ends sha256 resolve settings attempts
      (exec (step sha256 resolve settings attempts) (World.initial now) ls) id
    exact ⟨ls', ending, by rw [Trace.exec_append]; exact hend⟩
  · exact ⟨keepsTrack_of_allAccounted w l hinv, fun hkeeps => allAccounted_of_inv (step_inv w l hinv hkeeps)⟩

/-! ## Two rows left at `started` -/

/-- The text `a`, `1` of one column, as a stage writes it. -/
def onesFile : Bytes := [97, 13, 10, 49, 13, 10]

/-- The digest of that file; no other is asked for. -/
def onesSha256 (content : Bytes) : String :=
  if content = onesFile then "64c0dea2e1c321cbbcbf78285b8704a51abbc6b0be3117c8c3208ac6082a3284" else ""

def onesRead : Read := .chunk ⟨onesFile, by decide, by decide⟩

/-- An approved cleaning run's file; `seeks` is whether it can be rewound. -/
def onesAttempt (seeks : Bool) : Attempt where
  organizationId := 1
  userId := 1
  artifactType := .cleaning
  run := ⟨5, .approved, ["out", "1", "5.csv"], onesSha256 onesFile, none⟩
  openFile := fun _ => .ok ⟨[onesRead], seeks, some 6, [onesRead]⟩
  statusAtResponse := .approved

def onesSettings : Settings where
  outputRetentionEnabled := false
  outputRetentionWindowDays := 30
  retentionClaimBatchSize := 10
  outputRetentionDryRun := false
  csvOutputRoot := ["out"]
  csvStandardizedRoot := ["standardized"]
  csvExportedRoot := ["exported"]

/-- The run of one attempt. -/
def onesRun (seeks : Bool) (actions : List Action) : World :=
  exec (step onesSha256 some onesSettings (fun _ => onesAttempt seeks)) (World.initial 0)
    (actions.map (fun action => (0, action)))

/-- **A client gone before the first pull, and a rewind that fails, leave the row at `started`.** -/
theorem ones_left_started :
    ¬ AllAccounted onesSha256 some onesSettings (fun _ => onesAttempt true) (onesRun true [.request, .verify, .drop]) ∧
      ¬ AllAccounted onesSha256 some onesSettings (fun _ => onesAttempt false) (onesRun false [.request, .verify]) := by
  have hauthorized : ∀ seeks, Authorized some onesSettings (onesAttempt seeks) :=
    fun seeks => ⟨.inl rfl, rfl, ["out", "1", "5.csv"], by cases seeks <;> decide⟩
  constructor
  · intro hall
    obtain ⟨⟨e, hrows, houtcome, -⟩, -⟩ := hall.ended 0 .broken rfl (hauthorized true)
    rw [show (onesRun true [.request, .verify, .drop]).rows 0 = [(onesAttempt true).event 0 .started none] by decide]
      at hrows
    rw [← List.singleton_inj.1 hrows] at houtcome
    exact houtcome rfl
  · intro hall
    obtain ⟨⟨e, hrows, houtcome, -⟩, -⟩ := hall.ended 0 .unhandled rfl (hauthorized false)
    rw [show (onesRun false [.request, .verify]).rows 0 = [(onesAttempt false).event 0 .started none] by decide]
      at hrows
    rw [← List.singleton_inj.1 hrows] at houtcome
    exact houtcome rfl

end Download
end DataOps

import DataOps.RetentionPasses
/-!
# RetentionAudit — what retention may delete, and that all of it is on record

A file and its row part for a moment: the file is deleted first, and the mark and its event are committed after.  What
holds at every moment is that a marked row has exactly one event of a real purge and no file, and that an unmarked row has
no such event.
-/
namespace DataOps
namespace Retention

open Api (Time)
open Trace (exec Along)

def RetentionEvent.key (e : RetentionEvent) : RunKey := (e.artifactType, e.runId)

/-- The events of a run that are not of a dry run and say its file is gone. -/
def Tables.purges (db : Tables) (key : RunKey) : List RetentionEvent :=
  db.events.filter (fun e => e.key = key ∧ e.dryRun = false ∧ e.outcome ∈ [.completed, .alreadyMissing])

section
variable (resolve : Path → Option Path)

/-- **The run's mark, its events and its file agree.** -/
structure Audited (db : Tables) (files : List Path) (key : RunKey) (row : RunRow) : Prop where
  events : row.outputDeletedAt ≠ none ↔ (db.purges key).length = 1
  file   : row.outputDeletedAt ≠ none → ∃ f, resolve row.outputFilePath = some f ∧ f ∉ files

/-- A file that a pass may delete: the output of a run in a terminal status, decided long enough ago, inside the root of
its organization for its type. -/
def Permitted (db : Tables) (pass : Pass) (f : Path) : Prop :=
  pass.dryRun = false ∧ ∃ artifactType id row ts root, db.runs.get? (artifactType, id) = some row ∧
    row.status ∈ terminalStatuses ∧ row.decisionTimestamp = some ts ∧
    ts + timedeltaDays pass.settings.outputRetentionWindowDays ≤ pass.now ∧
    resolve row.outputFilePath = some f ∧
    resolve (tenantRoot pass.settings artifactType row.organizationId) = some root ∧ root <+: f

/-- What a step of a pass may do: the files it deletes are permitted; in a dry run it deletes none and marks no row; and a
row whose transaction has failed, or has not committed, is unmarked. -/
structure Lawful (w : World) (l : Label) (w' : World) : Prop where
  permitted : ∀ p a (pass : Pass), l = .pass p a → w.passes[p]? = some pass → ∀ f ∈ w.files, f ∉ w'.files →
                Permitted resolve w.tables pass f
  dryRun    : ∀ p a (pass : Pass), l = .pass p a → w.passes[p]? = some pass → pass.dryRun = true →
                w'.files = w.files ∧ w'.tables.runs = w.tables.runs
  failed    : ∀ p a (pass : Pass) txn, l = .pass p a → w.passes[p]? = some pass → pass.txn = some txn →
                (w'.tables.events = w.tables.events ∨ txn.evaluation.any (fun e => e.outcome = .failed) = true) →
                  ∃ row, w'.tables.runs.get? txn.key = some row ∧ row.outputDeletedAt = none

/-! ## The invariant -/

/-- What an evaluation has settled before its commit: a row is to be marked only when its file is gone. -/
structure Evaluated (files : List Path) (pass : Pass) (row : RunRow) (e : Evaluation) : Prop where
  marks : e.setDeletedAt = true → pass.dryRun = false ∧ e.outcome ≠ .failed ∧
            ∃ f, resolve row.outputFilePath = some f ∧ f ∉ files
  skips : e.setDeletedAt = false → pass.dryRun = true ∨ e.outcome = .failed

/-- **A claim**: its row is still eligible, and unmarked. -/
def Claimed (db : Tables) (files : List Path) (pass : Pass) (txn : Txn) : Prop :=
  ∃ row, db.runs.get? txn.key = some row ∧ row.organizationId = txn.organizationId ∧
    row.outputFilePath = txn.outputFilePath ∧ pass.eligible row = true ∧
    ∀ e, txn.evaluation = some e → Evaluated resolve files pass row e

structure AuditInv (w : World) : Prop where
  claimed  : Claims.Held Pass.txn (Claimed resolve w.tables w.files) w.passes
  apart    : Claims.Apart Pass.txn Txn.key w.passes
  unmarked : ∀ key row, w.tables.runs.get? key = some row → row.outputDeletedAt = none → w.tables.purges key = []
  audited  : ∀ key row, w.tables.runs.get? key = some row → Audited resolve w.tables w.files key row
  orphans  : ∀ e ∈ w.tables.events, w.tables.runs.get? e.key ≠ none

theorem AuditInv.initial (files : List Path) : AuditInv resolve (World.initial files) where
  claimed := fun _ _ _ h => by simp [World.initial] at h
  apart := fun _ _ _ _ _ _ h => by simp [World.initial] at h
  unmarked := fun _ _ h => by cases h
  audited := fun _ _ h => by cases h
  orphans := fun _ h => by cases h

theorem Pass.eligible_iff {pass : Pass} {row : RunRow} :
    pass.eligible row = true ↔ row.status ∈ terminalStatuses ∧ row.outputDeletedAt = none ∧
      ∃ ts, row.decisionTimestamp = some ts ∧
        ts + timedeltaDays pass.settings.outputRetentionWindowDays ≤ pass.now := by
  simp only [Pass.eligible, decide_eq_true_eq, Option.any_eq_true]

/-- Eligibility reads the settings and the time of the pass. -/
theorem Pass.eligible_congr {pass pass' : Pass} (hsettings : pass'.settings = pass.settings) (hnow : pass'.now = pass.now)
    (row : RunRow) : pass'.eligible row = pass.eligible row := by
  simp only [Pass.eligible, hsettings, hnow]

/-- Fewer files keep what is said of absent ones. -/
theorem Claimed.mono {db : Tables} {files files' : List Path} {pass : Pass} {txn : Txn}
    (h : Claimed resolve db files pass txn) (hfiles : ∀ f ∈ files', f ∈ files) : Claimed resolve db files' pass txn := by
  obtain ⟨row, hrow, horg, hpath, heligible, heval⟩ := h
  refine ⟨row, hrow, horg, hpath, heligible, fun e he => ⟨fun hset => ?_, (heval e he).skips⟩⟩
  obtain ⟨hreal, hok, f, hf, habsent⟩ := (heval e he).marks hset
  exact ⟨hreal, hok, f, hf, fun hmem => habsent (hfiles f hmem)⟩

theorem Claimed.frame {db db' : Tables} {files : List Path} {pass : Pass} {txn : Txn}
    (h : Claimed resolve db files pass txn) (hrow : db'.runs.get? txn.key = db.runs.get? txn.key) :
    Claimed resolve db' files pass txn := by
  obtain ⟨row, hget, hrest⟩ := h
  exact ⟨row, hrow.trans hget, hrest⟩

theorem Audited.mono {db : Tables} {files files' : List Path} {key : RunKey} {row : RunRow}
    (h : Audited resolve db files key row) (hfiles : ∀ f ∈ files', f ∈ files) : Audited resolve db files' key row where
  events := h.events
  file := by
    intro hmarked
    obtain ⟨f, hf, habsent⟩ := h.file hmarked
    exact ⟨f, hf, fun hmem => habsent (hfiles f hmem)⟩

theorem audited_unmarked {db : Tables} {files : List Path} {key : RunKey} {row : RunRow}
    (hrow : row.outputDeletedAt = none) (hpurges : db.purges key = []) : Audited resolve db files key row where
  events := iff_of_false (fun hne => hne hrow) (by rw [hpurges]; decide)
  file := fun hne => absurd hrow hne

/-- A step that only lets a transaction go, or starts a pass, keeps the invariant. -/
theorem AuditInv.release {w : World} (h : AuditInv resolve w) (p : Nat) (pass : Pass) (htxn : pass.txn = none) :
    AuditInv resolve (w.setPass p pass) :=
  ⟨h.claimed.release htxn, h.apart.release htxn, h.unmarked, h.audited, h.orphans⟩

/-- Fewer files keep the invariant. -/
theorem AuditInv.fewer {w : World} (h : AuditInv resolve w) {files : List Path} (hfiles : ∀ f ∈ files, f ∈ w.files) :
    AuditInv resolve { w with files := files } where
  claimed := h.claimed.mono (fun _ _ _ _ _ hclaim => hclaim.mono resolve hfiles)
  apart := h.apart
  unmarked := h.unmarked
  audited := fun key row hrow => (h.audited key row hrow).mono resolve hfiles
  orphans := h.orphans

/-- **A row that no pass claims may change**, when it keeps its path and its mark, or is new. -/
theorem AuditInv.setRow {w : World} (h : AuditInv resolve w) {key : RunKey} {row' : RunRow}
    (hfree : Claims.Held Pass.txn (fun _ txn => txn.key ≠ key) w.passes)
    (haudited : Audited resolve w.tables w.files key row')
    (hunmarked : row'.outputDeletedAt = none → w.tables.purges key = []) :
    AuditInv resolve { w with tables := { w.tables with runs := w.tables.runs.set key row' } } where
  claimed := by
    refine h.claimed.mono (fun p pass txn hpass htxn hclaim => hclaim.frame resolve ?_)
    exact (Dict.get?_set _ _ _ _).trans (if_neg (hfree p pass txn hpass htxn).symm)
  apart := h.apart
  unmarked := by
    intro key' row hrow
    rw [Dict.get?_set] at hrow
    split at hrow
    · rename_i heq
      subst heq
      obtain rfl := Option.some.inj hrow
      exact hunmarked
    · exact h.unmarked key' row hrow
  audited := by
    intro key' row hrow
    rw [Dict.get?_set] at hrow
    split at hrow
    · rename_i heq
      subst heq
      obtain rfl := Option.some.inj hrow
      exact ⟨haudited.events, haudited.file⟩
    · exact ⟨(h.audited key' row hrow).events, (h.audited key' row hrow).file⟩
  orphans := by
    intro e he
    rw [Dict.get?_set]
    split
    · exact Option.some_ne_none _
    · exact h.orphans e he

/-! ## The commit -/

theorem Tables.finalized_eq_some {db db' : Tables} {pass : Pass} {txn : Txn} {e : Evaluation}
    {deletedAt completedAt : Time} (h : db.finalized pass txn e deletedAt completedAt = some db') :
    db'.events = db.events ++ [recordEvent pass txn e completedAt] ∧
      ∃ row, db.runs.get? txn.key = some row ∧
        db'.runs = if e.setDeletedAt = true then db.runs.set txn.key { row with outputDeletedAt := some deletedAt }
          else db.runs := by
  unfold Tables.finalized at h
  split at h
  · cases h
  · rename_i row hrow
    split at h
    · cases h
    · split at h
      · cases h
      · cases h
        exact ⟨rfl, row, hrow, rfl⟩

/-- The event's window passes the table's check. -/
theorem Tables.finalized_window {db db' : Tables} {pass : Pass} {txn : Txn} {e : Evaluation} {deletedAt completedAt : Time}
    (h : db.finalized pass txn e deletedAt completedAt = some db') : 7 ≤ pass.settings.outputRetentionWindowDays := by
  unfold Tables.finalized at h
  split at h
  · cases h
  · split at h
    · cases h
    · split at h
      · cases h
      · omega

/-- The purges of a run after one more event. -/
theorem Tables.purges_of_events {db db' : Tables} {event : RetentionEvent} (h : db'.events = db.events ++ [event])
    (key : RunKey) :
    db'.purges key = db.purges key ++
      if event.key = key ∧ event.dryRun = false ∧ event.outcome ∈ [.completed, .alreadyMissing] then [event] else [] := by
  unfold Tables.purges
  rw [h, List.filter_append, List.filter_singleton]
  by_cases hkey : event.key = key ∧ event.dryRun = false ∧ event.outcome ∈ [.completed, .alreadyMissing] <;> simp [hkey]

/-- **A commit that marks no row records no purge.** -/
theorem AuditInv.settle_unmarked {w : World} (h : AuditInv resolve w) {db : Tables} {event : RetentionEvent}
    (hruns : db.runs = w.tables.runs) (hevents : db.events = w.tables.events ++ [event])
    (hkey : w.tables.runs.get? event.key ≠ none) (hskip : event.dryRun = true ∨ event.outcome = .failed) :
    AuditInv resolve { w with tables := db } := by
  have hpurges : ∀ key, db.purges key = w.tables.purges key := by
    intro key
    rw [Tables.purges_of_events hevents, if_neg, List.append_nil]
    rintro ⟨-, hreal, hgone⟩
    rcases hskip with hdry | hfailed
    · rw [hdry] at hreal
      cases hreal
    · rw [hfailed] at hgone
      revert hgone
      decide
  refine ⟨h.claimed.mono (fun _ _ _ _ _ hclaim => hclaim.frame resolve (by rw [hruns])), h.apart, ?_, ?_, ?_⟩
  · intro key row hrow hnone
    rw [hpurges]
    exact h.unmarked key row (hruns ▸ hrow) hnone
  · intro key row hrow
    have haudited := h.audited key row (hruns ▸ hrow)
    exact ⟨by rw [hpurges]; exact haudited.events, haudited.file⟩
  · intro e he
    rw [hruns]
    rw [hevents] at he
    rcases List.mem_append.1 he with he | he
    · exact h.orphans e he
    · rw [List.mem_singleton.1 he]
      exact hkey

/-- **A commit that marks a row** whose file is gone records its one purge. -/
theorem AuditInv.settle_marked {w : World} (h : AuditInv resolve w) {db : Tables} {event : RetentionEvent} {row : RunRow}
    {deletedAt : Time} (hrow : w.tables.runs.get? event.key = some row) (hunmarked : row.outputDeletedAt = none)
    (hruns : db.runs = w.tables.runs.set event.key { row with outputDeletedAt := some deletedAt })
    (hevents : db.events = w.tables.events ++ [event]) (hreal : event.dryRun = false) (hgone : event.outcome ≠ .failed)
    (hfile : ∃ f, resolve row.outputFilePath = some f ∧ f ∉ w.files)
    (hfree : Claims.Held Pass.txn (fun _ txn => txn.key ≠ event.key) w.passes) :
    AuditInv resolve { w with tables := db } := by
  have hother : ∀ key, key ≠ event.key → db.runs.get? key = w.tables.runs.get? key ∧
      db.purges key = w.tables.purges key := by
    intro key hne
    refine ⟨?_, ?_⟩
    · rw [hruns, Dict.get?_set, if_neg (fun heq => hne heq.symm)]
    · rw [Tables.purges_of_events hevents, if_neg (fun hh => hne hh.1.symm), List.append_nil]
  have hself : db.runs.get? event.key = some { row with outputDeletedAt := some deletedAt } := by
    rw [hruns, Dict.get?_set, if_pos rfl]
  have hpurges : db.purges event.key = [event] := by
    have houtcome : event.outcome ∈ [Outcome.completed, .alreadyMissing] := by
      cases hout : event.outcome with
      | completed => decide
      | alreadyMissing => decide
      | failed => exact absurd hout hgone
    rw [Tables.purges_of_events hevents, h.unmarked event.key row hrow hunmarked, if_pos ⟨rfl, hreal, houtcome⟩,
      List.nil_append]
  refine ⟨?_, h.apart, ?_, ?_, ?_⟩
  · exact h.claimed.mono (fun p pass txn hpass htxn hclaim =>
      hclaim.frame resolve (hother txn.key (hfree p pass txn hpass htxn)).1)
  · intro key row' hrow' hnone
    by_cases heq : key = event.key
    · rw [heq, hself] at hrow'
      rw [← Option.some.inj hrow'] at hnone
      cases hnone
    · rw [(hother key heq).2]
      exact h.unmarked key row' ((hother key heq).1 ▸ hrow') hnone
  · intro key row' hrow'
    by_cases heq : key = event.key
    · rw [heq, hself] at hrow'
      rw [← Option.some.inj hrow', heq]
      exact ⟨iff_of_true (Option.some_ne_none _) (by rw [hpurges]; rfl), fun _ => hfile⟩
    · have haudited := h.audited key row' ((hother key heq).1 ▸ hrow')
      exact ⟨by rw [(hother key heq).2]; exact haudited.events, haudited.file⟩
  · intro e he
    have hold : w.tables.runs.get? e.key ≠ none := by
      rw [hevents] at he
      rcases List.mem_append.1 he with he | he
      · exact h.orphans e he
      · rw [List.mem_singleton.1 he, hrow]
        exact Option.some_ne_none _
    by_cases heq : e.key = event.key
    · rw [heq, hself]
      exact Option.some_ne_none _
    · rw [(hother e.key heq).1]
      exact hold

/-- **A step preserves the invariant.** -/
theorem AuditInv.effect {w w' : World} {l : Label} (h : AuditInv resolve w) (he : Effect resolve w l w') :
    AuditInv resolve w' := by
  cases he with
  | stay => exact h
  | inserted key organizationId outputFilePath hnew =>
    have hpurges : w.tables.purges key = [] := by
      refine List.filter_eq_nil_iff.2 (fun e he hkey => ?_)
      have heq := (of_decide_eq_true hkey).1
      exact h.orphans e he (heq ▸ hnew)
    refine h.setRow resolve ?_ (audited_unmarked resolve rfl hpurges) (fun _ => hpurges)
    intro p pass txn hpass htxn heq
    obtain ⟨row, hrow, -⟩ := h.claimed p pass txn hpass htxn
    rw [heq, hnew] at hrow
    cases hrow
  | reviewed l key row row' hpass hrow hfree hpath hdeleted =>
    refine h.setRow resolve (fun p pass txn hp ht => Claims.ne_of_locked_eq_false hfree hp ht) ?_ ?_
    · have haudited := h.audited key row hrow
      exact ⟨by rw [hdeleted]; exact haudited.events, by rw [hdeleted, hpath]; exact haudited.file⟩
    · rw [hdeleted]
      exact h.unmarked key row hrow
  | removed path => exact h.fewer resolve (fun f hf => List.mem_of_mem_filter hf)
  | started l pass hpass htxn => exact ⟨h.claimed.append htxn, h.apart.append htxn, h.unmarked, h.audited, h.orphans⟩
  | released p a pass htxn => exact h.release resolve p pass htxn
  | claimed p id pass pass' artifactType row hpass hfree hrow heligible hsettings hnow htxn =>
    refine ⟨h.claimed.hold htxn ?_, h.apart.take htxn hfree, h.unmarked, h.audited, h.orphans⟩
    exact ⟨row, hrow, rfl, rfl, (Pass.eligible_congr hsettings hnow row).trans heligible, fun _ he => by cases he⟩
  | acted p io pass txn e files hpass htxn hact =>
    obtain ⟨row, hrow, horg, hpath, heligible, -⟩ := h.claimed p pass txn hpass htxn
    have hsub : ∀ f ∈ files, f ∈ w.files := by
      intro f hf
      rcases evaluateAndAct_cases resolve hact with ⟨heq, -⟩ | ⟨-, -, -, root, g, -, -, -, heq⟩
      · exact heq ▸ hf
      · exact List.mem_of_mem_filter (heq ▸ hf)
    have hfewer := h.fewer resolve hsub
    refine ⟨hfewer.claimed.hold rfl ?_, hfewer.apart.keep hpass htxn rfl rfl, hfewer.unmarked, hfewer.audited,
      hfewer.orphans⟩
    refine ⟨row, hrow, horg, hpath, heligible, fun e' he' => ?_⟩
    obtain rfl := Option.some.inj he'
    rcases evaluateAndAct_cases resolve hact with ⟨-, hset, hskip⟩ | ⟨hreal, hset, hok, root, g, -, hg, -, heq⟩
    · exact ⟨fun htrue => (Bool.false_ne_true (hset.symm.trans htrue)).elim, fun _ => hskip⟩
    · refine ⟨fun _ => ⟨hreal, hok, g, hpath ▸ hg, ?_⟩,
        fun hfalse => (Bool.false_ne_true (hfalse.symm.trans hset)).elim⟩
      rw [heq]
      intro hmem
      exact of_decide_eq_true (List.mem_filter.1 hmem).2 rfl
  | settled p deletedAt completedAt acknowledged pass txn e tables hpass htxn heval hfinal =>
    obtain ⟨row, hrow, horg, hpath, heligible, hevaluated⟩ := h.claimed p pass txn hpass htxn
    obtain ⟨hevents, row', hrow', hruns⟩ := Tables.finalized_eq_some hfinal
    obtain rfl : row = row' := Option.some.inj (hrow.symm.trans hrow')
    -- the pass lets go of its claim first; then the tables change at the row it claimed, which no other pass claims
    have hrelease := h.release resolve p (pass.settled txn e acknowledged) (pass.settled_txn txn e acknowledged)
    have hother : Claims.Held Pass.txn (fun _ txn' => txn'.key ≠ txn.key)
        (w.passes.set p (pass.settled txn e acknowledged)) := by
      intro q pass' txn' hq ht
      rcases Claims.getElem?_set_cases hq with ⟨-, rfl⟩ | ⟨hne, hq⟩
      · rw [Pass.settled_txn] at ht
        cases ht
      · exact h.apart.ne_of_ne hpass htxn hne hq ht
    cases hset : e.setDeletedAt with
    | true =>
      obtain ⟨hreal, hok, hfile⟩ := (hevaluated e heval).marks hset
      rw [if_pos hset] at hruns
      have hevent : w.tables.runs.get? (recordEvent pass txn e completedAt).key = some row := hrow
      exact hrelease.settle_marked resolve hevent (Pass.eligible_iff.1 heligible).2.1 hruns hevents hreal hok hfile hother
    | false =>
      rw [if_neg (by rw [hset]; exact Bool.false_ne_true)] at hruns
      refine hrelease.settle_unmarked resolve hruns hevents ?_ ((hevaluated e heval).skips hset)
      exact fun hnone => Option.some_ne_none row (hrow.symm.trans hnone)

theorem AuditInv.step {w : World} (h : AuditInv resolve w) (l : Label) : AuditInv resolve (step resolve w l) :=
  h.effect resolve (step_effect resolve w l)

/-! ## What a step may do -/

/-- A claimed row is unmarked. -/
theorem AuditInv.claim_unmarked {w : World} (h : AuditInv resolve w) {p : Nat} {pass : Pass} {txn : Txn}
    (hpass : w.passes[p]? = some pass) (htxn : pass.txn = some txn) :
    ∃ row, w.tables.runs.get? txn.key = some row ∧ row.outputDeletedAt = none := by
  obtain ⟨row, hrow, -, -, heligible, -⟩ := h.claimed p pass txn hpass htxn
  exact ⟨row, hrow, (Pass.eligible_iff.1 heligible).2.1⟩

/-- A step that leaves files and tables alone is lawful. -/
theorem AuditInv.lawful_quiet {w w' : World} (h : AuditInv resolve w) (l : Label) (hfiles : w'.files = w.files)
    (htables : w'.tables = w.tables) : Lawful resolve w l w' where
  permitted := fun _ _ _ _ _ f hf hgone => absurd (hfiles ▸ hf) hgone
  dryRun := fun _ _ _ _ _ _ => ⟨hfiles, by rw [htables]⟩
  failed := by
    intro p a pass txn _ hpass htxn _
    rw [htables]
    exact h.claim_unmarked resolve hpass htxn

/-- So is a step that no pass takes. -/
theorem lawful_of_ne {w w' : World} {l : Label} (hl : ∀ p a, l ≠ .pass p a) : Lawful resolve w l w' where
  permitted := fun p a _ heq => absurd heq (hl p a)
  dryRun := fun p a _ heq => absurd heq (hl p a)
  failed := fun p a _ _ heq => absurd heq (hl p a)

/-- **Every step is lawful.** -/
theorem AuditInv.lawful {w w' : World} {l : Label} (h : AuditInv resolve w) (he : Effect resolve w l w') :
    Lawful resolve w l w' := by
  cases he with
  | stay => exact h.lawful_quiet resolve l rfl rfl
  | inserted => exact lawful_of_ne resolve (fun p a h => by cases h)
  | reviewed l key row row' hpass => exact lawful_of_ne resolve hpass
  | removed => exact lawful_of_ne resolve (fun p a h => by cases h)
  | started l pass hpass => exact lawful_of_ne resolve hpass
  | released p a pass => exact h.lawful_quiet resolve _ rfl rfl
  | claimed => exact h.lawful_quiet resolve _ rfl rfl
  | acted p io pass txn e files hpass htxn hact =>
    obtain ⟨row, hrow, horg, hpath, heligible, -⟩ := h.claimed p pass txn hpass htxn
    obtain ⟨hstatus, hunmarked, ts, hts, hwindow⟩ := Pass.eligible_iff.1 heligible
    refine ⟨?_, ?_, ?_⟩
    · intro p' a pass' hl hpass' f hf hgone
      cases hl
      obtain rfl : pass = pass' := Option.some.inj (hpass.symm.trans hpass')
      rcases evaluateAndAct_cases resolve hact with ⟨heq, -⟩ | ⟨hreal, -, -, root, g, hroot, hg, hinside, heq⟩
      · exact absurd (heq ▸ hf) hgone
      · have hfg : f = g := by
          by_contra hne
          exact hgone (heq ▸ List.mem_filter.2 ⟨hf, decide_eq_true hne⟩)
        subst hfg
        exact ⟨hreal, txn.artifactType, txn.runId, row, ts, root, hrow, hstatus, hts, hwindow, hpath ▸ hg, horg ▸ hroot,
          hinside⟩
    · intro p' a pass' hl hpass' hdry
      cases hl
      obtain rfl : pass = pass' := Option.some.inj (hpass.symm.trans hpass')
      rcases evaluateAndAct_cases resolve hact with ⟨heq, -⟩ | ⟨hreal, -⟩
      · exact ⟨heq, rfl⟩
      · rw [hdry] at hreal
        cases hreal
    · intro p' a pass' txn' _ hpass' htxn' _
      exact h.claim_unmarked resolve hpass' htxn'
  | settled p deletedAt completedAt acknowledged pass txn e tables hpass htxn heval hfinal =>
    obtain ⟨row, hrow, -, -, heligible, hevaluated⟩ := h.claimed p pass txn hpass htxn
    obtain ⟨hevents, row', -, hruns⟩ := Tables.finalized_eq_some hfinal
    refine ⟨fun _ _ _ _ _ f hf hgone => absurd hf hgone, ?_, ?_⟩
    · intro p' a pass' hl hpass' hdry
      cases hl
      obtain rfl : pass = pass' := Option.some.inj (hpass.symm.trans hpass')
      have hset : ¬ e.setDeletedAt = true := by
        intro hset
        rw [((hevaluated e heval).marks hset).1] at hdry
        cases hdry
      exact ⟨rfl, by rw [hruns, if_neg hset]⟩
    · intro p' a pass' txn' hl hpass' htxn' hfailed
      cases hl
      obtain rfl : pass = pass' := Option.some.inj (hpass.symm.trans hpass')
      obtain rfl : txn = txn' := Option.some.inj (htxn.symm.trans htxn')
      have hset : ¬ e.setDeletedAt = true := by
        intro hset
        rcases hfailed with hsame | hout
        · exact absurd (congrArg List.length (hevents.symm.trans hsame)) (by simp)
        · rw [heval] at hout
          exact ((hevaluated e heval).marks hset).2.1 (of_decide_eq_true hout)
      refine ⟨row, ?_, (Pass.eligible_iff.1 heligible).2.1⟩
      rw [hruns, if_neg hset]
      exact hrow

/-- **Retention deletes only what it may and all of it is on record**, in every state of every run. -/
theorem retention_deletes_and_audits (files : List Path) (ls : List Label) :
    (∀ key row, (exec (step resolve) (World.initial files) ls).tables.runs.get? key = some row →
      Audited resolve (exec (step resolve) (World.initial files) ls).tables
        (exec (step resolve) (World.initial files) ls).files key row) ∧
      Along (step resolve) (fun w l => Lawful resolve w l (step resolve w l)) (World.initial files) ls := by
  have hinit := AuditInv.initial resolve files
  have hrun : AuditInv resolve (exec (step resolve) (World.initial files) ls) :=
    Trace.exec_invariant (step resolve) (I := AuditInv resolve) (fun _ l h => h.step resolve l) ls _ hinit
  refine ⟨hrun.audited, ?_⟩
  exact Trace.along_of_invariant (step resolve) (I := AuditInv resolve) (fun _ l h => h.step resolve l)
    (fun w l h => h.lawful resolve (step_effect resolve w l)) ls _ hinit

end
end Retention
end DataOps

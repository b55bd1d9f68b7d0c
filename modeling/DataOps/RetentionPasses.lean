import DataOps.ApiApprovals
import DataOps.LibClaims
import DataOps.LibDict
import DataOps.WorkerTable
/-!
# RetentionPasses — deleting expired output artifacts

A pass goes through the three run tables in order and, for each eligible row it claims, deletes the file (or in a dry run
looks for it) and then commits the row's `output_deleted_at` with one event.  The file is gone before the commit, which may
still fail.  Passes interleave with each other, with reviews and with whoever else removes files; nobody writes one.
`resolve` is the operating system's `Path.resolve()`, `none` where it raises.
-/
namespace DataOps
namespace Retention

open Api (Time OrganizationId ApprovalStatus)

abbrev RunId := Nat

/-- The components of a path. -/
abbrev Path := List String

inductive ArtifactType
  | cleaning | standardization | export
deriving DecidableEq, Repr

/-- A row of one of the three run tables. -/
abbrev RunKey := ArtifactType × RunId

structure RunRow where
  organizationId  : OrganizationId
  outputFilePath  : Path
  status          : ApprovalStatus
  approvedAt      : Option Time
  rejectedAt      : Option Time
  rolledBackAt    : Option Time
  outputDeletedAt : Option Time
deriving DecidableEq, Repr

inductive Outcome
  | completed | alreadyMissing | failed
deriving DecidableEq, Repr

inductive FailureReason
  | unsafePath | permissionDenied | filesystemError
deriving DecidableEq, Repr

structure RetentionEvent where
  artifactType               : ArtifactType
  runId                      : RunId
  organizationId             : OrganizationId
  outcome                    : Outcome
  failureReasonCode          : Option FailureReason
  dryRun                     : Bool
  retentionWindowDaysApplied : Nat
  artifactSizeBytes          : Option Nat
  completedAt                : Time
deriving DecidableEq, Repr

structure Tables where
  runs   : Dict RunKey RunRow
  events : List RetentionEvent

structure Settings where
  outputRetentionEnabled    : Bool
  outputRetentionWindowDays : Nat
  retentionClaimBatchSize   : Nat
  outputRetentionDryRun     : Bool
  csvOutputRoot             : Path
  csvStandardizedRoot       : Path
  csvExportedRoot           : Path

/-- `output_root_setting`. -/
def ArtifactType.outputRoot (settings : Settings) : ArtifactType → Path
  | .cleaning        => settings.csvOutputRoot
  | .standardization => settings.csvStandardizedRoot
  | .export          => settings.csvExportedRoot

/-- `_RUN_TYPE_CONFIGS`, in order. -/
def runTypeConfigs : List ArtifactType := [.cleaning, .standardization, .export]

def terminalStatuses : List ApprovalStatus := [.approved, .rejected, .rolledBack]

/-- `_decision_timestamp_expression`. -/
def RunRow.decisionTimestamp (row : RunRow) : Option Time :=
  match row.status with
  | .approved      => row.approvedAt
  | .rejected      => row.rejectedAt
  | .rolledBack    => row.rolledBackAt
  | .pendingReview => none

/-- `timedelta(days=days)`. -/
def timedeltaDays (days : Nat) : Nat := Worker.timedelta (86400 * days)

/-! ## One artifact -/

inductive OSError
  | permissionError | other
deriving DecidableEq, Repr

/-- `_classify_os_error`. -/
def classifyOsError : OSError → FailureReason
  | .permissionError => .permissionDenied
  | .other           => .filesystemError

/-- What the operating system answers: the size `stat` gives, and the error `is_file` or `unlink` raises. -/
structure Io where
  size  : Option Nat
  error : Option OSError

structure Evaluation where
  outcome      : Outcome
  reasonCode   : Option FailureReason
  sizeBytes    : Option Nat
  setDeletedAt : Bool
deriving DecidableEq, Repr

inductive ResolveError
  | artifactPathError | other
deriving DecidableEq, Repr

section
variable (resolve : Path → Option Path)

def resolveArtifactPath (tenantRoot outputFilePath : Path) : Except ResolveError Path :=
  match resolve tenantRoot, resolve outputFilePath with
  | some root, some resolved => if root <+: resolved then .ok resolved else .error .artifactPathError
  | _, _ => .error .other

/-- The tenant's own root for an artifact type. -/
def tenantRoot (settings : Settings) (artifactType : ArtifactType) (organizationId : OrganizationId) : Path :=
  artifactType.outputRoot settings ++ [toString organizationId]

/-- `_evaluate_and_act`, with the files it leaves; `none` is an exception. -/
def evaluateAndAct (files : List Path) (settings : Settings) (artifactType : ArtifactType)
    (organizationId : OrganizationId) (outputFilePath : Path) (dryRun : Bool) (io : Io) :
    Option (Evaluation × List Path) :=
  match resolveArtifactPath resolve (tenantRoot settings artifactType organizationId) outputFilePath with
  | .error .other             => none
  | .error .artifactPathError => some (⟨.failed, some .unsafePath, none, false⟩, files)
  | .ok resolvedPath          =>
    match io.error with
    | some exc => some (⟨.failed, some (classifyOsError exc), none, false⟩, files)
    | none     =>
      if dryRun = true then
        if resolvedPath ∈ files then some (⟨.completed, none, io.size, false⟩, files)
        else some (⟨.alreadyMissing, none, none, false⟩, files)
      else if resolvedPath ∈ files then
        some (⟨.completed, none, io.size, true⟩, files.filter (fun f => f ≠ resolvedPath))
      else some (⟨.alreadyMissing, none, none, true⟩, files)

/-! ## The passes -/

/-- The transaction of one artifact: the columns its claim returned, and what its evaluation gave. -/
structure Txn where
  artifactType   : ArtifactType
  runId          : RunId
  organizationId : OrganizationId
  outputFilePath : Path
  evaluation     : Option Evaluation

def Txn.key (txn : Txn) : RunKey := (txn.artifactType, txn.runId)

structure PassResult where
  purgedCount           : Nat := 0
  alreadyMissingCount   : Nat := 0
  failedCount           : Nat := 0
  dryRunWouldPurgeCount : Nat := 0
  bytesReclaimed        : Nat := 0
deriving DecidableEq, Repr

/-- A pass: the run tables still to do, the first of them with what is left of the budget. -/
structure Pass where
  settings      : Settings
  now           : Time
  dryRun        : Bool
  artifactTypes : List ArtifactType
  budget        : Nat
  attempted     : Nat
  excludedIds   : List RunId
  result        : PassResult
  txn           : Option Txn

structure World where
  tables : Tables
  files  : List Path
  passes : List Pass

/-- No runs yet; the files are any. -/
def World.initial (files : List Path) : World := ⟨⟨[], []⟩, files, []⟩

inductive Action
  | claim (id : RunId)
  | act (io : Io)
  | settle (deletedAt completedAt : Time) (acknowledged : Bool)
  | fail
  | nextType
  | crash

/-- Handlers insert runs, reviews set the status with its timestamps, and anyone may remove a file. -/
inductive Label
  | insert (key : RunKey) (organizationId : OrganizationId) (outputFilePath : Path)
  | review (key : RunKey) (status : ApprovalStatus) (approvedAt rejectedAt rolledBackAt : Option Time)
  | remove (path : Path)
  | start (settings : Settings) (now : Time) (batchSize : Option Nat) (dryRun : Option Bool)
  | pass (p : Nat) (a : Action)

/-- Some open transaction holds the row. -/
def World.locked (w : World) (key : RunKey) : Bool := Claims.locked Pass.txn Txn.key w.passes key

def World.setPass (w : World) (p : Nat) (pass : Pass) : World := { w with passes := w.passes.set p pass }

/-- The `WHERE` of the claim. -/
def Pass.eligible (pass : Pass) (row : RunRow) : Bool :=
  row.status ∈ terminalStatuses ∧ row.outputDeletedAt = none ∧
    row.decisionTimestamp.any (fun ts => ts + timedeltaDays pass.settings.outputRetentionWindowDays ≤ pass.now) = true

/-- `db.rollback()`, and the run is left out for the rest of its table. -/
def Pass.rollback (pass : Pass) (txn : Txn) : Pass :=
  { pass with txn := none, excludedIds := txn.runId :: pass.excludedIds }

/-- `_record_event`. -/
def recordEvent (pass : Pass) (txn : Txn) (e : Evaluation) (completedAt : Time) : RetentionEvent where
  artifactType := txn.artifactType
  runId := txn.runId
  organizationId := txn.organizationId
  outcome := e.outcome
  failureReasonCode := e.reasonCode
  dryRun := pass.dryRun
  retentionWindowDaysApplied := pass.settings.outputRetentionWindowDays
  artifactSizeBytes := e.sizeBytes
  completedAt := completedAt

/-- The guarded update and the event; `none` is a lost race or an `IntegrityError`. -/
def Tables.finalized (db : Tables) (pass : Pass) (txn : Txn) (e : Evaluation) (deletedAt completedAt : Time) :
    Option Tables :=
  match db.runs.get? txn.key with
  | none     => none
  | some row =>
    if e.setDeletedAt = true ∧ row.outputDeletedAt ≠ none then none
    else if pass.settings.outputRetentionWindowDays < 7 then none
    else
      some
        { runs := if e.setDeletedAt = true then db.runs.set txn.key { row with outputDeletedAt := some deletedAt }
            else db.runs
          events := db.events ++ [recordEvent pass txn e completedAt] }

/-- The counters of the pass. -/
def PassResult.tally (r : PassResult) (dryRun : Bool) (e : Evaluation) : PassResult :=
  match e.outcome with
  | .completed      =>
    if dryRun = true then { r with dryRunWouldPurgeCount := r.dryRunWouldPurgeCount + 1 }
    else { r with
      purgedCount := r.purgedCount + 1
      bytesReclaimed := r.bytesReclaimed + e.sizeBytes.getD 0 }
  | .alreadyMissing => { r with alreadyMissingCount := r.alreadyMissingCount + 1 }
  | .failed         => { r with failedCount := r.failedCount + 1 }

/-- The pass after its commit; one whose answer is lost excludes the run as a failure does. -/
def Pass.settled (pass : Pass) (txn : Txn) (e : Evaluation) (acknowledged : Bool) : Pass :=
  if acknowledged = true then
    { pass with
      txn := none
      result := pass.result.tally pass.dryRun e
      excludedIds :=
        if pass.dryRun = true ∨ e.outcome = .failed then txn.runId :: pass.excludedIds else pass.excludedIds }
  else pass.rollback txn

/-- One step of `_process_one_run_type`.  Which of the eligible rows comes first is left open. -/
def World.act (w : World) (p : Nat) (pass : Pass) : Action → World
  | .claim id =>
    match pass.txn, pass.artifactTypes with
    | none, artifactType :: _ =>
      match w.tables.runs.get? (artifactType, id) with
      | some row =>
        if pass.attempted < pass.budget ∧ id ∉ pass.excludedIds ∧ w.locked (artifactType, id) = false ∧
            pass.eligible row = true then
          w.setPass p { pass with
            attempted := pass.attempted + 1
            txn := some ⟨artifactType, id, row.organizationId, row.outputFilePath, none⟩ }
        else w
      | none => w
    | _, _ => w
  | .act io =>
    match pass.txn with
    | some txn =>
      match txn.evaluation with
      | some _ => w
      | none   =>
        match evaluateAndAct resolve w.files pass.settings txn.artifactType txn.organizationId txn.outputFilePath
            pass.dryRun io with
        | some (e, files) =>
          { w with
            files := files
            passes := w.passes.set p { pass with txn := some { txn with evaluation := some e } } }
        | none => w.setPass p (pass.rollback txn)
    | none => w
  | .settle deletedAt completedAt acknowledged =>
    match pass.txn with
    | some txn =>
      match txn.evaluation with
      | some e =>
        match w.tables.finalized pass txn e deletedAt completedAt with
        | some tables =>
          { w with
            tables := tables
            passes := w.passes.set p (pass.settled txn e acknowledged) }
        | none => w.setPass p (pass.rollback txn)
      | none => w
    | none => w
  | .fail =>
    match pass.txn with
    | some txn => w.setPass p (pass.rollback txn)
    | none     => w
  | .nextType =>
    match pass.txn with
    | some _ => w
    | none   =>
      w.setPass p { pass with
        artifactTypes := if pass.budget ≤ pass.attempted then [] else pass.artifactTypes.tail
        budget := pass.budget - pass.attempted
        attempted := 0
        excludedIds := [] }
  | .crash => w.setPass p { pass with txn := none, artifactTypes := [] }

/-- A row as its handler inserts it. -/
def RunRow.fresh (organizationId : OrganizationId) (outputFilePath : Path) : RunRow :=
  ⟨organizationId, outputFilePath, .pendingReview, none, none, none, none⟩

/-- `purge_expired_artifacts` before its first query. -/
def Pass.starting (settings : Settings) (now : Time) (batchSize : Option Nat) (dryRun : Option Bool) : Pass where
  settings := settings
  now := now
  dryRun := dryRun.getD settings.outputRetentionDryRun
  artifactTypes := if batchSize.getD settings.retentionClaimBatchSize = 0 then [] else runTypeConfigs
  budget := batchSize.getD settings.retentionClaimBatchSize
  attempted := 0
  excludedIds := []
  result := {}
  txn := none

def step (w : World) : Label → World
  | .insert key organizationId outputFilePath =>
    match w.tables.runs.get? key with
    | some _ => w
    | none   =>
      { w with tables := { w.tables with runs := w.tables.runs.set key (.fresh organizationId outputFilePath) } }
  | .review key status approvedAt rejectedAt rolledBackAt =>
    match w.tables.runs.get? key with
    | some row =>
      -- the review's update waits for the row's lock
      if w.locked key = true then w
      else
        { w with
          tables := { w.tables with
            runs := w.tables.runs.set key { row with
              status := status, approvedAt := approvedAt, rejectedAt := rejectedAt, rolledBackAt := rolledBackAt } } }
    | none => w
  | .remove path => { w with files := w.files.filter (fun f => f ≠ path) }
  | .start settings now batchSize dryRun =>
    if settings.outputRetentionEnabled = true then
      { w with passes := w.passes ++ [.starting settings now batchSize dryRun] }
    else w
  | .pass p a =>
    match w.passes[p]? with
    | some pass => w.act resolve p pass a
    | none      => w

/-! ## What a step can do -/

/-- **What an evaluation does**: it leaves the files alone, and then it is a dry run's or a failure; or it leaves the
resolved file absent, inside the tenant's root, and the row is to be marked. -/
theorem evaluateAndAct_cases {files files' : List Path} {settings : Settings} {artifactType : ArtifactType}
    {organizationId : OrganizationId} {outputFilePath : Path} {dryRun : Bool} {io : Io} {e : Evaluation}
    (h : evaluateAndAct resolve files settings artifactType organizationId outputFilePath dryRun io =
      some (e, files')) :
    (files' = files ∧ e.setDeletedAt = false ∧ (dryRun = true ∨ e.outcome = .failed)) ∨
    (dryRun = false ∧ e.setDeletedAt = true ∧ e.outcome ≠ .failed ∧
      ∃ root f, resolve (tenantRoot settings artifactType organizationId) = some root ∧
        resolve outputFilePath = some f ∧ root <+: f ∧ files' = files.filter (fun g => g ≠ f)) := by
  unfold evaluateAndAct at h
  split at h
  · cases h
  · cases h
    exact .inl ⟨rfl, rfl, .inr rfl⟩
  · rename_i f hresolved
    obtain ⟨root, hroot, hf, hinside⟩ : ∃ root, resolve (tenantRoot settings artifactType organizationId) = some root ∧
        resolve outputFilePath = some f ∧ root <+: f := by
      unfold resolveArtifactPath at hresolved
      split at hresolved
      · rename_i root g hroot hg
        split at hresolved
        · rename_i hinside
          cases hresolved
          exact ⟨root, hroot, hg, hinside⟩
        · cases hresolved
      · cases hresolved
    split at h
    · cases h
      exact .inl ⟨rfl, rfl, .inr rfl⟩
    · split at h
      · rename_i hdry
        split at h <;> cases h <;> exact .inl ⟨rfl, rfl, .inl hdry⟩
      · rename_i hreal
        refine .inr ⟨Bool.eq_false_iff.2 hreal, ?_⟩
        split at h
        · cases h
          exact ⟨rfl, by simp, root, f, hroot, hf, hinside, rfl⟩
        · rename_i habsent
          cases h
          refine ⟨rfl, by simp, root, f, hroot, hf, hinside, (List.filter_eq_self.2 (fun g hg => ?_)).symm⟩
          exact decide_eq_true (fun heq => habsent (heq ▸ hg))

/-- **Everything a step can do.** -/
inductive Effect (w : World) : Label → World → Prop
  | stay (l : Label) : Effect w l w
  | inserted (key : RunKey) (organizationId : OrganizationId) (outputFilePath : Path)
      (hnew : w.tables.runs.get? key = none) :
      Effect w (.insert key organizationId outputFilePath)
        { w with tables := { w.tables with runs := w.tables.runs.set key (.fresh organizationId outputFilePath) } }
  | reviewed (l : Label) (key : RunKey) (row row' : RunRow) (hpass : ∀ p a, l ≠ .pass p a)
      (hrow : w.tables.runs.get? key = some row) (hfree : w.locked key = false)
      (hpath : row'.outputFilePath = row.outputFilePath) (hdeleted : row'.outputDeletedAt = row.outputDeletedAt) :
      Effect w l { w with tables := { w.tables with runs := w.tables.runs.set key row' } }
  | removed (path : Path) : Effect w (.remove path) { w with files := w.files.filter (fun f => f ≠ path) }
  | started (l : Label) (pass : Pass) (hpass : ∀ p a, l ≠ .pass p a) (htxn : pass.txn = none) :
      Effect w l { w with passes := w.passes ++ [pass] }
  | released (p : Nat) (a : Action) (pass : Pass) (htxn : pass.txn = none) : Effect w (.pass p a) (w.setPass p pass)
  | claimed (p : Nat) (id : RunId) (pass pass' : Pass) (artifactType : ArtifactType) (row : RunRow)
      (hpass : w.passes[p]? = some pass) (hfree : w.locked (artifactType, id) = false)
      (hrow : w.tables.runs.get? (artifactType, id) = some row) (heligible : pass.eligible row = true)
      (hsettings : pass'.settings = pass.settings) (hnow : pass'.now = pass.now)
      (htxn : pass'.txn = some ⟨artifactType, id, row.organizationId, row.outputFilePath, none⟩) :
      Effect w (.pass p (.claim id)) (w.setPass p pass')
  | acted (p : Nat) (io : Io) (pass : Pass) (txn : Txn) (e : Evaluation) (files : List Path)
      (hpass : w.passes[p]? = some pass) (htxn : pass.txn = some txn)
      (hact : evaluateAndAct resolve w.files pass.settings txn.artifactType txn.organizationId txn.outputFilePath
        pass.dryRun io = some (e, files)) :
      Effect w (.pass p (.act io))
        { w with
          files := files
          passes := w.passes.set p { pass with txn := some { txn with evaluation := some e } } }
  | settled (p : Nat) (deletedAt completedAt : Time) (acknowledged : Bool) (pass : Pass) (txn : Txn) (e : Evaluation)
      (tables : Tables) (hpass : w.passes[p]? = some pass) (htxn : pass.txn = some txn)
      (heval : txn.evaluation = some e)
      (hfinal : w.tables.finalized pass txn e deletedAt completedAt = some tables) :
      Effect w (.pass p (.settle deletedAt completedAt acknowledged))
        { w with
          tables := tables
          passes := w.passes.set p (pass.settled txn e acknowledged) }

theorem Pass.settled_txn (pass : Pass) (txn : Txn) (e : Evaluation) (acknowledged : Bool) :
    (pass.settled txn e acknowledged).txn = none := by
  cases acknowledged <;> rfl

theorem act_effect (w : World) (p : Nat) (pass : Pass) (hpass : w.passes[p]? = some pass) (a : Action) :
    Effect resolve w (.pass p a) (w.act resolve p pass a) := by
  cases a with
  | claim id =>
    simp only [World.act]
    split
    · rename_i artifactType rest hidle htypes
      split
      · rename_i row hrow
        split
        · rename_i hgo
          exact .claimed p id pass _ artifactType row hpass hgo.2.2.1 hrow hgo.2.2.2 rfl rfl rfl
        · exact .stay _
      · exact .stay _
    · exact .stay _
  | act io =>
    simp only [World.act]
    split
    · rename_i txn htxn
      split
      · exact .stay _
      · split
        · rename_i e files hact
          exact .acted p io pass txn e files hpass htxn hact
        · exact .released p _ _ rfl
    · exact .stay _
  | settle deletedAt completedAt acknowledged =>
    simp only [World.act]
    split
    · rename_i txn htxn
      split
      · rename_i e heval
        split
        · rename_i tables hfinal
          exact .settled p _ _ _ pass txn e tables hpass htxn heval hfinal
        · exact .released p _ _ rfl
      · exact .stay _
    · exact .stay _
  | fail =>
    simp only [World.act]
    split
    · exact .released p _ _ rfl
    · exact .stay _
  | nextType =>
    simp only [World.act]
    split
    · exact .stay _
    · rename_i htxn
      exact .released p _ _ htxn
  | crash => exact .released p _ _ rfl

theorem step_effect (w : World) (l : Label) : Effect resolve w l (step resolve w l) := by
  cases l with
  | insert key organizationId outputFilePath =>
    simp only [step]
    split
    · exact .stay _
    · rename_i hnew
      exact .inserted key organizationId outputFilePath hnew
  | review key status approvedAt rejectedAt rolledBackAt =>
    simp only [step]
    split
    · rename_i row hrow
      split
      · exact .stay _
      · rename_i hfree
        exact .reviewed _ key row _ (fun p a h => by cases h) hrow (Bool.eq_false_iff.2 hfree) rfl rfl
    · exact .stay _
  | remove path => exact .removed path
  | start settings now batchSize dryRun =>
    simp only [step]
    split
    · exact .started _ _ (fun p a h => by cases h) rfl
    · exact .stay _
  | pass p a =>
    simp only [step]
    split
    · rename_i pass hpass
      exact act_effect resolve w p pass hpass a
    · exact .stay _

end
end Retention
end DataOps

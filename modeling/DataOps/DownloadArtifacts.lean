import DataOps.LibTrace
import DataOps.RetentionPasses
/-!
# DownloadArtifacts — serving an output file

A request passes its checks, commits an audit row with the outcome `started`, and opens and hashes the file; the response
body is a generator that the server pulls, and that finishes the row when it ends or is closed.  Any number of attempts
interleave at their commits.  What the file system answers, and when the client goes, is left open.
-/
namespace DataOps
namespace Download

open Api (Time OrganizationId UserId ApprovalStatus HTTPException)
open Retention (ArtifactType Path Settings RunId resolveArtifactPath tenantRoot)

abbrev Bytes := List UInt8
abbrev EventId := Nat

/-! ## The audit rows -/

inductive Outcome
  | started | completed | integrityFailed | fileMissing | streamFailed | purged
deriving DecidableEq, Repr

inductive FailureReasonCode
  | hashMismatch | fileNotFound | notARegularFile | ioError | streamInterrupted
deriving DecidableEq, Repr

structure ArtifactDownloadEvent where
  id                 : EventId
  organizationId     : OrganizationId
  artifactType       : ArtifactType
  runId              : RunId
  downloadedBy       : UserId
  runStatusAtRequest : ApprovalStatus
  outcome            : Outcome
  failureReasonCode  : Option FailureReasonCode := none
  verifiedSha256     : Option String := none
  bytesServed        : Nat := 0
  completedAt        : Option Time := none
deriving DecidableEq, Repr

/-- `ARTIFACT_DOWNLOAD_FAILURE_OUTCOMES`. -/
def Outcome.isFailure : Outcome → Bool
  | .integrityFailed | .fileMissing | .streamFailed => true
  | .started | .completed | .purged                 => false

/-- The CHECK constraints of the table. -/
structure ArtifactDownloadEvent.Checked (e : ArtifactDownloadEvent) : Prop where
  status      : e.runStatusAtRequest = .approved ∨ e.runStatusAtRequest = .rolledBack
  reason      : e.failureReasonCode.isSome = e.outcome.isFailure
  completedAt : e.completedAt = none ↔ e.outcome = .started

/-- The columns the one update of a row writes; `none` leaves a column as it is. -/
structure Finalization where
  outcome           : Outcome
  failureReasonCode : Option FailureReasonCode := none
  verifiedSha256    : Option String := none
  bytesServed       : Option Nat := none

def ArtifactDownloadEvent.finalize (e : ArtifactDownloadEvent) (f : Finalization) (now : Time) :
    ArtifactDownloadEvent :=
  { e with
    outcome := f.outcome
    failureReasonCode := f.failureReasonCode
    verifiedSha256 := f.verifiedSha256.or e.verifiedSha256
    bytesServed := f.bytesServed.getD e.bytesServed
    completedAt := some now }

/-- `_finalize_download_event`: the update by primary key, in a session of its own. -/
def finalizeDownloadEvent (events : List ArtifactDownloadEvent) (eventId : EventId) (f : Finalization) (now : Time) :
    List ArtifactDownloadEvent :=
  events.map (fun e => if e.id = eventId then e.finalize f now else e)

/-! ## The file -/

/-- `ARTIFACT_DOWNLOAD_CHUNK_SIZE_BYTES`. -/
def chunkSizeBytes : Nat := 65536

/-- What a `read` before the end of the file gives. -/
structure Chunk where
  bytes   : Bytes
  ne      : bytes ≠ []
  bounded : bytes.length ≤ chunkSizeBytes

inductive Read
  | chunk (c : Chunk)
  | osError

/-- What an open file answers: its reads up to the end, or the first that fails, before and after it is rewound; whether
it can be rewound, and its size. -/
structure FileObj where
  verifying : List Read
  seeks     : Bool
  fstat     : Option Nat
  streaming : List Read

inductive OpenError
  | fileNotFound | isADirectory | osError
deriving DecidableEq, Repr

inductive VerifyError
  | artifactMissing (failureReasonCode : FailureReasonCode)
  | artifactIntegrity
  | osError
deriving DecidableEq, Repr

/-- The bytes of the first pass; `none` is an `OSError`. -/
def readAll : List Read → Option Bytes
  | []                => some []
  | .chunk c :: reads => (readAll reads).map (fun bytes => c.bytes ++ bytes)
  | .osError :: _     => none

section
variable (sha256 : Bytes → String)

/-- `open_verified_artifact`.  The rewind is outside its `try`. -/
def openVerifiedArtifact (opened : Except OpenError FileObj) (expectedSha256 : String) : Except VerifyError FileObj :=
  match opened with
  | .error .fileNotFound => .error (.artifactMissing .fileNotFound)
  | .error .isADirectory => .error (.artifactMissing .notARegularFile)
  | .error .osError      => .error (.artifactMissing .ioError)
  | .ok fileobj          =>
    match readAll fileobj.verifying with
    | none         => .error (.artifactMissing .ioError)
    | some content =>
      if sha256 content ≠ expectedSha256 then .error .artifactIntegrity
      else if fileobj.seeks = true then .ok fileobj
      else .error .osError

end

/-! ## The body -/

/-- `_stream()`: not begun, or suspended at its `yield` with what it has sent. -/
inductive Generator
  | created (reads : List Read)
  | suspended (bytesSent : Nat) (reads : List Read)

def Generator.bytesSent : Generator → Nat
  | .created _             => 0
  | .suspended bytesSent _ => bytesSent

def Generator.reads : Generator → List Read
  | .created reads     => reads
  | .suspended _ reads => reads

/-- How a pull ends. -/
inductive Resumed
  | yields (chunk : Bytes) (gen : Generator)
  | returns (bytesSent : Nat)
  | raises (bytesSent : Nat)

def Generator.next (gen : Generator) : Resumed :=
  match gen.reads with
  | []                => .returns gen.bytesSent
  | .chunk c :: reads => .yields c.bytes (.suspended (gen.bytesSent + c.bytes.length) reads)
  | .osError :: _     => .raises gen.bytesSent

/-- `close()`: the bytes sent when `finally` runs; the body of a generator that was not begun never does. -/
def Generator.close : Generator → Option Nat
  | .created _             => none
  | .suspended bytesSent _ => some bytesSent

/-! ## The attempts -/

/-- The columns of the run's row that the endpoint reads. -/
structure ArtifactRun where
  id              : RunId
  status          : ApprovalStatus
  outputFilePath  : Path
  outputSha256    : String
  outputDeletedAt : Option Time

/-- A request, and what the file system answers it.  Its commit expires the run, so the header's status is read again. -/
structure Attempt where
  organizationId   : OrganizationId
  userId           : UserId
  artifactType     : ArtifactType
  run              : ArtifactRun
  openFile         : Path → Except OpenError FileObj
  statusAtResponse : ApprovalStatus

/-- What an attempt came to: an answer, an exception nothing catches, or a body sent to its end or broken off. -/
inductive Ending
  | answered (exc : HTTPException)
  | unhandled
  | sent
  | broken
deriving DecidableEq

/-- The headers of the response. -/
structure StreamingResponse where
  filename      : String
  contentLength : Nat
  runStatus     : ApprovalStatus
deriving DecidableEq

inductive Phase
  | requested
  | started (path : Path)
  | streaming (response : StreamingResponse) (gen : Generator)
  | ended (ending : Ending)

/-- The committed rows and the attempts, each by the id it draws for its row; beside them, what each attempt yielded and
how often it finalized a row. -/
structure World where
  events    : List ArtifactDownloadEvent
  phase     : EventId → Phase
  yielded   : EventId → Bytes
  finalized : EventId → Nat
  now       : Time

def World.initial (now : Time) : World := ⟨[], fun _ => .requested, fun _ => [], fun _ => 0, now⟩

inductive Action
  | request
  | verify
  | pull
  | drop
  | tick
deriving DecidableEq, Repr

def World.setPhase (w : World) (id : EventId) (phase : Phase) : World :=
  { w with phase := Function.update w.phase id phase }

def World.insert (w : World) (event : ArtifactDownloadEvent) : World := { w with events := w.events ++ [event] }

def World.finalize (w : World) (id : EventId) (f : Finalization) : World :=
  { w with
    events := finalizeDownloadEvent w.events id f w.now
    finalized := Function.update w.finalized id (w.finalized id + 1) }

def World.yield (w : World) (id : EventId) (chunk : Bytes) : World :=
  { w with yielded := Function.update w.yielded id (w.yielded id ++ chunk) }

/-- The row as the request creates it. -/
def Attempt.event (a : Attempt) (id : EventId) (outcome : Outcome) (completedAt : Option Time) :
    ArtifactDownloadEvent where
  id := id
  organizationId := a.organizationId
  artifactType := a.artifactType
  runId := a.run.id
  downloadedBy := a.userId
  runStatusAtRequest := a.run.status
  outcome := outcome
  completedAt := completedAt

def ArtifactType.value : ArtifactType → String
  | .cleaning        => "cleaning"
  | .standardization => "standardization"
  | .export          => "export"

def safeDownloadFilename (artifactType : ArtifactType) (runId : RunId) : String :=
  ArtifactType.value artifactType ++ "-" ++ toString runId ++ ".csv"

def notDownloadable (status : ApprovalStatus) : HTTPException :=
  ⟨409, "Cannot download an artifact with status '" ++ status.value ++ "'"⟩
def gone : HTTPException := ⟨410, "Artifact no longer available"⟩
def notFound : HTTPException := ⟨404, "Artifact not found"⟩
def integrityFailed : HTTPException := ⟨500, "Artifact integrity verification failed; download refused"⟩
def notPrepared : HTTPException := ⟨500, "Artifact could not be prepared for download"⟩

section
variable (sha256 : Bytes → String) (resolve : Path → Option Path) (settings : Settings) (attempts : EventId → Attempt)

/-- `_download_artifact` up to the commit of its row. -/
def World.request (w : World) (id : EventId) : World :=
  let a := attempts id
  if a.run.status ≠ .approved ∧ a.run.status ≠ .rolledBack then
    w.setPhase id (.ended (.answered (notDownloadable a.run.status)))
  else if a.run.outputDeletedAt.isSome then
    (w.insert (a.event id .purged (some w.now))).setPhase id (.ended (.answered gone))
  else
    match resolveArtifactPath resolve (tenantRoot settings a.artifactType a.organizationId) a.run.outputFilePath with
    | .error .artifactPathError => w.setPhase id (.ended (.answered notFound))
    | .error .other             => w.setPhase id (.ended .unhandled)
    | .ok path                  => (w.insert (a.event id .started none)).setPhase id (.started path)

/-- `_download_artifact` from there to its response. -/
def World.verify (w : World) (id : EventId) (path : Path) : World :=
  let a := attempts id
  match openVerifiedArtifact sha256 (a.openFile path) a.run.outputSha256 with
  | .error (.artifactMissing code) =>
    (w.finalize id { outcome := .fileMissing, failureReasonCode := some code }).setPhase id (.ended (.answered notFound))
  | .error .artifactIntegrity      =>
    (w.finalize id { outcome := .integrityFailed, failureReasonCode := some .hashMismatch }).setPhase id
      (.ended (.answered integrityFailed))
  | .error .osError                => w.setPhase id (.ended .unhandled)
  | .ok fileobj                    =>
    match fileobj.fstat with
    | none              =>
      (w.finalize id { outcome := .streamFailed, failureReasonCode := some .ioError,
                       verifiedSha256 := some a.run.outputSha256, bytesServed := some 0 }).setPhase id
        (.ended (.answered notPrepared))
    | some verifiedSize =>
      w.setPhase id (.streaming ⟨safeDownloadFilename a.artifactType a.run.id, verifiedSize, a.statusAtResponse⟩
        (.created fileobj.streaming))

/-- The `finally` of `_stream`. -/
def World.finish (w : World) (id : EventId) (completed : Bool) (bytesSent : Nat) : World :=
  (w.finalize id
    { outcome := if completed then .completed else .streamFailed
      failureReasonCode := if completed then none else some .streamInterrupted
      verifiedSha256 := some (attempts id).run.outputSha256
      bytesServed := some bytesSent }).setPhase id (.ended (if completed then .sent else .broken))

/-- The server asks the body for its next chunk. -/
def World.pull (w : World) (id : EventId) (response : StreamingResponse) (gen : Generator) : World :=
  match gen.next with
  | .yields chunk gen'  => (w.yield id chunk).setPhase id (.streaming response gen')
  | .returns bytesSent  => w.finish attempts id true bytesSent
  | .raises bytesSent   => w.finish attempts id false bytesSent

/-- The server drops the body of a client that is gone. -/
def World.drop (w : World) (id : EventId) (gen : Generator) : World :=
  match gen.close with
  | none           => w.setPhase id (.ended .broken)
  | some bytesSent => w.finish attempts id false bytesSent

/-- One step of one attempt; one that is not there to be taken changes nothing. -/
def step (w : World) (l : EventId × Action) : World :=
  match l.2, w.phase l.1 with
  | .request, .requested              => w.request resolve settings attempts l.1
  | .verify, .started path            => w.verify sha256 attempts l.1 path
  | .pull, .streaming response gen    => w.pull attempts l.1 response gen
  | .drop, .streaming _ gen           => w.drop attempts l.1 gen
  | .tick, _                          => { w with now := w.now + 1 }
  | _, _                              => w

/-! ## What an attempt is accountable for -/

/-- The rows an attempt has. -/
def World.rows (w : World) (id : EventId) : List ArtifactDownloadEvent := w.events.filter (fun e => e.id = id)

/-- The downloadable-state, purge and containment checks pass. -/
def Authorized (a : Attempt) : Prop :=
  (a.run.status = .approved ∨ a.run.status = .rolledBack) ∧ a.run.outputDeletedAt = none ∧
    ∃ path, resolveArtifactPath resolve (tenantRoot settings a.artifactType a.organizationId)
      a.run.outputFilePath = .ok path

/-- The file opens and is read to its end, and its bytes have the recorded hash. -/
def HashMatches (a : Attempt) (fileobj : FileObj) (path : Path) : Prop :=
  a.openFile path = .ok fileobj ∧ ∃ content, readAll fileobj.verifying = some content ∧ sha256 content = a.run.outputSha256

/-- One row, in a terminal outcome that was written once, with the bytes the body yielded. -/
structure Accounted (rows : List ArtifactDownloadEvent) (yielded : Bytes) (finalized : Nat) : Prop where
  row  : ∃ e, rows = [e] ∧ e.outcome ≠ .started ∧ e.bytesServed = yielded.length
  once : finalized = 1

/-- **Every attempt that is over is accounted for, and none yielded a byte of a file whose hash did not match.** -/
structure AllAccounted (w : World) : Prop where
  ended    : ∀ id ending, w.phase id = .ended ending → Authorized resolve settings (attempts id) →
    Accounted (w.rows id) (w.yielded id) (w.finalized id)
  verified : ∀ id, w.yielded id ≠ [] → ∃ fileobj path, HashMatches sha256 (attempts id) fileobj path

/-- The rewind of a file whose hash matched does not fail, and a client stays until its body is pulled once. -/
def KeepsTrack (w : World) (l : EventId × Action) : Prop :=
  (∀ path fileobj, l.2 = .verify → w.phase l.1 = .started path →
    HashMatches sha256 (attempts l.1) fileobj path → fileobj.seeks = true) ∧
  ∀ response reads, l.2 = .drop → w.phase l.1 ≠ .streaming response (.created reads)

end
end Download
end DataOps

import Mathlib.Algebra.Order.Ring.Rat
import Mathlib.Data.Prod.Lex
import DataOps.ApiApprovals
import DataOps.DownloadArtifacts
import DataOps.LibRelations
import DataOps.LibText
import DataOps.MatchEngine
import DataOps.WorkerTable
/-!
# ReviewQueue — the query behind the review queue

Nine branches, each of one organization, in one union; the filters and the search over the union; one query for a page and
one for the counts.  A database is what its constraints allow, so a join on an id alone meets the row the tenant foreign
key names.  `FetchReviewQueue` holds of every page the two queries may return.
-/
namespace DataOps
namespace ReviewQueue

open Api (ApprovalStatus OrganizationId Time)
open Relations (partner)

abbrev Id := Nat

/-! ## The tables -/

structure DataSourceRow where
  organizationId : OrganizationId
  id             : Id
  name           : Str

structure TaskRow where
  organizationId : OrganizationId
  id             : Id
  dataSourceId   : Option Id
  name           : Str

structure TaskRunRow where
  organizationId : OrganizationId
  id             : Id
  taskId         : Id
  status         : Worker.TaskRunStatus
  errorMessage   : Option Str
  createdAt      : Time

/-- A row of `export_runs`, and what the rows of the other three run tables share with it. -/
structure RunRow where
  organizationId : OrganizationId
  id             : Id
  taskId         : Id
  taskRunId      : Id
  dataSourceId   : Id
  status         : ApprovalStatus
  createdAt      : Time

/-- A row of `cleaning_runs`, `standardization_runs` or `match_runs`. -/
structure ScoredRunRow extends RunRow where
  confidenceScore : ℚ

structure MatchDecisionRow where
  organizationId  : OrganizationId
  id              : Id
  matchRunId      : Id
  decision        : Matching.DecisionLabel
  confidenceScore : ℚ
  reason          : Str
  createdAt       : Time

structure ArtifactDownloadEventRow where
  organizationId       : OrganizationId
  id                   : Id
  cleaningRunId        : Option Id
  standardizationRunId : Option Id
  exportRunId          : Option Id
  outcome              : Download.Outcome
  failureReasonCode    : Option Str
  createdAt            : Time

structure Tables where
  dataSources            : List DataSourceRow
  tasks                  : List TaskRow
  taskRuns               : List TaskRunRow
  cleaningRuns           : List ScoredRunRow
  standardizationRuns    : List ScoredRunRow
  matchRuns              : List ScoredRunRow
  exportRuns             : List RunRow
  matchDecisions         : List MatchDecisionRow
  artifactDownloadEvents : List ArtifactDownloadEventRow

/-- The ids of all rows. -/
def Tables.ids (db : Tables) : List Id :=
  db.dataSources.map (·.id) ++ db.tasks.map (·.id) ++ db.taskRuns.map (·.id) ++ db.cleaningRuns.map (·.id) ++
    db.standardizationRuns.map (·.id) ++ db.matchRuns.map (·.id) ++ db.exportRuns.map (·.id) ++
    db.matchDecisions.map (·.id) ++ db.artifactDownloadEvents.map (·.id)

/-- The composite foreign keys of a run. -/
structure RunRow.References (db : Tables) (r : RunRow) : Prop where
  task       : ∃ t ∈ db.tasks, t.organizationId = r.organizationId ∧ t.id = r.taskId
  taskRun    : ∃ t ∈ db.taskRuns, t.organizationId = r.organizationId ∧ t.id = r.taskRunId
  dataSource : ∃ s ∈ db.dataSources, s.organizationId = r.organizationId ∧ s.id = r.dataSourceId

/-- `ck_artifact_download_events_exactly_one_run_ref`. -/
def ArtifactDownloadEventRow.ExactlyOneRunRef (e : ArtifactDownloadEventRow) : Prop :=
  (if e.cleaningRunId.isSome then 1 else 0) + (if e.standardizationRunId.isSome then 1 else 0) +
    (if e.exportRunId.isSome then 1 else 0) = 1

/-- What the tables' constraints promise.  Every id is drawn by `uuid.uuid4`, which repeats none. -/
structure Database extends Tables where
  ids_nodup      : toTables.ids.Nodup
  tasks_ref      : ∀ t ∈ tasks, ∀ id, t.dataSourceId = some id →
    ∃ s ∈ dataSources, s.organizationId = t.organizationId ∧ s.id = id
  taskRuns_ref   : ∀ r ∈ taskRuns, ∃ t ∈ tasks, t.organizationId = r.organizationId ∧ t.id = r.taskId
  cleaning_ref   : ∀ r ∈ cleaningRuns, r.References toTables
  standardization_ref : ∀ r ∈ standardizationRuns, r.References toTables
  match_ref      : ∀ r ∈ matchRuns, r.References toTables
  export_ref     : ∀ r ∈ exportRuns, r.References toTables
  decisions_ref  : ∀ d ∈ matchDecisions, ∃ r ∈ matchRuns, r.organizationId = d.organizationId ∧ r.id = d.matchRunId
  events_cleaning : ∀ e ∈ artifactDownloadEvents, ∀ id, e.cleaningRunId = some id →
    ∃ r ∈ cleaningRuns, r.organizationId = e.organizationId ∧ r.id = id
  events_standardization : ∀ e ∈ artifactDownloadEvents, ∀ id, e.standardizationRunId = some id →
    ∃ r ∈ standardizationRuns, r.organizationId = e.organizationId ∧ r.id = id
  events_export  : ∀ e ∈ artifactDownloadEvents, ∀ id, e.exportRunId = some id →
    ∃ r ∈ exportRuns, r.organizationId = e.organizationId ∧ r.id = id
  events_one_ref : ∀ e ∈ artifactDownloadEvents, e.ExactlyOneRunRef

/-! ## The union -/

inductive ReviewCategory
  | processing | matching | export | download | system
deriving DecidableEq, Repr

inductive ReviewType
  | pendingReview | failed | ambiguous | integrityFailure
deriving DecidableEq, Repr

structure Item where
  organizationId  : OrganizationId
  referenceId     : Id
  taskId          : Id
  taskRunId       : Id
  dataSourceId    : Option Id
  reviewCategory  : ReviewCategory
  reviewType      : ReviewType
  source          : String
  label           : String
  confidenceScore : Option ℚ
  reason          : Option Str
  createdAt       : Time
deriving DecidableEq

/-- Branches 1 to 4; `confidenceScore` is the column, where the table has it. -/
def pendingReviewBranch {ρ : Type} (run : ρ → RunRow) (confidenceScore : ρ → Option ℚ) (rows : List ρ)
    (category : ReviewCategory) (source label : String) (organizationId : OrganizationId) : List Item :=
  (rows.filter (fun r => (run r).organizationId = organizationId ∧ (run r).status = .pendingReview)).map (fun r =>
    { organizationId := (run r).organizationId
      referenceId := (run r).id
      taskId := (run r).taskId
      taskRunId := (run r).taskRunId
      dataSourceId := some (run r).dataSourceId
      reviewCategory := category
      reviewType := .pendingReview
      source := source
      label := label
      confidenceScore := confidenceScore r
      reason := none
      createdAt := (run r).createdAt })

def ambiguousItem (d : MatchDecisionRow) (r : ScoredRunRow) : Item where
  organizationId := d.organizationId
  referenceId := d.id
  taskId := r.taskId
  taskRunId := r.taskRunId
  dataSourceId := some r.dataSourceId
  reviewCategory := .matching
  reviewType := .ambiguous
  source := "match_decision"
  label := "Ambiguous Match Decision"
  confidenceScore := some d.confidenceScore
  reason := some d.reason
  createdAt := d.createdAt

/-- Branch 5. -/
def ambiguousMatchDecisionBranch (db : Tables) (organizationId : OrganizationId) : List Item :=
  ((Relations.join (fun (d : MatchDecisionRow) (r : ScoredRunRow) => r.id = d.matchRunId) db.matchDecisions
    db.matchRuns).filter (fun p => p.1.organizationId = organizationId ∧ p.1.decision = .ambiguous)).map
      (fun p => ambiguousItem p.1 p.2)

def failedItem (r : TaskRunRow) (t : TaskRow) : Item where
  organizationId := r.organizationId
  referenceId := r.id
  taskId := r.taskId
  taskRunId := r.id
  dataSourceId := t.dataSourceId
  reviewCategory := .system
  reviewType := .failed
  source := "task_run"
  label := "Failed Processing Run"
  confidenceScore := none
  reason := r.errorMessage
  createdAt := r.createdAt

/-- Branch 6. -/
def failedTaskRunBranch (db : Tables) (organizationId : OrganizationId) : List Item :=
  ((Relations.join (fun (r : TaskRunRow) (t : TaskRow) => t.id = r.taskId) db.taskRuns db.tasks).filter
    (fun p => p.1.organizationId = organizationId ∧ p.1.status = .failed)).map (fun p => failedItem p.1 p.2)

def downloadFailureItem (e : ArtifactDownloadEventRow) (r : RunRow) : Item where
  organizationId := e.organizationId
  referenceId := e.id
  taskId := r.taskId
  taskRunId := r.taskRunId
  dataSourceId := some r.dataSourceId
  reviewCategory := .download
  reviewType := if e.outcome = .integrityFailed then .integrityFailure else .failed
  source := "artifact_download_event"
  label := if e.outcome = .integrityFailed then "Artifact Integrity Verification Failed" else "Artifact Delivery Failed"
  confidenceScore := none
  reason := e.failureReasonCode
  createdAt := e.createdAt

/-- Branches 7 to 9, one for each column that may name the artifact's run. -/
def artifactDownloadFailureBranch {ρ : Type} (runId : ArtifactDownloadEventRow → Option Id) (run : ρ → RunRow)
    (parents : List ρ) (events : List ArtifactDownloadEventRow) (organizationId : OrganizationId) : List Item :=
  ((Relations.join (fun (e : ArtifactDownloadEventRow) (r : ρ) => some (run r).id = runId e) events parents).filter
    (fun p => p.1.organizationId = organizationId ∧ (runId p.1).isSome ∧ p.1.outcome.isFailure)).map
      (fun p => downloadFailureItem p.1 (run p.2))

/-- `_build_union`. -/
def buildUnion (db : Tables) (organizationId : OrganizationId) : List Item :=
  pendingReviewBranch ScoredRunRow.toRunRow (fun r => some r.confidenceScore) db.cleaningRuns .processing "cleaning_run"
      "Cleaning Run Awaiting Review" organizationId ++
    pendingReviewBranch ScoredRunRow.toRunRow (fun r => some r.confidenceScore) db.standardizationRuns .processing
      "standardization_run" "Standardization Run Awaiting Review" organizationId ++
    pendingReviewBranch ScoredRunRow.toRunRow (fun r => some r.confidenceScore) db.matchRuns .matching "match_run"
      "Match Run Awaiting Review" organizationId ++
    pendingReviewBranch id (fun _ => none) db.exportRuns .export "export_run" "Export Run Awaiting Review"
      organizationId ++
    ambiguousMatchDecisionBranch db organizationId ++
    failedTaskRunBranch db organizationId ++
    artifactDownloadFailureBranch (·.cleaningRunId) ScoredRunRow.toRunRow db.cleaningRuns db.artifactDownloadEvents
      organizationId ++
    artifactDownloadFailureBranch (·.standardizationRunId) ScoredRunRow.toRunRow db.standardizationRuns
      db.artifactDownloadEvents organizationId ++
    artifactDownloadFailureBranch (·.exportRunId) id db.exportRuns db.artifactDownloadEvents organizationId

/-! ## Filters and search -/

/-- Text functions of the database and of Python. -/
structure Texts where
  -- SQL's `lower(s)` and `s LIKE pattern`
  lower : Str → Str
  like  : Str → Str → Bool
  -- `s.lower()` and `uuid.UUID(s)`
  strLower  : Str → Str
  parseUuid : Str → Option Id

structure ReviewQueueFilters where
  reviewCategory : Option (List ReviewCategory) := none
  reviewType     : Option (List ReviewType) := none
  source         : Option (List String) := none
  search         : Option Str := none

/-- `if values: column.in_(values)`. -/
def isIn {α : Type} [DecidableEq α] (values : Option (List α)) (column : α) : Bool :=
  match values with
  | none        => true
  | some values => values = [] ∨ column ∈ values

def ReviewQueueFilters.keeps (filters : ReviewQueueFilters) (i : Item) : Bool :=
  isIn filters.reviewCategory i.reviewCategory && isIn filters.reviewType i.reviewType && isIn filters.source i.source

/-- `filters.search.strip() if filters.search else ""`. -/
def ReviewQueueFilters.searchTerm (filters : ReviewQueueFilters) : Str := Str.strip (filters.search.getD [])

/-- `func.lower(name).contains(f"%{search_term.lower()}%")`; `contains` puts its own `%` on both sides. -/
def nameLike (texts : Texts) (searchTerm name : Str) : Bool :=
  texts.like (texts.lower name) (['%'] ++ (['%'] ++ texts.strLower searchTerm ++ ['%']) ++ ['%'])

/-- `_apply_filters`, on the rows of the union; a name that the outer joins leave null is like nothing. -/
def applyFilters (texts : Texts) (db : Tables) (filters : ReviewQueueFilters) (rq : List Item) : List Item :=
  if filters.searchTerm = [] then rq.filter filters.keeps
  else
    match texts.parseUuid filters.searchTerm with
    | some termUuid => rq.filter (fun i => filters.keeps i ∧ (i.taskId = termUuid ∨ i.referenceId = termUuid))
    | none =>
      ((Relations.leftOuterJoin (fun (p : Item × Option TaskRow) (s : DataSourceRow) => some s.id = p.1.dataSourceId)
        (Relations.leftOuterJoin (fun (i : Item) (t : TaskRow) => t.id = i.taskId) rq db.tasks) db.dataSources).filter
          (fun p => filters.keeps p.1.1 ∧
            (p.1.2.any (fun t => nameLike texts filters.searchTerm t.name) ∨
              p.2.any (fun s => nameLike texts filters.searchTerm s.name)))).map (fun p => p.1.1)

/-! ## The page and the counts -/

inductive SortOption
  | createdAt | confidenceScore
deriving DecidableEq, Repr

/-- `CASE WHEN confidence_score IS NULL THEN 1 ELSE 0 END`. -/
def Item.nullScore (i : Item) : Nat := if i.confidenceScore = none then 1 else 0

/-- The `ORDER BY`; no null score comes before another. -/
def orderBy (sort : SortOption) (i j : Item) : Prop :=
  match sort with
  | .confidenceScore => toLex (i.nullScore, toLex (i.confidenceScore.getD 0, i.referenceId)) ≤
      toLex (j.nullScore, toLex (j.confidenceScore.getD 0, j.referenceId))
  | .createdAt => toLex (i.createdAt, i.referenceId) ≤ toLex (j.createdAt, j.referenceId)

structure ReviewQueueSummary where
  totalItems       : Nat
  pendingReviews   : Nat
  ambiguousMatches : Nat
  failedRuns       : Nat
  downloadFailures : Nat
deriving DecidableEq, Repr

structure ReviewQueuePage where
  items   : List Item
  total   : Nat
  summary : ReviewQueueSummary

/-- One row of the counts: category, type and count. -/
abbrev SummaryRow := (ReviewCategory × ReviewType) × Nat

def summaryStep (s : ReviewQueueSummary) (row : SummaryRow) : ReviewQueueSummary where
  totalItems := s.totalItems + row.2
  pendingReviews := if row.1.2 = .pendingReview then s.pendingReviews + row.2 else s.pendingReviews
  ambiguousMatches := if row.1.2 = .ambiguous then s.ambiguousMatches + row.2 else s.ambiguousMatches
  failedRuns := if row.1.1 = .system ∧ row.1.2 = .failed then s.failedRuns + row.2 else s.failedRuns
  downloadFailures := if row.1.1 = .download then s.downloadFailures + row.2 else s.downloadFailures

def summarize (summaryRows : List SummaryRow) : ReviewQueueSummary := summaryRows.foldl summaryStep ⟨0, 0, 0, 0, 0⟩

/-- The columns the counts are grouped by. -/
def Item.group (i : Item) : ReviewCategory × ReviewType := (i.reviewCategory, i.reviewType)

/-- `fetch_review_queue` may return `page`. -/
def FetchReviewQueue (texts : Texts) (db : Tables) (organizationId : OrganizationId) (filters : ReviewQueueFilters)
    (sort : SortOption) (limit offset : Nat) (page : ReviewQueuePage) : Prop :=
  Relations.Answers (orderBy sort) (applyFilters texts db filters (buildUnion db organizationId)) limit offset page.items ∧
    ∃ summaryRows, Relations.GroupedCounts
        ((applyFilters texts db filters (buildUnion db organizationId)).map Item.group) summaryRows ∧
      page.total = (summarize summaryRows).totalItems ∧ page.summary = summarize summaryRows

end ReviewQueue
end DataOps

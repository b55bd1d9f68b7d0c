import DataOps.ReadIsolation
/-!
# ReadPages — the filtered lists, page after page

Issues, remediation changes, validation results and findings are listed in an order that ends in the id; of skipped
blocks and of exclusions a run has one with each key it is ordered by.  So whatever the filters and the limit, the pages
of these lists are the slices of one arrangement of the rows, each with the whole count (`pages_complete`).
-/
namespace DataOps
namespace Reads

open Api (TaskId TaskRunId User HTTPException)
open AuditLogs (PaginatedResponse Limit)
open Schedule (bind_eq_ok)

variable {C : Type} {α β : Type}

/-- The lists whose order tells their rows apart, with the ids of a row and of an item. -/
inductive ExactOrder : {α β : Type} → ListRequest C α β → (α → RowId) → (β → RowId) → Prop
  | skippedBlocks (taskId : TaskId) (runId : TaskRunId) :
    ExactOrder (.listTaskRunMatchingSkippedBlocks taskId runId) (fun b => b.id) (fun b => b.id)
  | exclusions (taskId : TaskId) (runId : TaskRunId) (matchGroupId : Option RowId) :
    ExactOrder (.listTaskRunExportExclusions taskId runId matchGroupId) (fun e => e.id) (fun e => e.id)
  | issues (taskId : TaskId) (runId : TaskRunId) (filters : IssueFilters) :
    ExactOrder (.listTaskRunDetectionIssues taskId runId filters) (fun issue => issue.id) (fun issue => issue.id)
  | remediationChanges (taskId : TaskId) (runId : TaskRunId) (filters : RemediationChangeFilters) :
    ExactOrder (.listTaskRunRemediationChanges taskId runId filters) (fun change => change.id) (fun change => change.id)
  | validationResults (taskId : TaskId) (runId : TaskRunId) (filters : ValidationResultFilters) :
    ExactOrder (.listTaskRunValidationResults taskId runId filters) (fun result => result.id) (fun result => result.id)
  | qualityFindings (taskId : TaskId) (runId : TaskRunId) (filters : QualityFindingFilters) :
    ExactOrder (.listTaskRunQualityControlFindings taskId runId filters) (fun finding => finding.id)
      (fun finding => finding.id)

/-- A query that leaves no choice, and shows each row under its id. -/
structure Listing.Exact (q : Listing α β) (rowId : α → RowId) (itemId : β → RowId) : Prop where
  antisymm : ∀ a ∈ q.rows, ∀ b ∈ q.rows, q.before a b → q.before b a → a = b
  ids      : ∀ page items, q.present page items → items.map itemId = page.map rowId

/-- Rows whose keys differ are told apart by them. -/
theorem antisymm_of_key {κ : Type} [PartialOrder κ] {key : α → κ} {rows : List α}
    (h : ∀ a ∈ rows, ∀ b ∈ rows, key a = key b → a = b) :
    ∀ a ∈ rows, ∀ b ∈ rows, orderBy key a b → orderBy key b a → a = b :=
  fun a ha b hb hab hba => h a ha b hb (le_antisymm hab hba)

theorem Listing.Exact.plain {rows : List α} {before : α → α → Prop} (rowId : α → RowId)
    (h : ∀ a ∈ rows, ∀ b ∈ rows, before a b → before b a → a = b) : (Listing.plain rows before).Exact rowId rowId :=
  ⟨h, fun _ _ hitems => congrArg (List.map rowId) hitems⟩

/-- What a list keeps of a parent is of the parent, and in the table. -/
theorem mem_childRows {child : α → ChildRow C} {rows : List α} {parentId : RowId}
    {orgId : Api.OrganizationId} {keeps : α → Bool} {a : α} (h : a ∈ childRows child rows parentId orgId keeps) :
    a ∈ rows ∧ (child a).parentId = parentId :=
  ⟨(List.mem_filter.1 h).1, (of_decide_eq_true (List.mem_filter.1 h).2).1⟩

/-- With the column of their changes or without, the results are of the table. -/
theorem mem_validationResultsOf {db : Tables C} {currentUser : User} {run : ResultRow C}
    {filters : ValidationResultFilters} {result : ValidationResultRow C}
    (h : result ∈ validationResultsOf db currentUser run filters) :
    result ∈ db.validationResults := by
  unfold validationResultsOf at h
  split at h
  · obtain ⟨p, hp, rfl⟩ := List.mem_map.1 h
    obtain ⟨r, hr, hpair⟩ := List.mem_flatMap.1 (List.mem_filter.1 hp).1
    obtain ⟨c, -, rfl⟩ := List.mem_map.1 hpair
    exact hr
  · exact (mem_childRows h).1

/-- **The order of these lists leaves no ties**, by the keys of their tables. -/
theorem ExactOrder.exact {db : Tables C} (hdb : Constraints db) {currentUser : User}
    {request : ListRequest C α β} {rowId : α → RowId} {itemId : β → RowId}
    (h : ExactOrder request rowId itemId) {q : Listing α β} (hq : request.query db currentUser = .ok q) :
    q.Exact rowId itemId := by
  cases h with
  | skippedBlocks taskId runId =>
    obtain ⟨run, -, hq⟩ := bind_eq_ok hq
    cases hq
    refine .plain _ (antisymm_of_key (fun a ha b hb hkey => ?_))
    obtain ⟨ha, hparent⟩ := mem_childRows ha
    obtain ⟨hb, hparent'⟩ := mem_childRows hb
    exact List.inj_on_of_nodup_map hdb.skippedBlockKeys ha hb (Prod.ext (hparent.trans hparent'.symm) hkey)
  | exclusions taskId runId matchGroupId =>
    obtain ⟨run, -, hq⟩ := bind_eq_ok hq
    cases hq
    refine .plain _ (antisymm_of_key (fun a ha b hb hkey => ?_))
    obtain ⟨ha, hparent⟩ := mem_childRows ha
    obtain ⟨hb, hparent'⟩ := mem_childRows hb
    exact List.inj_on_of_nodup_map hdb.exclusionKeys ha hb (Prod.ext (hparent.trans hparent'.symm) hkey)
  | issues taskId runId filters =>
    obtain ⟨run, -, hq⟩ := bind_eq_ok hq
    obtain ⟨_, -, hq⟩ := bind_eq_ok hq
    obtain ⟨_, -, hq⟩ := bind_eq_ok hq
    cases hq
    refine ⟨antisymm_of_key (fun a ha b hb hkey => ?_), ?_⟩
    · exact List.inj_on_of_nodup_map hdb.issueKeys (mem_childRows ha).1 (mem_childRows hb).1
        (Prod.ext_iff.1 (toLex.injective hkey)).2
    · rintro page _ rfl
      rw [List.map_map]
      rfl
  | remediationChanges taskId runId filters =>
    obtain ⟨found, -, hq⟩ := bind_eq_ok hq
    obtain ⟨_, -, hq⟩ := bind_eq_ok hq
    cases hq
    refine ⟨antisymm_of_key (fun a ha b hb hkey => ?_), ?_⟩
    · exact List.inj_on_of_nodup_map hdb.changeKeys (mem_childRows ha).1 (mem_childRows hb).1
        (Prod.ext_iff.1 (toLex.injective hkey)).2
    · rintro page _ ⟨out, -, rfl⟩
      rw [List.map_map]
      rfl
  | validationResults taskId runId filters =>
    obtain ⟨found, -, hq⟩ := bind_eq_ok hq
    obtain ⟨_, -, hq⟩ := bind_eq_ok hq
    obtain ⟨_, -, hq⟩ := bind_eq_ok hq
    cases hq
    refine .plain _ (antisymm_of_key (fun a ha b hb hkey => ?_))
    exact List.inj_on_of_nodup_map hdb.resultKeys (mem_validationResultsOf ha) (mem_validationResultsOf hb)
      (Prod.ext_iff.1 (toLex.injective hkey)).2
  | qualityFindings taskId runId filters =>
    obtain ⟨found, -, hq⟩ := bind_eq_ok hq
    obtain ⟨_, -, hq⟩ := bind_eq_ok hq
    obtain ⟨_, -, hq⟩ := bind_eq_ok hq
    obtain ⟨_, -, hq⟩ := bind_eq_ok hq
    cases hq
    refine .plain _ (antisymm_of_key (fun a ha b hb hkey => ?_))
    exact List.inj_on_of_nodup_map hdb.findingKeys (mem_childRows ha).1 (mem_childRows hb).1
      (Prod.ext_iff.1 (toLex.injective hkey)).2

/-- **The first pages of a filtered list are its first rows**: each row once, in one order, whichever way each page's
query is answered, and every page tells the whole count. -/
theorem pages_complete {db : Tables C} (hdb : Constraints db) (currentUser : User) {request : ListRequest C α β}
    {rowId : α → RowId} {itemId : β → RowId}
    (horder : ExactOrder request rowId itemId) (limit : Limit) (pages : Nat → PaginatedResponse β)
    (hpages : ∀ k, Lists db currentUser request ⟨limit, k * limit.val⟩ (.ok (pages k))) :
    ∃ (q : Listing α β) (sorted : List α), request.query db currentUser = .ok q ∧ sorted.Perm q.rows ∧
      sorted.Pairwise q.before ∧ (∀ k, (pages k).total = sorted.length) ∧
      ∀ n, (Pages.concatenated (fun k => (pages k).items) n).map itemId = (sorted.take (n * limit.val)).map rowId := by
  obtain ⟨q, hq, ⟨_, ⟨sorted, hperm, hsorted, -⟩, -⟩, -⟩ := hpages 0
  have hexact := horder.exact hdb hq
  -- each page is the slice of the one arrangement
  have hslice : ∀ k, (pages k).total = sorted.length ∧
      (pages k).items.map itemId = ((sorted.drop (k * limit.val)).take limit.val).map rowId := by
    intro k
    obtain ⟨q', hq', ⟨page, hpage, hitems⟩, htotal, -⟩ := hpages k
    obtain rfl : q = q' := by rw [hq] at hq'; exact Except.ok.inj hq'
    refine ⟨htotal.trans hperm.length_eq.symm, ?_⟩
    rw [hexact.ids page _ hitems, hpage.unique hexact.antisymm hperm hsorted]
  refine ⟨q, sorted, hq, hperm, hsorted, fun k => (hslice k).1, fun n => ?_⟩
  unfold Pages.concatenated
  rw [List.map_flatMap, List.flatMap_congr (fun k _ => (hslice k).2), ← List.map_flatMap, Relations.flatMap_pages]

/-- Four issues, three of them of one severity and of these two on one row. -/
def fourIssues : Tables Unit :=
  { validated 1 "email" with
    issueDetectionRuns := [⟨⟨⟨11, 1, 0, ()⟩, 5, 3⟩, 4, none⟩]
    issues := [(43, 2, .low), (41, 2, .low), (44, 2, .info), (42, 1, .low)].map (fun (id, rowNumber, severity) =>
      ⟨⟨⟨id, 1, 0, ()⟩, 11⟩, rowNumber, some "email".toList, .trailingWhitespace, severity⟩) }

/-- Those of low severity. -/
def lowIssues : ListRequest Unit (IssueRow Unit) (IssueRead Unit) :=
  .listTaskRunDetectionIssues 3 5 { severity := some "LOW".toList }

def sortedIssues : List (IssueRow Unit) := [(42, 1), (41, 2), (43, 2)].map (fun (id, rowNumber) =>
  ⟨⟨⟨id, 1, 0, ()⟩, 11⟩, rowNumber, some "email".toList, .trailingWhitespace, .low⟩)

/-- In pages of two. -/
def issuesPage (k : Nat) : PaginatedResponse (IssueRead Unit) :=
  ⟨((sortedIssues.drop (k * 2)).take 2).map (fun issue => ⟨issue, 4⟩), 3, 2, k * 2⟩

theorem fourIssues_constraints : Constraints fourIssues := by
  constructor <;> simp [fourIssues, validated]

theorem fourIssues_lists (k : Nat) : Lists fourIssues caller lowIssues ⟨⟨2, by decide⟩, k * 2⟩ (.ok (issuesPage k)) := by
  refine ⟨_, rfl, ⟨_, ⟨sortedIssues, ?_, ?_, rfl⟩, rfl⟩, rfl, rfl, rfl⟩
  · exact ((List.Perm.swap _ _ _).trans (.cons _ (List.Perm.swap _ _ _))).trans (.swap _ _ _)
  · simp [sortedIssues, orderBy, Prod.Lex.toLex_le_toLex]

/-- The first two pages: three issues, of which the last two are on one row. -/
theorem pages_complete_issues : ∃ (q : Listing (IssueRow Unit) (IssueRead Unit)) (sorted : List (IssueRow Unit)),
    lowIssues.query fourIssues caller = .ok q ∧ sorted.Perm q.rows ∧ sorted.Pairwise q.before ∧ 3 = sorted.length ∧
      [42, 41, 43] = (sorted.take 4).map (fun issue => issue.id) := by
  obtain ⟨q, sorted, hq, hperm, hsorted, htotal, hall⟩ :=
    pages_complete fourIssues_constraints caller (.issues 3 5 { severity := some "LOW".toList }) ⟨2, by decide⟩ issuesPage
      fourIssues_lists
  exact ⟨q, sorted, hq, hperm, hsorted, htotal 0, hall 2⟩

end Reads
end DataOps

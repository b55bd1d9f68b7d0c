import DataOps.ReviewQueueRows
/-!
# ReviewQueuePages — the pages and the summary partition the queue

The reference id of an item is the last key of either order, and no two items share it: the queue has one sorted
arrangement, every page is a slice of it, and the counts by group add up to it.
-/
namespace DataOps
namespace ReviewQueue

open Api (OrganizationId ApprovalStatus)
open Relations (partner)

/-! ## The order -/

instance (sort : SortOption) : DecidableRel (orderBy sort) := fun i j =>
  match sort with
  | .confidenceScore => inferInstanceAs (Decidable (toLex (i.nullScore, toLex (i.confidenceScore.getD 0, i.referenceId)) ≤
      toLex (j.nullScore, toLex (j.confidenceScore.getD 0, j.referenceId))))
  | .createdAt => inferInstanceAs (Decidable (toLex (i.createdAt, i.referenceId) ≤ toLex (j.createdAt, j.referenceId)))

theorem orderBy_total (sort : SortOption) (i j : Item) : orderBy sort i j ∨ orderBy sort j i := by
  cases sort
  · exact le_total (α := ℕ ×ₗ ℕ) _ _
  · exact le_total (α := ℕ ×ₗ ℚ ×ₗ ℕ) _ _

theorem orderBy_trans {sort : SortOption} {i j k : Item} (h : orderBy sort i j) (h' : orderBy sort j k) :
    orderBy sort i k := by
  cases sort
  · exact le_trans (α := ℕ ×ₗ ℕ) h h'
  · exact le_trans (α := ℕ ×ₗ ℚ ×ₗ ℕ) h h'

/-- Neither order leaves two references untold. -/
theorem orderBy_antisymm {sort : SortOption} {i j : Item} (h : orderBy sort i j) (h' : orderBy sort j i) :
    i.referenceId = j.referenceId := by
  cases sort
  · exact congrArg (fun k : ℕ ×ₗ ℕ => (ofLex k).2) (le_antisymm (α := ℕ ×ₗ ℕ) h h')
  · exact congrArg (fun k : ℕ ×ₗ ℚ ×ₗ ℕ => (ofLex (ofLex k).2).2) (le_antisymm (α := ℕ ×ₗ ℚ ×ₗ ℕ) h h')

/-- What the order is documented to be: oldest first, or lowest score first and nulls last; ties by reference id. -/
def DocumentedOrder (sort : SortOption) (i j : Item) : Prop :=
  match sort with
  | .createdAt => i.createdAt < j.createdAt ∨ i.createdAt = j.createdAt ∧ i.referenceId < j.referenceId
  | .confidenceScore =>
    match i.confidenceScore, j.confidenceScore with
    | some a, some b => a < b ∨ a = b ∧ i.referenceId < j.referenceId
    | some _, none   => True
    | none, some _   => False
    | none, none     => i.referenceId < j.referenceId

theorem documentedOrder_of_orderBy {sort : SortOption} {i j : Item} (h : orderBy sort i j)
    (hne : i.referenceId ≠ j.referenceId) : DocumentedOrder sort i j := by
  cases sort with
  | createdAt =>
    rcases Prod.Lex.toLex_le_toLex.1 h with hlt | ⟨heq, hle⟩
    · exact .inl hlt
    · exact .inr ⟨heq, lt_of_le_of_ne hle hne⟩
  | confidenceScore =>
    have hcases := Prod.Lex.toLex_le_toLex.1 h
    unfold DocumentedOrder Item.nullScore at *
    cases hi : i.confidenceScore with
    | none =>
      cases hj : j.confidenceScore with
      | none =>
        rw [hi, hj] at hcases
        rcases hcases with hlt | ⟨-, hle⟩
        · exact absurd hlt (lt_irrefl _)
        · rcases Prod.Lex.toLex_le_toLex.1 hle with hlt | ⟨-, hle⟩
          · exact absurd hlt (lt_irrefl _)
          · exact lt_of_le_of_ne hle hne
      | some b =>
        rw [hi, hj] at hcases
        rcases hcases with hlt | ⟨heq, -⟩
        · exact absurd hlt (by simp)
        · exact absurd heq (by simp)
    | some a =>
      cases hj : j.confidenceScore with
      | none => trivial
      | some b =>
        rw [hi, hj] at hcases
        rcases hcases with hlt | ⟨-, hle⟩
        · exact absurd hlt (lt_irrefl _)
        · rcases Prod.Lex.toLex_le_toLex.1 hle with hlt | ⟨heq, hle⟩
          · exact .inl hlt
          · exact .inr ⟨heq, lt_of_le_of_ne hle hne⟩

/-! ## The counts -/

inductive SummaryCount
  | pendingReviews | ambiguousMatches | failedRuns | downloadFailures
deriving DecidableEq, Repr

def ReviewQueueSummary.count (s : ReviewQueueSummary) : SummaryCount → Nat
  | .pendingReviews   => s.pendingReviews
  | .ambiguousMatches => s.ambiguousMatches
  | .failedRuns       => s.failedRuns
  | .downloadFailures => s.downloadFailures

/-- Whether a count takes a group. -/
def SummaryCount.takes : SummaryCount → ReviewCategory × ReviewType → Bool
  | .pendingReviews, g   => g.2 = .pendingReview
  | .ambiguousMatches, g => g.2 = .ambiguous
  | .failedRuns, g       => g.1 = .system ∧ g.2 = .failed
  | .downloadFailures, g => g.1 = .download

theorem summaryStep_fold (rows : List SummaryRow) (s : ReviewQueueSummary) :
    (rows.foldl summaryStep s).totalItems = s.totalItems + Relations.countGroups (fun _ => true) rows ∧
      ∀ c, (rows.foldl summaryStep s).count c = s.count c + Relations.countGroups c.takes rows := by
  induction rows generalizing s with
  | nil => exact ⟨rfl, fun c => rfl⟩
  | cons row rows ih =>
    obtain ⟨htotal, hcount⟩ := ih (summaryStep s row)
    rw [List.foldl_cons, Relations.countGroups]
    refine ⟨?_, fun c => ?_⟩
    · rw [htotal, if_pos rfl, summaryStep, Nat.add_assoc]
    · rw [hcount, Relations.countGroups, ← Nat.add_assoc]
      congr 1
      cases c <;> simp only [summaryStep, ReviewQueueSummary.count, SummaryCount.takes,
        decide_eq_true_eq] <;> split <;> rfl

/-- **The counts are of the items.** -/
theorem summarize_counts {items : List Item} {rows : List SummaryRow}
    (h : Relations.GroupedCounts (items.map Item.group) rows) :
    (summarize rows).totalItems = items.length ∧
      ∀ c, (summarize rows).count c = items.countP (fun i => c.takes i.group) := by
  obtain ⟨htotal, hcount⟩ := summaryStep_fold rows ⟨0, 0, 0, 0, 0⟩
  unfold summarize
  refine ⟨?_, fun c => ?_⟩
  · rw [htotal, h.countGroups_eq, List.countP_true, List.length_map, Nat.zero_add]
  · rw [hcount, h.countGroups_eq, List.countP_map]
    cases c <;> exact Nat.zero_add _

theorem ReviewQueueSummary.ext_counts {s s' : ReviewQueueSummary} (htotal : s.totalItems = s'.totalItems)
    (hcount : ∀ c, s.count c = s'.count c) : s = s' := by
  obtain ⟨t, p, a, f, d⟩ := s
  obtain ⟨t', p', a', f', d'⟩ := s'
  obtain rfl : t = t' := htotal
  obtain rfl : p = p' := hcount .pendingReviews
  obtain rfl : a = a' := hcount .ambiguousMatches
  obtain rfl : f = f' := hcount .failedRuns
  obtain rfl : d = d' := hcount .downloadFailures
  rfl

theorem mem_pendingReviewBranch_group {ρ : Type} {run : ρ → RunRow} {confidenceScore : ρ → Option ℚ} {rows : List ρ}
    {category : ReviewCategory} {source label : String} {organizationId : OrganizationId} {i : Item}
    (h : i ∈ pendingReviewBranch run confidenceScore rows category source label organizationId) :
    i.reviewType = .pendingReview ∧ i.reviewCategory = category := by
  obtain ⟨r, -, rfl⟩ := List.mem_map.1 h
  exact ⟨rfl, rfl⟩

/-- The groups of the union. -/
theorem mem_buildUnion_group {db : Tables} {organizationId : OrganizationId} {i : Item}
    (h : i ∈ buildUnion db organizationId) :
    i.reviewType = .pendingReview ∧ i.reviewCategory ≠ .system ∧ i.reviewCategory ≠ .download ∨
      i.group = (.matching, .ambiguous) ∨ i.group = (.system, .failed) ∨
      i.reviewCategory = .download ∧ (i.reviewType = .integrityFailure ∨ i.reviewType = .failed) := by
  unfold buildUnion at h
  simp only [List.mem_append, or_assoc] at h
  rcases h with h | h | h | h | h | h | h
  · obtain ⟨htype, hcategory⟩ := mem_pendingReviewBranch_group h
    exact .inl ⟨htype, by rw [hcategory]; decide, by rw [hcategory]; decide⟩
  · obtain ⟨htype, hcategory⟩ := mem_pendingReviewBranch_group h
    exact .inl ⟨htype, by rw [hcategory]; decide, by rw [hcategory]; decide⟩
  · obtain ⟨htype, hcategory⟩ := mem_pendingReviewBranch_group h
    exact .inl ⟨htype, by rw [hcategory]; decide, by rw [hcategory]; decide⟩
  · obtain ⟨htype, hcategory⟩ := mem_pendingReviewBranch_group h
    exact .inl ⟨htype, by rw [hcategory]; decide, by rw [hcategory]; decide⟩
  · obtain ⟨p, -, rfl⟩ := List.mem_map.1 h
    exact .inr (.inl rfl)
  · obtain ⟨p, -, rfl⟩ := List.mem_map.1 h
    exact .inr (.inr (.inl rfl))
  · refine .inr (.inr (.inr ?_))
    have hitem : ∃ e r, i = downloadFailureItem e r := by
      rcases h with h | h | h
      · obtain ⟨p, -, rfl⟩ := List.mem_map.1 h
        exact ⟨p.1, p.2.toRunRow, rfl⟩
      · obtain ⟨p, -, rfl⟩ := List.mem_map.1 h
        exact ⟨p.1, p.2.toRunRow, rfl⟩
      · obtain ⟨p, -, rfl⟩ := List.mem_map.1 h
        exact ⟨p.1, p.2, rfl⟩
    obtain ⟨e, r, rfl⟩ := hitem
    unfold downloadFailureItem
    refine ⟨rfl, ?_⟩
    dsimp only
    split
    · exact .inl rfl
    · exact .inr rfl

/-- **One count takes an item, and no other.** -/
theorem takes_unique {db : Tables} {organizationId : OrganizationId} {i : Item} (h : i ∈ buildUnion db organizationId) :
    ∃! c : SummaryCount, c.takes i.group = true := by
  rcases mem_buildUnion_group h with ⟨htype, hsystem, hdownload⟩ | hgroup | hgroup | ⟨hcategory, htype⟩
  · refine ⟨.pendingReviews, decide_eq_true htype, fun c hc => ?_⟩
    cases c with
    | pendingReviews => rfl
    | ambiguousMatches => exact absurd (htype.symm.trans (of_decide_eq_true hc)) (by decide)
    | failedRuns => exact absurd (of_decide_eq_true hc).1 hsystem
    | downloadFailures => exact absurd (of_decide_eq_true hc) hdownload
  · rw [hgroup]
    refine ⟨.ambiguousMatches, rfl, fun c hc => ?_⟩
    cases c with
    | ambiguousMatches => rfl
    | pendingReviews => exact absurd hc (by decide)
    | failedRuns => exact absurd hc (by decide)
    | downloadFailures => exact absurd hc (by decide)
  · rw [hgroup]
    refine ⟨.failedRuns, rfl, fun c hc => ?_⟩
    cases c with
    | failedRuns => rfl
    | pendingReviews => exact absurd hc (by decide)
    | ambiguousMatches => exact absurd hc (by decide)
    | downloadFailures => exact absurd hc (by decide)
  · refine ⟨.downloadFailures, decide_eq_true hcategory, fun c hc => ?_⟩
    have hpending : i.reviewType ≠ .pendingReview ∧ i.reviewType ≠ .ambiguous := by
      rcases htype with htype | htype
      · rw [htype]
        decide
      · rw [htype]
        decide
    cases c with
    | pendingReviews => exact absurd (of_decide_eq_true hc) hpending.1
    | ambiguousMatches => exact absurd (of_decide_eq_true hc) hpending.2
    | failedRuns => exact absurd (hcategory.symm.trans (of_decide_eq_true hc).1) (by decide)
    | downloadFailures => rfl

/-- The four counts add up. -/
theorem counts_partition : ∀ {items : List Item}, (∀ i ∈ items, ∃! c : SummaryCount, c.takes i.group = true) →
    items.countP (fun i => SummaryCount.pendingReviews.takes i.group) +
        items.countP (fun i => SummaryCount.ambiguousMatches.takes i.group) +
        items.countP (fun i => SummaryCount.failedRuns.takes i.group) +
        items.countP (fun i => SummaryCount.downloadFailures.takes i.group) = items.length
  | [], _ => rfl
  | i :: items, h => by
    have ih := counts_partition (fun j hj => h j (List.mem_cons_of_mem _ hj))
    obtain ⟨c, hc, hother⟩ := h i List.mem_cons_self
    have hno : ∀ c' : SummaryCount, c' ≠ c → c'.takes i.group = false := fun c' hne =>
      Bool.eq_false_iff.2 (fun hc' => hne (hother c' hc'))
    simp only [List.countP_cons, List.length_cons]
    cases c with
    | pendingReviews =>
      rw [hc, hno .ambiguousMatches (by decide), hno .failedRuns (by decide), hno .downloadFailures (by decide)]
      simp only [if_true, Bool.false_eq_true, if_false]
      omega
    | ambiguousMatches =>
      rw [hc, hno .pendingReviews (by decide), hno .failedRuns (by decide), hno .downloadFailures (by decide)]
      simp only [if_true, Bool.false_eq_true, if_false]
      omega
    | failedRuns =>
      rw [hc, hno .pendingReviews (by decide), hno .ambiguousMatches (by decide), hno .downloadFailures (by decide)]
      simp only [if_true, Bool.false_eq_true, if_false]
      omega
    | downloadFailures =>
      rw [hc, hno .pendingReviews (by decide), hno .ambiguousMatches (by decide), hno .failedRuns (by decide)]
      simp only [if_true, Bool.false_eq_true, if_false]
      omega

/-! ## One queue -/

section
variable (texts : Texts) (db : Database) (organizationId : OrganizationId) (filters : ReviewQueueFilters)

/-- The items of the union that pass the filters and that the search finds. -/
def matchingItems : List Item :=
  (buildUnion db.toTables organizationId).filter (fun i => filters.keeps i && searchFinds texts db.toTables filters i)

/-- The sorted queue. -/
def queueOf (sort : SortOption) : List Item := (matchingItems texts db organizationId filters).insertionSort (orderBy sort)

/-- What the page of a queue is. -/
def pageOf (queue : List Item) (limit offset : Nat) : ReviewQueuePage where
  items := (queue.drop offset).take limit
  total := queue.length
  summary := { totalItems := queue.length
               pendingReviews := queue.countP (fun i => SummaryCount.pendingReviews.takes i.group)
               ambiguousMatches := queue.countP (fun i => SummaryCount.ambiguousMatches.takes i.group)
               failedRuns := queue.countP (fun i => SummaryCount.failedRuns.takes i.group)
               downloadFailures := queue.countP (fun i => SummaryCount.downloadFailures.takes i.group) }

variable {texts db organizationId filters}

theorem pageOf_count (queue : List Item) (limit offset : Nat) (c : SummaryCount) :
    (pageOf queue limit offset).summary.count c = queue.countP (fun i => c.takes i.group) := by
  cases c <;> rfl

theorem queueOf_perm (sort : SortOption) :
    (queueOf texts db organizationId filters sort).Perm (matchingItems texts db organizationId filters) :=
  List.perm_insertionSort _ _

theorem queueOf_sorted (sort : SortOption) : (queueOf texts db organizationId filters sort).Pairwise (orderBy sort) := by
  have htotal : Std.Total (orderBy sort) := ⟨orderBy_total sort⟩
  have htrans : IsTrans Item (orderBy sort) := ⟨fun _ _ _ => orderBy_trans⟩
  exact List.pairwise_insertionSort _ _

theorem queueOf_nodup (sort : SortOption) :
    ((queueOf texts db organizationId filters sort).map Item.referenceId).Nodup := by
  refine ((queueOf_perm sort).map _).nodup_iff.2 ?_
  exact (buildUnion_nodup db organizationId).sublist (List.filter_sublist.map _)

/-- **The query has one answer**: a slice of the sorted queue, and its counts. -/
theorem fetchReviewQueue_iff {sort : SortOption} {limit offset : Nat} {page : ReviewQueuePage} :
    FetchReviewQueue texts db.toTables organizationId filters sort limit offset page ↔
      page = pageOf (queueOf texts db organizationId filters sort) limit offset := by
  have hperm : (queueOf texts db organizationId filters sort).Perm (matchingItems texts db organizationId filters) :=
    queueOf_perm sort
  have hanti : ∀ i ∈ matchingItems texts db organizationId filters, ∀ j ∈ matchingItems texts db organizationId filters,
      orderBy sort i j → orderBy sort j i → i = j := by
    intro i hi j hj h h'
    exact List.inj_on_of_nodup_map (buildUnion_nodup db organizationId) (List.mem_filter.1 hi).1 (List.mem_filter.1 hj).1
      (orderBy_antisymm h h')
  have hsummary : ∀ rows, Relations.GroupedCounts
      ((matchingItems texts db organizationId filters).map Item.group) rows →
      summarize rows = (pageOf (queueOf texts db organizationId filters sort) limit offset).summary := by
    intro rows hrows
    obtain ⟨htotal, hcount⟩ := summarize_counts ((Relations.GroupedCounts.perm (hperm.map _)).2 hrows)
    exact ReviewQueueSummary.ext_counts htotal (fun c => (hcount c).trans (pageOf_count _ limit offset c).symm)
  have hfilters : applyFilters texts db.toTables filters (buildUnion db.toTables organizationId) =
      matchingItems texts db organizationId filters := applyFilters_eq db.keysNodup texts filters _
  unfold FetchReviewQueue
  rw [hfilters]
  constructor
  · rintro ⟨hitems, rows, hrows, htotal, hsum⟩
    have hitems := hitems.unique hanti hperm (queueOf_sorted sort)
    rw [hsummary rows hrows] at htotal hsum
    obtain ⟨items, total, summary⟩ := page
    dsimp only at hitems htotal hsum
    subst hitems htotal hsum
    rfl
  · rintro rfl
    obtain ⟨rows, hrows⟩ := Relations.exists_groupedCounts ((matchingItems texts db organizationId filters).map Item.group)
    refine ⟨⟨_, hperm, queueOf_sorted sort, rfl⟩, rows, hrows, ?_, (hsummary rows hrows).symm⟩
    rw [hsummary rows hrows]
    rfl

end

/-! ## The partition -/

/-- **Pages and summary partition the queue.**  There is one arrangement of the matching items, in the documented order;
the pages at the multiples of the limit make it up, whichever way the database answers each query; the total is its
length, and the four counts count each item once. -/
theorem queue_partitioned (texts : Texts) (db : Database) (organizationId : OrganizationId) (filters : ReviewQueueFilters)
    (sort : SortOption) :
    ((buildUnion db.toTables organizationId).map Item.reference).Perm (needsAttention db.toTables organizationId) ∧
    ∃ queue : List Item,
      queue.Perm ((buildUnion db.toTables organizationId).filter
        (fun i => filters.keeps i && searchFinds texts db.toTables filters i)) ∧
      (queue.map Item.referenceId).Nodup ∧ queue.Pairwise (DocumentedOrder sort) ∧
      (∀ i ∈ queue, ∃! c : SummaryCount, c.takes i.group = true) ∧
      ∀ (limit : Nat) (pages : Nat → ReviewQueuePage),
        (∀ k, FetchReviewQueue texts db.toTables organizationId filters sort limit (k * limit) (pages k)) →
          (∀ n, queue.length ≤ n * limit → (List.range n).flatMap (fun k => (pages k).items) = queue) ∧
          ∀ k, (pages k).total = queue.length ∧ (pages k).summary.totalItems = queue.length ∧
            (∀ c, (pages k).summary.count c = queue.countP (fun i => c.takes i.group)) ∧
            (pages k).summary.pendingReviews + (pages k).summary.ambiguousMatches + (pages k).summary.failedRuns +
              (pages k).summary.downloadFailures = queue.length := by
  refine ⟨buildUnion_references db organizationId, queueOf texts db organizationId filters sort, queueOf_perm sort,
    queueOf_nodup sort, ?_, ?_, ?_⟩
  · have hnodup : ((queueOf texts db organizationId filters sort).map Item.referenceId).Nodup := queueOf_nodup sort
    have hdistinct := List.pairwise_map.1 hnodup
    exact (List.Pairwise.and (queueOf_sorted sort) hdistinct).imp (fun h => documentedOrder_of_orderBy h.1 h.2)
  · intro i hi
    exact takes_unique (List.mem_filter.1 ((queueOf_perm sort).subset hi)).1
  · intro limit pages hpages
    have hpage : ∀ k, pages k = pageOf (queueOf texts db organizationId filters sort) limit (k * limit) := fun k =>
      fetchReviewQueue_iff.1 (hpages k)
    constructor
    · intro n hn
      simp only [hpage]
      exact (Relations.flatMap_pages _ limit n).trans (List.take_of_length_le hn)
    · intro k
      rw [hpage k]
      refine ⟨rfl, rfl, pageOf_count _ limit _, ?_⟩
      exact counts_partition (fun i hi => takes_unique (List.mem_filter.1 ((queueOf_perm sort).subset hi)).1)

/-- One organization with a failed run and a pending one, of the same second. -/
def tiedQueue : Database where
  dataSources := [⟨1, 10, "people".toList⟩]
  tasks := [⟨1, 20, some 10, "clean".toList⟩]
  taskRuns := [⟨1, 30, 20, .failed, some "timed out".toList, 5⟩, ⟨1, 31, 20, .success, none, 4⟩]
  cleaningRuns := [⟨⟨1, 40, 20, 31, 10, .pendingReview, 5⟩, 9 / 10⟩]
  standardizationRuns := []
  matchRuns := []
  exportRuns := []
  matchDecisions := []
  artifactDownloadEvents := []
  ids_nodup := by decide
  tasks_ref := by simp
  taskRuns_ref := by simp
  cleaning_ref := by
    intro r hr
    obtain rfl := List.mem_singleton.1 hr
    exact ⟨by simp, by simp, by simp⟩
  standardization_ref := by simp
  match_ref := by simp
  export_ref := by simp
  decisions_ref := by simp
  events_cleaning := by simp
  events_standardization := by simp
  events_export := by simp
  events_one_ref := by simp

/-- Its two items, on two pages. -/
theorem queue_partitioned_tied : ∃ pages : Nat → ReviewQueuePage,
    (∀ k, FetchReviewQueue ⟨id, fun _ _ => true, id, fun _ => none⟩ tiedQueue.toTables 1 {} .createdAt 1
      (k * 1) (pages k)) ∧
      ((pages 0).items ++ (pages 1).items).length = 2 ∧ (pages 0).total = 2 ∧ (pages 1).summary.failedRuns = 1 := by
  obtain ⟨-, queue, hperm, -, -, -, hqueue⟩ :=
    queue_partitioned ⟨id, fun _ _ => true, id, fun _ => none⟩ tiedQueue 1 {} .createdAt
  have hlength : queue.length = 2 := hperm.length_eq.trans (by decide)
  have hpages : ∀ k, FetchReviewQueue ⟨id, fun _ _ => true, id, fun _ => none⟩ tiedQueue.toTables 1 {} .createdAt 1 (k * 1)
      (pageOf (queueOf ⟨id, fun _ _ => true, id, fun _ => none⟩ tiedQueue 1 {} .createdAt) 1 (k * 1)) :=
    fun k => fetchReviewQueue_iff.2 rfl
  obtain ⟨hconcat, hcounts⟩ := hqueue 1 _ hpages
  refine ⟨_, hpages, ?_, (hcounts 0).1.trans hlength, ?_⟩
  · have htwo := congrArg List.length (hconcat 2 (by omega))
    exact htwo.trans hlength
  · refine ((hcounts 1).2.2.1 .failedRuns).trans ((hperm.countP_eq _).trans ?_)
    decide

end ReviewQueue
end DataOps

import DataOps.ReviewQueuePages
/-!
# ReviewQueueIsolation — the queue of one organization reads no other

Two databases that agree on the rows of an organization have the same queue for it.  The joins are on ids alone; the tenant
foreign keys make each of them meet a row of the same organization (`exists_partner`), and an id has one row.
-/
namespace DataOps
namespace ReviewQueue

open Api (OrganizationId)
open Relations (partner)

/-- The two databases hold the same rows of an organization, in whatever order. -/
structure AgreeOn (organizationId : OrganizationId) (db db' : Tables) : Prop where
  dataSources : (db.dataSources.filter (fun s => s.organizationId = organizationId)).Perm
    (db'.dataSources.filter (fun s => s.organizationId = organizationId))
  tasks : (db.tasks.filter (fun t => t.organizationId = organizationId)).Perm
    (db'.tasks.filter (fun t => t.organizationId = organizationId))
  taskRuns : (db.taskRuns.filter (fun r => r.organizationId = organizationId)).Perm
    (db'.taskRuns.filter (fun r => r.organizationId = organizationId))
  cleaningRuns : (db.cleaningRuns.filter (fun r => r.organizationId = organizationId)).Perm
    (db'.cleaningRuns.filter (fun r => r.organizationId = organizationId))
  standardizationRuns : (db.standardizationRuns.filter (fun r => r.organizationId = organizationId)).Perm
    (db'.standardizationRuns.filter (fun r => r.organizationId = organizationId))
  matchRuns : (db.matchRuns.filter (fun r => r.organizationId = organizationId)).Perm
    (db'.matchRuns.filter (fun r => r.organizationId = organizationId))
  exportRuns : (db.exportRuns.filter (fun r => r.organizationId = organizationId)).Perm
    (db'.exportRuns.filter (fun r => r.organizationId = organizationId))
  matchDecisions : (db.matchDecisions.filter (fun d => d.organizationId = organizationId)).Perm
    (db'.matchDecisions.filter (fun d => d.organizationId = organizationId))
  artifactDownloadEvents : (db.artifactDownloadEvents.filter (fun e => e.organizationId = organizationId)).Perm
    (db'.artifactDownloadEvents.filter (fun e => e.organizationId = organizationId))

/-! ## Rows of one organization -/

section
variable {α β κ γ : Type} [DecidableEq κ] {l l' : List α} {r r' : List β} {key : β → κ}

theorem filter_and_perm {own q : α → Prop} [DecidablePred own] [DecidablePred q]
    (h : (l.filter (fun a => own a)).Perm (l'.filter (fun a => own a))) :
    (l.filter (fun a => own a ∧ q a)).Perm (l'.filter (fun a => own a ∧ q a)) := by
  have hsplit : ∀ m : List α, m.filter (fun a => own a ∧ q a) = (m.filter (fun a => own a)).filter (fun a => q a) := by
    intro m
    rw [List.filter_filter]
    refine List.filter_congr (fun a _ => ?_)
    rw [Bool.decide_and, Bool.and_comm]
  rw [hsplit, hsplit]
  exact h.filter _

theorem filterMap_perm {f f' : α → Option γ} (h : l.Perm l') (hf : ∀ a ∈ l, f a = f' a) :
    (l.filterMap f).Perm (l'.filterMap f') := by
  rw [List.filterMap_congr hf]
  exact h.filterMap f'

/-- **A reference into the organization meets its row**, in either database. -/
theorem partner_agree {own : β → Prop} [DecidablePred own] (hnd : (r.map key).Nodup) (hnd' : (r'.map key).Nodup)
    (h : (r.filter (fun b => own b)).Perm (r'.filter (fun b => own b))) {k : κ} (href : ∃ b ∈ r, own b ∧ key b = k) :
    partner key r k = partner key r' k := by
  obtain ⟨b, hb, hown, hkey⟩ := href
  have hb' : b ∈ r' := (List.mem_filter.1 (h.subset (List.mem_filter.2 ⟨hb, decide_eq_true hown⟩))).1
  rw [(Relations.partner_eq_some_iff hnd).2 ⟨hb, hkey⟩, (Relations.partner_eq_some_iff hnd').2 ⟨hb', hkey⟩]

/-- The row a reference meets is the one it names. -/
theorem partner_own {own : β → Prop} (hnd : (r.map key).Nodup) {k : κ} (href : ∃ b ∈ r, own b ∧ key b = k) {b : β}
    (h : partner key r k = some b) : b ∈ r ∧ own b := by
  obtain ⟨b', hb', hown, hkey⟩ := href
  rw [(Relations.partner_eq_some_iff hnd).2 ⟨hb', hkey⟩] at h
  cases h
  exact ⟨hb', hown⟩

end

/-! ## The branches -/

variable {organizationId : OrganizationId}

theorem pendingReviewBranch_perm {ρ : Type} {run : ρ → RunRow} {confidenceScore : ρ → Option ℚ} {rows rows' : List ρ}
    {category : ReviewCategory} {source label : String}
    (h : (rows.filter (fun r => (run r).organizationId = organizationId)).Perm
      (rows'.filter (fun r => (run r).organizationId = organizationId))) :
    (pendingReviewBranch run confidenceScore rows category source label organizationId).Perm
      (pendingReviewBranch run confidenceScore rows' category source label organizationId) :=
  (filter_and_perm h).map _

theorem ambiguousMatchDecisionBranch_perm {db db' : Database}
    (h : AgreeOn organizationId db.toTables db'.toTables) :
    (ambiguousMatchDecisionBranch db.toTables organizationId).Perm
      (ambiguousMatchDecisionBranch db'.toTables organizationId) := by
  rw [ambiguousMatchDecisionBranch_eq db.keysNodup, ambiguousMatchDecisionBranch_eq db'.keysNodup]
  refine filterMap_perm (filter_and_perm h.matchDecisions) (fun d hd => ?_)
  obtain ⟨hmem, hd⟩ := List.mem_filter.1 hd
  obtain ⟨hown, -⟩ := of_decide_eq_true hd
  rw [partner_agree db.keysNodup.matchRuns db'.keysNodup.matchRuns h.matchRuns
    (by rw [← hown]; exact db.decisions_ref d hmem)]

theorem failedTaskRunBranch_perm {db db' : Database} (h : AgreeOn organizationId db.toTables db'.toTables) :
    (failedTaskRunBranch db.toTables organizationId).Perm (failedTaskRunBranch db'.toTables organizationId) := by
  rw [failedTaskRunBranch_eq db.keysNodup, failedTaskRunBranch_eq db'.keysNodup]
  refine filterMap_perm (filter_and_perm h.taskRuns) (fun r hr => ?_)
  obtain ⟨hmem, hr⟩ := List.mem_filter.1 hr
  obtain ⟨hown, -⟩ := of_decide_eq_true hr
  rw [partner_agree db.keysNodup.tasks db'.keysNodup.tasks h.tasks (by rw [← hown]; exact db.taskRuns_ref r hmem)]

theorem artifactDownloadFailureBranch_perm {ρ : Type} {runId : ArtifactDownloadEventRow → Option Id} {run : ρ → RunRow}
    {parents parents' : List ρ} {events events' : List ArtifactDownloadEventRow}
    (hnd : (parents.map (fun r => (run r).id)).Nodup) (hnd' : (parents'.map (fun r => (run r).id)).Nodup)
    (hparents : (parents.filter (fun r => (run r).organizationId = organizationId)).Perm
      (parents'.filter (fun r => (run r).organizationId = organizationId)))
    (hevents : (events.filter (fun e => e.organizationId = organizationId)).Perm
      (events'.filter (fun e => e.organizationId = organizationId)))
    (href : ∀ e ∈ events, ∀ id, runId e = some id →
      ∃ r ∈ parents, (run r).organizationId = e.organizationId ∧ (run r).id = id) :
    (artifactDownloadFailureBranch runId run parents events organizationId).Perm
      (artifactDownloadFailureBranch runId run parents' events' organizationId) := by
  rw [artifactDownloadFailureBranch_eq hnd, artifactDownloadFailureBranch_eq hnd']
  refine filterMap_perm (filter_and_perm hevents) (fun e he => ?_)
  obtain ⟨hmem, he⟩ := List.mem_filter.1 he
  obtain ⟨hown, hsome, -⟩ := of_decide_eq_true he
  obtain ⟨id, hid⟩ := Option.isSome_iff_exists.1 hsome
  obtain ⟨r, hr, horg, hrid⟩ := href e hmem id hid
  have hrow : ∃ r ∈ parents, (run r).organizationId = organizationId ∧ some (run r).id = runId e :=
    ⟨r, hr, horg.trans hown, by rw [hrid, hid]⟩
  rw [partner_agree (nodup_some hnd) (nodup_some hnd') hparents hrow]

/-- **The union is the same, up to its order.** -/
theorem buildUnion_perm {db db' : Database} (h : AgreeOn organizationId db.toTables db'.toTables) :
    (buildUnion db.toTables organizationId).Perm (buildUnion db'.toTables organizationId) := by
  have hkeys := db.keysNodup
  have hkeys' := db'.keysNodup
  unfold buildUnion
  refine List.Perm.append (List.Perm.append (List.Perm.append (List.Perm.append (List.Perm.append (List.Perm.append
    (List.Perm.append (List.Perm.append ?_ ?_) ?_) ?_) ?_) ?_) ?_) ?_) ?_
  · exact pendingReviewBranch_perm h.cleaningRuns
  · exact pendingReviewBranch_perm h.standardizationRuns
  · exact pendingReviewBranch_perm h.matchRuns
  · exact pendingReviewBranch_perm h.exportRuns
  · exact ambiguousMatchDecisionBranch_perm h
  · exact failedTaskRunBranch_perm h
  · exact artifactDownloadFailureBranch_perm hkeys.cleaningRuns hkeys'.cleaningRuns h.cleaningRuns
      h.artifactDownloadEvents db.events_cleaning
  · exact artifactDownloadFailureBranch_perm hkeys.standardizationRuns hkeys'.standardizationRuns h.standardizationRuns
      h.artifactDownloadEvents db.events_standardization
  · exact artifactDownloadFailureBranch_perm hkeys.exportRuns hkeys'.exportRuns h.exportRuns h.artifactDownloadEvents
      db.events_export

/-! ## The search -/

/-- The task and the data source of an item, as rows of its organization. -/
structure InTenant (db : Tables) (organizationId : OrganizationId) (i : Item) : Prop where
  task       : ∃ t ∈ db.tasks, t.organizationId = organizationId ∧ t.id = i.taskId
  dataSource : ∀ id, i.dataSourceId = some id → ∃ s ∈ db.dataSources, s.organizationId = organizationId ∧ s.id = id

theorem inTenant_of_references {db : Tables} {r : RunRow} (href : r.References db)
    (hown : r.organizationId = organizationId) {i : Item} (htask : i.taskId = r.taskId)
    (hsource : i.dataSourceId = some r.dataSourceId) : InTenant db organizationId i := by
  refine ⟨by rw [← hown, htask]; exact href.task, fun id hid => ?_⟩
  rw [hsource] at hid
  cases hid
  rw [← hown]
  exact href.dataSource

theorem pendingReviewBranch_inTenant {db : Tables} {ρ : Type} {run : ρ → RunRow} {confidenceScore : ρ → Option ℚ}
    {rows : List ρ} {category : ReviewCategory} {source label : String} (href : ∀ r ∈ rows, (run r).References db)
    {i : Item} (h : i ∈ pendingReviewBranch run confidenceScore rows category source label organizationId) :
    InTenant db organizationId i := by
  obtain ⟨r, hr, rfl⟩ := List.mem_map.1 h
  obtain ⟨hmem, hr⟩ := List.mem_filter.1 hr
  exact inTenant_of_references (href r hmem) (of_decide_eq_true hr).1 rfl rfl

theorem ambiguousMatchDecisionBranch_inTenant {db : Database} {i : Item}
    (h : i ∈ ambiguousMatchDecisionBranch db.toTables organizationId) : InTenant db.toTables organizationId i := by
  rw [ambiguousMatchDecisionBranch_eq db.keysNodup] at h
  obtain ⟨d, hd, hi⟩ := List.mem_filterMap.1 h
  obtain ⟨hmem, hd⟩ := List.mem_filter.1 hd
  obtain ⟨r, hr, rfl⟩ := Option.map_eq_some_iff.1 hi
  obtain ⟨hrow, hown⟩ := partner_own db.keysNodup.matchRuns (db.decisions_ref d hmem) hr
  exact inTenant_of_references (db.match_ref r hrow) (hown.trans (of_decide_eq_true hd).1) rfl rfl

theorem failedTaskRunBranch_inTenant {db : Database} {i : Item}
    (h : i ∈ failedTaskRunBranch db.toTables organizationId) : InTenant db.toTables organizationId i := by
  rw [failedTaskRunBranch_eq db.keysNodup] at h
  obtain ⟨r, hr, hi⟩ := List.mem_filterMap.1 h
  obtain ⟨hmem, hr⟩ := List.mem_filter.1 hr
  obtain ⟨t, ht, rfl⟩ := Option.map_eq_some_iff.1 hi
  have href := db.taskRuns_ref r hmem
  obtain ⟨hrow, hown⟩ := partner_own db.keysNodup.tasks href ht
  have hown' := hown.trans (of_decide_eq_true hr).1
  refine ⟨⟨t, hrow, hown', ((Relations.partner_eq_some_iff db.keysNodup.tasks).1 ht).2⟩, fun id hid => ?_⟩
  rw [← hown']
  exact db.tasks_ref t hrow id hid

theorem artifactDownloadFailureBranch_inTenant {db : Tables} {ρ : Type} {runId : ArtifactDownloadEventRow → Option Id}
    {run : ρ → RunRow} {parents : List ρ} {events : List ArtifactDownloadEventRow}
    (hnd : (parents.map (fun r => (run r).id)).Nodup) (hrefs : ∀ r ∈ parents, (run r).References db)
    (href : ∀ e ∈ events, ∀ id, runId e = some id →
      ∃ r ∈ parents, (run r).organizationId = e.organizationId ∧ (run r).id = id) {i : Item}
    (h : i ∈ artifactDownloadFailureBranch runId run parents events organizationId) : InTenant db organizationId i := by
  rw [artifactDownloadFailureBranch_eq hnd] at h
  obtain ⟨e, he, hi⟩ := List.mem_filterMap.1 h
  obtain ⟨hmem, he⟩ := List.mem_filter.1 he
  obtain ⟨hown, hsome, -⟩ := of_decide_eq_true he
  obtain ⟨r, hr, rfl⟩ := Option.map_eq_some_iff.1 hi
  obtain ⟨id, hid⟩ := Option.isSome_iff_exists.1 hsome
  obtain ⟨r', hr', horg, hrid⟩ := href e hmem id hid
  have hrow : ∃ r ∈ parents, (run r).organizationId = e.organizationId ∧ some (run r).id = runId e :=
    ⟨r', hr', horg, by rw [hrid, hid]⟩
  obtain ⟨hrow, hown'⟩ := partner_own (nodup_some hnd) hrow hr
  exact inTenant_of_references (hrefs r hrow) (hown'.trans hown) rfl rfl

/-- **Every item's task and data source are of the organization.** -/
theorem buildUnion_inTenant {db : Database} {i : Item} (h : i ∈ buildUnion db.toTables organizationId) :
    InTenant db.toTables organizationId i := by
  unfold buildUnion at h
  simp only [List.mem_append, or_assoc] at h
  rcases h with h | h | h | h | h | h | h | h | h
  · exact pendingReviewBranch_inTenant db.cleaning_ref h
  · exact pendingReviewBranch_inTenant db.standardization_ref h
  · exact pendingReviewBranch_inTenant db.match_ref h
  · exact pendingReviewBranch_inTenant db.export_ref h
  · exact ambiguousMatchDecisionBranch_inTenant h
  · exact failedTaskRunBranch_inTenant h
  · exact artifactDownloadFailureBranch_inTenant db.keysNodup.cleaningRuns db.cleaning_ref db.events_cleaning h
  · exact artifactDownloadFailureBranch_inTenant db.keysNodup.standardizationRuns db.standardization_ref
      db.events_standardization h
  · exact artifactDownloadFailureBranch_inTenant db.keysNodup.exportRuns db.export_ref db.events_export h

/-- The search finds an item of the organization in both databases or in neither. -/
theorem searchFinds_agree {db db' : Database} (h : AgreeOn organizationId db.toTables db'.toTables) (texts : Texts)
    (filters : ReviewQueueFilters) {i : Item} (hi : i ∈ buildUnion db.toTables organizationId) :
    searchFinds texts db.toTables filters i = searchFinds texts db'.toTables filters i := by
  obtain ⟨htask, hsource⟩ := buildUnion_inTenant hi
  have htasks := partner_agree db.keysNodup.tasks db'.keysNodup.tasks h.tasks htask
  have hsources : partner (fun s : DataSourceRow => some s.id) db.dataSources i.dataSourceId =
      partner (fun s : DataSourceRow => some s.id) db'.dataSources i.dataSourceId := by
    cases hid : i.dataSourceId with
    | none =>
      have hnone : ∀ sources : List DataSourceRow, partner (fun s : DataSourceRow => some s.id) sources none = none :=
        fun sources => List.find?_eq_none.2 (by simp)
      rw [hnone, hnone]
    | some id =>
      obtain ⟨s, hs, hown, hsid⟩ := hsource id hid
      exact partner_agree (nodup_some db.keysNodup.dataSources) (nodup_some db'.keysNodup.dataSources) h.dataSources
        ⟨s, hs, hown, congrArg some hsid⟩
  unfold searchFinds
  rw [htasks, hsources]

theorem matchingItems_perm {db db' : Database} (h : AgreeOn organizationId db.toTables db'.toTables) (texts : Texts)
    (filters : ReviewQueueFilters) :
    (matchingItems texts db organizationId filters).Perm (matchingItems texts db' organizationId filters) := by
  unfold matchingItems
  rw [List.filter_congr (fun i hi => by rw [searchFinds_agree h texts filters hi])]
  exact (buildUnion_perm h).filter _

/-- **Tenant isolation**: two databases that agree on the rows of an organization give it one page, with one total and
one summary. -/
theorem review_queue_isolated (db db' : Database) (organizationId : OrganizationId)
    (h : AgreeOn organizationId db.toTables db'.toTables) (texts : Texts) (filters : ReviewQueueFilters)
    (sort : SortOption) (limit offset : Nat) :
    ∃ page, ∀ page',
      (FetchReviewQueue texts db.toTables organizationId filters sort limit offset page' ↔ page' = page) ∧
      (FetchReviewQueue texts db'.toTables organizationId filters sort limit offset page' ↔ page' = page) := by
  have hperm := matchingItems_perm h texts filters
  have hsame : queueOf texts db organizationId filters sort = queueOf texts db' organizationId filters sort := by
    refine List.Perm.eq_of_pairwise (fun i j hi hj hij hji => ?_) (queueOf_sorted sort) (queueOf_sorted sort)
      (((queueOf_perm sort).trans hperm).trans (queueOf_perm sort).symm)
    have hj' := hperm.mem_iff.2 ((queueOf_perm sort).subset hj)
    exact List.inj_on_of_nodup_map (buildUnion_nodup db organizationId)
      (List.mem_filter.1 ((queueOf_perm sort).subset hi)).1 (List.mem_filter.1 hj').1 (orderBy_antisymm hij hji)
  refine ⟨pageOf (queueOf texts db organizationId filters sort) limit offset, fun page' => ⟨fetchReviewQueue_iff, ?_⟩⟩
  rw [hsame]
  exact fetchReviewQueue_iff

/-- `tiedQueue` with the rows of a second organization. -/
def crowdedQueue : Tables where
  dataSources := ⟨2, 50, "people".toList⟩ :: tiedQueue.dataSources
  tasks := ⟨2, 60, some 50, "clean".toList⟩ :: tiedQueue.tasks
  taskRuns := ⟨2, 70, 60, .failed, some "timed out".toList, 5⟩ :: tiedQueue.taskRuns
  cleaningRuns := ⟨⟨2, 80, 60, 70, 50, .pendingReview, 5⟩, 1 / 10⟩ :: tiedQueue.cleaningRuns
  standardizationRuns := []
  matchRuns := []
  exportRuns := []
  matchDecisions := []
  artifactDownloadEvents := []

theorem exists_crowdedQueue : ∃ db : Database, db.toTables = crowdedQueue := by
  refine ⟨{
    crowdedQueue with
    ids_nodup := by decide
    tasks_ref := by simp [crowdedQueue, tiedQueue]
    taskRuns_ref := by simp [crowdedQueue, tiedQueue]
    cleaning_ref := ?_
    standardization_ref := by simp [crowdedQueue]
    match_ref := by simp [crowdedQueue]
    export_ref := by simp [crowdedQueue]
    decisions_ref := by simp [crowdedQueue]
    events_cleaning := by simp [crowdedQueue]
    events_standardization := by simp [crowdedQueue]
    events_export := by simp [crowdedQueue]
    events_one_ref := by simp [crowdedQueue] }, rfl⟩
  intro r hr
  rcases List.mem_cons.1 hr with rfl | hr
  · exact ⟨by simp [crowdedQueue], by simp [crowdedQueue], by simp [crowdedQueue]⟩
  · obtain rfl := List.mem_singleton.1 hr
    exact ⟨by simp [crowdedQueue, tiedQueue], by simp [crowdedQueue, tiedQueue], by simp [crowdedQueue, tiedQueue]⟩

/-- The first organization sees its two items either way, though both search terms name rows of both. -/
theorem review_queue_isolated_crowded : ∃ page, page.total = 2 ∧
    FetchReviewQueue ⟨id, fun _ _ => true, id, fun _ => none⟩ tiedQueue.toTables 1 { search := some "people".toList }
      .confidenceScore 1 1 page ∧
    FetchReviewQueue ⟨id, fun _ _ => true, id, fun _ => none⟩ crowdedQueue 1 { search := some "people".toList }
      .confidenceScore 1 1 page := by
  obtain ⟨db, hdb⟩ := exists_crowdedQueue
  have hagree : AgreeOn 1 tiedQueue.toTables db.toTables := by
    rw [hdb]
    exact ⟨.refl _, .refl _, .refl _, .refl _, .refl _, .refl _, .refl _, .refl _, .refl _⟩
  obtain ⟨page, hpage⟩ := review_queue_isolated tiedQueue db 1 hagree
    ⟨id, fun _ _ => true, id, fun _ => none⟩ { search := some "people".toList } .confidenceScore 1 1
  rw [hdb] at hpage
  have htied := (hpage page).1.2 rfl
  refine ⟨page, ?_, htied, (hpage page).2.2 rfl⟩
  rw [fetchReviewQueue_iff.1 htied]
  exact (queueOf_perm .confidenceScore).length_eq.trans (by decide)

end ReviewQueue
end DataOps

import DataOps.LibLists
import DataOps.ReviewQueue
/-!
# ReviewQueueRows — the rows the queue is made of

The nine joins drop no row and repeat none: the union has one item for each row that needs attention
(`buildUnion_references`), and the search only filters it (`applyFilters_eq`).
-/
namespace DataOps
namespace ReviewQueue

open Api (OrganizationId)
open Relations (partner)

/-! ## Keys -/

/-- The ids of each table the query joins, each once. -/
structure Tables.KeysNodup (db : Tables) : Prop where
  dataSources         : (db.dataSources.map (·.id)).Nodup
  tasks               : (db.tasks.map (·.id)).Nodup
  cleaningRuns        : (db.cleaningRuns.map (·.id)).Nodup
  standardizationRuns : (db.standardizationRuns.map (·.id)).Nodup
  matchRuns           : (db.matchRuns.map (·.id)).Nodup
  exportRuns          : (db.exportRuns.map (·.id)).Nodup

theorem Database.keysNodup (db : Database) : db.toTables.KeysNodup := by
  have h := db.ids_nodup
  unfold Tables.ids at h
  simp only [List.nodup_append, and_assoc] at h
  obtain ⟨hsources, htasks, -, -, -, hcleaning, -, hstandardization, -, hmatch, -, hexport, -⟩ := h
  exact ⟨hsources, htasks, hcleaning, hstandardization, hmatch, hexport⟩

theorem nodup_some {α : Type} {f : α → Id} {l : List α} (h : (l.map f).Nodup) : (l.map (fun a => some (f a))).Nodup := by
  have hmap := h.map (Option.some_injective Id)
  rw [List.map_map] at hmap
  exact hmap

/-! ## The joined branches -/

section
variable {db : Tables} (hkeys : db.KeysNodup) (organizationId : OrganizationId)
include hkeys

theorem ambiguousMatchDecisionBranch_eq : ambiguousMatchDecisionBranch db organizationId =
    (db.matchDecisions.filter (fun d => d.organizationId = organizationId ∧ d.decision = .ambiguous)).filterMap
      (fun d => (partner (·.id) db.matchRuns d.matchRunId).map (ambiguousItem d)) :=
  Relations.join_where hkeys.matchRuns (fun d : MatchDecisionRow => d.matchRunId)
    (fun d => d.organizationId = organizationId ∧ d.decision = .ambiguous) ambiguousItem db.matchDecisions

theorem failedTaskRunBranch_eq : failedTaskRunBranch db organizationId =
    (db.taskRuns.filter (fun r => r.organizationId = organizationId ∧ r.status = .failed)).filterMap
      (fun r => (partner (·.id) db.tasks r.taskId).map (failedItem r)) :=
  Relations.join_where hkeys.tasks (fun r : TaskRunRow => r.taskId)
    (fun r => r.organizationId = organizationId ∧ r.status = .failed) failedItem db.taskRuns

end

theorem artifactDownloadFailureBranch_eq {ρ : Type} {runId : ArtifactDownloadEventRow → Option Id} {run : ρ → RunRow}
    {parents : List ρ} (hnd : (parents.map (fun r => (run r).id)).Nodup) (events : List ArtifactDownloadEventRow)
    (organizationId : OrganizationId) :
    artifactDownloadFailureBranch runId run parents events organizationId =
      (events.filter (fun e => e.organizationId = organizationId ∧ (runId e).isSome ∧ e.outcome.isFailure)).filterMap
        (fun e => (partner (fun r => some (run r).id) parents (runId e)).map
          (fun r => downloadFailureItem e (run r))) := by
  have hkeys : (parents.map (fun r => some (run r).id)).Nodup := nodup_some hnd
  exact Relations.join_where hkeys runId
    (fun e => e.organizationId = organizationId ∧ (runId e).isSome ∧ e.outcome.isFailure)
    (fun e r => downloadFailureItem e (run r)) events

/-! ## The search -/

/-- Whether the search finds an item: by an id, or by the name of its task or its data set. -/
def searchFinds (texts : Texts) (db : Tables) (filters : ReviewQueueFilters) (i : Item) : Bool :=
  if filters.searchTerm = [] then true
  else
    match texts.parseUuid filters.searchTerm with
    | some termUuid => i.taskId = termUuid ∨ i.referenceId = termUuid
    | none =>
      (partner (fun t : TaskRow => t.id) db.tasks i.taskId).any (fun t => nameLike texts filters.searchTerm t.name) ||
        (partner (fun s : DataSourceRow => some s.id) db.dataSources i.dataSourceId).any
          (fun s => nameLike texts filters.searchTerm s.name)

/-- **The search joins multiply nothing**: filtering and searching is filtering. -/
theorem applyFilters_eq {db : Tables} (hkeys : db.KeysNodup) (texts : Texts) (filters : ReviewQueueFilters)
    (rq : List Item) :
    applyFilters texts db filters rq = rq.filter (fun i => filters.keeps i && searchFinds texts db filters i) := by
  unfold applyFilters searchFinds
  split
  · refine List.filter_congr (fun i _ => ?_)
    rw [Bool.and_true]
  · cases texts.parseUuid filters.searchTerm with
    | some termUuid =>
      refine List.filter_congr (fun i _ => ?_)
      dsimp only
      rw [Bool.decide_and, Bool.decide_eq_true]
    | none =>
      have hsources : (db.dataSources.map (fun s : DataSourceRow => some s.id)).Nodup := nodup_some hkeys.dataSources
      dsimp only
      rw [Relations.leftOuterJoin_eq_map hkeys.tasks (fun i : Item => i.taskId),
        Relations.leftOuterJoin_eq_map hsources (fun p : Item × Option TaskRow => p.1.dataSourceId),
        List.map_map, List.filter_map, List.map_map]
      refine (List.map_congr_left (fun i _ => rfl)).trans ((List.map_id _).trans (List.filter_congr (fun i _ => ?_)))
      simp only [Function.comp_apply, Bool.decide_and, Bool.decide_or, Bool.decide_eq_true]

/-! ## What needs attention -/

/-- What an item refers to: a row, by its table and id. -/
def Item.reference (i : Item) : String × Id := (i.source, i.referenceId)

/-- The pending runs of a run table. -/
def pendingIds {ρ : Type} (run : ρ → RunRow) (rows : List ρ) (organizationId : OrganizationId) : List Id :=
  (rows.filter (fun r => (run r).organizationId = organizationId ∧ (run r).status = .pendingReview)).map
    (fun r => (run r).id)

/-- **The rows that need attention**, each once: failed task runs, runs pending review, ambiguous decisions and failed
downloads. -/
def needsAttention (db : Tables) (organizationId : OrganizationId) : List (String × Id) :=
  (db.taskRuns.filter (fun r => r.organizationId = organizationId ∧ r.status = .failed)).map
      (fun r => ("task_run", r.id)) ++
    (pendingIds ScoredRunRow.toRunRow db.cleaningRuns organizationId).map (fun id => ("cleaning_run", id)) ++
    (pendingIds ScoredRunRow.toRunRow db.standardizationRuns organizationId).map
      (fun id => ("standardization_run", id)) ++
    (pendingIds ScoredRunRow.toRunRow db.matchRuns organizationId).map (fun id => ("match_run", id)) ++
    (pendingIds id db.exportRuns organizationId).map (fun id => ("export_run", id)) ++
    (db.matchDecisions.filter (fun d => d.organizationId = organizationId ∧ d.decision = .ambiguous)).map
      (fun d => ("match_decision", d.id)) ++
    (db.artifactDownloadEvents.filter (fun e => e.organizationId = organizationId ∧ e.outcome.isFailure)).map
      (fun e => ("artifact_download_event", e.id))

theorem pendingReviewBranch_references {ρ : Type} {run : ρ → RunRow} {confidenceScore : ρ → Option ℚ} {rows : List ρ}
    {category : ReviewCategory} {source label : String} {organizationId : OrganizationId} :
    (pendingReviewBranch run confidenceScore rows category source label organizationId).map Item.reference =
      (pendingIds run rows organizationId).map (fun id => (source, id)) := by
  unfold pendingReviewBranch pendingIds
  rw [List.map_map, List.map_map]
  rfl

section
variable (db : Database) (organizationId : OrganizationId)

theorem ambiguousMatchDecisionBranch_references :
    (ambiguousMatchDecisionBranch db.toTables organizationId).map Item.reference =
      (db.matchDecisions.filter (fun d => d.organizationId = organizationId ∧ d.decision = .ambiguous)).map
        (fun d => ("match_decision", d.id)) := by
  rw [ambiguousMatchDecisionBranch_eq db.keysNodup]
  refine map_filterMap_eq (fun d hd => ?_)
  obtain ⟨r, hr, -, hid⟩ := db.decisions_ref d (List.mem_filter.1 hd).1
  rw [(Relations.partner_eq_some_iff db.keysNodup.matchRuns).2 ⟨hr, hid⟩]
  exact ⟨_, rfl, rfl⟩

theorem failedTaskRunBranch_references :
    (failedTaskRunBranch db.toTables organizationId).map Item.reference =
      (db.taskRuns.filter (fun r => r.organizationId = organizationId ∧ r.status = .failed)).map
        (fun r => ("task_run", r.id)) := by
  rw [failedTaskRunBranch_eq db.keysNodup]
  refine map_filterMap_eq (fun r hr => ?_)
  obtain ⟨t, ht, -, hid⟩ := db.taskRuns_ref r (List.mem_filter.1 hr).1
  rw [(Relations.partner_eq_some_iff db.keysNodup.tasks).2 ⟨ht, hid⟩]
  exact ⟨_, rfl, rfl⟩

end

theorem artifactDownloadFailureBranch_references {ρ : Type} {runId : ArtifactDownloadEventRow → Option Id}
    {run : ρ → RunRow} {parents : List ρ} {events : List ArtifactDownloadEventRow} {organizationId : OrganizationId}
    (hnd : (parents.map (fun r => (run r).id)).Nodup)
    (href : ∀ e ∈ events, ∀ id, runId e = some id →
      ∃ r ∈ parents, (run r).organizationId = e.organizationId ∧ (run r).id = id) :
    (artifactDownloadFailureBranch runId run parents events organizationId).map Item.reference =
      ((events.filter (fun e => e.organizationId = organizationId ∧ e.outcome.isFailure)).filter
        (fun e => (runId e).isSome)).map (fun e => ("artifact_download_event", e.id)) := by
  have hfilter : (events.filter (fun e => e.organizationId = organizationId ∧ e.outcome.isFailure)).filter
        (fun e => (runId e).isSome) =
      events.filter (fun e => e.organizationId = organizationId ∧ (runId e).isSome ∧ e.outcome.isFailure) := by
    rw [List.filter_filter]
    refine List.filter_congr (fun e _ => ?_)
    rw [Bool.eq_iff_iff, Bool.and_eq_true, decide_eq_true_iff, decide_eq_true_iff]
    exact and_left_comm
  rw [artifactDownloadFailureBranch_eq hnd, hfilter]
  refine map_filterMap_eq (fun e he => ?_)
  obtain ⟨hmem, he⟩ := List.mem_filter.1 he
  obtain ⟨-, hsome, -⟩ := of_decide_eq_true he
  obtain ⟨id, hid⟩ := Option.isSome_iff_exists.1 hsome
  obtain ⟨r, hr, -, hrid⟩ := href e hmem id hid
  rw [(Relations.partner_eq_some_iff (nodup_some hnd)).2 ⟨hr, by rw [hrid, hid]⟩]
  exact ⟨_, rfl, rfl⟩

/-- Three branches cover the events between them. -/
theorem filter_one_of_three {α : Type} {a b c : α → Bool} : ∀ {l : List α},
    (∀ x ∈ l, (if a x then 1 else 0) + (if b x then 1 else 0) + (if c x then 1 else 0) = 1) →
      (l.filter a ++ l.filter b ++ l.filter c).Perm l
  | [], _ => List.Perm.refl _
  | x :: l, h => by
    have hrest := filter_one_of_three (fun y hy => h y (List.mem_cons_of_mem _ hy))
    have hx := h x List.mem_cons_self
    rw [List.filter_cons, List.filter_cons, List.filter_cons]
    cases ha : a x with
    | true =>
      have hb : b x = false := by
        cases hb : b x
        · rfl
        · rw [ha, hb] at hx
          simp at hx
          omega
      have hc : c x = false := by
        cases hc : c x
        · rfl
        · rw [ha, hb, hc] at hx
          simp at hx
      rw [hb, hc]
      exact hrest.cons x
    | false =>
      cases hb : b x with
      | true =>
        have hc : c x = false := by
          cases hc : c x
          · rfl
          · rw [ha, hb, hc] at hx
            simp at hx
        rw [hc, List.append_assoc]
        rw [List.append_assoc] at hrest
        exact List.perm_middle.trans (hrest.cons x)
      | false =>
        have hc : c x = true := by
          cases hc : c x
          · rw [ha, hb, hc] at hx
            simp at hx
          · rfl
        rw [hc]
        exact List.perm_middle.trans (hrest.cons x)

theorem perm_move_front {α : Type} (c s m e d t rest : List α) :
    (c ++ (s ++ (m ++ (e ++ (d ++ (t ++ rest)))))).Perm (t ++ (c ++ (s ++ (m ++ (e ++ (d ++ rest)))))) := by
  have h := List.perm_append_comm_assoc (c ++ s ++ m ++ e ++ d) t rest
  simpa only [List.append_assoc] using h

/-- **The union has one item for each row that needs attention.** -/
theorem buildUnion_references (db : Database) (organizationId : OrganizationId) :
    ((buildUnion db.toTables organizationId).map Item.reference).Perm (needsAttention db.toTables organizationId) := by
  have hkeys := db.keysNodup
  have hevents : ((db.artifactDownloadEvents.filter
        (fun e => e.organizationId = organizationId ∧ e.outcome.isFailure)).filter (fun e => e.cleaningRunId.isSome) ++
      (db.artifactDownloadEvents.filter
        (fun e => e.organizationId = organizationId ∧ e.outcome.isFailure)).filter
          (fun e => e.standardizationRunId.isSome) ++
      (db.artifactDownloadEvents.filter
        (fun e => e.organizationId = organizationId ∧ e.outcome.isFailure)).filter (fun e => e.exportRunId.isSome)).Perm
      (db.artifactDownloadEvents.filter (fun e => e.organizationId = organizationId ∧ e.outcome.isFailure)) :=
    filter_one_of_three (fun e he => db.events_one_ref e (List.mem_filter.1 he).1)
  have hids := hevents.map (fun e => ("artifact_download_event", e.id))
  rw [List.map_append, List.map_append] at hids
  have hexport : (db.exportRuns.map (fun r => (id r : RunRow).id)).Nodup := hkeys.exportRuns
  unfold buildUnion needsAttention
  simp only [List.map_append, pendingReviewBranch_references, ambiguousMatchDecisionBranch_references,
    failedTaskRunBranch_references, artifactDownloadFailureBranch_references hkeys.cleaningRuns db.events_cleaning,
    artifactDownloadFailureBranch_references hkeys.standardizationRuns db.events_standardization,
    artifactDownloadFailureBranch_references hexport db.events_export]
  refine List.Perm.trans ?_ (hids.append_left _)
  simp only [List.append_assoc]
  exact perm_move_front _ _ _ _ _ _ _

/-- **No two items refer to one row.** -/
theorem buildUnion_nodup (db : Database) (organizationId : OrganizationId) :
    ((buildUnion db.toTables organizationId).map Item.referenceId).Nodup := by
  have hids : ((needsAttention db.toTables organizationId).map Prod.snd).Sublist db.toTables.ids := by
    unfold needsAttention pendingIds Tables.ids
    simp only [List.map_append, List.map_map]
    refine List.Sublist.append (List.Sublist.append (List.Sublist.append (List.Sublist.append (List.Sublist.append
      (List.Sublist.append ?_ ?_) ?_) ?_) ?_) ?_) ?_
    · exact (List.filter_sublist.map _).trans (List.sublist_append_right _ _)
    all_goals exact List.filter_sublist.map _
  have hperm := (buildUnion_references db organizationId).map Prod.snd
  rw [List.map_map] at hperm
  exact hperm.nodup_iff.2 (db.ids_nodup.sublist hids)

end ReviewQueue
end DataOps

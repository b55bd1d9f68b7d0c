import Mathlib
import DataOps.LibLike
import DataOps.ReviewQueuePages
import DataOps.ReviewQueueRows
/-!
# ReviewQueueSearch — what a search for a name finds

The term goes into a `LIKE` pattern as it is: `%`, `_` and `\` of the term are read as metacharacters.  It is lower-cased
by Python and the names by PostgreSQL, and U+0000 makes the query fail.  The search is for the term as it stands exactly
when none of this shows (`search_literal_iff`).
-/
namespace DataOps
namespace ReviewQueue

open Api (OrganizationId)
open Like (accepts metacharacters places)

/-- The text functions of PostgreSQL and of Python, as far as the search depends on them. -/
structure Texts.Documented (texts : Texts) : Prop where
  like_eq : ∀ s p ps, places p = some ps → texts.like s p = accepts ps s
  -- `str.lower` yields lower case
  strLower_lower : ∀ s, ∀ c ∈ texts.strLower s, texts.strLower [c] = [c]
  strLower_any : texts.strLower ['%'] = ['%']
  -- both touch letters only
  count_strLower : ∀ s, ∀ c ∈ Str.nul :: metacharacters, (texts.strLower s).count c = s.count c
  count_lower : ∀ s, ∀ c ∈ Str.nul :: metacharacters, (texts.lower s).count c = s.count c
  -- what Python has in lower case is in lower case for the database
  lower_eq_self : ∀ s, (∀ c ∈ s, texts.strLower [c] = [c]) → texts.lower s = s

/-- What the query gives with the filters; the driver sends no text with U+0000. -/
def filteredItems (texts : Texts) (db : Tables) (filters : ReviewQueueFilters) (rq : List Item) : Option (List Item) :=
  if filters.searchTerm ≠ [] ∧ texts.parseUuid filters.searchTerm = none ∧
    Str.nul ∈ texts.strLower filters.searchTerm then none
  else some (applyFilters texts db filters rq)

/-- The lower-cased term occurs in the lower-cased name of the item's task or of its data set. -/
def NameHolds (texts : Texts) (db : Tables) (filters : ReviewQueueFilters) (i : Item) : Prop :=
  (∃ t ∈ db.tasks, t.id = i.taskId ∧ texts.lower filters.searchTerm <:+: texts.lower t.name) ∨
    ∃ s ∈ db.dataSources, some s.id = i.dataSourceId ∧ texts.lower filters.searchTerm <:+: texts.lower s.name

/-- What a search should find, in any queue and beside any other filter. -/
def SearchIsLiteral (texts : Texts) (search : Str) : Prop :=
  ∀ (db : Database) (organizationId : OrganizationId) (filters : ReviewQueueFilters), filters.search = some search →
    ∃ items, filteredItems texts db.toTables filters (buildUnion db.toTables organizationId) = some items ∧
      ∀ i ∈ buildUnion db.toTables organizationId, i ∈ items ↔ filters.keeps i ∧ NameHolds texts db.toTables filters i

/-- The term is matched as it stands. -/
def Literal (texts : Texts) (search : Str) : Prop :=
  Str.nul ∉ search ∧ (∀ c ∈ search, c ∉ metacharacters) ∧
    texts.lower (Str.strip search) = texts.strLower (Str.strip search)

/-! ## The pattern -/

theorem pattern_eq (t : Str) : ['%'] ++ (['%'] ++ t ++ ['%']) ++ ['%'] = Like.around t := by
  simp [Like.around]

section
variable {texts : Texts} (hdoc : texts.Documented)
include hdoc

theorem nameLike_iff {searchTerm : Str} (h : ∀ c ∈ texts.strLower searchTerm, c ∉ metacharacters) (name : Str) :
    nameLike texts searchTerm name ↔ texts.strLower searchTerm <:+: texts.lower name := by
  obtain ⟨ps, hps, haccepts⟩ := Like.around_accepts_iff h
  unfold nameLike
  rw [pattern_eq, hdoc.like_eq _ _ ps hps]
  exact haccepts (texts.lower name)

/-- What Python has lower-cased stays as it is in the database. -/
theorem lower_strLower (s : Str) : texts.lower (texts.strLower s) = texts.strLower s :=
  hdoc.lower_eq_self _ (hdoc.strLower_lower s)

/-- A term with a metacharacter is like a name that does not hold it. -/
theorem exists_nameLike {searchTerm : Str} (h : ∃ c ∈ texts.strLower searchTerm, c ∈ metacharacters) :
    ∃ name, nameLike texts searchTerm name ∧ ¬ texts.lower searchTerm <:+: texts.lower name := by
  obtain ⟨ps, hps, haccepts⟩ := Like.around_accepts_fill (texts.strLower searchTerm)
  have hname : texts.lower (Like.fill (texts.strLower searchTerm)) = Like.fill (texts.strLower searchTerm) := by
    refine hdoc.lower_eq_self _ (fun c hc => ?_)
    rcases Like.mem_fill hc with hc | rfl
    · exact hdoc.strLower_lower searchTerm c hc
    · exact hdoc.strLower_any
  refine ⟨Like.fill (texts.strLower searchTerm), ?_, ?_⟩
  · unfold nameLike
    rw [pattern_eq, hname, hdoc.like_eq _ _ ps hps]
    exact haccepts
  · rw [hname]
    refine Like.not_infix_fill (fun c hc => ?_) h
    rw [hdoc.count_lower _ c (List.mem_cons_of_mem _ hc), hdoc.count_strLower _ c (List.mem_cons_of_mem _ hc)]

/-- **Where every name that is like the term holds it and the other way round, the two lower cases of the term agree.** -/
theorem lower_eq_strLower {searchTerm : Str} (h : ∀ c ∈ texts.strLower searchTerm, c ∉ metacharacters)
    (hall : ∀ name, nameLike texts searchTerm name ↔ texts.lower searchTerm <:+: texts.lower name) :
    texts.lower searchTerm = texts.strLower searchTerm := by
  have hself : texts.strLower searchTerm <:+: texts.lower searchTerm :=
    (nameLike_iff hdoc h searchTerm).1 ((hall searchTerm).2 (List.infix_refl _))
  have hlowered : texts.lower searchTerm <:+: texts.strLower searchTerm := by
    have hlike := (nameLike_iff hdoc h (texts.strLower searchTerm)).2 (by rw [lower_strLower hdoc])
    have hholds := (hall (texts.strLower searchTerm)).1 hlike
    rwa [lower_strLower hdoc] at hholds
  exact hlowered.eq_of_length_le hself.length_le

theorem mem_strLower_strip {search : Str} {c : Char} (hc : c ∈ Str.nul :: metacharacters) :
    c ∈ texts.strLower (Str.strip search) ↔ c ∈ search := by
  have hspace : Str.isSpace c = false := by
    simp only [metacharacters, List.mem_cons, List.not_mem_nil, or_false] at hc
    rcases hc with rfl | rfl | rfl | rfl <;> decide
  rw [← List.count_pos_iff, hdoc.count_strLower _ c hc, List.count_pos_iff]
  exact ⟨Str.mem_of_mem_strip, fun h => Str.mem_strip h hspace⟩

end

/-! ## The search -/

theorem searchTerm_eq {filters : ReviewQueueFilters} {search : Str} (h : filters.search = some search) :
    filters.searchTerm = Str.strip search := by
  unfold ReviewQueueFilters.searchTerm
  rw [h]
  rfl

/-- **The search for a name goes by the names of the item's task and data set.** -/
theorem mem_applyFilters_iff {texts : Texts} {db : Database} {organizationId : OrganizationId}
    {filters : ReviewQueueFilters} (hterm : filters.searchTerm ≠ [])
    (huuid : texts.parseUuid filters.searchTerm = none) {i : Item} (hi : i ∈ buildUnion db.toTables organizationId) :
    i ∈ applyFilters texts db.toTables filters (buildUnion db.toTables organizationId) ↔ filters.keeps i ∧
      ((∃ t ∈ db.tasks, t.id = i.taskId ∧ nameLike texts filters.searchTerm t.name) ∨
        ∃ s ∈ db.dataSources, some s.id = i.dataSourceId ∧ nameLike texts filters.searchTerm s.name) := by
  have hkeys := db.keysNodup
  have hsources : (db.dataSources.map (fun s : DataSourceRow => some s.id)).Nodup := nodup_some hkeys.dataSources
  rw [applyFilters_eq hkeys, List.mem_filter, and_iff_right hi, Bool.and_eq_true]
  unfold searchFinds
  rw [if_neg hterm, huuid]
  dsimp only
  rw [Bool.or_eq_true, Option.any_eq_true, Option.any_eq_true]
  simp only [Relations.partner_eq_some_iff hkeys.tasks, Relations.partner_eq_some_iff hsources, and_assoc]

/-- One failed run, of a task with a given name and without a data set. -/
def namedQueue (name : Str) : Database where
  dataSources := []
  tasks := [⟨1, 20, none, name⟩]
  taskRuns := [⟨1, 30, 20, .failed, none, 5⟩]
  cleaningRuns := []
  standardizationRuns := []
  matchRuns := []
  exportRuns := []
  matchDecisions := []
  artifactDownloadEvents := []
  ids_nodup := by simp [Tables.ids]
  tasks_ref := by simp
  taskRuns_ref := by simp
  cleaning_ref := by simp
  standardization_ref := by simp
  match_ref := by simp
  export_ref := by simp
  decisions_ref := tiedQueue.decisions_ref
  events_cleaning := by simp
  events_standardization := tiedQueue.events_standardization
  events_export := tiedQueue.events_export
  events_one_ref := tiedQueue.events_one_ref

def namedItem (name : Str) : Item := failedItem ⟨1, 30, 20, .failed, none, 5⟩ ⟨1, 20, none, name⟩

/-- In the queue of one task, a search for a name answers by the name. -/
theorem mem_namedQueue_iff {texts : Texts} {search : Str} (hblank : Str.strip search ≠ [])
    (huuid : texts.parseUuid (Str.strip search) = none) (name : Str) :
    namedItem name ∈ applyFilters texts (namedQueue name).toTables { search := some search }
        (buildUnion (namedQueue name).toTables 1) ↔ nameLike texts (Str.strip search) name := by
  have hterm : ({ search := some search } : ReviewQueueFilters).searchTerm = Str.strip search := searchTerm_eq rfl
  rw [mem_applyFilters_iff (by rwa [hterm]) (by rwa [hterm]) (List.mem_singleton_self _), hterm]
  constructor
  · rintro ⟨-, ⟨t, ht, -, hlike⟩ | ⟨s, hs, -⟩⟩
    · obtain rfl := List.mem_singleton.1 ht
      exact hlike
    · exact absurd hs List.not_mem_nil
  · exact fun hlike => ⟨rfl, .inl ⟨_, List.mem_singleton_self _, rfl, hlike⟩⟩

theorem nameHolds_namedQueue_iff {texts : Texts} {search : Str} (name : Str) :
    NameHolds texts (namedQueue name).toTables { search := some search } (namedItem name) ↔
      texts.lower (Str.strip search) <:+: texts.lower name := by
  unfold NameHolds
  rw [searchTerm_eq rfl]
  constructor
  · rintro (⟨t, ht, -, hholds⟩ | ⟨s, hs, -⟩)
    · obtain rfl := List.mem_singleton.1 ht
      exact hholds
    · exact absurd hs List.not_mem_nil
  · exact fun hholds => .inl ⟨_, List.mem_singleton_self _, rfl, hholds⟩

theorem filteredItems_eq {texts : Texts} {db : Tables} {filters : ReviewQueueFilters} {search : Str} {rq : List Item}
    (hsearch : filters.search = some search) (hnul : Str.nul ∉ texts.strLower (Str.strip search)) :
    filteredItems texts db filters rq = some (applyFilters texts db filters rq) := by
  unfold filteredItems
  rw [searchTerm_eq hsearch, if_neg (fun h => hnul h.2.2)]

/-- **A search is for the term as it stands exactly when** it has no U+0000 and no metacharacter of `LIKE`, and Python and
PostgreSQL lower-case it alike. -/
theorem search_literal_iff (texts : Texts) (hdoc : texts.Documented) (search : Str) (hblank : Str.strip search ≠ [])
    (huuid : texts.parseUuid (Str.strip search) = none) : SearchIsLiteral texts search ↔ Literal texts search := by
  constructor
  · intro hliteral
    have hnul : Str.nul ∉ search := by
      intro hmem
      obtain ⟨items, hitems, -⟩ := hliteral (namedQueue []) 1 { search := some search } rfl
      unfold filteredItems at hitems
      rw [searchTerm_eq rfl, if_pos ⟨hblank, huuid, (mem_strLower_strip hdoc List.mem_cons_self).2 hmem⟩] at hitems
      cases hitems
    have hnames : ∀ name, nameLike texts (Str.strip search) name ↔
      texts.lower (Str.strip search) <:+: texts.lower name := by
      intro name
      obtain ⟨items, hitems, hiff⟩ := hliteral (namedQueue name) 1 { search := some search } rfl
      rw [filteredItems_eq rfl (fun hmem => hnul ((mem_strLower_strip hdoc List.mem_cons_self).1 hmem))] at hitems
      obtain rfl := Option.some.inj hitems
      have hitem := hiff (namedItem name) (List.mem_singleton_self _)
      rw [nameHolds_namedQueue_iff] at hitem
      rw [← mem_namedQueue_iff hblank huuid, hitem]
      exact and_iff_right rfl
    have hplain : ∀ c ∈ texts.strLower (Str.strip search), c ∉ metacharacters := by
      intro c hc hmeta
      obtain ⟨name, hlike, hwithin⟩ := exists_nameLike hdoc ⟨c, hc, hmeta⟩
      exact hwithin ((hnames name).1 hlike)
    refine ⟨hnul, fun c hc hmeta => ?_, lower_eq_strLower hdoc hplain hnames⟩
    exact hplain c ((mem_strLower_strip hdoc (List.mem_cons_of_mem _ hmeta)).2 hc) hmeta
  · rintro ⟨hnul, hplain, hlower⟩ db organizationId filters hsearch
    have hterm := searchTerm_eq hsearch
    have hlike : ∀ name, nameLike texts filters.searchTerm name ↔
        texts.lower filters.searchTerm <:+: texts.lower name := by
      rw [hterm, hlower]
      refine nameLike_iff hdoc (fun c hc hmeta => hplain c ?_ hmeta)
      exact (mem_strLower_strip hdoc (List.mem_cons_of_mem _ hmeta)).1 hc
    refine ⟨_, filteredItems_eq hsearch (fun hmem => hnul ((mem_strLower_strip hdoc List.mem_cons_self).1 hmem)), ?_⟩
    intro i hi
    rw [mem_applyFilters_iff (by rwa [hterm]) (by rwa [hterm]) hi]
    unfold NameHolds
    simp only [hlike]

/-- The text functions on ASCII; no text is a UUID. -/
def asciiTexts : Texts where
  lower := List.map Char.toLower
  like s p := (places p).any (fun ps => accepts ps s)
  strLower := List.map Char.toLower
  parseUuid _ := none

theorem toLower_eq_iff {c x : Char} (hx : x.isAlpha = false) : c.toLower = x ↔ c = x := by
  constructor
  · rintro rfl
    rw [Char.isAlpha_toLower_eq_isAlpha] at hx
    refine (Char.toLower_eq_of_not_isUpper (fun hupper => ?_)).symm
    rw [Char.isAlpha, hupper, Bool.true_or] at hx
    exact Bool.noConfusion hx
  · rintro rfl
    refine Char.toLower_eq_of_not_isUpper (fun hupper => ?_)
    rw [Char.isAlpha, hupper, Bool.true_or] at hx
    exact Bool.noConfusion hx

theorem count_map_toLower {c : Char} (hc : c.isAlpha = false) (s : Str) : (s.map Char.toLower).count c = s.count c := by
  rw [List.count_eq_countP, List.count_eq_countP, List.countP_map]
  exact List.countP_congr (fun d _ => by simp [toLower_eq_iff hc])

theorem isAlpha_of_mem {c : Char} (hc : c ∈ Str.nul :: metacharacters) : c.isAlpha = false := by
  simp only [metacharacters, List.mem_cons, List.not_mem_nil, or_false] at hc
  rcases hc with rfl | rfl | rfl | rfl <;> decide

theorem asciiTexts_documented : asciiTexts.Documented where
  like_eq s p ps h := by
    unfold asciiTexts
    dsimp only
    rw [h]
    rfl
  strLower_lower s c hc := by
    obtain ⟨d, -, rfl⟩ := List.mem_map.1 hc
    exact congrArg (fun x => [x]) (Char.toLower_toLower_eq_toLower d)
  strLower_any := by decide
  count_strLower s c hc := count_map_toLower (isAlpha_of_mem hc) s
  count_lower s c hc := count_map_toLower (isAlpha_of_mem hc) s
  lower_eq_self s h := by
    refine (List.map_congr_left (fun c hc => ?_)).trans (List.map_id s)
    exact List.singleton_inj.1 (h c hc)

/-- A search for `Q1 EU`. -/
theorem search_literal_iff_quarter : SearchIsLiteral asciiTexts " Q1 EU ".toList := by
  have hplain : " Q1 EU ".toList.all (fun c => !metacharacters.contains c) = true := by decide
  refine (search_literal_iff asciiTexts asciiTexts_documented " Q1 EU ".toList (by decide) rfl).2
    ⟨by decide, fun c hc => ?_, rfl⟩
  simpa using List.all_eq_true.1 hplain c hc

/-- A search for `q_1` finds `q11`, and one for `a\b` does not find `a\b`. -/
theorem search_not_literal :
    namedItem "q11".toList ∈ applyFilters asciiTexts (namedQueue "q11".toList).toTables { search := some "q_1".toList }
        (buildUnion (namedQueue "q11".toList).toTables 1) ∧
      ¬ SearchIsLiteral asciiTexts "q_1".toList ∧
      applyFilters asciiTexts (namedQueue "a\\b".toList).toTables { search := some "a\\b".toList }
        (buildUnion (namedQueue "a\\b".toList).toTables 1) = [] ∧
      ¬ SearchIsLiteral asciiTexts "a\\b".toList := by
  have hfound : namedItem "q11".toList ∈ applyFilters asciiTexts (namedQueue "q11".toList).toTables
      { search := some "q_1".toList } (buildUnion (namedQueue "q11".toList).toTables 1) := by decide
  have hmissed : applyFilters asciiTexts (namedQueue "a\\b".toList).toTables { search := some "a\\b".toList }
      (buildUnion (namedQueue "a\\b".toList).toTables 1) = [] := by decide
  refine ⟨hfound, fun h => ?_, hmissed, fun h => ?_⟩
  · obtain ⟨items, hitems, hiff⟩ := h (namedQueue "q11".toList) 1 { search := some "q_1".toList } rfl
    rw [filteredItems_eq rfl (by decide)] at hitems
    obtain rfl := Option.some.inj hitems
    have hholds := (nameHolds_namedQueue_iff _).1 ((hiff _ (List.mem_singleton_self _)).1 hfound).2
    exact absurd hholds (by decide)
  · obtain ⟨items, hitems, hiff⟩ := h (namedQueue "a\\b".toList) 1 { search := some "a\\b".toList } rfl
    rw [filteredItems_eq rfl (by decide), hmissed] at hitems
    obtain rfl := Option.some.inj hitems
    have hmem := (hiff (namedItem "a\\b".toList) (List.mem_singleton_self _)).2
      ⟨rfl, (nameHolds_namedQueue_iff _).2 (by decide)⟩
    exact absurd hmem List.not_mem_nil

/-- Capital alpha and sigma, lower-cased by character for PostgreSQL; Python takes the sigma at the end for a final one. -/
def greekTexts : Texts :=
  { asciiTexts with
    lower := List.map (fun c => if c = 'Α' then 'α' else if c = 'Σ' then 'σ' else c)
    strLower := fun s => if s = ['Α', 'Σ'] then ['α', 'ς'] else s }

/-- A search for `ΑΣ` does not find the task of this name. -/
example : applyFilters greekTexts (namedQueue ['Α', 'Σ']).toTables { search := some ['Α', 'Σ'] }
    (buildUnion (namedQueue ['Α', 'Σ']).toTables 1) = [] := by decide

end ReviewQueue
end DataOps

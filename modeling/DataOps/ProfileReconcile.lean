import DataOps.CsvHandOff
import DataOps.LibBinaryPython
import DataOps.ProfileEngine
/-!
# ProfileReconcile — what a profile says of a table

Every table that loads is profiled, and the counts of a profile are counts of its cells (`profileCsv_reconciles`).
-/
namespace DataOps

namespace Profiling

open Cleaning (InferredType)

/-! ## Types -/

theorem count_add_count_le {t t' : InferredType} (hne : t ≠ t') (types : List InferredType) :
    types.count t + types.count t' ≤ types.length := by
  induction types with
  | nil => simp
  | cons s types ih =>
    rw [List.count_cons, List.count_cons, List.length_cons]
    by_cases hs : s = t
    · subst hs
      simp [hne]
      omega
    · by_cases hs' : s = t'
      · subst hs'
        simp [hs]
        omega
      · simp [hs, hs']
        omega

instance : Std.Total rankedBefore where
  total := by
    intro a b
    unfold rankedBefore
    omega

instance : IsTrans (InferredType × Nat) rankedBefore where
  trans := by
    intro a b c
    unfold rankedBefore
    omega

section
variable {py : PythonValues}

theorem valueType_priority {value : Str} (h : value.strip ≠ []) : valueType py value ∈ typePriority := by
  unfold valueType
  simp only [if_neg h]
  repeat' split
  all_goals decide

/-- **The dominant type** is the most frequent one; it is reported when no other is as frequent, and its share is not below
the literal. -/
theorem dominantType_tally {types : List InferredType} (hne : types ≠ []) (hall : ∀ t ∈ types, t ∈ typePriority) :
    ∃ dominant ∈ types, (∀ t ∈ types, types.count t ≤ types.count dominant) ∧
      dominantType py (Dict.tally types) = some
        (if (∃ t ∈ types, t ≠ dominant ∧ types.count t = types.count dominant) ∨
            py.lt (py.ratio (types.count dominant) types.length) (py.float "0.8".toList) = true
          then .mixed else dominant, some dominant) := by
  have hpriority : ¬ ∃ item ∈ Dict.tally types, item.1 ∉ typePriority := by
    rintro ⟨item, hitem, hnot⟩
    exact hnot (hall item.1 (Dict.mem_tally.1 hitem).1)
  have hperm := List.perm_insertionSort rankedBefore (Dict.tally types)
  have hsorted := List.pairwise_insertionSort rankedBefore (Dict.tally types)
  have hkeys : (((Dict.tally types).insertionSort rankedBefore).map Prod.fst).Nodup :=
    (hperm.map Prod.fst).nodup_iff.2 (Dict.nodup_keys_tally types)
  have hmem : ∀ item, item ∈ (Dict.tally types).insertionSort rankedBefore ↔
      item.1 ∈ types ∧ item.2 = types.count item.1 := fun item => hperm.mem_iff.trans Dict.mem_tally
  unfold dominantType
  rw [if_neg hpriority, Dict.sum_values_tally]
  cases hranked : (Dict.tally types).insertionSort rankedBefore with
  | nil =>
    obtain ⟨t, ht⟩ := List.exists_mem_of_ne_nil types hne
    have hnone := (hmem (t, types.count t)).2 ⟨ht, rfl⟩
    rw [hranked] at hnone
    cases hnone
  | cons first rest =>
    obtain ⟨dominant, count⟩ := first
    rw [hranked] at hsorted hkeys hmem
    obtain ⟨hfirst, hrest⟩ := List.pairwise_cons.1 hsorted
    obtain ⟨hnotin, -⟩ := List.nodup_cons.1 hkeys
    obtain ⟨hdominant, hcount⟩ := (hmem (dominant, count)).1 List.mem_cons_self
    dsimp only at hdominant hcount
    have hin : ∀ t ∈ types, t ≠ dominant → (t, types.count t) ∈ rest := by
      intro t ht htne
      rcases List.mem_cons.1 ((hmem (t, types.count t)).2 ⟨ht, rfl⟩) with heq | hin
      · exact absurd (Prod.ext_iff.1 heq).1 htne
      · exact hin
    have hmax : ∀ t ∈ types, types.count t ≤ types.count dominant := by
      intro t ht
      by_cases htne : t = dominant
      · rw [htne]
      · have hbefore := hfirst _ (hin t ht htne)
        unfold rankedBefore at hbefore
        dsimp only at hbefore
        omega
    have htied : rest.head?.any (fun second => second.2 = count) = true ↔
        ∃ t ∈ types, t ≠ dominant ∧ types.count t = types.count dominant := by
      cases rest with
      | nil =>
        simp only [List.head?_nil, Option.any_none, Bool.false_eq_true, false_iff]
        rintro ⟨t, ht, htne, -⟩
        cases hin t ht htne
      | cons second rest =>
        simp only [List.head?_cons, Option.any_some, decide_eq_true_eq]
        obtain ⟨hsecond, hsecondCount⟩ := (hmem second).1 (by simp)
        constructor
        · intro heq
          refine ⟨second.1, hsecond, fun h => hnotin ?_, by omega⟩
          rw [← h]
          exact List.mem_cons_self
        · rintro ⟨t, ht, htne, hcounts⟩
          have hle := hmax second.1 hsecond
          rcases List.mem_cons.1 (hin t ht htne) with heq | hafter
          · rw [← heq]
            omega
          · have hbefore := (List.pairwise_cons.1 hrest).1 _ hafter
            unfold rankedBefore at hbefore
            dsimp only at hbefore
            omega
    refine ⟨dominant, hdominant, hmax, ?_⟩
    subst hcount
    simp only [Bool.or_eq_true, htied]
    split_ifs <;> rfl

/-- What is promised of the division of two counts below `2 ^ 54`, and of the literal `0.8`. -/
def ComparesShares (py : PythonValues) : Prop :=
  ∀ n m, n ≤ m → 0 < m → m < 2 ^ 54 → (py.lt (py.ratio n m) (py.float "0.8".toList) = true ↔ 5 * n < 4 * m)

/-- At least 80% of the values are of the type. -/
def Dominates (types : List InferredType) (t : InferredType) : Prop :=
  types ≠ [] ∧ 80 * types.length ≤ 100 * types.count t

/-- **The reported type**: a concrete one of at least 80%, or `mixed` when there is none. -/
theorem dominantType_reports (shares : ComparesShares py) {types : List InferredType}
    (hall : ∀ t ∈ types, t ∈ typePriority) (hbound : types.length < 2 ^ 54) :
    ∃ reported dominant, dominantType py (Dict.tally types) = some (reported, dominant) ∧
      (∀ t ∈ typePriority, reported = t ↔ Dominates types t) ∧
      (reported = .mixed ↔ types ≠ [] ∧ ∀ t ∈ typePriority, ¬ Dominates types t) := by
  have hconcrete : ∀ t ∈ typePriority, t ≠ .mixed ∧ t ≠ .null := by decide
  by_cases hne : types = []
  · subst hne
    refine ⟨.null, none, rfl, fun t ht => ?_, by simp⟩
    simp [Dominates, (hconcrete t ht).2.symm]
  · obtain ⟨dominant, hdominant, hmax, hreported⟩ := @dominantType_tally py types hne hall
    have hpos : 0 < types.length := List.length_pos_iff.2 hne
    have hshare := shares (types.count dominant) types.length List.count_le_length hpos hbound
    have hunique : ∀ t, Dominates types t → t = dominant := by
      intro t ht
      by_contra htne
      have hsum := count_add_count_le htne types
      have hle : types.count t ≤ types.count dominant := by
        by_cases htypes : t ∈ types
        · exact hmax t htypes
        · rw [List.count_eq_zero_of_not_mem htypes]
          exact Nat.zero_le _
      have h80 := ht.2
      omega
    have hmixed : ((∃ t ∈ types, t ≠ dominant ∧ types.count t = types.count dominant) ∨
        py.lt (py.ratio (types.count dominant) types.length) (py.float "0.8".toList) = true) ↔
          ¬ Dominates types dominant := by
      rw [hshare]
      constructor
      · rintro (⟨t, -, htne, hcounts⟩ | hlt) h
        · have hsum := count_add_count_le htne types
          have h80 := h.2
          omega
        · have h80 := h.2
          omega
      · intro h
        right
        by_contra hnot
        exact h ⟨hne, by omega⟩
    refine ⟨_, _, hreported, fun t ht => ?_, ?_⟩
    · split
      · rename_i hcond
        have hnot := hmixed.1 hcond
        refine iff_of_false (hconcrete t ht).1.symm (fun h => hnot ?_)
        rw [← hunique t h]
        exact h
      · rename_i hcond
        have hdom : Dominates types dominant := by
          by_contra h
          exact hcond (hmixed.2 h)
        constructor
        · rintro rfl
          exact hdom
        · intro h
          exact (hunique t h).symm
    · split
      · rename_i hcond
        refine iff_of_true rfl ⟨hne, fun t _ h => hmixed.1 hcond ?_⟩
        rw [← hunique t h]
        exact h
      · rename_i hcond
        refine iff_of_false (hconcrete dominant (hall dominant hdominant)).1 (fun h => hcond (hmixed.2 ?_))
        exact h.2 dominant (hall dominant hdominant)

/-! ## Columns -/

/-- A column of a loaded table, its cells stripped. -/
def columnValues (loaded : LoadedCsv) (index : Nat) : List Str :=
  loaded.rows.map (fun row => Str.strip (row[index]?.getD []))

/-- A profile that is one of these cells. -/
structure Reconciled (py : PythonValues) (limits : ProfileLimits) (values : List Str)
    (column : ColumnProfile py.toPython) :
    Prop where
  missing   : column.missingCount + column.nonNullCount = values.length
  nonNull   : column.nonNullCount = (nonBlank values).length
  types     : column.observedTypeCounts.values.sum = column.nonNullCount
  counted   : ∀ t, (column.observedTypeCounts.get? t).getD 0 = ((nonBlank values).map (valueType py)).count t
  distinct  : column.distinctCount = (nonBlank values).eraseDups.length
  retained  : 1 ≤ limits.maxDistinctValues → column.retainedDistinctValues =
    (nonBlank values).eraseDups.take (min limits.maxDistinctValues column.distinctCount)
  truncated : column.distinctValuesTruncated = true ↔ ∃ v ∈ nonBlank values, v ∉ column.retainedDistinctValues
  reported  : ∃ dominant, dominantType py (Dict.tally ((nonBlank values).map (valueType py))) =
    some (column.inferredType, dominant)
  null      : column.inferredType = .null ↔ nonBlank values = []

/-- The type reported of these cells: a concrete one of at least 80%, or `mixed` when there is none. -/
structure ReportsType (py : PythonValues) (values : List Str) (reported : InferredType) : Prop where
  concrete : ∀ t ∈ typePriority, (reported = t ↔ Dominates ((nonBlank values).map (valueType py)) t)
  mixed    : reported = .mixed ↔
    nonBlank values ≠ [] ∧ ∀ t ∈ typePriority, ¬ Dominates ((nonBlank values).map (valueType py)) t

theorem types_priority {values : List Str} (hstripped : ∀ v ∈ values, v.strip = v) :
    ∀ t ∈ (nonBlank values).map (valueType py), t ∈ typePriority := by
  intro t ht
  obtain ⟨v, hv, rfl⟩ := List.mem_map.1 ht
  obtain ⟨hv, hne⟩ := List.mem_filter.1 hv
  apply valueType_priority
  rw [hstripped v hv]
  simpa using hne

theorem exists_dominantType {types : List InferredType} (hall : ∀ t ∈ types, t ∈ typePriority) :
    ∃ result, dominantType py (Dict.tally types) = some result ∧ (result.1 = .null ↔ types = []) := by
  by_cases hne : types = []
  · subst hne
    exact ⟨_, rfl, by simp⟩
  · obtain ⟨dominant, hdominant, -, hsome⟩ := @dominantType_tally py types hne hall
    have hnull : dominant ≠ .null := by
      rintro rfl
      exact absurd (hall _ hdominant) (by decide)
    refine ⟨_, hsome, ?_⟩
    dsimp only
    split <;> simp [hne, hnull]

/-- **Every column is profiled**, and its profile is one of its cells. -/
theorem profileValues_reconciled (round4 : py.Float → py.Float) {limits : ProfileLimits}
    (index : Nat) (name : Str) {values : List Str} (hstripped : ∀ v ∈ values, v.strip = v) :
    ∃ column issue, profileValues py round4 limits values.length index name values = some (column, issue) ∧
      column.name = name ∧ column.position = index ∧ Reconciled py limits values column := by
  have hlength : (nonBlank values).length ≤ values.length := List.length_filter_le _ _
  obtain ⟨⟨reported, dominant⟩, hsome, hnull⟩ := @exists_dominantType py _ (types_priority hstripped)
  have hperm : (List.insertionSort (fun a b => typeName a.1 ≤ typeName b.1)
      (Dict.tally ((nonBlank values).map (valueType py)))).Perm _ := List.perm_insertionSort _ _
  have hretained : boundedUnique limits.maxDistinctValues [] (nonBlank values) =
      (nonBlank values).eraseDups.take (max 1 limits.maxDistinctValues) := boundedUnique_nil _ _
  have hdistinct := length_eraseDups (nonBlank values)
  unfold profileValues
  dsimp only
  rw [hsome]
  refine ⟨_, _, rfl, rfl, rfl, ?_⟩
  exact {
    missing := Nat.sub_add_cancel hlength
    nonNull := rfl
    types := by
      have hsum := (hperm.map Prod.snd).sum_eq
      have htally := Dict.sum_values_tally ((nonBlank values).map (valueType py))
      simpa [Dict.values, hsum] using htally
    counted := by
      intro t
      have hkeys := Dict.nodup_keys_tally ((nonBlank values).map (valueType py))
      rw [← Dict.get?_tally]
      refine congrArg (fun o => Option.getD o 0) (Option.ext (fun n => ?_))
      rw [Dict.get?_eq_some_iff ((hperm.map Prod.fst).nodup_iff.2 hkeys), Dict.get?_eq_some_iff hkeys]
      exact hperm.mem_iff
    distinct := hdistinct.symm
    retained := by
      intro hlimit
      dsimp only
      rw [hretained, ← hdistinct, ← List.take_take, List.take_length, Nat.max_eq_right hlimit]
    truncated := by
      have hmem := exists_notMem_take (nodup_eraseDups (nonBlank values)) (max 1 limits.maxDistinctValues)
      simp only [List.mem_eraseDups] at hmem
      dsimp only
      rw [hretained, hmem, hdistinct, decide_eq_true_eq]
    reported := ⟨dominant, hsome⟩
    null := by simpa using hnull }

theorem Reconciled.reportsType (shares : ComparesShares py) {limits : ProfileLimits} {values : List Str}
    {column : ColumnProfile py.toPython} (h : Reconciled py limits values column) (hstripped : ∀ v ∈ values, v.strip = v)
    (hbound : (nonBlank values).length < 2 ^ 54) : ReportsType py values column.inferredType := by
  obtain ⟨reported, dominant, hsome, hconcrete, hmixed⟩ :=
    dominantType_reports shares (types_priority hstripped) (by simpa using hbound)
  obtain ⟨dominant', hreported⟩ := h.reported
  rw [hreported] at hsome
  have heq := (Prod.ext_iff.1 (Option.some.inj hsome)).1
  dsimp only at heq
  rw [heq]
  exact ⟨hconcrete, by simpa using hmixed⟩

/-! ## Tables -/

theorem profileColumn_eq {round4 : py.Float → py.Float} {limits : ProfileLimits} {loaded : LoadedCsv}
    (hwidth : ∀ row ∈ loaded.rows, row.length = loaded.headers.length) {index : Nat}
    (hindex : index < loaded.headers.length) (name : Str) :
    profileColumn py round4 limits loaded.rows (name, index) =
      profileValues py round4 limits (columnValues loaded index).length index name (columnValues loaded index) := by
  have hcells : loaded.rows.mapM (fun row => row[index]?.map Str.strip) = some (columnValues loaded index) := by
    apply mapM_eq_some
    intro row hrow
    have hlt : index < row.length := by
      rw [hwidth row hrow]
      exact hindex
    simp [List.getElem?_eq_getElem hlt]
  unfold profileColumn
  rw [hcells]
  simp [columnValues]

theorem stripped_columnValues (loaded : LoadedCsv) (index : Nat) : ∀ v ∈ columnValues loaded index, v.strip = v := by
  intro v hv
  obtain ⟨row, -, rfl⟩ := List.mem_map.1 hv
  exact Str.strip_strip _

/-- **Every table is profiled**, column by column. -/
theorem profileCsv_some (round4 : py.Float → py.Float) (limits : ProfileLimits)
    {loaded : LoadedCsv} (hwidth : ∀ row ∈ loaded.rows, row.length = loaded.headers.length) :
    ∃ profile, profileCsv py round4 loaded limits = some profile ∧ profile.rowCount = loaded.rows.length ∧
      profile.duplicateRowCount =
        loaded.rows.length - (loaded.rows.map (fun row => row.map Str.strip)).toFinset.card ∧
      profile.columnProfiles.length = loaded.headers.length ∧
      profile.missingValueTotal = (profile.columnProfiles.map (fun column => column.missingCount)).sum ∧
      ∀ (index : Nat) (hindex : index < loaded.headers.length), ∃ column,
        profile.columnProfiles[index]? = some column ∧ column.name = loaded.headers[index] ∧ column.position = index ∧
        Reconciled py limits (columnValues loaded index) column := by
  have hcolumn : ∀ header ∈ loaded.headers.zipIdx, ∃ column,
      profileColumn py round4 limits loaded.rows header = some column ∧ column.1.name = header.1 ∧
        column.1.position = header.2 ∧ Reconciled py limits (columnValues loaded header.2) column.1 := by
    intro header hheader
    have hindex := (List.mem_zipIdx hheader).2.1
    obtain ⟨column, issue, hvalues, hname, hposition, hreconciled⟩ := profileValues_reconciled round4
      header.2 header.1 (stripped_columnValues loaded header.2)
    refine ⟨(column, issue), ?_, hname, hposition, hreconciled⟩
    rw [← hvalues]
    exact profileColumn_eq hwidth (by simpa using hindex) header.1
  obtain ⟨columns, hcolumns, hall⟩ := exists_mapM hcolumn
  have hlength : columns.length = loaded.headers.length := by
    rw [← hall.length_eq, List.length_zipIdx]
  unfold profileCsv
  dsimp only
  rw [hcolumns]
  refine ⟨_, rfl, rfl, rfl, by rw [List.length_map, hlength], by rw [List.map_map]; rfl, fun index hindex => ?_⟩
  have hlt : index < columns.length := by omega
  have hheader := (List.forall₂_iff_get.1 hall).2 index (by simpa using hindex) hlt
  simp only [List.get_eq_getElem, List.getElem_zipIdx, Nat.zero_add] at hheader
  refine ⟨columns[index].1, ?_, hheader⟩
  rw [List.getElem?_map, List.getElem?_eq_getElem hlt, Option.map_some]

/-- **`profile_csv` reconciles.** -/
theorem profileCsv_reconciles (shares : ComparesShares py) (round4 : py.Float → py.Float) (limits : ProfileLimits)
    {casefold : Str → Str} {sha256 : ByteArray → String} {sniff : Str → Option Sniffed}
    {raw : ByteArray} {loaded : LoadedCsv} (hload : loadCsv casefold sha256 sniff limits.toCsvLimits raw = .ok loaded) :
    ∃ profile, profileCsv py round4 loaded limits = some profile ∧
      profile.rowCount = loaded.rows.length ∧ profile.columnProfiles.length = loaded.headers.length ∧
      profile.missingValueTotal = (profile.columnProfiles.map (fun column => column.missingCount)).sum ∧
      ∀ (index : Nat) (hindex : index < loaded.headers.length), ∃ column,
        profile.columnProfiles[index]? = some column ∧ column.name = loaded.headers[index] ∧ column.position = index ∧
        Reconciled py limits (columnValues loaded index) column ∧
        ((nonBlank (columnValues loaded index)).length < 2 ^ 54 →
          ReportsType py (columnValues loaded index) column.inferredType) := by
  obtain ⟨profile, hprofile, hrows, -, hlength, hmissing, hcolumns⟩ :=
    profileCsv_some round4 limits (loadable_of_loadCsv hload).width
  refine ⟨profile, hprofile, hrows, hlength, hmissing, fun index hindex => ?_⟩
  obtain ⟨column, hcolumn, hname, hposition, hreconciled⟩ := hcolumns index hindex
  exact ⟨column, hcolumn, hname, hposition, hreconciled,
    hreconciled.reportsType shares (stripped_columnValues loaded index)⟩

end

/-! ## A share that is rounded up -/

theorem binaryValues_comparesShares : ComparesShares binaryValues := by
  intro n m hle hm hbound
  rw [binary_lt_iff hm]
  omega

/-- A column of `true`, and a last fifth that is not. -/
def flagRows (n k : Nat) : List (List Str) := List.replicate n ["true".toList] ++ List.replicate k ["x".toList]

/-- Just what the file needs. -/
def flagLimits (n k : Nat) : ProfileLimits where
  maxFileSizeBytes := (serializeCsv ["flag".toList] (flagRows n k)).size
  maxRows := n + k
  maxColumns := 1
  maxCellLength := 4
  maxDistinctValues := 1
  maxSampleValues := 1

theorem mem_flagRows {n k : Nat} {row : List Str} (h : row ∈ flagRows n k) :
    row = ["true".toList] ∨ row = ["x".toList] := by
  rcases List.mem_append.1 h with h | h
  · exact Or.inl (List.eq_of_mem_replicate h)
  · exact Or.inr (List.eq_of_mem_replicate h)

theorem loadable_flagRows (n k : Nat) : Loadable (flagLimits n k).toCsvLimits ["flag".toList] (flagRows n k) where
  nonempty := by simp
  stripped := by decide
  width := by
    intro row hrow
    rcases mem_flagRows hrow with rfl | rfl <;> rfl
  columns := le_refl 1
  rowCount := by simp [flagRows, flagLimits]
  cells := by
    intro row hrow cell hcell
    show cell.length ≤ 4
    rcases mem_flagRows hrow with rfl | rfl <;> rw [List.mem_singleton.1 hcell] <;> decide
  small := by
    intro row hrow cell hcell
    rcases List.mem_cons.1 hrow with rfl | hrow
    · rw [List.mem_singleton.1 hcell]
      decide
    · rcases mem_flagRows hrow with rfl | rfl <;> rw [List.mem_singleton.1 hcell] <;> decide

theorem flagRows_handsOver (n k : Nat) : HandsOver id (fun _ => "") (fun _ => none) (flagLimits n k).toCsvLimits
    ["flag".toList] (flagRows n k) := by
  apply (loadable_flagRows n k).handsOver
  refine ⟨le_refl _, ?_, ?_⟩
  · have hhead : (Csv.write (["flag".toList] :: flagRows n k)).head? = some 'f' := by
      rw [Csv.write, List.flatMap_cons]
      rfl
    rw [hhead]
    decide
  · intro row hrow
    show Csv.rowOk Csv.excel row
    rcases List.mem_cons.1 hrow with rfl | hrow
    · decide
    · rcases mem_flagRows hrow with rfl | rfl <;> decide

/-- The types of the cells of the column, and what is reported of them. -/
theorem profileCsv_flags (n k : Nat) : ∃ loaded profile column,
    loadCsv id (fun _ => "") (fun _ => none) (flagLimits n k).toCsvLimits (serializeCsv ["flag".toList] (flagRows n k)) =
      .ok loaded ∧
    profileCsv binaryValues id loaded (flagLimits n k) = some profile ∧ profile.columnProfiles[0]? = some column ∧
    (nonBlank (columnValues loaded 0)).map (valueType binaryValues) =
      List.replicate n .boolean ++ List.replicate k .string ∧
    Reconciled binaryValues (flagLimits n k) (columnValues loaded 0) column := by
  obtain ⟨loaded, hload, hheaders, hrows⟩ := flagRows_handsOver n k
  obtain ⟨profile, hprofile, -, -, -, hcolumns⟩ :=
    profileCsv_reconciles binaryValues_comparesShares id (flagLimits n k) hload
  obtain ⟨column, hcolumn, -, -, hreconciled, -⟩ := hcolumns 0 (by simp [hheaders])
  refine ⟨loaded, profile, column, hload, hprofile, hcolumn, ?_, hreconciled⟩
  have htrue : Str.strip "true".toList = "true".toList ∧ valueType binaryValues "true".toList = .boolean := by decide
  have hx : Str.strip "x".toList = "x".toList ∧ valueType binaryValues "x".toList = .string := by decide
  have hvalues : columnValues loaded 0 = List.replicate n "true".toList ++ List.replicate k "x".toList := by
    rw [columnValues, hrows, flagRows, List.map_append, List.map_replicate, List.map_replicate]
    rfl
  rw [hvalues, nonBlank, List.filter_append, List.filter_replicate_of_pos (by decide),
    List.filter_replicate_of_pos (by decide), List.map_append, List.map_replicate, List.map_replicate, htrue.2, hx.2]

theorem count_flags (n k : Nat) :
    (List.replicate n InferredType.boolean ++ List.replicate k InferredType.string).count .boolean = n ∧
    (List.replicate n InferredType.boolean ++ List.replicate k InferredType.string).count .string = k := by
  constructor
  · rw [List.count_append, List.count_replicate, List.count_replicate]
    rfl
  · rw [List.count_append, List.count_replicate, List.count_replicate]
    simp

/-- The column is reported boolean as long as the rounded share is not below the literal. -/
theorem profileCsv_flags_boolean {n k : Nat} (hn : k < n) (hshare : 14411518807585587 * (n + k) ≤ n * 2 ^ 54) :
    ∃ loaded profile column,
      loadCsv id (fun _ => "") (fun _ => none) (flagLimits n k).toCsvLimits
        (serializeCsv ["flag".toList] (flagRows n k)) = .ok loaded ∧
      profileCsv binaryValues id loaded (flagLimits n k) = some profile ∧ profile.columnProfiles[0]? = some column ∧
      column.inferredType = .boolean ∧
      (Dominates ((nonBlank (columnValues loaded 0)).map (valueType binaryValues)) .boolean ↔ 80 * (n + k) ≤ 100 * n) := by
  obtain ⟨loaded, profile, column, hload, hprofile, hcolumn, htypes, hreconciled⟩ := profileCsv_flags n k
  obtain ⟨hcountTrue, hcountX⟩ := count_flags n k
  obtain ⟨dominant', hreported⟩ := hreconciled.reported
  refine ⟨loaded, profile, column, hload, hprofile, hcolumn, ?_⟩
  rw [htypes] at hreported ⊢
  have hlength : (List.replicate n InferredType.boolean ++ List.replicate k InferredType.string).length = n + k := by
    rw [List.length_append, List.length_replicate, List.length_replicate]
  have hne : List.replicate n InferredType.boolean ++ List.replicate k InferredType.string ≠ [] := by
    intro h
    rw [h, List.length_nil] at hlength
    omega
  have hmem : ∀ t ∈ List.replicate n InferredType.boolean ++ List.replicate k InferredType.string,
      t = .boolean ∨ t = .string := by
    intro t ht
    rcases List.mem_append.1 ht with ht | ht
    · exact Or.inl (List.eq_of_mem_replicate ht)
    · exact Or.inr (List.eq_of_mem_replicate ht)
  have hboolean : InferredType.boolean ∈ List.replicate n InferredType.boolean ++ List.replicate k InferredType.string :=
    List.mem_append_left _ (List.mem_replicate.2 ⟨by omega, rfl⟩)
  constructor
  · obtain ⟨dominant, hdominant, hmax, hsome⟩ := @dominantType_tally binaryValues _ hne (by
      intro t ht
      rcases hmem t ht with rfl | rfl <;> decide)
    have hdominantEq : dominant = .boolean := by
      rcases hmem dominant hdominant with rfl | rfl
      · rfl
      · have hle := hmax .boolean hboolean
        rw [hcountTrue, hcountX] at hle
        omega
    subst hdominantEq
    rw [hreported, hcountTrue, hlength] at hsome
    have hnot : ¬ ((∃ t ∈ List.replicate n InferredType.boolean ++ List.replicate k InferredType.string, t ≠ .boolean ∧
        (List.replicate n InferredType.boolean ++ List.replicate k InferredType.string).count t = n) ∨
        binaryValues.lt (binaryValues.ratio n (n + k)) (binaryValues.float "0.8".toList) = true) := by
      rw [binary_lt_iff (by omega)]
      rintro (⟨t, ht, htne, hcount⟩ | hlt)
      · rcases hmem t ht with rfl | rfl
        · exact htne rfl
        · omega
      · omega
    rw [if_neg hnot] at hsome
    exact (Prod.ext_iff.1 (Option.some.inj hsome)).1
  · unfold Dominates
    rw [hlength, hcountTrue, and_iff_right hne]

theorem profileCsv_reconciles_flags : ∃ loaded, loadCsv id (fun _ => "") (fun _ => none) (flagLimits 4 1).toCsvLimits
      (serializeCsv ["flag".toList] (flagRows 4 1)) = .ok loaded ∧
    ∃ profile, profileCsv binaryValues id loaded (flagLimits 4 1) = some profile ∧
      profile.rowCount = loaded.rows.length ∧ profile.columnProfiles.length = loaded.headers.length ∧
      profile.missingValueTotal = (profile.columnProfiles.map (fun column => column.missingCount)).sum ∧
      ∀ (index : Nat) (hindex : index < loaded.headers.length), ∃ column,
        profile.columnProfiles[index]? = some column ∧ column.name = loaded.headers[index] ∧ column.position = index ∧
        Reconciled binaryValues (flagLimits 4 1) (columnValues loaded index) column ∧
        ((nonBlank (columnValues loaded index)).length < 2 ^ 54 →
          ReportsType binaryValues (columnValues loaded index) column.inferredType) := by
  obtain ⟨loaded, hload, -, -⟩ := flagRows_handsOver 4 1
  exact ⟨loaded, hload, profileCsv_reconciles binaryValues_comparesShares id (flagLimits 4 1) hload⟩

/-- **Of 100000000000000004 cells 80000000000000003 are `true`, which is less than 80%, and the column is boolean.** -/
theorem profileCsv_rounds_up : ∃ loaded profile column,
    loadCsv id (fun _ => "") (fun _ => none) (flagLimits 80000000000000003 20000000000000001).toCsvLimits
      (serializeCsv ["flag".toList] (flagRows 80000000000000003 20000000000000001)) = .ok loaded ∧
    profileCsv binaryValues id loaded (flagLimits 80000000000000003 20000000000000001) = some profile ∧
    profile.columnProfiles[0]? = some column ∧ column.inferredType = .boolean ∧
    ¬ Dominates ((nonBlank (columnValues loaded 0)).map (valueType binaryValues)) .boolean := by
  have hboolean := profileCsv_flags_boolean (n := 80000000000000003) (k := 20000000000000001) (by omega) (by omega)
  obtain ⟨loaded, profile, column, hload, hprofile, hcolumn, htype, hdominates⟩ := hboolean
  refine ⟨loaded, profile, column, hload, hprofile, hcolumn, htype, fun h => ?_⟩
  have hle := hdominates.1 h
  omega

end Profiling
end DataOps

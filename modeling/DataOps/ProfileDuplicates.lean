import DataOps.CleaningIdempotent
import DataOps.DetectRules
import DataOps.LibTextWords
import DataOps.ProfileReconcile
/-!
# ProfileDuplicates — rows counted as duplicates by the profile, by detection and by cleaning

The profile compares stripped rows; detection and cleaning compare rows as they stand.  Detection therefore counts as the
profile does exactly when no two rows differ in blanks alone (`duplicates_agree_iff`), and cleaning always, since what it
returns is trimmed (`clean_agrees_with_profile`).
-/
namespace DataOps
namespace Profiling

open Detection (DetectionDataset duplicateRowRule)

/-! ## Detection -/

/-- Rows that are equal once every cell is stripped are equal. -/
def StrippedApart (rows : List (List Str)) : Prop :=
  ∀ row ∈ rows, ∀ row' ∈ rows, row.map Str.strip = row'.map Str.strip → row = row'

instance (rows : List (List Str)) : Decidable (StrippedApart rows) :=
  inferInstanceAs (Decidable (∀ row ∈ rows, ∀ row' ∈ rows, row.map Str.strip = row'.map Str.strip → row = row'))

theorem card_stripped_iff (rows : List (List Str)) :
    (rows.map (fun row => row.map Str.strip)).toFinset.card = rows.toFinset.card ↔ StrippedApart rows := by
  have himage : (rows.map (fun row => row.map Str.strip)).toFinset =
    rows.toFinset.image (fun row => row.map Str.strip) := by
    ext row
    simp
  rw [himage, Finset.card_image_iff]
  unfold StrippedApart Set.InjOn
  simp only [List.coe_toFinset, Set.mem_ofPred_eq]

section
variable {py : PythonValues}

theorem length_duplicateRowRule (d : DetectionDataset py.toPython) :
    (duplicateRowRule.detect d).length = d.rows.length - d.rows.toFinset.card := by
  have hrows : (List.finRange d.rows.length).map d.row = d.rows := List.map_get_finRange d.rows
  unfold duplicateRowRule
  rw [List.length_map, length_repeated_nil, hrows, List.length_finRange]

/-- **Detection finds as many duplicates as the profile counts exactly when no two rows differ in blanks alone.** -/
theorem duplicates_agree_iff (round4 : py.Float → py.Float) (limits : ProfileLimits)
    {casefold : Str → Str} {sha256 : ByteArray → String} {sniff : Str → Option Sniffed}
    {raw : ByteArray} {loaded : LoadedCsv} (hload : loadCsv casefold sha256 sniff limits.toCsvLimits raw = .ok loaded)
    (d : DetectionDataset py.toPython) (hrows : d.rows = loaded.rows) :
    ∃ profile, profileCsv py round4 loaded limits = some profile ∧
      ((duplicateRowRule.detect d).length = profile.duplicateRowCount ↔ StrippedApart loaded.rows) := by
  obtain ⟨profile, hprofile, -, hduplicates, -⟩ := @profileCsv_some py round4 limits _ (loadable_of_loadCsv hload).width
  have hraw := List.toFinset_card_le loaded.rows
  have hstripped := List.toFinset_card_le (loaded.rows.map (fun row => row.map Str.strip))
  rw [List.length_map] at hstripped
  refine ⟨profile, hprofile, ?_⟩
  rw [length_duplicateRowRule, hduplicates, hrows, ← card_stripped_iff]
  omega

end

/-- Two rows of one cell, the second with a blank before it. -/
def paddedSource : ByteArray := (String.ofList ['a', '\n', 'x', '\n', ' ', 'x', '\n']).toByteArray

def paddedLoaded : LoadedCsv where
  sourceSizeBytes := paddedSource.size
  sourceSha256 := ""
  detectedEncoding := "utf-8"
  delimiter := ','
  headers := [['a']]
  rows := [[['x']], [[' ', 'x']]]
  structuralIssues := []

def paddedLimits : ProfileLimits where
  toCsvLimits := defaultLimits
  maxDistinctValues := 1
  maxSampleValues := 1

theorem loadCsv_paddedSource :
    loadCsv id (fun _ => "") (fun _ => none) paddedLimits.toCsvLimits paddedSource = .ok paddedLoaded :=
  (loadCsv_ofList (by decide) (by decide) (by decide)).trans rfl

def paddedDataset : DetectionDataset asciiPython where
  headers := paddedLoaded.headers
  rows := paddedLoaded.rows
  width := by decide

theorem duplicates_agree_iff_padded : ∃ profile, profileCsv asciiValues id paddedLoaded paddedLimits = some profile ∧
    ((duplicateRowRule.detect paddedDataset).length = profile.duplicateRowCount ↔ StrippedApart paddedLoaded.rows) :=
  @duplicates_agree_iff asciiValues id paddedLimits id (fun _ => "") (fun _ => none) paddedSource paddedLoaded
    loadCsv_paddedSource paddedDataset rfl

/-- **The profile counts the padded row as a duplicate, and detection does not find it.** -/
theorem padded_disagree :
    loadCsv id (fun _ => "") (fun _ => none) paddedLimits.toCsvLimits paddedSource = .ok paddedLoaded ∧
      paddedDataset.rows = paddedLoaded.rows ∧
      ∃ profile, profileCsv asciiValues id paddedLoaded paddedLimits = some profile ∧
        (duplicateRowRule.detect paddedDataset).length ≠ profile.duplicateRowCount := by
  obtain ⟨profile, hprofile, -, hduplicates, -⟩ :=
    @profileCsv_some asciiValues id paddedLimits paddedLoaded (by decide)
  refine ⟨loadCsv_paddedSource, rfl, profile, hprofile, ?_⟩
  rw [hduplicates]
  decide

/-! ## Cleaning -/

section
open Cleaning (Log InferredType CleaningLimits CleaningResult RuleName withDecimals cleanCell cleanRow cleanRows clean
  coerceType coerceDate normalizeBlank countDuplicates cleanRow_cons cleanRows_cons clean_ok)

variable {py : PythonValues} (digits : DigitTexts py.toPython)

/-- A date is written without blanks. -/
def PlainDates (py : PythonValues) : Prop := ∀ d, ∀ c ∈ py.isoformat d, Str.isSpace c = false

theorem trim_coerceType (dates : PlainDates py) {value out : Str} {rule : Option RuleName} {inferredType : InferredType}
    (htrim : Str.trim value = value)
    (hout : coerceType (withDecimals py digits) value inferredType = some (out, rule)) : Str.trim out = out := by
  have hstrip : value.strip = value := by
    rw [← htrim, Str.strip_trim]
  have hsettled : ∀ t, out = value ∨ Cleaning.Settled digits t out → Str.trim out = out := by
    rintro t (rfl | h)
    · exact htrim
    · exact h.trimmed
  have hdate : ∀ {v}, coerceDate (withDecimals py digits) value = (v, rule) → v = out → Str.trim out = out := by
    rintro v hv rfl
    unfold coerceDate at hv
    split at hv
    · cases hv
      exact htrim
    · dsimp only at hv
      split at hv
      · cases hv
        exact htrim
      · cases hv
        exact Str.trim_eq_self (dates _)
  unfold coerceType at hout
  split at hout
  · cases hout
    exact htrim
  · cases inferredType with
    | integer => exact hsettled _ (Cleaning.coerceInteger_settled digits hstrip hout)
    | decimal => exact hsettled _ (Cleaning.coerceDecimal_settled digits hout)
    | boolean => exact hsettled _ (Cleaning.coerceBoolean_settled digits (Option.some.inj hout))
    | date => exact hdate (Option.some.inj hout) rfl
    | datetime => exact hdate (Option.some.inj hout) rfl
    | string =>
      cases hout
      exact htrim
    | null =>
      cases hout
      exact htrim
    | mixed =>
      cases hout
      exact htrim

/-- **A cleaned cell is trimmed.** -/
theorem trim_cleanCell (dates : PlainDates py) {inferredType : InferredType} {rowIndex : Nat} {columnName cell out : Str}
    {log log' : Log}
    (h : cleanCell (withDecimals py digits) inferredType rowIndex columnName log cell = some (log', out)) :
    Str.trim out = out := by
  have hnormalized : ∀ value, Str.trim value = value →
      Str.trim (normalizeBlank (withDecimals py digits) value).1 = (normalizeBlank (withDecimals py digits) value).1 := by
    intro value hvalue
    unfold normalizeBlank
    repeat' split
    · exact hvalue
    · rfl
    · exact hvalue
  unfold cleanCell at h
  dsimp only at h
  rw [Cleaning.trimWhitespace_eq] at h
  split at h
  · cases h
  · rename_i coerced heq
    cases h
    exact trim_coerceType digits dates (hnormalized _ (Str.trim_trim cell)) heq

theorem trim_cleanRow (dates : PlainDates py) (rowIndex : Nat) : ∀ {row out : List Str}
    {columns : List (Str × InferredType)} {log log' : Log},
    cleanRow (withDecimals py digits) rowIndex columns log row = some (log', out) →
    out.length = row.length ∧ ∀ cell ∈ out, Str.trim cell = cell
  | [], out, columns, log, log', h => by
    rw [cleanRow] at h
    cases h
    simp
  | cell :: row, out, [], log, log', h => by
    rw [cleanRow] at h
    cases h
  | cell :: row, out, column :: columns, log, log', h => by
    obtain ⟨mid, value, rest, hcell, hrow, rfl⟩ := cleanRow_cons h
    obtain ⟨hlength, hall⟩ := trim_cleanRow dates rowIndex hrow
    refine ⟨by rw [List.length_cons, hlength, List.length_cons], fun c hc => ?_⟩
    rcases List.mem_cons.1 hc with rfl | hc
    · exact trim_cleanCell digits dates hcell
    · exact hall c hc

theorem trim_cleanRows (dates : PlainDates py) {columns : List (Str × InferredType)} {width : Nat} :
    ∀ {rows out : List (List Str)} {rowIndex : Nat} {log log' : Log}, (∀ row ∈ rows, row.length = width) →
    cleanRows (withDecimals py digits) columns rowIndex log rows = some (log', out) →
    ∀ row ∈ out, row.length = width ∧ ∀ cell ∈ row, Str.trim cell = cell
  | [], out, rowIndex, log, log', _, h => by
    rw [cleanRows] at h
    cases h
    simp
  | row :: rows, out, rowIndex, log, log', hwidth, h => by
    obtain ⟨mid, cleaned, rest, hrow, hrows, rfl⟩ := cleanRows_cons h
    obtain ⟨hlength, hall⟩ := trim_cleanRow digits dates rowIndex hrow
    intro row' hrow'
    rcases List.mem_cons.1 hrow' with rfl | hrow'
    · exact ⟨hlength.trans (hwidth row List.mem_cons_self), hall⟩
    · exact trim_cleanRows dates (fun r hr => hwidth r (List.mem_cons_of_mem _ hr)) hrows row' hrow'

theorem countDuplicates_add : ∀ seen rows : List (List Str),
    countDuplicates seen rows + (rows.toFinset \ seen.toFinset).card = rows.length
  | _, [] => by simp [countDuplicates]
  | seen, row :: rows => by
    have ih := countDuplicates_add (row :: seen) rows
    rw [countDuplicates, List.toFinset_cons, List.length_cons]
    by_cases hmem : row ∈ seen
    · have hseen : (row :: seen).toFinset = seen.toFinset := by
        rw [List.toFinset_cons, Finset.insert_eq_self]
        exact List.mem_toFinset.2 hmem
      rw [hseen] at ih
      rw [if_pos hmem, Finset.insert_sdiff_of_mem _ (List.mem_toFinset.2 hmem)]
      omega
    · have hcard : (insert row rows.toFinset \ seen.toFinset).card =
          (rows.toFinset \ (row :: seen).toFinset).card + 1 := by
        have hnot : row ∉ rows.toFinset \ (row :: seen).toFinset := by simp
        rw [← Finset.card_insert_of_notMem hnot]
        congr 1
        ext r
        by_cases hr : r = row <;> simp [hr, hmem]
      rw [if_neg hmem, hcard]
      omega

theorem sum_blank (f : Nat → Str) (l : List Nat) :
    (l.map (fun index => if f index = [] then 1 else 0)).sum = (l.map f).count [] := by
  induction l with
  | nil => rfl
  | cons index l ih =>
    rw [List.map_cons, List.sum_cons, ih, List.map_cons, List.count_cons]
    by_cases h : f index = []
    · simp [h]
      omega
    · simp [h]

/-- The blank cells of the columns are the blank cells of the rows. -/
theorem sum_count_columns {width : Nat} : ∀ {rows : List (List Str)}, (∀ row ∈ rows, row.length = width) →
    ((List.range width).map (fun index => (rows.map (fun row => row[index]?.getD [])).count [])).sum =
      rows.flatten.count []
  | [], _ => by simp
  | row :: rows, h => by
    have ih := sum_count_columns (fun r hr => h r (List.mem_cons_of_mem _ hr))
    have hrow : (List.range width).map (fun index => row[index]?.getD []) = row := by
      apply List.ext_getElem
      · rw [List.length_map, List.length_range, h row List.mem_cons_self]
      · intro index _ hindex
        simp [hindex]
    have hfirst := sum_blank (fun index => row[index]?.getD []) (List.range width)
    rw [hrow] at hfirst
    rw [List.flatten_cons, List.count_append, ← ih, ← hfirst, ← List.sum_map_add]
    congr 1
    apply List.map_congr_left
    intro index _
    rw [List.map_cons, List.count_cons, Nat.add_comm]
    simp

theorem length_nonBlank_add (values : List Str) : (nonBlank values).length + values.count [] = values.length := by
  induction values with
  | nil => rfl
  | cons value values ih =>
    rw [List.count_cons, List.length_cons]
    by_cases hv : value = []
    · have hskip : nonBlank (value :: values) = nonBlank values := List.filter_cons_of_neg (by simp [hv])
      rw [hskip, if_pos (by simp [hv])]
      omega
    · have hkept : nonBlank (value :: values) = value :: nonBlank values := List.filter_cons_of_pos (by simp [hv])
      rw [hkept, if_neg (by simp [hv]), List.length_cons]
      omega

theorem missing_eq_count {values : List Str} {column : ColumnProfile py.toPython} {limits : ProfileLimits}
    (h : Reconciled py limits values column) : column.missingCount = values.count [] := by
  have hmissing := h.missing
  have hsplit := length_nonBlank_add values
  rw [h.nonNull] at hmissing
  omega

/-- **What cleaning returns is trimmed, and the profile of it counts the same duplicates, and every empty cell as
missing.** -/
theorem clean_agrees_with_profile (dates : PlainDates py) (t : Table) (columnTypes : List InferredType)
    (limits : CleaningLimits) (result : CleaningResult)
    (h : clean (withDecimals py digits) t.rows t.headers columnTypes limits = some result) (round4 : py.Float → py.Float)
    (profileLimits : ProfileLimits) (loaded : LoadedCsv) (hheaders : loaded.headers = t.headers)
    (hrows : loaded.rows = result.cleanedRows) :
    (∀ row ∈ result.cleanedRows, ∀ cell ∈ row, cell = [] ∨ ∀ w ∈ cell.splitOn ' ', Str.IsWord w) ∧
      ∃ profile, profileCsv (withDecimals py digits) round4 loaded profileLimits = some profile ∧
        result.duplicateRowCount = profile.duplicateRowCount ∧
        profile.missingValueTotal = result.cleanedRows.flatten.count [] := by
  obtain ⟨log, hclean, -, -, -, hcount⟩ := clean_ok h
  have hall := trim_cleanRows digits dates t.width hclean
  have hwidth : ∀ row ∈ loaded.rows, row.length = loaded.headers.length := by
    rw [hrows, hheaders]
    exact fun row hrow => (hall row hrow).1
  have hstripped : ∀ row ∈ result.cleanedRows, row.map Str.strip = row := by
    intro row hrow
    refine (List.map_congr_left (fun cell hcell => ?_)).trans (List.map_id' row)
    rw [← (hall row hrow).2 cell hcell, Str.strip_trim]
  refine ⟨fun row hrow cell hcell => Str.trim_eq_self_iff.1 ((hall row hrow).2 cell hcell), ?_⟩
  obtain ⟨profile, hprofile, -, hduplicates, hlength, hmissing, hcolumns⟩ :=
    @profileCsv_some (withDecimals py digits) round4 profileLimits _ hwidth
  refine ⟨profile, hprofile, ?_, ?_⟩
  · have hadd := countDuplicates_add [] result.cleanedRows
    rw [List.toFinset_nil, Finset.sdiff_empty] at hadd
    rw [hduplicates, hrows, (List.map_congr_left hstripped).trans (List.map_id' result.cleanedRows)]
    omega
  · rw [hmissing, ← sum_count_columns (hrows ▸ hwidth)]
    congr 1
    apply List.ext_getElem
    · rw [List.length_map, List.length_map, List.length_range, hlength]
    · intro index hleft hindex
      have hlt : index < loaded.headers.length := by simpa using hindex
      obtain ⟨column, hcolumn, -, -, hreconciled⟩ := hcolumns index hlt
      obtain ⟨hget, heq⟩ := List.getElem?_eq_some_iff.1 hcolumn
      rw [List.getElem_map, heq, missing_eq_count hreconciled, List.getElem_map, List.getElem_range, columnValues, hrows]
      congr 1
      apply List.map_congr_left
      intro row hrow
      have hcell : index < row.length := by
        rw [(hall row hrow).1, ← hheaders]
        exact hlt
      rw [List.getElem?_eq_getElem hcell, Option.getD_some, ← (hall row hrow).2 _ (List.getElem_mem hcell),
        Str.strip_trim]

end

section
open Cleaning (asciiDigitTexts oneDayValues messyTable messyResult withDecimals)

theorem oneDayValues_plainDates : PlainDates oneDayValues := by
  have hall : "2024-01-02T00:00:00".toList.all (fun c => !Str.isSpace c) = true := by decide
  intro d c hc
  simpa using List.all_eq_true.1 hall c hc

def messyLoaded : LoadedCsv where
  sourceSizeBytes := 0
  sourceSha256 := ""
  detectedEncoding := "utf-8"
  delimiter := ','
  headers := [['a'], ['b'], ['c'], ['d'], ['e']]
  rows := messyResult.cleanedRows
  structuralIssues := []

theorem clean_agrees_with_profile_messyTable :
    (∀ row ∈ messyResult.cleanedRows, ∀ cell ∈ row, cell = [] ∨ ∀ w ∈ cell.splitOn ' ', Str.IsWord w) ∧
      ∃ profile, profileCsv (withDecimals oneDayValues asciiDigitTexts) id messyLoaded paddedLimits = some profile ∧
        messyResult.duplicateRowCount = profile.duplicateRowCount ∧
        profile.missingValueTotal = messyResult.cleanedRows.flatten.count [] := by
  have hclean : Cleaning.clean (withDecimals oneDayValues asciiDigitTexts) messyTable [['a'], ['b'], ['c'], ['d'], ['e']]
      [.decimal, .integer, .boolean, .date, .string] ⟨0⟩ = some messyResult := by decide +kernel
  have hwidth : ∀ row ∈ messyTable, row.length = 5 := by decide
  exact @clean_agrees_with_profile oneDayValues asciiDigitTexts oneDayValues_plainDates
    ⟨[['a'], ['b'], ['c'], ['d'], ['e']], messyTable, hwidth⟩ [.decimal, .integer, .boolean, .date, .string] ⟨0⟩
    messyResult hclean id paddedLimits messyLoaded rfl rfl

end

end Profiling
end DataOps

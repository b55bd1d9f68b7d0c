import DataOps.CsvHandOff
import DataOps.DetectCells
/-!
# DetectBlanks — missing, empty and null cells

The loader notes how many fields a short row had; from these notes the missing-value rule reports the cells that were
padded, and the empty-string rule leaves them out.  Every cell is reported by at most one of the three rules
(`blanks_classified`).
-/
namespace DataOps

/-! ## What the loader notes -/

namespace Profiling

variable {casefold : Str → Str} {sha256 : ByteArray → String} {sniff : Str → Option Sniffed} {limits : CsvLimits}

/-- The notes on the rows of a body, the first of which is the row with this number. -/
def bodyIssues (width rowNumber : Nat) (records : List (List Str)) : List StructuralIssue :=
  (records.zipIdx rowNumber).flatMap (fun record => rowIssues width record.2 record.1)

theorem loadBody_issues {width : Nat} : ∀ {records : List (List Str)} {rowNumber : Nat}
    {acc acc' : List (List Str) × List StructuralIssue},
    loadBody limits width rowNumber acc (records.map .ok) = .ok acc' →
    acc'.2 = acc.2 ++ bodyIssues width rowNumber records
  | [], rowNumber, acc, acc', h => by
    cases h
    simp [bodyIssues]
  | row :: records, rowNumber, acc, acc', h => by
    rw [List.map_cons, loadBody] at h
    split at h
    · cases h
    · split at h
      · cases h
      · rw [loadBody_issues h]
        simp [bodyIssues]

/-- **The notes of a source that loads**: on its header, then on its rows in order. -/
theorem loadCsv_issues {raw : ByteArray} {loaded : LoadedCsv}
    (h : loadCsv casefold sha256 sniff limits raw = .ok loaded) :
    ∃ text encoding headers records, decode raw = .ok (text, encoding) ∧
      Csv.read (detectDialect sniff text) text = (headers :: records).map .ok ∧
      loaded.headers = headers.map Str.strip ∧ loaded.rows = records.map (fitRow headers.length) ∧
      loaded.structuralIssues =
        headerIssues casefold (headers.map Str.strip) ++ bodyIssues headers.length 2 records := by
  obtain ⟨text, encoding, headers, records, -, hdecode, hread, -, -, -, -, hheaders, hrows⟩ := loadCsv_ok h
  refine ⟨text, encoding, headers, records, hdecode, hread, hheaders, hrows, ?_⟩
  unfold loadCsv at h
  rw [hdecode] at h
  split at h
  · cases h
  · dsimp only at h
    split at h
    · cases h
    · rw [hread, List.map_cons] at h
      unfold loadRecords at h
      dsimp only at h
      split at h
      · cases h
      · split at h
        · cases h
        · split at h
          · cases h
          · rename_i rows issues hbody
            cases h
            exact loadBody_issues hbody

/-- A header is never noted as a short row. -/
theorem headerStep_short (acc : Dict Str Nat × List StructuralIssue) (p : Str × Nat) {rowNumber fieldCount : Nat}
    (h : .tooFewFields rowNumber fieldCount ∈ (headerStep casefold acc p).2) :
    .tooFewFields rowNumber fieldCount ∈ acc.2 := by
  unfold headerStep at h
  dsimp only at h
  split at h <;> split at h <;> simpa using h

theorem headerIssues_short (headers : List Str) (rowNumber fieldCount : Nat) :
    .tooFewFields rowNumber fieldCount ∉ headerIssues casefold headers := by
  have hfold : ∀ (l : List (Str × Nat)) (acc : Dict Str Nat × List StructuralIssue),
      .tooFewFields rowNumber fieldCount ∈ (l.foldl (headerStep casefold) acc).2 →
        .tooFewFields rowNumber fieldCount ∈ acc.2 := by
    intro l
    induction l with
    | nil => exact fun acc h => h
    | cons p l ih => exact fun acc h => headerStep_short acc p (ih _ h)
  intro h
  have hnone := hfold _ _ h
  cases hnone

theorem mem_bodyIssues {width first rowNumber fieldCount : Nat} {records : List (List Str)} :
    .tooFewFields rowNumber fieldCount ∈ bodyIssues width first records ↔
      ∃ k record, records[k]? = some record ∧ rowNumber = first + k ∧ fieldCount = record.length ∧
        record.length < width := by
  unfold bodyIssues
  simp only [List.mem_flatMap, List.mem_zipIdx_iff_le_and_getElem?_sub, Prod.exists]
  constructor
  · rintro ⟨record, number, ⟨hle, hget⟩, hissue⟩
    unfold rowIssues at hissue
    split at hissue
    · rename_i hshort
      cases List.mem_singleton.1 hissue
      exact ⟨rowNumber - first, record, hget, by omega, rfl, hshort⟩
    · split at hissue
      · cases List.mem_singleton.1 hissue
      · cases hissue
  · rintro ⟨k, record, hget, rfl, rfl, hshort⟩
    refine ⟨record, first + k, ⟨by omega, by rwa [Nat.add_sub_cancel_left]⟩, ?_⟩
    unfold rowIssues
    rw [if_pos hshort]
    exact List.mem_singleton_self _

end Profiling

/-! ## The cells a rule reports -/

namespace Detection

open Profiling (LoadedCsv Sniffed CsvLimits StructuralIssue loadCsv decode detectDialect bodyIssues fitRow)

section
variable {py : Python} {d : DetectionDataset py}

/-- The cells where a test holds, row after row. -/
def cellsWhere (d : DetectionDataset py) (p : d.RowIndex → d.ColIndex → Bool) : List (d.RowIndex × d.ColIndex) :=
  (List.finRange d.rows.length).flatMap (fun i => ((allColumns d).filter (p i)).map (fun c => (i, c)))

theorem mem_cellsWhere {p : d.RowIndex → d.ColIndex → Bool} {i : d.RowIndex} {c : d.ColIndex} :
    (i, c) ∈ cellsWhere d p ↔ p i c = true := by
  unfold cellsWhere
  simp [mem_allColumns]

theorem nodup_cellsWhere (p : d.RowIndex → d.ColIndex → Bool) : (cellsWhere d p).Nodup := by
  unfold cellsWhere
  rw [List.nodup_flatMap]
  constructor
  · intro i _
    refine List.Nodup.map (fun c c' h => (Prod.ext_iff.1 h).2) ((List.nodup_finRange _).filter _)
  · refine (List.nodup_finRange _).imp (fun hne x hi hj => ?_)
    obtain ⟨c, -, rfl⟩ := List.mem_map.1 hi
    obtain ⟨c', -, heq⟩ := List.mem_map.1 hj
    exact hne (Prod.ext_iff.1 heq).1.symm

theorem detect_cellRule (issueType : IssueType) (severity : Severity)
    (flags : (d : DetectionDataset py) → d.RowIndex → d.ColIndex → Bool) (originalValue suggestedFix : Str → Option Str) :
    (cellRule issueType severity allColumns flags originalValue suggestedFix).detect d =
      (cellsWhere d (flags d)).map
        (fun x => cellFinding issueType severity originalValue suggestedFix d x.1 x.2) := by
  unfold cellRule cellsWhere
  rw [List.map_flatMap]
  apply List.flatMap_congr
  intro i _
  rw [List.map_map]
  rfl

/-- The cell has no field in its row of the file. -/
def padded (d : DetectionDataset py) (records : List (List Str)) (i : d.RowIndex) (c : d.ColIndex) : Bool :=
  decide ((records[(i : Nat)]?.getD []).length ≤ (c : Nat))

def missingFinding (d : DetectionDataset py) (i : d.RowIndex) (c : d.ColIndex) : Finding :=
  ⟨csvRowNumber i, some (d.header c), .missingValue, .medium, none, none⟩

/-- A finding on a blank cell, by the rule of its type. -/
def blankFinding (d : DetectionDataset py) (issueType : IssueType) (i : d.RowIndex) (c : d.ColIndex) : Finding :=
  if issueType = .missingValue then missingFinding d i c
  else cellFinding issueType .low some (fun _ => none) d i c

section
variable {loaded : LoadedCsv} {headers : List Str} {records : List (List Str)} {notes : List StructuralIssue}
  (hnotes : ∀ rowNumber fieldCount, StructuralIssue.tooFewFields rowNumber fieldCount ∉ notes)
  (hissues : d.structuralIssues = notes ++ bodyIssues headers.length 2 records)
  (hheaders : d.headers.length = headers.length) (hrecords : d.rows = records.map (fitRow headers.length))
include hnotes hissues hheaders hrecords

theorem isMissingCell_eq_padded (i : d.RowIndex) (c : d.ColIndex) : isMissingCell d i c = padded d records i c := by
  have hlength : d.rows.length = records.length := by rw [hrecords, List.length_map]
  have hi : (i : Nat) < records.length := hlength ▸ i.isLt
  have hget : records[(i : Nat)]? = some records[(i : Nat)] := List.getElem?_eq_getElem hi
  rw [Bool.eq_iff_iff]
  unfold isMissingCell padded
  rw [List.any_eq_true, decide_eq_true_eq, hget, Option.getD_some, hissues]
  constructor
  · rintro ⟨issue, hissue, htest⟩
    cases issue with
    | tooFewFields rowNumber fieldCount =>
      simp only [Bool.decide_and, Bool.and_eq_true, decide_eq_true_eq] at htest
      have hbody := (List.mem_append.1 hissue).resolve_left (hnotes rowNumber fieldCount)
      obtain ⟨k, record, hk, hnumber, rfl, -⟩ := Profiling.mem_bodyIssues.1 hbody
      have hik : k = (i : Nat) := by
        have hcsv : rowNumber = (i : Nat) + 2 := htest.1
        omega
      rw [hik, hget] at hk
      rw [Option.some.inj hk]
      exact htest.2
    | blankHeader => cases htest
    | duplicateHeader => cases htest
    | tooManyFields => cases htest
  · intro hle
    have hc := c.isLt
    refine ⟨.tooFewFields (csvRowNumber i) records[(i : Nat)].length, List.mem_append_right _ ?_, by simp [hle]⟩
    exact Profiling.mem_bodyIssues.2 ⟨i, _, hget, by unfold csvRowNumber; omega, rfl, by omega⟩

/-- **The missing-value rule reports the padded cells.** -/
theorem detect_missingValueRule :
    missingValueRule.detect d = (cellsWhere d (padded d records)).map (fun x => missingFinding d x.1 x.2) := by
  have hlength : d.rows.length = records.length := by rw [hrecords, List.length_map]
  have hzip : records.zipIdx 2 = (List.finRange d.rows.length).map
      (fun i : d.RowIndex => (records[(i : Nat)]?.getD [], csvRowNumber i)) := by
    apply List.ext_getElem
    · simp [hlength]
    · intro k hk _
      have hk' : k < records.length := by simpa using hk
      simp [hk', csvRowNumber, Nat.add_comm]
  unfold missingValueRule
  dsimp only
  rw [hissues, List.flatMap_append, List.flatMap_eq_nil_iff.2, List.nil_append]
  · unfold bodyIssues cellsWhere
    rw [List.flatMap_assoc, hzip, List.flatMap_map, List.map_flatMap]
    apply List.flatMap_congr
    intro i _
    rw [List.map_map]
    dsimp only
    unfold Profiling.rowIssues
    have hcolumns : paddedColumns d (records[(i : Nat)]?.getD []).length =
      (allColumns d).filter (padded d records i) := rfl
    by_cases hshort : (records[(i : Nat)]?.getD []).length < headers.length
    · rw [if_pos hshort, List.flatMap_singleton]
      dsimp only
      rw [hcolumns]
      rfl
    · have hnone : (allColumns d).filter (padded d records i) = [] := by
        apply List.filter_eq_nil_iff.2
        intro c _ hpadded
        have hle := of_decide_eq_true hpadded
        have hc := c.isLt
        omega
      rw [if_neg hshort, hnone]
      split <;> rfl
  · intro issue hissue
    cases issue with
    | tooFewFields rowNumber fieldCount => exact absurd hissue (hnotes rowNumber fieldCount)
    | blankHeader => rfl
    | duplicateHeader => rfl
    | tooManyFields => rfl

omit hnotes hissues in
/-- A padded cell is empty. -/
theorem cell_of_padded {i : d.RowIndex} {c : d.ColIndex} (h : padded d records i c = true) : d.cell i c = [] := by
  have hlength : d.rows.length = records.length := by rw [hrecords, List.length_map]
  have hi : (i : Nat) < records.length := hlength ▸ i.isLt
  have hrow : d.row i = fitRow headers.length records[(i : Nat)] := by
    have hself : d.rows[(i : Nat)]? = some (d.row i) := List.getElem?_eq_getElem i.isLt
    have hget := congrArg (fun rows => rows[(i : Nat)]?) hrecords
    rw [hself, List.getElem?_map, List.getElem?_eq_getElem hi] at hget
    exact Option.some.inj hget
  have hle : records[(i : Nat)].length ≤ (c : Nat) := by
    have hpadded := of_decide_eq_true h
    rwa [List.getElem?_eq_getElem hi, Option.getD_some] at hpadded
  have hcell : (d.row i)[(c : Nat)]? = some (d.cell i c) := by
    rw [List.getElem?_eq_getElem (by rw [d.row_length]; exact c.isLt)]
    rfl
  have hc := c.isLt
  rw [hrow, fitRow, if_pos (by omega), List.getElem?_append_right hle, List.getElem?_replicate] at hcell
  split at hcell
  · exact (Option.some.inj hcell).symm
  · cases hcell

end

/-- The cells of each blank type, given how the source was read. -/
def blankCells (d : DetectionDataset py) (records : List (List Str)) : IssueType → List (d.RowIndex × d.ColIndex)
  | .missingValue => cellsWhere d (padded d records)
  | .emptyString  => cellsWhere d (fun i c => padded d records i c = false ∧ d.cell i c = [])
  | .nullValue    => cellsWhere d (fun i c => d.cell i c ≠ [] ∧ isNullSentinel py (d.cell i c) = true)
  | _             => []

/-- **Every cell is reported by at most one of the three rules**: the padded ones as missing, the other empty ones as
empty, and the null sentinels as null. -/
theorem blanks_classified {casefold : Str → Str} {sha256 : ByteArray → String} {sniff : Str → Option Sniffed}
    {limits : CsvLimits} {raw : ByteArray} {loaded : LoadedCsv}
    (hload : loadCsv casefold sha256 sniff limits raw = .ok loaded) (d : DetectionDataset py)
    (hheaders : d.headers = loaded.headers) (hrows : d.rows = loaded.rows)
    (hissues : d.structuralIssues = loaded.structuralIssues) :
    ∃ text encoding headers records, decode raw = .ok (text, encoding) ∧
      Csv.read (detectDialect sniff text) text = (headers :: records).map .ok ∧
      d.rows = records.map (fitRow headers.length) ∧
      (∀ issueType ∈ [IssueType.missingValue, .emptyString, .nullValue],
        (allFindings d).filter (fun f => f.issueType = issueType) =
          (blankCells d records issueType).map (fun x => blankFinding d issueType x.1 x.2)) ∧
      (blankCells d records .missingValue ++
        (blankCells d records .emptyString ++ blankCells d records .nullValue)).Nodup ∧
      ∀ i c,
        ((i, c) ∈ blankCells d records .missingValue ↔ (records[(i : Nat)]?.getD []).length ≤ (c : Nat)) ∧
        ((i, c) ∈ blankCells d records .emptyString ↔
          (i, c) ∉ blankCells d records .missingValue ∧ d.cell i c = []) ∧
        ((i, c) ∈ blankCells d records .nullValue ↔ d.cell i c ≠ [] ∧ isNullSentinel py (d.cell i c) = true) ∧
        ∀ issueType, (blankFinding d issueType i c).rowNumber = (i : Nat) + 2 ∧
          (blankFinding d issueType i c).columnName = some (d.header c) := by
  obtain ⟨text, encoding, headers, records, hdecode, hread, hloadedHeaders, hloadedRows, hloadedIssues⟩ :=
    Profiling.loadCsv_issues hload
  have hnotes := @Profiling.headerIssues_short casefold (headers.map Str.strip)
  have hissues' := hissues.trans hloadedIssues
  have hwidth : d.headers.length = headers.length := by rw [hheaders, hloadedHeaders, List.length_map]
  have hrecords := hrows.trans hloadedRows
  have hmissing : ∀ i c, isMissingCell d i c = padded d records i c :=
    isMissingCell_eq_padded hnotes hissues' hwidth hrecords
  refine ⟨text, encoding, headers, records, hdecode, hread, hrecords, ?_, ?_, fun i c => ⟨?_, ?_, ?_, ?_⟩⟩
  · simp only [List.mem_cons, List.not_mem_nil, or_false]
    rintro issueType (rfl | rfl | rfl)
    · have hrule := filter_allFindings (r := missingValueRule) (d := d) (by simp [detectionRules])
      exact hrule.trans (detect_missingValueRule hnotes hissues' hwidth hrecords)
    · have hrule := filter_allFindings (r := emptyStringRule) (d := d) (by simp [detectionRules])
      refine hrule.trans ((detect_cellRule _ _ _ _ _).trans ?_)
      have hcells : (fun i c => decide (¬ isMissingCell d i c = true ∧ d.cell i c = [])) =
          fun i c => decide (padded d records i c = false ∧ d.cell i c = []) := by
        funext i c
        rw [hmissing]
        simp
      rw [hcells]
      rfl
    · have hrule := filter_allFindings (r := nullValueRule) (d := d) (by simp [detectionRules])
      exact hrule.trans (detect_cellRule _ _ _ _ _)
  · refine (nodup_cellsWhere _).append ((nodup_cellsWhere _).append (nodup_cellsWhere _) ?_) ?_
    · rintro ⟨i, c⟩ hempty hnull
      have hempty' := of_decide_eq_true (mem_cellsWhere.1 hempty)
      have hnull' := of_decide_eq_true (mem_cellsWhere.1 hnull)
      exact hnull'.1 hempty'.2
    · rintro ⟨i, c⟩ hpadded hother
      have hpadded' := mem_cellsWhere.1 hpadded
      rcases List.mem_append.1 hother with hempty | hnull
      · have hempty' := mem_cellsWhere.1 hempty
        simp [hpadded'] at hempty'
      · have hnull' := mem_cellsWhere.1 hnull
        exact (of_decide_eq_true hnull').1 (cell_of_padded hwidth hrecords hpadded')
  · unfold blankCells
    rw [mem_cellsWhere]
    exact decide_eq_true_iff
  · unfold blankCells
    rw [mem_cellsWhere, mem_cellsWhere]
    simp
  · unfold blankCells
    rw [mem_cellsWhere]
    simp
  · intro issueType
    unfold blankFinding
    split <;> exact ⟨rfl, rfl⟩

end

/-- A short row, a row with an empty field, and a long row that begins with a null sentinel. -/
def raggedSource : ByteArray :=
  (String.ofList ['a', ',', 'b', '\n', 'x', '\n', ',', 'y', '\n', 'n', 'a', ',', 'z', ',', 'w', '\n']).toByteArray

def raggedLoaded : LoadedCsv where
  sourceSizeBytes := raggedSource.size
  sourceSha256 := ""
  detectedEncoding := "utf-8"
  delimiter := ','
  headers := [['a'], ['b']]
  rows := [[['x'], []], [[], ['y']], [['n', 'a'], ['z']]]
  structuralIssues := [.tooFewFields 2 1, .tooManyFields 4 3]

theorem loadCsv_raggedSource :
    loadCsv id (fun _ => "") (fun _ => none) Profiling.defaultLimits raggedSource = .ok raggedLoaded :=
  (Profiling.loadCsv_ofList (by decide) (by decide) (by decide)).trans rfl

def raggedDataset : DetectionDataset asciiPython where
  headers := raggedLoaded.headers
  rows := raggedLoaded.rows
  width := by decide
  structuralIssues := raggedLoaded.structuralIssues

theorem blanks_classified_ragged : ∃ text encoding headers records, decode raggedSource = .ok (text, encoding) ∧
    Csv.read (detectDialect (fun _ => none) text) text = (headers :: records).map .ok ∧
    raggedDataset.rows = records.map (fitRow headers.length) ∧
    (∀ issueType ∈ [IssueType.missingValue, .emptyString, .nullValue],
      (allFindings raggedDataset).filter (fun f => f.issueType = issueType) =
        (blankCells raggedDataset records issueType).map (fun x => blankFinding raggedDataset issueType x.1 x.2)) ∧
    (blankCells raggedDataset records .missingValue ++
      (blankCells raggedDataset records .emptyString ++ blankCells raggedDataset records .nullValue)).Nodup ∧
    ∀ i c,
      ((i, c) ∈ blankCells raggedDataset records .missingValue ↔
        (records[(i : Nat)]?.getD []).length ≤ (c : Nat)) ∧
      ((i, c) ∈ blankCells raggedDataset records .emptyString ↔
        (i, c) ∉ blankCells raggedDataset records .missingValue ∧ raggedDataset.cell i c = []) ∧
      ((i, c) ∈ blankCells raggedDataset records .nullValue ↔
        raggedDataset.cell i c ≠ [] ∧ isNullSentinel asciiPython (raggedDataset.cell i c) = true) ∧
      ∀ issueType, (blankFinding raggedDataset issueType i c).rowNumber = (i : Nat) + 2 ∧
        (blankFinding raggedDataset issueType i c).columnName = some (raggedDataset.header c) :=
  blanks_classified loadCsv_raggedSource raggedDataset rfl rfl rfl

end Detection
end DataOps

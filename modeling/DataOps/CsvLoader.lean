import Mathlib
import DataOps.LibCsv
import DataOps.LibDict
/-!
# CsvLoader — loading a CSV source

`load_csv`, from the bytes of the file.  `csv.Sniffer` is a parameter: whatever dialect it guesses, its delimiter is one
of those offered and its quote one of the two it looks for.  `loadCsv_ok` says what a
source that loads is, and `loadCsv_of_read` that nothing else is asked of it.
-/
namespace DataOps
namespace Profiling

structure CsvLimits where
  maxFileSizeBytes : Nat
  maxRows          : Nat
  maxColumns       : Nat
  maxCellLength    : Nat
deriving Repr

structure CsvLoadError where
  message : String
deriving DecidableEq, Repr

inductive StructuralIssue
  | blankHeader (columnIndex : Nat)
  | duplicateHeader (columnIndex firstColumnIndex : Nat)
  | tooFewFields (rowNumber fieldCount : Nat)
  | tooManyFields (rowNumber fieldCount : Nat)
deriving DecidableEq, Repr

structure LoadedCsv where
  sourceSizeBytes  : Nat
  sourceSha256     : String
  detectedEncoding : String
  delimiter        : Char
  headers          : List Str
  rows             : List (List Str)
  structuralIssues : List StructuralIssue

/-- A dialect `csv.Sniffer().sniff(.., delimiters=",;\t|")` returns. -/
structure Sniffed where
  delimiter        : Char
  quotechar        : Char
  doublequote      : Bool
  skipinitialspace : Bool
  offered          : delimiter = ',' ∨ delimiter = ';' ∨ delimiter = '\t' ∨ delimiter = '|'
  quote            : quotechar = '"' ∨ quotechar = '\''

def Sniffed.dialect (d : Sniffed) : Csv.Dialect where
  delimiter := d.delimiter
  quotechar := d.quotechar
  doublequote := d.doublequote
  skipinitialspace := d.skipinitialspace
  delimiter_ok := by
    rcases d.offered with h | h | h | h <;> rcases d.quote with h' | h' <;> rw [h, h'] <;> decide
  quotechar_ok := by
    rcases d.quote with h | h <;> rw [h] <;> decide

/-- `codecs.BOM_UTF8`. -/
def bomUtf8 : ByteArray := ⟨#[0xEF, 0xBB, 0xBF]⟩

def startsWithBom (raw : ByteArray) : Bool := raw.extract 0 bomUtf8.size = bomUtf8

/-- `_decode`: the text, and the encoding it is read with. -/
def decode (raw : ByteArray) : Except CsvLoadError (Str × String) :=
  let (bytes, encoding) :=
    if startsWithBom raw then (raw.extract bomUtf8.size raw.size, "utf-8-sig") else (raw, "utf-8")
  match bytes.utf8Decode? with
  | some text => .ok (text.toList, encoding)
  | none      => .error ⟨"CSV source is not valid UTF-8"⟩

section
variable (casefold : Str → Str) (sha256 : ByteArray → String) (sniff : Str → Option Sniffed) (limits : CsvLimits)

/-- The dialect a text is read with. -/
def detectDialect (text : Str) : Csv.Dialect :=
  match sniff (text.take 8192) with
  | some d => d.dialect
  | none   => Csv.excel

/-- One header; `acc` is `seen` and the issues. -/
def headerStep (acc : Dict Str Nat × List StructuralIssue) (p : Str × Nat) : Dict Str Nat × List StructuralIssue :=
  let issues := if p.1 = [] then acc.2 ++ [.blankHeader p.2] else acc.2
  match Dict.get? acc.1 (casefold p.1) with
  | some first => (acc.1, issues ++ [.duplicateHeader p.2 first])
  | none       => (Dict.set acc.1 (casefold p.1) p.2, issues)

def headerIssues (headers : List Str) : List StructuralIssue := (headers.zipIdx.foldl (headerStep casefold) ([], [])).2

/-- A row padded or cut to the width of the header. -/
def fitRow (width : Nat) (row : List Str) : List Str :=
  if row.length < width then row ++ List.replicate (width - row.length) []
  else if width < row.length then row.take width
  else row

def rowIssues (width rowNumber : Nat) (row : List Str) : List StructuralIssue :=
  if row.length < width then [.tooFewFields rowNumber row.length]
  else if width < row.length then [.tooManyFields rowNumber row.length]
  else []

def rowLimitError : CsvLoadError := ⟨"CSV exceeds the configured row limit"⟩

def cellLengthError (rowNumber columnIndex : Nat) : CsvLoadError :=
  ⟨"CSV cell exceeds the configured length limit at row " ++ toString rowNumber ++ ", column " ++
    toString (columnIndex + 1)⟩

/-- The loop over the body; `acc` is `rows` and the issues. -/
def loadBody (width : Nat) : Nat → List (List Str) × List StructuralIssue →
    List (Except Csv.Error (List Str)) → Except CsvLoadError (List (List Str) × List StructuralIssue)
  | _, acc, []                            => .ok acc
  | _, _, .error _ :: _                   => .error ⟨"CSV body could not be parsed"⟩
  | rowNumber, acc, .ok row :: items =>
    if limits.maxRows ≤ acc.1.length then .error rowLimitError
    else
      match (fitRow width row).findIdx? (fun value => limits.maxCellLength < value.length) with
      | some columnIndex => .error (cellLengthError rowNumber columnIndex)
      | none =>
        loadBody width (rowNumber + 1) (acc.1 ++ [fitRow width row], acc.2 ++ rowIssues width rowNumber row) items

/-- The table of a text, once its records are read. -/
def loadRecords (raw : ByteArray) (encoding : String) (D : Csv.Dialect) :
    List (Except Csv.Error (List Str)) → Except CsvLoadError LoadedCsv
  | []                   => .error ⟨"CSV source does not contain a header row"⟩
  | .error _ :: _        => .error ⟨"CSV header could not be parsed"⟩
  | .ok headers :: items =>
    if limits.maxColumns < headers.length then .error ⟨"CSV exceeds the configured column limit"⟩
    else if headers = [] then .error ⟨"CSV header row is empty"⟩
    else
      let normalizedHeaders := headers.map Str.strip
      match loadBody limits headers.length 2 ([], headerIssues casefold normalizedHeaders) items with
      | .error e         => .error e
      | .ok (rows, issues) =>
        .ok { sourceSizeBytes := raw.size
              sourceSha256 := sha256 raw
              detectedEncoding := encoding
              delimiter := D.delimiter
              headers := normalizedHeaders
              rows := rows
              structuralIssues := issues }

/-- `load_csv`, on the bytes of the file. -/
def loadCsv (raw : ByteArray) : Except CsvLoadError LoadedCsv :=
  if limits.maxFileSizeBytes < raw.size then .error ⟨"CSV file exceeds the configured size limit"⟩
  else
    match decode raw with
    | .error e => .error e
    | .ok (text, encoding) =>
      if Str.strip text = [] then .error ⟨"CSV source is empty"⟩
      else
        loadRecords casefold sha256 limits raw encoding (detectDialect sniff text)
          (Csv.read (detectDialect sniff text) text)

end

/-! ## What loads -/

section
variable {casefold : Str → Str} {sha256 : ByteArray → String} {sniff : Str → Option Sniffed} {limits : CsvLimits}

theorem fitRow_length (width : Nat) (row : List Str) : (fitRow width row).length = width := by
  unfold fitRow
  split
  · simp
    omega
  · split
    · simp
      omega
    · omega

theorem fitRow_eq_self {width : Nat} {row : List Str} (h : row.length = width) : fitRow width row = row := by
  unfold fitRow
  rw [if_neg (by omega), if_neg (by omega)]

/-- A field of a row stays where it is, within the width. -/
theorem fitRow_getElem? {width j : Nat} {row : List Str} {f : Str} (hf : row[j]? = some f) (hj : j < width) :
    (fitRow width row)[j]? = some f := by
  obtain ⟨hlt, -⟩ := List.getElem?_eq_some_iff.1 hf
  unfold fitRow
  split
  · rw [List.getElem?_append_left hlt]
    exact hf
  · split
    · rw [List.getElem?_take_of_lt hj]
      exact hf
    · exact hf

theorem mem_fitRow {width : Nat} {row : List Str} {v : Str} (h : v ∈ fitRow width row) : v ∈ row ∨ v = [] := by
  unfold fitRow at h
  split at h
  · rcases List.mem_append.1 h with h | h
    · exact .inl h
    · exact .inr (List.eq_of_mem_replicate h)
  · split at h
    · exact .inl (List.mem_of_mem_take h)
    · exact .inl h

/-- No character is gained by fitting a row. -/
theorem count_fitRow_le (width : Nat) (row : List Str) (x : Char) :
    (fitRow width row).flatten.count x ≤ row.flatten.count x := by
  unfold fitRow
  split
  · simp
  · split
    · have happ := congrArg (fun l => (List.flatten l).count x) (List.take_append_drop width row)
      simp only [List.flatten_append, List.count_append] at happ
      omega
    · exact le_refl _

/-- **A body that loads** has no error, and all its records are within the limits. -/
theorem loadBody_ok {width : Nat} : ∀ {items : List (Except Csv.Error (List Str))} {rowNumber : Nat}
    {acc acc' : List (List Str) × List StructuralIssue}, acc.1.length ≤ limits.maxRows →
    (loadBody limits width rowNumber acc items = .ok acc' →
      ∃ records : List (List Str), items = records.map .ok ∧ acc'.1 = acc.1 ++ records.map (fitRow width) ∧
        acc.1.length + records.length ≤ limits.maxRows ∧
        ∀ row ∈ records, ∀ v ∈ fitRow width row, v.length ≤ limits.maxCellLength)
  | [], _, acc, acc', hacc, h => by
    cases h
    exact ⟨[], rfl, by simp, by simpa using hacc, by simp⟩
  | .error _ :: _, _, _, _, _, h => by cases h
  | .ok row :: items, rowNumber, acc, acc', hacc, h => by
    rw [loadBody] at h
    split at h
    · cases h
    · rename_i hrows
      split at h
      · cases h
      · rename_i hcells
        obtain ⟨records, hitems, hacc', hlen, hall⟩ := loadBody_ok (by simp; omega) h
        refine ⟨row :: records, by rw [hitems]; rfl, by rw [hacc']; simp, ?_, ?_⟩
        · rw [List.length_append, List.length_singleton] at hlen
          rw [List.length_cons]
          omega
        · intro row' hmem
          rcases List.mem_cons.1 hmem with rfl | hmem
          · intro v hv
            have hnot := List.findIdx?_eq_none_iff.1 hcells v hv
            simpa using hnot
          · exact hall row' hmem

/-- **Records within the limits load.** -/
theorem loadBody_records {width : Nat} : ∀ {records : List (List Str)} {rowNumber : Nat}
    {acc : List (List Str) × List StructuralIssue}, acc.1.length + records.length ≤ limits.maxRows →
    (∀ row ∈ records, ∀ v ∈ fitRow width row, v.length ≤ limits.maxCellLength) →
    ∃ issues, loadBody limits width rowNumber acc (records.map .ok) =
      .ok (acc.1 ++ records.map (fitRow width), issues)
  | [], _, acc, _, _ => ⟨acc.2, by simp [loadBody]⟩
  | row :: records, rowNumber, acc, hlen, hall => by
    rw [List.length_cons] at hlen
    have hcells : (fitRow width row).findIdx? (fun value => limits.maxCellLength < value.length) = none := by
      rw [List.findIdx?_eq_none_iff]
      intro v hv
      have := hall row List.mem_cons_self v hv
      simpa using this
    have hrest : ∃ issues, loadBody limits width (rowNumber + 1)
        (acc.1 ++ [fitRow width row], acc.2 ++ rowIssues width rowNumber row) (records.map .ok) =
          .ok ((acc.1 ++ [fitRow width row]) ++ records.map (fitRow width), issues) :=
      loadBody_records (by simp; omega) (fun row' h => hall row' (List.mem_cons_of_mem _ h))
    obtain ⟨issues, hload⟩ := hrest
    refine ⟨issues, ?_⟩
    rw [List.map_cons, loadBody, if_neg (by omega), hcells]
    simpa using hload

/-- **A source that loads**: valid text, not blank, every record read, within the limits. -/
theorem loadCsv_ok {raw : ByteArray} {loaded : LoadedCsv}
    (h : loadCsv casefold sha256 sniff limits raw = .ok loaded) :
    ∃ text encoding headers records, raw.size ≤ limits.maxFileSizeBytes ∧ decode raw = .ok (text, encoding) ∧
      Csv.read (detectDialect sniff text) text = (headers :: records).map .ok ∧
      headers.length ≤ limits.maxColumns ∧ headers ≠ [] ∧ records.length ≤ limits.maxRows ∧
      (∀ row ∈ records, ∀ v ∈ fitRow headers.length row, v.length ≤ limits.maxCellLength) ∧
      loaded.headers = headers.map Str.strip ∧ loaded.rows = records.map (fitRow headers.length) := by
  unfold loadCsv at h
  split at h
  · cases h
  · rename_i hsize
    split at h
    · cases h
    · rename_i text encoding hdecode
      split at h
      · cases h
      · unfold loadRecords at h
        split at h
        · cases h
        · cases h
        · rename_i headers items hread
          split at h
          · cases h
          · rename_i hcolumns
            split at h
            · cases h
            · rename_i hne
              dsimp only at h
              split at h
              · cases h
              · rename_i rows issues hbody
                cases h
                obtain ⟨records, hitems, hrows, hlen, hcells⟩ := loadBody_ok (by simp) hbody
                refine ⟨text, encoding, headers, records, Nat.not_lt.1 hsize, hdecode, ?_, Nat.not_lt.1 hcolumns, hne,
                  by simpa using hlen, hcells, rfl, by simpa using hrows⟩
                rw [hread, hitems]
                rfl

/-- **What is asked of a source to load.** -/
theorem loadCsv_of_read {raw : ByteArray} {text : Str} {encoding : String} {headers : List Str}
    {records : List (List Str)} (hsize : raw.size ≤ limits.maxFileSizeBytes) (hdecode : decode raw = .ok (text, encoding))
    (htext : Str.strip text ≠ []) (hread : Csv.read (detectDialect sniff text) text = (headers :: records).map .ok)
    (hcolumns : headers.length ≤ limits.maxColumns) (hne : headers ≠ []) (hrows : records.length ≤ limits.maxRows)
    (hcells : ∀ row ∈ records, ∀ v ∈ fitRow headers.length row, v.length ≤ limits.maxCellLength) :
    ∃ loaded, loadCsv casefold sha256 sniff limits raw = .ok loaded ∧ loaded.headers = headers.map Str.strip ∧
      loaded.rows = records.map (fitRow headers.length) := by
  have hbody : ∃ issues, loadBody limits headers.length 2 ([], headerIssues casefold (headers.map Str.strip))
      (records.map .ok) = .ok ([] ++ records.map (fitRow headers.length), issues) :=
    loadBody_records (by simpa using hrows) hcells
  obtain ⟨issues, hbody⟩ := hbody
  unfold loadCsv
  rw [if_neg (Nat.not_lt.2 hsize), hdecode]
  dsimp only
  rw [if_neg htext, hread, List.map_cons]
  unfold loadRecords
  dsimp only
  rw [if_neg (Nat.not_lt.2 hcolumns), if_neg hne, hbody]
  exact ⟨_, rfl, rfl, by simp⟩

end

/-! ## The byte order mark -/

theorem bomUtf8_eq : bomUtf8 = ['\uFEFF'].utf8Encode := by decide

theorem utf8Encode_cons_bom (text : Str) : ('\uFEFF' :: text).utf8Encode = bomUtf8 ++ text.utf8Encode := by
  rw [bomUtf8_eq, ← List.utf8Encode_append, List.singleton_append]

/-- Encoded text begins with the mark exactly when the text begins with its character. -/
theorem startsWithBom_iff (text : Str) : startsWithBom text.utf8Encode = true ↔ text.head? = some '\uFEFF' := by
  unfold startsWithBom
  rw [decide_eq_true_eq]
  constructor
  · intro h
    have hsize : bomUtf8.size ≤ text.utf8Encode.size := by
      have hlen := congrArg ByteArray.size h
      rw [ByteArray.size_extract] at hlen
      omega
    have hsplit := ByteArray.extract_eq_extract_append_extract (a := text.utf8Encode) bomUtf8.size (Nat.zero_le _) hsize
    rw [ByteArray.extract_zero_size, h, bomUtf8_eq] at hsplit
    have hfirst : text.utf8Encode.utf8DecodeChar? 0 = some '\uFEFF' := by
      rw [hsplit]
      exact List.utf8DecodeChar?_utf8Encode_singleton_append
    cases text with
    | nil => exact absurd hsize (by decide)
    | cons c text =>
      rw [List.utf8DecodeChar?_utf8Encode_cons] at hfirst
      exact hfirst
  · intro h
    cases text with
    | nil => cases h
    | cons c text =>
      cases h
      rw [utf8Encode_cons_bom]
      exact ByteArray.extract_append_eq_left rfl

/-- Encoded text is decoded, without the mark it may begin with. -/
theorem decode_utf8Encode (text : Str) :
    decode text.utf8Encode =
      .ok (if text.head? = some '\uFEFF' then (text.tail, "utf-8-sig") else (text, "utf-8")) := by
  unfold decode
  by_cases hbom : text.head? = some '\uFEFF'
  · rw [(startsWithBom_iff text).2 hbom, if_pos hbom]
    cases text with
    | nil => cases hbom
    | cons c text =>
      cases hbom
      rw [utf8Encode_cons_bom]
      have hrest : (bomUtf8 ++ text.utf8Encode).extract bomUtf8.size (bomUtf8 ++ text.utf8Encode).size =
          text.utf8Encode := ByteArray.extract_append_eq_right rfl (by simp)
      rw [if_pos rfl, hrest]
      simp
  · have hnot : startsWithBom text.utf8Encode = false := by
      rw [Bool.eq_false_iff, Ne, startsWithBom_iff]
      exact hbom
    rw [hnot, if_neg hbom]
    simp

/-- A text without the mark is decoded to itself. -/
theorem decode_ofList {text : Str} (hbom : text.head? ≠ some '\uFEFF') :
    decode (String.ofList text).toByteArray = .ok (text, "utf-8") := by
  rw [String.toByteArray_ofList, decode_utf8Encode, if_neg hbom]

/-- A text without the mark is read as it stands. -/
theorem loadCsv_ofList {casefold : Str → Str} {sha256 : ByteArray → String} {sniff : Str → Option Sniffed}
    {limits : CsvLimits} {text : Str} (hbom : text.head? ≠ some '\uFEFF')
    (hsize : (String.ofList text).toByteArray.size ≤ limits.maxFileSizeBytes) (htext : Str.strip text ≠ []) :
    loadCsv casefold sha256 sniff limits (String.ofList text).toByteArray =
      loadRecords casefold sha256 limits (String.ofList text).toByteArray "utf-8" (detectDialect sniff text)
        (Csv.read (detectDialect sniff text) text) := by
  unfold loadCsv
  rw [if_neg (by omega), decode_ofList hbom]
  dsimp only
  rw [if_neg htext]

end Profiling
end DataOps

import Mathlib.Algebra.Order.BigOperators.Group.List
import Mathlib.Algebra.Order.Ring.Nat
import DataOps.CsvLoader
import DataOps.LibCsvBadRows
/-!
# CsvHandOff — what the next stage reads

Cleaning and standardization write their table with commas; the next stage guesses the dialect of what they wrote.  The
table comes back exactly when the guessed dialect gives back every row, the first character is not taken for a byte order
mark, and the file is not too large (`handOff_iff`).
-/
namespace DataOps
namespace Profiling

/-- `_serialize_csv`, the same in both handlers. -/
def serializeCsv (headers : List Str) (rows : List (List Str)) : ByteArray :=
  (String.ofList (Csv.write (headers :: rows))).toByteArray

theorem serializeCsv_eq (headers : List Str) (rows : List (List Str)) :
    serializeCsv headers rows = (Csv.write (headers :: rows)).utf8Encode :=
  String.toByteArray_ofList

section
variable (casefold : Str → Str) (sha256 : ByteArray → String) (sniff : Str → Option Sniffed) (limits : CsvLimits)

/-- The next stage loads the table that was written. -/
def HandsOver (headers : List Str) (rows : List (List Str)) : Prop :=
  ∃ reloaded, loadCsv casefold sha256 sniff limits (serializeCsv headers rows) = .ok reloaded ∧
    reloaded.headers = headers ∧ reloaded.rows = rows

/-- The dialect guessed for the written text gives every row back, and nothing else is in the way. -/
def GivesBack (headers : List Str) (rows : List (List Str)) : Prop :=
  (serializeCsv headers rows).size ≤ limits.maxFileSizeBytes ∧
    (Csv.write (headers :: rows)).head? ≠ some '\uFEFF' ∧
    ∀ row ∈ headers :: rows, Csv.rowOk (detectDialect sniff (Csv.write (headers :: rows))) row

/-- What `load_csv` promises of a table. -/
structure Loadable (headers : List Str) (rows : List (List Str)) : Prop where
  nonempty : headers ≠ []
  stripped : ∀ header ∈ headers, Str.strip header = header
  width    : ∀ row ∈ rows, row.length = headers.length
  columns  : headers.length ≤ limits.maxColumns
  rowCount : rows.length ≤ limits.maxRows
  cells    : ∀ row ∈ rows, ∀ cell ∈ row, cell.length ≤ limits.maxCellLength
  small    : ∀ row ∈ headers :: rows, ∀ cell ∈ row, cell.length ≤ Csv.fieldSizeLimit

variable {casefold sha256 sniff limits} {headers : List Str} {rows : List (List Str)}

/-- **Every loaded table is loadable.** -/
theorem loadable_of_loadCsv {source : ByteArray} {loaded : LoadedCsv}
    (h : loadCsv casefold sha256 sniff limits source = .ok loaded) : Loadable limits loaded.headers loaded.rows := by
  obtain ⟨text, encoding, fields, records, -, -, hread, hcolumns, hne, hlen, hcells, hheaders, hrows⟩ := loadCsv_ok h
  have hsmall : ∀ row ∈ fields :: records, ∀ cell ∈ row, cell.length ≤ Csv.fieldSizeLimit := by
    intro row hrow cell hcell
    have hmem : .ok row ∈ Csv.read (detectDialect sniff text) text := by
      rw [hread]
      exact List.mem_map_of_mem hrow
    exact Csv.read_small hmem hcell
  rw [hheaders, hrows]
  refine ⟨by simpa using hne, ?_, ?_, by simpa using hcolumns, by simpa using hlen, ?_, ?_⟩
  · intro header hmem
    obtain ⟨field, -, rfl⟩ := List.mem_map.1 hmem
    exact Str.strip_strip field
  · intro row hmem
    obtain ⟨record, -, rfl⟩ := List.mem_map.1 hmem
    rw [fitRow_length, List.length_map]
  · intro row hmem cell hcell
    obtain ⟨record, hrecord, rfl⟩ := List.mem_map.1 hmem
    exact hcells record hrecord cell hcell
  · intro row hmem cell hcell
    rcases List.mem_cons.1 hmem with rfl | hmem
    · obtain ⟨field, hfield, rfl⟩ := List.mem_map.1 hcell
      exact (Str.length_strip_le field).trans (hsmall fields List.mem_cons_self field hfield)
    · obtain ⟨record, hrecord, rfl⟩ := List.mem_map.1 hmem
      rcases mem_fitRow hcell with hcell | rfl
      · exact hsmall record (List.mem_cons_of_mem _ hrecord) cell hcell
      · exact Nat.zero_le _

theorem Loadable.rows_ne_nil (h : Loadable limits headers rows) : ∀ row ∈ headers :: rows, row ≠ [] := by
  intro row hmem
  rcases List.mem_cons.1 hmem with rfl | hmem
  · exact h.nonempty
  · intro hrow
    have hwidth := h.width row hmem
    rw [hrow] at hwidth
    exact h.nonempty (List.length_eq_zero_iff.1 hwidth.symm)

/-- A written table is not blank. -/
theorem Loadable.strip_write (h : Loadable limits headers rows) : Str.strip (Csv.write (headers :: rows)) ≠ [] := by
  have hvisible : ∃ x ∈ Csv.writeRow headers, Str.isSpace x = false := by
    have hwrite := Csv.writeRow_eq h.nonempty
    match headers, h, hwrite with
    | [c], h, hwrite =>
      rw [hwrite]
      by_cases hquoted : Csv.isQuoted true c = true
      · exact ⟨'"', by simp [Csv.joinCells, Csv.writeCell, hquoted, Csv.quoted], by decide⟩
      · have hne : c ≠ [] := by
          intro hc
          subst hc
          exact hquoted rfl
        obtain ⟨x, c, rfl⟩ := List.exists_cons_of_ne_nil hne
        refine ⟨x, by simp [Csv.joinCells, Csv.writeCell, hquoted], ?_⟩
        exact Str.head_of_stripped (h.stripped _ List.mem_cons_self) rfl
    | c :: c' :: cs, h, hwrite =>
      rw [hwrite]
      exact ⟨',', by simp [Csv.joinCells], by decide⟩
  obtain ⟨x, hx, hspace⟩ := hvisible
  intro hstrip
  have hmem := Str.mem_strip (s := Csv.write (headers :: rows)) (x := x) (by simp [Csv.write, hx]) hspace
  rw [hstrip] at hmem
  cases hmem

/-- **A table its dialect gives back is handed over.** -/
theorem Loadable.handsOver (h : Loadable limits headers rows) (hback : GivesBack sniff limits headers rows) :
    HandsOver casefold sha256 sniff limits headers rows := by
  obtain ⟨hsize, hbom, hok⟩ := hback
  have hdecode := decode_utf8Encode (Csv.write (headers :: rows))
  rw [if_neg hbom, ← serializeCsv_eq] at hdecode
  have hread : Csv.read (detectDialect sniff (Csv.write (headers :: rows))) (Csv.write (headers :: rows)) =
      (headers :: rows).map .ok :=
    Csv.read_write (fun row hmem => ⟨h.rows_ne_nil row hmem, hok row hmem, h.small row hmem⟩)
  have hfit : ∀ row ∈ rows, fitRow headers.length row = row := fun row hmem => fitRow_eq_self (h.width row hmem)
  have hcells : ∀ row ∈ rows, ∀ v ∈ fitRow headers.length row, v.length ≤ limits.maxCellLength := by
    intro row hmem v hv
    rw [hfit row hmem] at hv
    exact h.cells row hmem v hv
  obtain ⟨reloaded, hload, hheaders, hrows⟩ := @loadCsv_of_read casefold sha256 sniff limits _ _ _ _ _ hsize hdecode
    h.strip_write hread h.columns h.nonempty h.rowCount hcells
  refine ⟨reloaded, hload, ?_, ?_⟩
  · rw [hheaders]
    exact (List.map_congr_left h.stripped).trans (List.map_id headers)
  · rw [hrows]
    exact (List.map_congr_left hfit).trans (List.map_id rows)

/-! ## Tables that are not handed over -/

/-- Stripping headers and fitting rows gains no character. -/
theorem cellCount_loaded_le (x : Char) (fields : List Str) (records : List (List Str)) :
    Csv.cellCount x (fields.map Str.strip :: records.map (fitRow fields.length)) ≤
      Csv.cellCount x (fields :: records) := by
  have hheaders : (fields.map Str.strip).flatten.count x ≤ fields.flatten.count x := by
    induction fields with
    | nil => exact le_refl _
    | cons field fields ih =>
      have hfield := Str.count_strip_le field x
      rw [List.map_cons, List.flatten_cons, List.flatten_cons, List.count_append, List.count_append]
      omega
  have hrows : ∀ width, Csv.cellCount x (records.map (fitRow width)) ≤ Csv.cellCount x records := by
    intro width
    unfold Csv.cellCount
    rw [List.map_map]
    exact List.sum_le_sum (fun record _ => count_fitRow_le width record x)
  have hrows := hrows fields.length
  simp only [Csv.cellCount, List.map_cons, List.sum_cons] at hrows ⊢
  omega

/-- The rows before the first one that fails. -/
theorem exists_first_bad {p : List Str → Prop} : ∀ {l : List (List Str)}, ¬ (∀ row ∈ l, p row) →
    ∃ before bad after, l = before ++ bad :: after ∧ (∀ row ∈ before, p row) ∧ ¬ p bad
  | [], h => absurd (by simp) h
  | row :: l, h => by
    by_cases hrow : p row
    · have hl : ¬ ∀ row ∈ l, p row := by
        intro hl
        refine h (fun row' hmem => ?_)
        rcases List.mem_cons.1 hmem with rfl | hmem
        · exact hrow
        · exact hl row' hmem
      obtain ⟨before, bad, after, rfl, hbefore, hbad⟩ := exists_first_bad hl
      refine ⟨row :: before, bad, after, rfl, fun row' hmem => ?_, hbad⟩
      rcases List.mem_cons.1 hmem with rfl | hmem
      · exact hrow
      · exact hbefore row' hmem
    · exact ⟨[], row, l, rfl, by simp, hrow⟩

/-- **A table with a row its dialect does not give back is not read back**, stripped, padded and cut as rows are. -/
theorem Loadable.read_ne (h : Loadable limits headers rows) {D : Csv.Dialect} (hdelim : D.delimiter ≠ '"')
    (hquote : D.quotechar ≠ ',') (hbad : ¬ ∀ row ∈ headers :: rows, Csv.rowOk D row) {fields : List Str}
    {records : List (List Str)} (hread : Csv.read D (Csv.write (headers :: rows)) = (fields :: records).map .ok) :
    ¬ (fields.map Str.strip = headers ∧ records.map (fitRow fields.length) = rows) := by
  rintro ⟨hheaders, hrows⟩
  obtain ⟨before, bad, after, hsplit, hbefore, hbad⟩ := exists_first_bad hbad
  have hmem : bad ∈ headers :: rows := by rw [hsplit]; simp
  have hne := h.rows_ne_nil bad hmem
  -- the rows before the bad one are read as they are
  have htext : Csv.write (headers :: rows) = Csv.write before ++ (Csv.writeRow bad ++ Csv.write after) := by
    rw [hsplit]
    simp [Csv.write]
  have hrun := Csv.run_write (D := D) (T := Csv.writeRow bad ++ Csv.write after) before (fun row hrow => by
    have hmem' : row ∈ headers :: rows := by rw [hsplit]; exact List.mem_append_left _ hrow
    exact ⟨h.rows_ne_nil row hmem', hbefore row hrow, h.small row hmem'⟩)
  rw [← htext] at hrun
  have hitems : (fields :: records).map .ok =
      before.map .ok ++ Csv.run D .start (Csv.writeRow bad ++ Csv.write after) := hread.symm.trans hrun
  obtain ⟨rest, hfields, hrest⟩ : ∃ rest, fields :: records = before ++ rest ∧
      rest.map .ok = Csv.run D .start (Csv.writeRow bad ++ Csv.write after) := by
    obtain ⟨l₁, l₂, hl, h1, h2⟩ := List.map_eq_append_iff.1 hitems
    have hinj : Function.Injective (Except.ok : List Str → Except Csv.Error (List Str)) := fun a b hab => by
      cases hab
      rfl
    exact ⟨l₂, by rw [hl, List.map_injective_iff.2 hinj h1], h2⟩
  have hlen : (fields :: records).length = (headers :: rows).length := by
    rw [List.length_cons, List.length_cons, ← hrows, List.length_map]
  have hwidth : bad.length = fields.length := by
    have hfl : fields.length = headers.length := by rw [← hheaders, List.length_map]
    rw [hfl]
    rcases List.mem_cons.1 hmem with rfl | hmem
    · rfl
    · exact h.width bad hmem
  rcases Csv.run_badRow hdelim hquote hne hbad (h.small bad hmem) (Csv.write after) with ⟨hq, hheld⟩ | hdiffers
  · -- a quote was lost, and neither stripping nor padding brings it back
    have hcells := cellCount_loaded_le D.quotechar fields records
    have hcount := Csv.count_write hq hquote D.quotechar_ok.1 D.quotechar_ok.2.1 (bad :: after)
      (fun row hrow => h.rows_ne_nil row (by rw [hsplit]; exact List.mem_append_right _ hrow))
    have hwrite : Csv.write (bad :: after) = Csv.writeRow bad ++ Csv.write after := by simp [Csv.write]
    rw [← hrest, Csv.held_ok, ← hwrite, hcount] at hheld
    rw [hheaders, hrows, hfields, hsplit, Csv.cellCount_append, Csv.cellCount_append] at hcells
    omega
  · -- the record in the place of the bad row has another field in the place of one of its cells
    cases rest with
    | nil =>
      rw [hfields, hsplit] at hlen
      simp at hlen
    | cons record rest =>
      obtain ⟨j, f, c, hf, hc, hne', hstrip⟩ := hdiffers record (rest.map .ok) hrest.symm
      cases before with
      | nil =>
        obtain ⟨hfirst, -⟩ := List.cons.inj hfields
        obtain ⟨hheader, -⟩ := List.cons.inj hsplit
        rw [← hfirst] at hf
        rw [← hheader] at hc
        have heq : (fields.map Str.strip)[j]? = some (Str.strip f) := by rw [List.getElem?_map, hf]; rfl
        rw [hheaders, hc] at heq
        have hstripped := h.stripped c (List.mem_of_getElem? hc)
        exact hstrip hstripped (Option.some.inj heq).symm
      | cons first before =>
        rw [List.cons_append] at hsplit hfields
        obtain ⟨-, hrecords⟩ := List.cons.inj hfields
        obtain ⟨-, hrows'⟩ := List.cons.inj hsplit
        have hj : j < fields.length := by
          rw [← hwidth]
          exact (List.getElem?_eq_some_iff.1 hc).1
        have hbad' : fitRow fields.length record = bad := by
          have hget := congrArg (fun l => l[before.length]?) hrows
          rw [hrecords, hrows'] at hget
          simpa using hget
        have heq := fitRow_getElem? hf hj
        rw [hbad', hc] at heq
        exact hne' (Option.some.inj heq).symm

/-- The guessed dialect neither separates with quotes nor quotes with commas. -/
theorem detectDialect_ne (sniff : Str → Option Sniffed) (text : Str) :
    (detectDialect sniff text).delimiter ≠ '"' ∧ (detectDialect sniff text).quotechar ≠ ',' := by
  unfold detectDialect
  cases sniff (text.take 8192) with
  | none => exact ⟨by decide, by decide⟩
  | some d =>
    refine ⟨?_, ?_⟩
    · change d.delimiter ≠ '"'
      rcases d.offered with h | h | h | h <;> rw [h] <;> decide
    · change d.quotechar ≠ ','
      rcases d.quote with h | h <;> rw [h] <;> decide

/-- **A table whose text begins with the mark's character loses it.** -/
theorem Loadable.read_tail_ne (h : Loadable limits headers rows) {D : Csv.Dialect}
    (hbom : (Csv.write (headers :: rows)).head? = some '\uFEFF') {fields : List Str} {records : List (List Str)}
    (hread : Csv.read D (Csv.write (headers :: rows)).tail = (fields :: records).map .ok) :
    ¬ (fields.map Str.strip = headers ∧ records.map (fitRow fields.length) = rows) := by
  rintro ⟨hheaders, hrows⟩
  have hcells := cellCount_loaded_le '\uFEFF' fields records
  have hheld := Csv.held_run (D := D) (r := .start) (x := '\uFEFF') (Csv.write (headers :: rows)).tail
  have hrun : Csv.held '\uFEFF' (Csv.run D .start (Csv.write (headers :: rows)).tail) =
      Csv.cellCount '\uFEFF' (fields :: records) := by
    have hread' : Csv.run D .start (Csv.write (headers :: rows)).tail = (fields :: records).map .ok := hread
    rw [hread', Csv.held_ok]
  have hcount := Csv.count_write (x := '\uFEFF') (by decide) (by decide) (by decide) (by decide) (headers :: rows)
    h.rows_ne_nil
  obtain ⟨text, htext⟩ : ∃ text, Csv.write (headers :: rows) = '\uFEFF' :: text := by
    cases hwrite : Csv.write (headers :: rows) with
    | nil =>
      rw [hwrite] at hbom
      cases hbom
    | cons c text =>
      rw [hwrite] at hbom
      cases hbom
      exact ⟨text, rfl⟩
  rw [hrun] at hheld
  rw [hheaders, hrows] at hcells
  rw [htext, List.count_cons_self] at hcount
  rw [htext, List.tail_cons] at hheld
  simp only [Csv.Reader.start, List.flatten_nil, List.count_nil] at hheld
  omega

/-- **A table that is handed over is one its dialect gives back.** -/
theorem Loadable.givesBack (h : Loadable limits headers rows)
    (hhands : HandsOver casefold sha256 sniff limits headers rows) : GivesBack sniff limits headers rows := by
  obtain ⟨reloaded, hload, hheaders, hrows⟩ := hhands
  obtain ⟨text, encoding, fields, records, hsize, hdecode, hread, -, -, -, -, hfields, hrecords⟩ := loadCsv_ok hload
  have hback : fields.map Str.strip = headers ∧ records.map (fitRow fields.length) = rows :=
    ⟨hfields.symm.trans hheaders, hrecords.symm.trans hrows⟩
  have hdecode' := decode_utf8Encode (Csv.write (headers :: rows))
  rw [← serializeCsv_eq, hdecode] at hdecode'
  have hbom : (Csv.write (headers :: rows)).head? ≠ some '\uFEFF' := by
    intro hbom
    rw [if_pos hbom] at hdecode'
    obtain ⟨rfl, -⟩ := Prod.mk.inj (Except.ok.inj hdecode')
    exact h.read_tail_ne hbom hread hback
  rw [if_neg hbom] at hdecode'
  obtain ⟨rfl, -⟩ := Prod.mk.inj (Except.ok.inj hdecode')
  refine ⟨hsize, hbom, ?_⟩
  by_contra hbad
  obtain ⟨hdelim, hquote⟩ := detectDialect_ne sniff (Csv.write (headers :: rows))
  exact h.read_ne hdelim hquote hbad hread hback

end

/-- **Hand-off**: a table that was loaded and written again is loaded as it is exactly when the dialect guessed for what
was written gives it back. -/
theorem handOff_iff (casefold : Str → Str) (sha256 : ByteArray → String) (sniff : Str → Option Sniffed)
    (limits : CsvLimits) {source : ByteArray} {loaded : LoadedCsv}
    (hload : loadCsv casefold sha256 sniff limits source = .ok loaded) :
    HandsOver casefold sha256 sniff limits loaded.headers loaded.rows ↔
      GivesBack sniff limits loaded.headers loaded.rows :=
  ⟨(loadable_of_loadCsv hload).givesBack, (loadable_of_loadCsv hload).handsOver⟩

/-! ## Semicolons -/

/-- The settings' defaults. -/
def defaultLimits : CsvLimits where
  maxFileSizeBytes := 26214400
  maxRows := 100000
  maxColumns := 500
  maxCellLength := 100000

/-- A sniffer that sees semicolons. -/
def semicolons : Sniffed where
  delimiter := ';'
  quotechar := '"'
  doublequote := false
  skipinitialspace := false
  offered := .inr (.inl rfl)
  quote := .inl rfl

/-- One column, headed `a;b`, with the cell `1;2`, both in quotes. -/
def quotedSource : ByteArray :=
  (String.ofList ['"', 'a', ';', 'b', '"', '\n', '"', '1', ';', '2', '"', '\n']).toByteArray

theorem handOff_splits_column : ∃ loaded,
    loadCsv id (fun _ => "") (fun _ => some semicolons) defaultLimits quotedSource = .ok loaded ∧
      loaded.headers = [['a', ';', 'b']] ∧ loaded.rows = [[['1', ';', '2']]] ∧
      ¬ HandsOver id (fun _ => "") (fun _ => some semicolons) defaultLimits loaded.headers loaded.rows := by
  have hdecode := @decode_ofList ['"', 'a', ';', 'b', '"', '\n', '"', '1', ';', '2', '"', '\n'] (by decide)
  obtain ⟨loaded, hload, hheaders, hrows⟩ := @loadCsv_of_read id (fun _ => "") (fun _ => some semicolons) defaultLimits
    quotedSource _ "utf-8" [['a', ';', 'b']] [[['1', ';', '2']]] (by decide) hdecode (by decide) (by decide) (by decide)
    (by decide) (by decide) (by decide)
  have hheaders : loaded.headers = [['a', ';', 'b']] := hheaders.trans (by decide)
  have hrows : loaded.rows = [[['1', ';', '2']]] := hrows.trans (by decide)
  refine ⟨loaded, hload, hheaders, hrows, fun hhands => ?_⟩
  obtain ⟨-, -, hok⟩ := (loadable_of_loadCsv hload).givesBack hhands
  rw [hheaders, hrows] at hok
  revert hok
  decide

/-- Two columns of plain cells, for a sniffer that sees nothing. -/
def plainSource : ByteArray := (String.ofList ['a', ',', 'b', '\n', '1', ',', '2', '\n']).toByteArray

theorem handOff_iff_plain : ∃ loaded,
    loadCsv id (fun _ => "") (fun _ => none) defaultLimits plainSource = .ok loaded ∧
      HandsOver id (fun _ => "") (fun _ => none) defaultLimits loaded.headers loaded.rows := by
  have hdecode := @decode_ofList ['a', ',', 'b', '\n', '1', ',', '2', '\n'] (by decide)
  obtain ⟨loaded, hload, hheaders, hrows⟩ := @loadCsv_of_read id (fun _ => "") (fun _ => none) defaultLimits
    plainSource _ "utf-8" [['a'], ['b']] [[['1'], ['2']]] (by decide) hdecode (by decide) (by decide) (by decide)
    (by decide) (by decide) (by decide)
  have hheaders : loaded.headers = [['a'], ['b']] := hheaders.trans (by decide)
  have hrows : loaded.rows = [[['1'], ['2']]] := hrows.trans (by decide)
  refine ⟨loaded, hload, (handOff_iff id (fun _ => "") (fun _ => none) defaultLimits hload).2 ?_⟩
  rw [hheaders, hrows]
  refine ⟨?_, by decide, by decide⟩
  rw [serializeCsv_eq]
  decide

end Profiling
end DataOps

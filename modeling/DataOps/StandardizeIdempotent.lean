import DataOps.StandardizeCells
/-!
# StandardizeIdempotent — standardizing what was standardized

A second run changes nothing exactly when every classified cell keeps what the first made of it: the country cell of a
row by itself, the others with the country that goes by it (`standardize_idempotent_iff`).
-/
namespace DataOps
namespace Standardization

/-! ## The classified cells of a row -/

/-- A property of the classified cells of a row outside the country column; `offset` columns came before. -/
def ForCells (p : FieldType → Str → Prop) (countryColumnIndex : Option Nat) (offset : Nat)
    (columns : List (Str × Option FieldType)) (row : List Str) : Prop :=
  ∀ i columnName fieldType value, columns[i]? = some (columnName, some fieldType) → row[i]? = some value →
    countryColumnIndex ≠ some (offset + i) → p fieldType value

theorem forCells_cons {p : FieldType → Str → Prop} {countryColumnIndex : Option Nat} {offset : Nat} {columnName : Str}
    {fieldType : Option FieldType} {columns : List (Str × Option FieldType)} {value : Str} {row : List Str} :
    ForCells p countryColumnIndex offset ((columnName, fieldType) :: columns) (value :: row) ↔
      (∀ t ∈ fieldType, countryColumnIndex ≠ some offset → p t value) ∧
        ForCells p countryColumnIndex (offset + 1) columns row := by
  constructor
  · refine fun h => ⟨fun t ht hne => ?_, fun i name t v hcolumn hv hne => ?_⟩
    · rw [Option.mem_def.1 ht] at h
      exact h 0 columnName t value rfl rfl hne
    · refine h (i + 1) name t v hcolumn hv ?_
      rwa [Nat.add_assoc, Nat.add_comm 1 i] at hne
  · rintro ⟨hfirst, hrest⟩ i name t v hcolumn hv hne
    cases i with
    | zero =>
      cases hcolumn
      cases hv
      exact hfirst t rfl hne
    | succ i =>
      refine hrest i name t v hcolumn hv ?_
      rwa [Nat.add_assoc, Nat.add_comm 1 i]

theorem forCells_nil {p : FieldType → Str → Prop} {countryColumnIndex : Option Nat} {offset : Nat}
    {columns : List (Str × Option FieldType)} : ForCells p countryColumnIndex offset columns [] :=
  fun _ _ _ _ _ h => absurd h (by simp)

/-- The country cell is none of them. -/
theorem forCells_set {p : FieldType → Str → Prop} {c : Nat} {columns : List (Str × Option FieldType)} {row : List Str}
    {value : Str} : ForCells p (some c) 0 columns (row.set c value) ↔ ForCells p (some c) 0 columns row := by
  unfold ForCells
  refine forall₄_congr (fun i _ _ v => imp_congr_right (fun _ => ?_))
  by_cases hi : c = i
  · subst hi
    simp
  · rw [List.getElem?_set_ne hi]

section
variable {py : PythonValues} {lookupTables : LookupTables} {config : StandardizationConfig}

section
variable {countryColumnIndex : Option Nat} {rowCountry : Option Str} {rowIndex : Nat}

theorem standardizeCells_settled : ∀ {offset : Nat} {columns : List (Str × Option FieldType)} {row : List Str} (log : Log),
    row.length ≤ columns.length → ForCells
      (CellSettled py lookupTables config rowCountry) countryColumnIndex offset columns row →
    standardizeCells py lookupTables config countryColumnIndex rowCountry rowIndex offset columns log row = some (log, row)
  | _, _, [], log, _, _ => by rw [standardizeCells]
  | _, [], _ :: _, _, hlength, _ => absurd hlength (by simp)
  | offset, (columnName, fieldType) :: columns, value :: row, log, hlength, h => by
    obtain ⟨hfirst, hrest⟩ := forCells_cons.1 h
    have ih := standardizeCells_settled log (Nat.le_of_succ_le_succ hlength) hrest
    cases fieldType with
    | none =>
      rw [standardizeCells, ih]
      rfl
    | some t =>
      rw [standardizeCells]
      by_cases hcountry : countryColumnIndex = some offset
      · rw [if_pos hcountry]
        dsimp only
        rw [ih]
        rfl
      · rw [if_neg hcountry, (hfirst t rfl hcountry).standardizeCell rowIndex columnName log]
        dsimp only
        rw [ih]
        rfl

/-- One column of a run: the cell is left alone, or standardized. -/
theorem exists_standardizeCells_cons {offset : Nat} {columnName : Str} {fieldType : Option FieldType}
    {columns : List (Str × Option FieldType)} {rawValue : Str} {row out : List Str} {log log' : Log}
    (h : standardizeCells py lookupTables config countryColumnIndex rowCountry rowIndex offset
      ((columnName, fieldType) :: columns)
      log (rawValue :: row) = some (log', out)) :
    ∃ logCell value rest, out = value :: rest ∧
      standardizeCells py lookupTables config countryColumnIndex rowCountry rowIndex (offset + 1) columns logCell row =
        some (log', rest) ∧
      ((∀ t ∈ fieldType, countryColumnIndex = some offset) ∧ logCell = log ∧ value = rawValue ∨
        ∃ t, fieldType = some t ∧ countryColumnIndex ≠ some offset ∧
          standardizeCell py lookupTables config rowCountry rowIndex columnName t log rawValue = (logCell, value)) := by
  cases fieldType with
  | none =>
    rw [standardizeCells] at h
    obtain ⟨⟨logRest, rest⟩, hrest, heq⟩ := Option.map_eq_some_iff.1 h
    cases heq
    exact ⟨log, rawValue, rest, rfl, hrest, .inl ⟨fun _ ht => absurd ht (by simp), rfl, rfl⟩⟩
  | some t =>
    rw [standardizeCells] at h
    by_cases hcountry : countryColumnIndex = some offset
    · rw [if_pos hcountry] at h
      obtain ⟨⟨logRest, rest⟩, hrest, heq⟩ := Option.map_eq_some_iff.1 h
      cases heq
      exact ⟨log, rawValue, rest, rfl, hrest, .inl ⟨fun _ _ => hcountry, rfl, rfl⟩⟩
    · rw [if_neg hcountry] at h
      obtain ⟨⟨logRest, rest⟩, hrest, heq⟩ := Option.map_eq_some_iff.1 h
      cases heq
      exact ⟨_, _, rest, rfl, hrest, .inr ⟨t, rfl, hcountry, rfl⟩⟩

theorem length_standardizeCells : ∀ {offset : Nat} {columns : List (Str × Option FieldType)}
    {row out : List Str} {log log' : Log},
    standardizeCells py lookupTables config countryColumnIndex rowCountry rowIndex offset columns log row =
      some (log', out) →
    out.length = row.length ∧ row.length ≤ columns.length ∧ log.changes.length ≤ log'.changes.length ∧
      (log'.changes.length ≤ log.changes.length →
        ForCells (CellSettled py lookupTables config rowCountry) countryColumnIndex offset columns row)
  | _, _, [], _, _, _, h => by
    rw [standardizeCells] at h
    cases h
    exact ⟨rfl, by simp, le_refl _, fun _ => forCells_nil⟩
  | _, [], _ :: _, _, _, _, h => by
    rw [standardizeCells] at h
    cases h
  | offset, (columnName, fieldType) :: columns, rawValue :: row, out, log, log', h => by
    obtain ⟨logCell, value, rest, rfl, hrest, hcell⟩ := exists_standardizeCells_cons h
    obtain ⟨hlength, hfits, hgrows, hsettled⟩ := length_standardizeCells hrest
    refine ⟨congrArg (· + 1) hlength, Nat.succ_le_succ hfits, ?_⟩
    rcases hcell with ⟨hskip, rfl, rfl⟩ | ⟨t, rfl, hcountry, hcell⟩
    · exact ⟨hgrows, fun h => forCells_cons.2 ⟨fun t ht hne => absurd (hskip t ht) hne, hsettled h⟩⟩
    · have hlog := length_standardizeCell py lookupTables config rowCountry rowIndex columnName t log rawValue
      rw [hcell] at hlog
      refine ⟨hlog.1.trans hgrows, fun h => forCells_cons.2 ⟨fun t' ht' _ => ?_, hsettled (h.trans hlog.1)⟩⟩
      cases ht'
      exact hlog.2 (hgrows.trans h)

/-- What the cells become. -/
theorem forCells_standardizeCells {p p' : FieldType → Str → Prop}
    (hp : ∀ t v, p' t (cellValue py lookupTables config rowCountry t v) ↔ p t v) :
    ∀ {offset : Nat} {columns : List (Str × Option FieldType)} {row out : List Str} {log log' : Log},
    standardizeCells py lookupTables config countryColumnIndex rowCountry rowIndex offset columns log row =
      some (log', out) →
    (ForCells p' countryColumnIndex offset columns out ↔ ForCells p countryColumnIndex offset columns row)
  | _, _, [], _, _, _, h => by
    rw [standardizeCells] at h
    cases h
    exact iff_of_true forCells_nil forCells_nil
  | _, [], _ :: _, _, _, _, h => by
    rw [standardizeCells] at h
    cases h
  | offset, (columnName, fieldType) :: columns, rawValue :: row, out, log, log', h => by
    obtain ⟨logCell, value, rest, rfl, hrest, hcell⟩ := exists_standardizeCells_cons h
    have ih := forCells_standardizeCells hp hrest
    rw [forCells_cons, forCells_cons, ih]
    refine and_congr_left (fun _ => ?_)
    rcases hcell with ⟨hskip, rfl, rfl⟩ | ⟨t, rfl, hcountry, hcell⟩
    · exact iff_of_true (fun t ht hne => absurd (hskip t ht) hne) (fun t ht hne => absurd (hskip t ht) hne)
    · have hvalue := standardizeCell_snd py lookupTables config rowCountry rowIndex columnName t log rawValue
      rw [hcell] at hvalue
      dsimp only at hvalue
      rw [hvalue]
      constructor
      · intro h t' ht' hne
        cases ht'
        exact (hp t rawValue).1 (h t rfl hne)
      · intro h t' ht' hne
        cases ht'
        exact (hp t rawValue).2 (h t rfl hne)

/-- The country cell stays in its place. -/
theorem getElem?_standardizeCells : ∀ {c offset : Nat} {columns : List (Str × Option FieldType)} {row out : List Str}
    {log log' : Log}, countryColumnIndex = some (offset + c) →
    standardizeCells py lookupTables config countryColumnIndex rowCountry rowIndex offset columns log row =
      some (log', out) →
    out[c]? = row[c]?
  | _, _, _, [], _, _, _, _, h => by
    rw [standardizeCells] at h
    cases h
    rfl
  | _, _, [], _ :: _, _, _, _, _, h => by
    rw [standardizeCells] at h
    cases h
  | 0, offset, (columnName, fieldType) :: columns, rawValue :: row, out, log, log', hcountry, h => by
    obtain ⟨logCell, value, rest, rfl, -, ⟨-, -, rfl⟩ | ⟨t, -, hne, -⟩⟩ := exists_standardizeCells_cons h
    · rfl
    · exact absurd hcountry hne
  | c + 1, offset, (columnName, fieldType) :: columns, rawValue :: row, out, log, log', hcountry, h => by
    obtain ⟨logCell, value, rest, rfl, hrest, -⟩ := exists_standardizeCells_cons h
    rw [List.getElem?_cons_succ, List.getElem?_cons_succ]
    refine getElem?_standardizeCells ?_ hrest
    rwa [Nat.add_assoc, Nat.add_comm 1 c]

end

/-! ## The country cell -/

section
variable (py lookupTables config)

def countryLookup : Dict Str Str := lookupTables.forFieldType .country

/-- What the country cell becomes. -/
def countryValue (rawValue : Str) : Str := (standardizeCountry py (Str.trim rawValue) (countryLookup lookupTables)).1

/-- The country that the other rules of the row go by. -/
def rowCountryOf (rawValue : Str) : Option Str :=
  match resolveCountryCode py (countryValue py lookupTables rawValue) (countryLookup lookupTables) with
  | some resolved => some resolved
  | none          => config.defaultCountry

def CountrySettled (value : Str) : Prop :=
  Settles (fun value => standardizeCountry py value (countryLookup lookupTables)) value

/-- What the country cell needs, to keep what is made of it: the name it is given is trimmed and stands for itself. -/
def KeepsCountry (rawValue : Str) : Prop :=
  ∀ canonical ∈ lookedUp py (mergedLookup defaultCountryNameVariants (countryLookup lookupTables)) (Str.trim rawValue),
    Str.trim canonical = canonical ∧
      ListedAsIs py (mergedLookup defaultCountryNameVariants (countryLookup lookupTables)) canonical

/-- Every classified cell of the row keeps what is made of it. -/
def KeepsRow (columns : List (Str × Option FieldType)) (countryColumnIndex : Option Nat) (row : List Str) : Prop :=
  match countryColumnIndex with
  | none   =>
    ForCells (fun t v => KeepsCell py lookupTables config config.defaultCountry t (Str.trim v)) none 0 columns row
  | some c => ∀ rawCountryValue, row[c]? = some rawCountryValue →
      KeepsCountry py lookupTables rawCountryValue ∧
        ForCells (fun t v => KeepsCell py lookupTables config
          (rowCountryOf py lookupTables config rawCountryValue) t (Str.trim v))
          (some c) 0 columns row

/-- Every classified cell of the row is left by its rules. -/
def RowSettled (columns : List (Str × Option FieldType)) (countryColumnIndex : Option Nat) (row : List Str) : Prop :=
  match countryColumnIndex with
  | none   => ForCells (CellSettled py lookupTables config config.defaultCountry) none 0 columns row
  | some c => ∀ rawCountryValue, row[c]? = some rawCountryValue →
      CountrySettled py lookupTables rawCountryValue ∧
        ForCells (CellSettled py lookupTables config (rowCountryOf py lookupTables config rawCountryValue))
          (some c) 0 columns row

end

theorem countrySettled_iff (rawValue : Str) :
    CountrySettled py lookupTables (countryValue py lookupTables rawValue) ↔ KeepsCountry py lookupTables rawValue := by
  have htrim := Str.trim_trim rawValue
  unfold CountrySettled countryValue KeepsCountry Settles
  dsimp only
  rw [standardizeCountry_fst, standardizeCountry_fst, getD_lookedUp_eq_self_iff, listedAsIs_getD_iff]
  cases lookedUp py (mergedLookup defaultCountryNameVariants (countryLookup lookupTables)) (Str.trim rawValue) with
  | none => simpa using htrim
  | some canonical => simp

/-- A settled country is the country of its row. -/
theorem countryValue_of_settled {value : Str} (h : CountrySettled py lookupTables value) :
    countryValue py lookupTables value = value := by
  obtain ⟨htrim, hruled⟩ := h
  unfold countryValue
  rw [htrim]
  exact hruled

variable (py lookupTables config) in
theorem standardizeCountryCell_eq (c rowIndex : Nat) (columnName : Str) (log : Log) (row : List Str) (rawValue : Str) :
    ∃ log', standardizeCountryCell py lookupTables config c rowIndex columnName log row rawValue =
        (log', row.set c (countryValue py lookupTables rawValue), rowCountryOf py lookupTables config rawValue) ∧
      log.changes.length ≤ log'.changes.length ∧
      (log'.changes.length ≤ log.changes.length → CountrySettled py lookupTables rawValue) ∧
      (CountrySettled py lookupTables rawValue → log' = log) := by
  have htrim := log.length_record rowIndex columnName .country rawValue (trimStep rawValue) (trimStep_quiet rawValue)
  have hruled := fun log : Log => log.length_record rowIndex columnName .country (Str.trim rawValue) _
    (standardizeCountry_quiet py (Str.trim rawValue) (countryLookup lookupTables))
  unfold standardizeCountryCell
  dsimp only
  rw [trimStep_fst] at htrim ⊢
  refine ⟨_, rfl, ?_, fun h => ?_, fun h => ?_⟩
  · rw [← countryLookup, hruled, htrim]
    omega
  · rw [← countryLookup, hruled, htrim] at h
    have htrimmed : Str.trim rawValue = rawValue := by
      by_contra hne
      rw [if_neg hne] at h
      omega
    rw [htrimmed] at h
    refine ⟨htrimmed, ?_⟩
    by_contra hne
    rw [if_neg hne] at h
    omega
  · obtain ⟨htrimmed, hself⟩ := h
    rw [htrimmed, ← countryLookup, hself]
    simp only [Log.record_self]

/-! ## Rows -/

section
variable {columns : List (Str × Option FieldType)} {countryColumnIndex : Option Nat}

theorem exists_standardizeRow {rowIndex c : Nat} {row out : List Str} {log log' : Log}
    (h : standardizeRow py lookupTables config columns (some c) rowIndex log row = some (log', out)) :
    ∃ column rawValue logCountry, columns[c]? = some column ∧ row[c]? = some rawValue ∧
      log.changes.length ≤ logCountry.changes.length ∧
      (logCountry.changes.length ≤ log.changes.length → CountrySettled py lookupTables rawValue) ∧
      standardizeCells py lookupTables config (some c) (rowCountryOf py lookupTables config rawValue) rowIndex 0 columns
        logCountry (row.set c (countryValue py lookupTables rawValue)) = some (log', out) := by
  unfold standardizeRow at h
  dsimp only at h
  split at h
  · rename_i column rawValue hcolumn hraw
    obtain ⟨logCountry, heq, hgrows, hsettled, -⟩ := standardizeCountryCell_eq py lookupTables config c rowIndex
      column.1 log row rawValue
    rw [heq] at h
    exact ⟨column, rawValue, logCountry, hcolumn, hraw, hgrows, hsettled, h⟩
  · cases h

theorem length_standardizeRow {rowIndex : Nat} {row out : List Str} {log log' : Log}
    (h : standardizeRow py lookupTables config columns countryColumnIndex rowIndex log row = some (log', out)) :
    log.changes.length ≤ log'.changes.length ∧
      (log'.changes.length ≤ log.changes.length → RowSettled py lookupTables config columns countryColumnIndex row) := by
  cases countryColumnIndex with
  | none =>
    obtain ⟨-, -, hgrows, hsettled⟩ := length_standardizeCells h
    exact ⟨hgrows, hsettled⟩
  | some c =>
    obtain ⟨column, rawValue, logCountry, -, hraw, hcountryGrows, hcountry, hcells⟩ := exists_standardizeRow h
    obtain ⟨-, -, hgrows, hsettled⟩ := length_standardizeCells hcells
    refine ⟨hcountryGrows.trans hgrows, fun hlength value hvalue => ?_⟩
    rw [hraw] at hvalue
    cases hvalue
    exact ⟨hcountry (hgrows.trans hlength), forCells_set.1 (hsettled (hlength.trans hcountryGrows))⟩

/-- A row of a run that is settled is left as it is. -/
theorem standardizeRow_settled {rowIndex : Nat} {row out : List Str} {log log' : Log}
    (h : standardizeRow py lookupTables config columns countryColumnIndex rowIndex log row = some (log', out))
    (hsettled : RowSettled py lookupTables config columns countryColumnIndex out) (log'' : Log) :
    standardizeRow py lookupTables config columns countryColumnIndex rowIndex log'' out = some (log'', out) := by
  cases countryColumnIndex with
  | none =>
    obtain ⟨hlength, hfits, -, -⟩ := length_standardizeCells h
    exact standardizeCells_settled log'' (hlength ▸ hfits) hsettled
  | some c =>
    obtain ⟨column, rawValue, logCountry, hcolumn, hraw, -, -, hcells⟩ := exists_standardizeRow h
    obtain ⟨hlength, hfits, -, -⟩ := length_standardizeCells hcells
    have hout := getElem?_standardizeCells (by rw [Nat.zero_add]) hcells
    rw [List.getElem?_set_self (List.getElem?_eq_some_iff.1 hraw).1] at hout
    obtain ⟨hcountry, hrest⟩ := hsettled _ hout
    obtain ⟨logOut, heq, -, -, hlog⟩ := standardizeCountryCell_eq py lookupTables config c rowIndex column.1 log'' out
      (countryValue py lookupTables rawValue)
    have hself := countryValue_of_settled hcountry
    have hset : out.set c (countryValue py lookupTables rawValue) = out := by
      obtain ⟨hlt, heq⟩ := List.getElem?_eq_some_iff.1 hout
      rw [← heq, List.set_getElem_self]
    rw [hself, hset] at heq
    unfold standardizeRow
    dsimp only
    rw [hcolumn, hout]
    dsimp only
    rw [heq, hlog hcountry]
    exact standardizeCells_settled log'' (hlength ▸ hfits) hrest

/-- **What a row becomes is settled exactly when the row keeps it.** -/
theorem rowSettled_iff (casing : Casing py.toPython) (hiso : IsoTexts py) (times : TimeTexts py)
    (phones : PhoneTexts py.toPython) {rowIndex : Nat} {row out : List Str} {log log' : Log}
    (h : standardizeRow py lookupTables config columns countryColumnIndex rowIndex log row = some (log', out)) :
    RowSettled py lookupTables config columns countryColumnIndex out ↔
      KeepsRow py lookupTables config columns countryColumnIndex row := by
  cases countryColumnIndex with
  | none => exact forCells_standardizeCells (cellSettled_iff casing hiso times phones) h
  | some c =>
    obtain ⟨column, rawValue, logCountry, hcolumn, hraw, -, -, hcells⟩ := exists_standardizeRow h
    have hout := getElem?_standardizeCells (by rw [Nat.zero_add]) hcells
    rw [List.getElem?_set_self (List.getElem?_eq_some_iff.1 hraw).1] at hout
    have hrow := forCells_standardizeCells (cellSettled_iff casing hiso times phones) hcells
    rw [forCells_set] at hrow
    have hcountry : CountrySettled py lookupTables (countryValue py lookupTables rawValue) ↔
        KeepsCountry py lookupTables rawValue := countrySettled_iff rawValue
    -- the country that goes by a settled cell is the one of the first run
    have hsame : CountrySettled py lookupTables (countryValue py lookupTables rawValue) →
        rowCountryOf py lookupTables config (countryValue py lookupTables rawValue) =
          rowCountryOf py lookupTables config rawValue := by
      intro hsettled
      unfold rowCountryOf
      rw [countryValue_of_settled hsettled]
    unfold RowSettled KeepsRow
    dsimp only
    constructor
    · rintro hsettled value hvalue
      rw [hraw] at hvalue
      cases hvalue
      obtain ⟨hfirst, hrest⟩ := hsettled _ hout
      rw [hsame hfirst] at hrest
      exact ⟨hcountry.1 hfirst, hrow.1 hrest⟩
    · rintro hkeeps value hvalue
      rw [hout] at hvalue
      cases hvalue
      obtain ⟨hfirst, hrest⟩ := hkeeps _ hraw
      have hsettled := hcountry.2 hfirst
      rw [hsame hsettled]
      exact ⟨hsettled, hrow.2 hrest⟩

/-! ## Tables -/

theorem length_standardizeRows : ∀ {rows out : List (List Str)} {rowIndex : Nat} {log log' : Log},
    standardizeRows py lookupTables config columns countryColumnIndex rowIndex log rows = some (log', out) →
    log.changes.length ≤ log'.changes.length ∧ (log'.changes.length ≤ log.changes.length →
      ∀ row ∈ rows, RowSettled py lookupTables config columns countryColumnIndex row)
  | [], _, _, _, _, h => by
    rw [standardizeRows] at h
    cases h
    exact ⟨le_refl _, fun _ _ hrow => absurd hrow List.not_mem_nil⟩
  | row :: rows, out, rowIndex, log, log', h => by
    obtain ⟨mid, rowOut, rest, hrow, hrest, rfl⟩ := standardizeRows_cons h
    obtain ⟨hgrows, hfirst⟩ := length_standardizeRow hrow
    obtain ⟨hrestGrows, hrows⟩ := length_standardizeRows hrest
    refine ⟨hgrows.trans hrestGrows, fun hlength => List.forall_mem_cons.2 ⟨?_, ?_⟩⟩
    · exact hfirst (hrestGrows.trans hlength)
    · exact hrows (hlength.trans hgrows)

theorem standardizeRows_settled : ∀ {rows out : List (List Str)} {rowIndex : Nat} {log log' : Log},
    standardizeRows py lookupTables config columns countryColumnIndex rowIndex log rows = some (log', out) →
    (∀ row ∈ out, RowSettled py lookupTables config columns countryColumnIndex row) → ∀ log'',
    standardizeRows py lookupTables config columns countryColumnIndex rowIndex log'' out = some (log'', out)
  | [], _, _, _, _, h, _, _ => by
    rw [standardizeRows] at h
    cases h
    rw [standardizeRows]
  | row :: rows, out, rowIndex, log, log', h, hsettled, log'' => by
    obtain ⟨mid, rowOut, rest, hrow, hrest, rfl⟩ := standardizeRows_cons h
    obtain ⟨hfirst, hrows⟩ := List.forall_mem_cons.1 hsettled
    rw [standardizeRows, standardizeRow_settled hrow hfirst log'']
    dsimp only
    rw [standardizeRows_settled hrest hrows log'']
    rfl

theorem rowsSettled_iff (casing : Casing py.toPython) (hiso : IsoTexts py) (times : TimeTexts py)
    (phones : PhoneTexts py.toPython) : ∀ {rows out : List (List Str)} {rowIndex : Nat} {log log' : Log},
    standardizeRows py lookupTables config columns countryColumnIndex rowIndex log rows = some (log', out) →
    ((∀ row ∈ out, RowSettled py lookupTables config columns countryColumnIndex row) ↔
      ∀ row ∈ rows, KeepsRow py lookupTables config columns countryColumnIndex row)
  | [], _, _, _, _, h => by
    rw [standardizeRows] at h
    cases h
    simp
  | row :: rows, out, rowIndex, log, log', h => by
    obtain ⟨mid, rowOut, rest, hrow, hrest, rfl⟩ := standardizeRows_cons h
    have ih := rowsSettled_iff casing hiso times phones hrest
    rw [List.forall_mem_cons, List.forall_mem_cons, ih, rowSettled_iff casing hiso times phones hrow]

end

end

/-- The columns of a run, and the one of the row's country. -/
def KeepsTable (py : PythonValues) (lookupTables : LookupTables) (config : StandardizationConfig) (headers : List Str)
    (fieldTypes : List (Option FieldType)) (rows : List (List Str)) : Prop :=
  ∀ row ∈ rows, KeepsRow py lookupTables config (headers.zip fieldTypes)
    (fieldTypes.findIdx? (fun fieldType => fieldType = some .country)) row

/-- **A second run changes nothing**: it returns the same rows and records no change. -/
def SelfIdempotent (py : PythonValues) (lookupTables : LookupTables) (config : StandardizationConfig) (headers : List Str)
    (fieldTypes : List (Option FieldType)) (limits : StandardizationLimits) (rows : List (List Str)) : Prop :=
  ∃ again, standardize py lookupTables config rows headers fieldTypes limits = some again ∧
    again.standardizedRows = rows ∧ again.totalChangesCount = 0

/-- **`standardize` is self-idempotent exactly on the tables whose cells keep what is made of them.** -/
theorem standardize_idempotent_iff (py : PythonValues) (casing : Casing py.toPython) (hiso : IsoTexts py)
    (times : TimeTexts py) (phones : PhoneTexts py.toPython) (lookupTables : LookupTables) (config : StandardizationConfig)
    (rows : List (List Str)) (headers : List Str) (fieldTypes : List (Option FieldType)) (limits : StandardizationLimits)
    (result : StandardizationResult)
    (h : standardize py lookupTables config rows headers fieldTypes limits = some result) :
    SelfIdempotent py lookupTables config headers fieldTypes limits result.standardizedRows ↔
      KeepsTable py lookupTables config headers fieldTypes rows := by
  obtain ⟨log, hrows, -⟩ := standardize_ok h
  unfold KeepsTable
  rw [← rowsSettled_iff casing hiso times phones hrows]
  constructor
  · rintro ⟨again, hagain, -, hzero⟩
    obtain ⟨logAgain, hrowsAgain, -, htotal, -⟩ := standardize_ok hagain
    rw [htotal] at hzero
    exact (length_standardizeRows hrowsAgain).2 (le_of_eq hzero)
  · intro hsettled
    unfold SelfIdempotent standardize
    dsimp only
    rw [standardizeRows_settled hrows hsettled ⟨[], []⟩]
    exact ⟨_, rfl, rfl, rfl⟩

/-! ## A lookup against the casing -/

def nothingConfigured : StandardizationConfig := ⟨none, none, none, none, none⟩

def nycTables : LookupTables := ⟨[], [("nyc".toList, "NYC".toList)]⟩

theorem asciiValues_isoTexts : IsoTexts asciiValues where
  round_trip := fun _ _ h => by cases h
  isoformat_chars := fun _ _ h => by cases h
  date_is_datetime := fun _ _ h => by cases h

theorem asciiValues_timeTexts : TimeTexts asciiValues where
  round_trip := fun _ _ h => by cases h
  isoformat_chars := fun _ _ h => by cases h

theorem asciiPython_phoneTexts : PhoneTexts asciiPython where
  e164_chars := fun _ _ h => absurd h List.not_mem_nil
  e164_again := fun _ _ _ h => by cases h

/-- What the first run makes of a city. -/
def nycResult : StandardizationResult where
  standardizedRows := [["NYC".toList]]
  changes := []
  totalChangesCount := 2
  changesByRule := [(.titleCase, 1), (.abbreviationLookup, 1)]
  confidenceScore := 85 / 100

theorem standardize_nyc : standardize asciiValues nycTables nothingConfigured [["nyc".toList]] [['c']] [some .city] ⟨0⟩ =
    some nycResult := by decide +kernel

theorem standardize_idempotent_iff_nyc :
    SelfIdempotent asciiValues nycTables nothingConfigured [['c']] [some .city] ⟨0⟩ nycResult.standardizedRows ↔
      KeepsTable asciiValues nycTables nothingConfigured [['c']] [some .city] [["nyc".toList]] :=
  standardize_idempotent_iff asciiValues asciiPython_casing asciiValues_isoTexts asciiValues_timeTexts
    asciiPython_phoneTexts nycTables nothingConfigured [["nyc".toList]] [['c']] [some .city] ⟨0⟩ nycResult standardize_nyc

/-- **A second run title-cases the looked-up name, and looks it up again.** -/
theorem standardize_repeats : ∃ result,
    standardize asciiValues nycTables nothingConfigured [["nyc".toList]] [['c']] [some .city] ⟨0⟩ = some result ∧
      ¬ SelfIdempotent asciiValues nycTables nothingConfigured [['c']] [some .city] ⟨0⟩ result.standardizedRows := by
  refine ⟨nycResult, standardize_nyc, ?_⟩
  rintro ⟨again, hagain, -, hzero⟩
  have htwo : (standardize asciiValues nycTables nothingConfigured [["NYC".toList]] [['c']] [some .city] ⟨0⟩).map
      (fun result => result.totalChangesCount) = some 2 := by decide +kernel
  have hcount : some again.totalChangesCount = some 2 := by
    rw [← htwo]
    exact (congrArg (Option.map (fun result : StandardizationResult => result.totalChangesCount)) hagain).symm
  rw [hzero] at hcount
  cases hcount

end Standardization
end DataOps

import Mathlib.Algebra.GroupWithZero.Nat
import DataOps.CleaningEngine
import DataOps.LibReplay
import DataOps.StandardizationEngine
/-!
# ChangeReplay — the change logs are what was done

Applied in order to the raw rows, the changes `clean` and `standardize` log give the rows they return, and every change
finds the value it names.
-/
namespace DataOps

open Replay (Chain Grows Placed cellAt placed_zip replay setCell)

/-! ## Cleaning -/

namespace Cleaning

/-- The place of a change, and its two values. -/
def Change.edit (headers : List Str) (c : Change) : Replay.Edit (Nat × Nat) Str :=
  ⟨(c.rowIndex, headers.idxOf c.columnName), c.originalValue, c.cleanedValue⟩

def Log.counted (log : Log) : List Change × Nat := (log.changes, log.changesByRule.values.sum)

section
variable {headers : List Str} {rowIndex : Nat} {columnName : Str} {log : Log}

/-- A rule that keeps quiet keeps the value: what `_record` adds leads from the one to the other. -/
theorem Log.record_grows (headers : List Str) (rowIndex : Nat) (columnName : Str) (log : Log) {before : Str}
    {after : Str × Option RuleName} (h : after.2 = none → after.1 = before) :
    Grows (Change.edit headers) (fun es => Chain (rowIndex, headers.idxOf columnName) before es after.1) log.counted
      (log.record rowIndex columnName before after.1 after.2).counted := by
  unfold Log.record
  cases hname : after.2 with
  | none => exact Grows.refl (h hname).symm _
  | some ruleName =>
    dsimp only
    by_cases heq : before = after.1
    · rw [if_pos heq]
      exact Grows.refl heq _
    · rw [if_neg heq]
      refine ⟨[_], rfl, ?_, rfl, rfl, fun hback => heq hback.symm, rfl⟩
      exact Dict.sum_values_increment log.changesByRule ruleName

theorem trimWhitespace_quiet {value : Str} (h : (trimWhitespace value).2 = none) : (trimWhitespace value).1 = value := by
  unfold trimWhitespace at h ⊢
  dsimp only at h ⊢
  split at h
  · rename_i heq
    rw [if_pos heq]
  · cases h

variable {py : PythonValues}

theorem normalizeBlank_quiet {value : Str} (h : (normalizeBlank py value).2 = none) :
    (normalizeBlank py value).1 = value := by
  unfold normalizeBlank at h ⊢
  split at h
  · rename_i hempty
    rw [if_pos hempty]
  · split at h
    · cases h
    · rename_i hne hnot
      rw [if_neg hne, if_neg hnot]

theorem coerceInteger_quiet {value : Str} {coerced : Str × Option RuleName} (h : coerceInteger py value = some coerced)
    (hquiet : coerced.2 = none) : coerced.1 = value := by
  unfold coerceInteger at h
  dsimp only at h
  split at h
  · split at h <;> cases h
    · rfl
    · cases hquiet
  · split at h
    · cases h
      rfl
    · split at h
      · obtain ⟨canonical, -, rfl⟩ := Option.map_eq_some_iff.1 h
        cases hquiet
      · cases h
        rfl

theorem coerceDecimal_quiet {value : Str} {coerced : Str × Option RuleName} (h : coerceDecimal py value = some coerced)
    (hquiet : coerced.2 = none) : coerced.1 = value := by
  unfold coerceDecimal at h
  split at h
  · cases h
    rfl
  · split at h
    · cases h
      rfl
    · obtain ⟨canonical, -, rfl⟩ := Option.map_eq_some_iff.1 h
      split at hquiet
      · rename_i heq
        rw [if_pos heq]
      · cases hquiet

theorem coerceBoolean_quiet {value : Str} (hquiet : (coerceBoolean py value).2 = none) :
    (coerceBoolean py value).1 = value := by
  unfold coerceBoolean at hquiet ⊢
  dsimp only at hquiet ⊢
  split at hquiet
  · rfl
  · dsimp only at hquiet ⊢
    split at hquiet
    · rename_i heq
      exact heq.symm
    · cases hquiet

theorem coerceDate_quiet {value : Str} (hquiet : (coerceDate py value).2 = none) : (coerceDate py value).1 = value := by
  unfold coerceDate at hquiet ⊢
  split at hquiet
  · rfl
  · dsimp only at hquiet ⊢
    split at hquiet
    · rename_i heq
      rw [if_pos heq]
    · cases hquiet

theorem coerceType_quiet {value : Str} {inferredType : InferredType} {coerced : Str × Option RuleName}
    (h : coerceType py value inferredType = some coerced) (hquiet : coerced.2 = none) : coerced.1 = value := by
  unfold coerceType at h
  split at h
  · cases h
    rfl
  · split at h
    · exact coerceInteger_quiet h hquiet
    · exact coerceDecimal_quiet h hquiet
    · cases h
      exact coerceBoolean_quiet hquiet
    all_goals cases h
    · exact coerceDate_quiet hquiet
    · exact coerceDate_quiet hquiet
    all_goals rfl

theorem cleanCell_grows (headers : List Str) {inferredType : InferredType} {rawValue value : Str} {log' : Log}
    (h : cleanCell py inferredType rowIndex columnName log rawValue = some (log', value)) :
    Grows (Change.edit headers) (fun es => Chain (rowIndex, headers.idxOf columnName) rawValue es value) log.counted
      log'.counted := by
  unfold cleanCell at h
  dsimp only at h
  split at h
  · cases h
  · rename_i coerced hcoerced
    cases h
    have htrim := Log.record_grows headers rowIndex columnName log (@trimWhitespace_quiet rawValue)
    have hnormalize := htrim.chain (Log.record_grows headers rowIndex columnName _ (@normalizeBlank_quiet py _))
    exact hnormalize.chain (Log.record_grows headers rowIndex columnName _ (coerceType_quiet hcoerced))

/-- **The log of a row, replayed on it.** -/
theorem cleanRow_grows {pre : List (List Str)} (post : List (List Str)) (hpre : pre.length = rowIndex) :
    ∀ {columns : List (Str × InferredType)} (done : List Str) {row row' : List Str} {log log' : Log},
      Placed headers done.length (columns.map Prod.fst) → cleanRow py rowIndex columns log row = some (log', row') →
      Grows (Change.edit headers) (fun es => replay cellAt setCell (pre ++ (done ++ row) :: post) es =
        some (pre ++ (done ++ row') :: post)) log.counted log'.counted
  | columns, done, [], row', log, log', hplaced, h => by
    rw [cleanRow] at h
    cases h
    refine Grows.refl ?_ _
    rfl
  | [], done, rawValue :: row, row', log, log', hplaced, h => by
    rw [cleanRow] at h
    cases h
  | (columnName, inferredType) :: columns, done, rawValue :: row, row', log, log', hplaced, h => by
    obtain ⟨mid, value, rest, hcell, hrow, rfl⟩ := cleanRow_cons h
    have hplace : headers.idxOf columnName = done.length := hplaced.head
    have hchain := cleanCell_grows headers hcell
    rw [hplace, ← hpre] at hchain
    have hplaced' : Placed headers (done ++ [value]).length (columns.map Prod.fst) := by
      simpa using hplaced.tail
    exact hchain.cell (cleanRow_grows post hpre _ hplaced' hrow)

/-- **The log of the rows, replayed on the table.** -/
theorem cleanRows_grows {columns : List (Str × InferredType)} (hplaced : Placed headers 0 (columns.map Prod.fst)) :
    ∀ {rows rows' : List (List Str)} (pre : List (List Str)) {log log' : Log},
      cleanRows py columns pre.length log rows = some (log', rows') →
      Grows (Change.edit headers) (fun es => replay cellAt setCell (pre ++ rows) es = some (pre ++ rows')) log.counted
        log'.counted
  | [], rows', pre, log, log', h => by
    rw [cleanRows] at h
    cases h
    refine Grows.refl ?_ _
    rfl
  | row :: rows, rows', pre, log, log', h => by
    obtain ⟨mid, cleaned, rest, hrow, hrows, rfl⟩ := cleanRows_cons h
    have hlen : (pre ++ [cleaned]).length = pre.length + 1 := by simp
    rw [← hlen] at hrows
    have hfirst := cleanRow_grows rows (rfl : pre.length = _) [] hplaced hrow
    exact hfirst.row (cleanRows_grows hplaced _ hrows)

theorem clean_replays (hnd : headers.Nodup) {rows : List (List Str)} {columnTypes : List InferredType}
    {limits : CleaningLimits} {result : CleaningResult} (h : clean py rows headers columnTypes limits = some result)
    (hcap : result.totalChangesCount ≤ limits.maxPersistedChanges) :
    replay cellAt setCell rows (result.changes.map (Change.edit headers)) = some result.cleanedRows ∧
      result.changesByRule.values.sum = result.totalChangesCount := by
  obtain ⟨log, hrows, hchanges, htotal, hbyRule, -⟩ := clean_ok h
  obtain ⟨es, hentries, hcount, hreplay⟩ := cleanRows_grows (placed_zip hnd columnTypes) [] hrows
  dsimp only [Log.counted] at hentries hcount
  rw [List.nil_append] at hentries
  rw [htotal] at hcap
  rw [hchanges, hbyRule, htotal, List.take_of_length_le hcap, hentries]
  exact ⟨hreplay, by simpa [Dict.values] using hcount⟩

end
end Cleaning

/-! ## Standardization -/

namespace Standardization

/-- The place of a change, and its two values. -/
def Change.edit (headers : List Str) (c : Change) : Replay.Edit (Nat × Nat) Str :=
  ⟨(c.rowIndex, headers.idxOf c.columnName), c.originalValue, c.standardizedValue⟩

def Log.counted (log : Log) : List Change × Nat := (log.changes, log.changesByRule.values.sum)

/-- A rule that keeps quiet keeps the value: what `_record` adds leads from the one to the other. -/
theorem Log.record_grows (headers : List Str) (rowIndex : Nat) (columnName : Str) (fieldType : FieldType) (log : Log)
    {before : Str} {after : Str × Option RuleName} (h : after.2 = none → after.1 = before) :
    Grows (Change.edit headers) (fun es => Chain (rowIndex, headers.idxOf columnName) before es after.1) log.counted
      (log.record rowIndex columnName fieldType before after.1 after.2).counted := by
  unfold Log.record
  cases hname : after.2 with
  | none => exact Grows.refl (h hname).symm _
  | some ruleName =>
    dsimp only
    by_cases heq : before = after.1
    · rw [if_pos heq]
      exact Grows.refl heq _
    · rw [if_neg heq]
      refine ⟨[_], rfl, ?_, rfl, rfl, fun hback => heq hback.symm, rfl⟩
      exact Dict.sum_values_increment log.changesByRule ruleName

/-- A rule that keeps quiet keeps the value. -/
def Quiet (value : Str) (after : Str × Option RuleName) : Prop := after.2 = none → after.1 = value

theorem quiet_self (value : Str) : Quiet value (value, none) := fun _ => rfl

theorem changedTo_quiet (canonical value : Str) (ruleName : RuleName) :
    Quiet value (changedTo canonical value ruleName) := by
  unfold changedTo
  split
  · exact quiet_self value
  · intro h
    cases h

theorem trimStep_quiet (value : Str) : Quiet value (trimStep value) := by
  intro h
  exact Cleaning.trimWhitespace_quiet (Option.map_eq_none_iff.1 h)

section
variable (py : PythonValues)

theorem titleCaseStep_quiet (value : Str) : Quiet value (titleCaseStep py value) := by
  unfold titleCaseStep
  split
  · exact quiet_self value
  · exact changedTo_quiet _ _ _

theorem standardizeCompanyName_quiet (value : Str) (lookup : Dict Str Str) :
    Quiet value (standardizeCompanyName py value lookup) := by
  unfold standardizeCompanyName
  split
  · exact quiet_self value
  · split
    · exact changedTo_quiet _ _ _
    · exact titleCaseStep_quiet py value

theorem applyGenericAbbreviationLookup_quiet (value : Str) (lookup : Dict Str Str) :
    Quiet value (applyGenericAbbreviationLookup py value lookup) := by
  unfold applyGenericAbbreviationLookup
  split
  · exact quiet_self value
  · split
    · exact quiet_self value
    · exact changedTo_quiet _ _ _

theorem standardizeEmail_quiet (value : Str) : Quiet value (standardizeEmail py value) := by
  unfold standardizeEmail
  split
  · exact quiet_self value
  · split
    · split
      · exact quiet_self value
      · exact changedTo_quiet _ _ _
    · exact quiet_self value

theorem expandAddressAbbreviations_quiet (value : Str) (lookup : Dict Str Str) :
    Quiet value (expandAddressAbbreviations py value lookup) := by
  unfold expandAddressAbbreviations
  split
  · exact quiet_self value
  · dsimp only
    split
    · intro h
      cases h
    · exact quiet_self value

theorem standardizeCountry_quiet (value : Str) (lookup : Dict Str Str) :
    Quiet value (standardizeCountry py value lookup) := by
  unfold standardizeCountry
  split
  · exact quiet_self value
  · split
    · exact quiet_self value
    · exact changedTo_quiet _ _ _

theorem standardizeStateProvince_quiet (value : Str) (country : Option Str) :
    Quiet value (standardizeStateProvince py value country) := by
  unfold standardizeStateProvince
  split
  · exact quiet_self value
  · dsimp only
    split
    · exact quiet_self value
    · exact changedTo_quiet _ _ _

theorem standardizePostalCode_quiet (value : Str) (country : Option Str) :
    Quiet value (standardizePostalCode py value country) := by
  unfold standardizePostalCode
  split
  · exact quiet_self value
  · split
    · dsimp only
      split
      · exact quiet_self value
      · exact changedTo_quiet _ _ _
    · dsimp only
      split
      · exact quiet_self value
      · exact changedTo_quiet _ _ _

theorem standardizeDate_quiet (value : Str) (outputFormat : Option Str) :
    Quiet value (standardizeDate py value outputFormat) := by
  unfold standardizeDate
  split
  · exact quiet_self value
  · split
    · exact quiet_self value
    · exact changedTo_quiet _ _ _

theorem standardizeTime_quiet (value : Str) : Quiet value (standardizeTime py value) := by
  unfold standardizeTime
  split
  · exact quiet_self value
  · dsimp only
    split
    · exact quiet_self value
    · exact changedTo_quiet _ _ _

theorem standardizeCurrency_quiet (value : Str) (defaultCurrency : Option Str) (locale : Option NumericLocale) :
    Quiet value (standardizeCurrency py value defaultCurrency locale) := by
  unfold standardizeCurrency
  split
  · exact quiet_self value
  · dsimp only
    split
    · exact quiet_self value
    · exact changedTo_quiet _ _ _

theorem standardizeBoolean_quiet (value : Str) (outputForm : Option (Str × Str)) :
    Quiet value (standardizeBoolean py.toPython value outputForm) := by
  unfold standardizeBoolean
  split
  · exact quiet_self value
  · dsimp only
    split
    · exact quiet_self value
    · exact changedTo_quiet _ _ _

theorem standardizeNumeric_quiet (value : Str) (locale : Option NumericLocale) :
    Quiet value (standardizeNumeric py.toPython value locale) := by
  unfold standardizeNumeric
  split
  · exact quiet_self value
  · dsimp only
    split
    · exact quiet_self value
    · exact changedTo_quiet _ _ _

theorem standardizePhone_quiet (value : Str) (country : Option Str) :
    Quiet value (standardizePhone py.toPython value country) := by
  unfold standardizePhone
  split
  · exact quiet_self value
  · exact quiet_self value
  · split
    · exact quiet_self value
    · split
      · exact quiet_self value
      · split
        · exact quiet_self value
        · exact changedTo_quiet _ _ _

variable (lookupTables : LookupTables) (config : StandardizationConfig)

theorem fieldRule_quiet (rowCountry : Option Str) (fieldType : FieldType) (value : Str) :
    Quiet value (fieldRule py lookupTables config rowCountry fieldType value) := by
  cases fieldType with
  | personName => exact titleCaseStep_quiet py value
  | companyName => exact standardizeCompanyName_quiet py value _
  | email => exact standardizeEmail_quiet py value
  | phone => exact standardizePhone_quiet py value _
  | city => exact titleCaseStep_quiet py value
  | stateProvince => exact standardizeStateProvince_quiet py value _
  | postalCode => exact standardizePostalCode_quiet py value _
  | date => exact standardizeDate_quiet py value _
  | time => exact standardizeTime_quiet py value
  | boolean => exact standardizeBoolean_quiet py value _
  | numeric => exact standardizeNumeric_quiet py value _
  | currency => exact standardizeCurrency_quiet py value _ _
  | postalAddress => exact quiet_self value
  | country => exact quiet_self value

variable {py lookupTables config} (headers : List Str)

theorem standardizeCell_grows (rowCountry : Option Str) (rowIndex : Nat) (columnName : Str) (fieldType : FieldType)
    (log : Log) (rawValue : Str) :
    Grows (Change.edit headers) (fun es => Chain (rowIndex, headers.idxOf columnName) rawValue es
        (standardizeCell py lookupTables config rowCountry rowIndex columnName fieldType log rawValue).2) log.counted
      (standardizeCell py lookupTables config rowCountry rowIndex columnName fieldType log rawValue).1.counted := by
  have htrim := Log.record_grows headers rowIndex columnName fieldType log (trimStep_quiet rawValue)
  unfold standardizeCell
  dsimp only
  split
  · exact (htrim.chain (Log.record_grows headers rowIndex columnName fieldType _
      (expandAddressAbbreviations_quiet py _ _))).chain
      (Log.record_grows headers rowIndex columnName fieldType _ (titleCaseStep_quiet py _))
  · have hruled := htrim.chain (Log.record_grows headers rowIndex columnName fieldType _
      (fieldRule_quiet py lookupTables config rowCountry fieldType _))
    split
    · exact hruled.chain (Log.record_grows headers rowIndex columnName fieldType _
        (applyGenericAbbreviationLookup_quiet py _ _))
    · exact hruled

/-- **The log of the columns after the country's, replayed on the row.** -/
theorem standardizeCells_grows {pre : List (List Str)} (post : List (List Str)) {rowIndex : Nat}
    (hpre : pre.length = rowIndex) (countryColumnIndex : Option Nat) (rowCountry : Option Str) :
    ∀ {columns : List (Str × Option FieldType)} (done : List Str) {row row' : List Str} {log log' : Log},
      Placed headers done.length (columns.map Prod.fst) →
      standardizeCells py lookupTables config countryColumnIndex rowCountry rowIndex done.length columns log row =
        some (log', row') →
      Grows (Change.edit headers) (fun es => replay cellAt setCell (pre ++ (done ++ row) :: post) es =
        some (pre ++ (done ++ row') :: post)) log.counted log'.counted
  | columns, done, [], row', log, log', hplaced, h => by
    rw [standardizeCells] at h
    cases h
    refine Grows.refl ?_ _
    rfl
  | [], done, rawValue :: row, row', log, log', hplaced, h => by
    rw [standardizeCells] at h
    cases h
  | (columnName, fieldType) :: columns, done, rawValue :: row, row', log, log', hplaced, h => by
    have hplace : headers.idxOf columnName = done.length := hplaced.head
    -- whatever the cell becomes, its changes come first and those of the other columns after them
    have hnext : ∀ (log₁ : Log) (value : Str), Grows (Change.edit headers)
        (fun es => Chain (rowIndex, headers.idxOf columnName) rawValue es value) log.counted log₁.counted →
        (standardizeCells py lookupTables config countryColumnIndex rowCountry rowIndex (done.length + 1) columns log₁
          row).map (fun p => (p.1, value :: p.2)) = some (log', row') →
        Grows (Change.edit headers) (fun es => replay cellAt setCell (pre ++ (done ++ rawValue :: row) :: post) es =
          some (pre ++ (done ++ row') :: post)) log.counted log'.counted := by
      intro log₁ value hcell hmap
      obtain ⟨⟨log₂, row₂⟩, hrow, hresult⟩ := Option.map_eq_some_iff.1 hmap
      cases hresult
      rw [hplace, ← hpre] at hcell
      have hlen : (done ++ [value]).length = done.length + 1 := by simp
      have hplaced' : Placed headers (done ++ [value]).length (columns.map Prod.fst) := by
        simpa using hplaced.tail
      rw [← hlen] at hrow
      exact hcell.cell (standardizeCells_grows post hpre countryColumnIndex rowCountry _ hplaced' hrow)
    rw [standardizeCells.eq_def] at h
    dsimp only at h
    cases fieldType with
    | none => exact hnext log rawValue (Grows.chain_refl _ _ _) h
    | some fieldType =>
      dsimp only at h
      split at h
      · exact hnext log rawValue (Grows.chain_refl _ _ _) h
      · exact hnext _ _ (standardizeCell_grows headers rowCountry rowIndex columnName fieldType log rawValue) h

variable (py lookupTables config) in
/-- **The log of the country cell, replayed on its row.** -/
theorem standardizeCountryCell_grows {pre : List (List Str)} (post : List (List Str)) {rowIndex : Nat}
    (hpre : pre.length = rowIndex) {c : Nat} {columnName : Str} (hplace : headers.idxOf columnName = c)
    {row : List Str} {rawCountryValue : Str} (hraw : row[c]? = some rawCountryValue) (log : Log) :
    let settled := standardizeCountryCell py lookupTables config c rowIndex columnName log row rawCountryValue
    Grows (Change.edit headers)
      (fun es => replay cellAt setCell (pre ++ row :: post) es = some (pre ++ settled.2.1 :: post)) log.counted
      settled.1.counted := by
  have hcell := (Log.record_grows headers rowIndex columnName .country log (trimStep_quiet rawCountryValue)).chain
    (Log.record_grows headers rowIndex columnName .country _
      (standardizeCountry_quiet py _ (lookupTables.forFieldType .country)))
  refine hcell.imp fun es hchain => ?_
  rw [hplace, ← hpre] at hchain
  exact Replay.replay_cell hraw hchain

/-- **The log of a row, its country first, replayed on it.** -/
theorem standardizeRow_grows {pre : List (List Str)} (post : List (List Str)) {rowIndex : Nat}
    (hpre : pre.length = rowIndex) {columns : List (Str × Option FieldType)}
    (hplaced : Placed headers 0 (columns.map Prod.fst)) {countryColumnIndex : Option Nat} {row row' : List Str}
    {log log' : Log}
    (h : standardizeRow py lookupTables config columns countryColumnIndex rowIndex log row = some (log', row')) :
    Grows (Change.edit headers) (fun es => replay cellAt setCell (pre ++ row :: post) es = some (pre ++ row' :: post))
      log.counted log'.counted := by
  unfold standardizeRow at h
  split at h
  · exact standardizeCells_grows headers post hpre none config.defaultCountry [] hplaced h
  · rename_i c
    split at h
    · rename_i column rawCountryValue hcolumn hraw
      have hplace : headers.idxOf column.1 = c := by
        have hname : (columns.map Prod.fst)[c]? = some column.1 := by rw [List.getElem?_map, hcolumn, Option.map_some]
        rw [hplaced c column.1 hname, Nat.zero_add]
      have hfirst := standardizeCountryCell_grows py lookupTables config headers post hpre hplace hraw log
      exact hfirst.replay (standardizeCells_grows headers post hpre (some c) _ [] hplaced h)
    · cases h

/-- **The log of the rows, replayed on the table.** -/
theorem standardizeRows_grows {columns : List (Str × Option FieldType)}
    (hplaced : Placed headers 0 (columns.map Prod.fst)) {countryColumnIndex : Option Nat} :
    ∀ {rows rows' : List (List Str)} (pre : List (List Str)) {log log' : Log},
      standardizeRows py lookupTables config columns countryColumnIndex pre.length log rows = some (log', rows') →
      Grows (Change.edit headers) (fun es => replay cellAt setCell (pre ++ rows) es = some (pre ++ rows')) log.counted
        log'.counted
  | [], rows', pre, log, log', h => by
    rw [standardizeRows] at h
    cases h
    refine Grows.refl ?_ _
    rfl
  | row :: rows, rows', pre, log, log', h => by
    obtain ⟨mid, rowOut, rest, hrow, hrows, rfl⟩ := standardizeRows_cons h
    have hlen : (pre ++ [rowOut]).length = pre.length + 1 := by simp
    rw [← hlen] at hrows
    have hfirst := standardizeRow_grows headers rows (rfl : pre.length = _) hplaced hrow
    exact hfirst.row (standardizeRows_grows hplaced _ hrows)

variable {headers}

theorem standardize_replays (hnd : headers.Nodup) {rows : List (List Str)} {fieldTypes : List (Option FieldType)}
    {limits : StandardizationLimits} {result : StandardizationResult}
    (h : standardize py lookupTables config rows headers fieldTypes limits = some result)
    (hcap : result.totalChangesCount ≤ limits.maxPersistedChanges) :
    replay cellAt setCell rows (result.changes.map (Change.edit headers)) = some result.standardizedRows ∧
      result.changesByRule.values.sum = result.totalChangesCount := by
  obtain ⟨log, hrows, hchanges, htotal, hbyRule⟩ := standardize_ok h
  obtain ⟨es, hentries, hcount, hreplay⟩ := standardizeRows_grows headers (placed_zip hnd fieldTypes) [] hrows
  dsimp only [Log.counted] at hentries hcount
  rw [List.nil_append] at hentries
  rw [htotal] at hcap
  rw [hchanges, hbyRule, htotal, List.take_of_length_le hcap, hentries]
  exact ⟨hreplay, by simpa [Dict.values] using hcount⟩

end
end Standardization

/-- **The change logs are what was done.** -/
theorem change_logs_replay (py : PythonValues) (rows : List (List Str)) (headers : List Str) (hnd : headers.Nodup) :
    (∀ (columnTypes : List Cleaning.InferredType) (limits : Cleaning.CleaningLimits) (result : Cleaning.CleaningResult),
      Cleaning.clean py rows headers columnTypes limits = some result →
      result.totalChangesCount ≤ limits.maxPersistedChanges →
      replay cellAt setCell rows (result.changes.map (Cleaning.Change.edit headers)) = some result.cleanedRows ∧
        result.changesByRule.values.sum = result.totalChangesCount) ∧
    (∀ (lookupTables : Standardization.LookupTables) (config : Standardization.StandardizationConfig)
        (fieldTypes : List (Option Standardization.FieldType)) (limits : Standardization.StandardizationLimits)
        (result : Standardization.StandardizationResult),
      Standardization.standardize py lookupTables config rows headers fieldTypes limits = some result →
      result.totalChangesCount ≤ limits.maxPersistedChanges →
      replay cellAt setCell rows (result.changes.map (Standardization.Change.edit headers)) =
          some result.standardizedRows ∧
        result.changesByRule.values.sum = result.totalChangesCount) :=
  ⟨fun _ _ _ h hcap => Cleaning.clean_replays hnd h hcap,
    fun _ _ _ _ _ h hcap => Standardization.standardize_replays hnd h hcap⟩

def peopleHeaders : List Str := ["name".toList, "country".toList, "state".toList]

def peopleRows : List (List Str) :=
  [[" ann  lee".toList, "usa".toList, "texas".toList], ["N/A".toList, "ca".toList, "yukon".toList]]

def noLookups : Standardization.LookupTables := ⟨[], []⟩

def defaultConfig : Standardization.StandardizationConfig := ⟨none, none, none, none, none⟩

/-- The country is logged first. -/
theorem change_logs_replay_people :
    (∃ cleaned, Cleaning.clean asciiValues peopleRows peopleHeaders [.string, .string, .string] ⟨10⟩ = some cleaned ∧
      cleaned.totalChangesCount = 2 ∧
      replay cellAt setCell peopleRows (cleaned.changes.map (Cleaning.Change.edit peopleHeaders)) =
        some cleaned.cleanedRows) ∧
    (∃ standardized, Standardization.standardize asciiValues noLookups defaultConfig peopleRows peopleHeaders
        [some .personName, some .country, some .stateProvince] ⟨10⟩ = some standardized ∧
      standardized.totalChangesCount = 7 ∧
      replay cellAt setCell peopleRows (standardized.changes.map (Standardization.Change.edit peopleHeaders)) =
        some standardized.standardizedRows) := by
  have hreplay := change_logs_replay asciiValues peopleRows peopleHeaders (by decide)
  constructor
  · obtain ⟨cleaned, hcleaned, htotal⟩ :=
      (Option.any_eq_true _ _).1 (show (Cleaning.clean asciiValues peopleRows peopleHeaders
      [.string, .string, .string] ⟨10⟩).any (fun r => r.totalChangesCount = 2) = true by decide)
    have htotal := of_decide_eq_true htotal
    exact ⟨cleaned, hcleaned, htotal, (hreplay.1 _ _ _ hcleaned (by rw [htotal]; decide)).1⟩
  · obtain ⟨standardized, hstandardized, htotal⟩ :=
      (Option.any_eq_true _ _).1 (show (Standardization.standardize asciiValues
      noLookups defaultConfig peopleRows peopleHeaders [some .personName, some .country, some .stateProvince] ⟨10⟩).any
        (fun r => r.totalChangesCount = 7) = true by decide)
    have htotal := of_decide_eq_true htotal
    exact ⟨standardized, hstandardized, htotal, (hreplay.2 _ _ _ _ _ hstandardized (by rw [htotal]; decide)).1⟩

end DataOps

import DataOps.StandardizationFields
/-!
# StandardizationEngine — row by row

`standardize` settles the country of a row first, since the phone, state and postal-code rules depend on it, and then
runs the rules of each classified column; a column without a field type is left alone.
-/
namespace DataOps
namespace Standardization

inductive FieldType
  | personName | companyName | email | phone | postalAddress | city | stateProvince | country | postalCode | date | time
  | boolean | numeric | currency
deriving DecidableEq, Repr

/-- `RULE_CONFIDENCE`. -/
def ruleConfidence : RuleName → Rat
  | .trimWhitespace            => Cleaning.ruleConfidence .trimWhitespace
  | .titleCase                 => 95 / 100
  | .upperCase                 => 1
  | .lowerCase                 => 1
  | .companySuffixLookup       => 9 / 10
  | .phoneE164                 => 85 / 100
  | .addressAbbreviation       => 85 / 100
  | .stateProvinceAbbreviation => 9 / 10
  | .countryIsoNormalize       => 9 / 10
  | .postalCodeFormat          => 9 / 10
  | .dateFormatNormalize       => 7 / 10
  | .timeFormatNormalize       => 75 / 100
  | .booleanFormatNormalize    => 95 / 100
  | .numericFormatNormalize    => 85 / 100
  | .currencyFormatNormalize   => 8 / 10
  | .abbreviationLookup        => 85 / 100

/-- `RULE_REASONS`. -/
def ruleReason : RuleName → String
  | .trimWhitespace            => Cleaning.ruleReason .trimWhitespace
  | .titleCase                 => "Value converted to title case."
  | .upperCase                 => "Value converted to upper case."
  | .lowerCase                 => "Value converted to lower case."
  | .companySuffixLookup       => "Company suffix normalized via configured lookup table."
  | .phoneE164                 => "Phone number reformatted to E.164 using the resolved country."
  | .addressAbbreviation       => "Address term normalized via abbreviation lookup table."
  | .stateProvinceAbbreviation => "State/province normalized to its standard abbreviation."
  | .countryIsoNormalize       => "Country name normalized to its ISO 3166-1 alpha-2 code."
  | .postalCodeFormat          => "Postal/ZIP code reformatted to the resolved country's standard form."
  | .dateFormatNormalize       => "Date reparsed and reformatted to the canonical/configured form."
  | .timeFormatNormalize       => "Time reparsed and reformatted to 24-hour ISO-8601 form."
  | .booleanFormatNormalize    => "Boolean value normalized to its canonical/configured form."
  | .numericFormatNormalize    => "Numeric separators normalized to a canonical machine-readable form."
  | .currencyFormatNormalize   => "Currency value normalized to '<amount> <ISO4217code>' form."
  | .abbreviationLookup        => "Value normalized via a configured generic abbreviation lookup table."

structure StandardizationLimits where
  maxPersistedChanges : Nat
deriving Repr

/-- Nothing is configured by default. -/
structure StandardizationConfig where
  defaultCountry    : Option Str
  defaultCurrency   : Option Str
  dateOutputFormat  : Option Str
  booleanOutputForm : Option (Str × Str)
  numericLocale     : Option NumericLocale

/-- `scoped` and `global_`. -/
structure LookupTables where
  scopedLookup : Dict FieldType (Dict Str Str)
  globalLookup : Dict Str Str

def LookupTables.forFieldType (tables : LookupTables) (fieldType : FieldType) : Dict Str Str :=
  (tables.scopedLookup.get? fieldType).getD []

structure Change where
  rowIndex          : Nat
  columnName        : Str
  fieldType         : FieldType
  originalValue     : Str
  standardizedValue : Str
  ruleName          : RuleName
  ruleVersion       : String
  reason            : String
  confidence        : Rat
deriving DecidableEq, Repr

structure StandardizationResult where
  standardizedRows  : List (List Str)
  changes           : List Change
  totalChangesCount : Nat
  changesByRule     : Dict RuleName Nat
  confidenceScore   : Rat
deriving DecidableEq, Repr

def standardizationEngineVersion : String := "1.0"

/-- `changes` and `changes_by_rule`. -/
structure Log where
  changes       : List Change
  changesByRule : Dict RuleName Nat

/-- `_record`. -/
def Log.record (log : Log) (rowIndex : Nat) (columnName : Str) (fieldType : FieldType) (before after : Str)
    (ruleName : Option RuleName) : Log :=
  match ruleName with
  | none          => log
  | some ruleName =>
    if before = after then log
    else
      { changes := log.changes ++
          [⟨rowIndex, columnName, fieldType, before, after, ruleName, standardizationEngineVersion, ruleReason ruleName,
            ruleConfidence ruleName⟩]
        changesByRule := log.changesByRule.increment ruleName }

/-- The universal trim pass; the rule's name is its only one. -/
def trimStep (value : Str) : Str × Option RuleName :=
  ((Cleaning.trimWhitespace value).1, (Cleaning.trimWhitespace value).2.map (fun _ => .trimWhitespace))

/-- `_GENERIC_ABBREVIATION_FIELD_TYPES`. -/
def genericAbbreviationFieldTypes : List FieldType := [.personName, .companyName, .city, .stateProvince, .country]

section
variable (py : PythonValues) (lookupTables : LookupTables) (config : StandardizationConfig)

/-- The field's own rule; `postal_address` has two of its own, and a further country column none. -/
def fieldRule (rowCountry : Option Str) (fieldType : FieldType) (value : Str) : Str × Option RuleName :=
  match fieldType with
  | .personName    => standardizePersonName py value
  | .companyName   => standardizeCompanyName py value (lookupTables.forFieldType .companyName)
  | .email         => standardizeEmail py value
  | .phone         => standardizePhone py.toPython value rowCountry
  | .city          => standardizeCity py value
  | .stateProvince => standardizeStateProvince py value rowCountry
  | .postalCode    => standardizePostalCode py value rowCountry
  | .date          => standardizeDate py value config.dateOutputFormat
  | .time          => standardizeTime py value
  | .boolean       => standardizeBoolean py.toPython value config.booleanOutputForm
  | .numeric       => standardizeNumeric py.toPython value config.numericLocale
  | .currency      => standardizeCurrency py value config.defaultCurrency config.numericLocale
  | .postalAddress | .country => (value, none)

/-- `address_lookup`. -/
def addressLookup : Dict Str Str :=
  mergedLookup defaultAddressAbbreviations (lookupTables.forFieldType .postalAddress)

/-- One classified cell outside the country column. -/
def standardizeCell (rowCountry : Option Str) (rowIndex : Nat) (columnName : Str) (fieldType : FieldType) (log : Log)
    (rawValue : Str) : Log × Str :=
  let record (log : Log) (before : Str) (after : Str × Option RuleName) :=
    log.record rowIndex columnName fieldType before after.1 after.2
  let trimmed := trimStep rawValue
  let log := record log rawValue trimmed
  if fieldType = .postalAddress then
    let expanded := expandAddressAbbreviations py trimmed.1 (addressLookup lookupTables)
    let log := record log trimmed.1 expanded
    let cased := titleCaseStep py expanded.1
    (record log expanded.1 cased, cased.1)
  else
    let ruled := fieldRule py lookupTables config rowCountry fieldType trimmed.1
    let log := record log trimmed.1 ruled
    if fieldType ∈ genericAbbreviationFieldTypes then
      let generic := applyGenericAbbreviationLookup py ruled.1 lookupTables.globalLookup
      (record log ruled.1 generic, generic.1)
    else (log, ruled.1)

/-- The columns after the country's; its own cell is already settled. -/
def standardizeCells (countryColumnIndex : Option Nat) (rowCountry : Option Str) (rowIndex : Nat) :
    Nat → List (Str × Option FieldType) → Log → List Str → Option (Log × List Str)
  | _, _, log, []                => some (log, [])
  | _, [], _, _ :: _             => none
  | columnIndex, (columnName, fieldType) :: columns, log, rawValue :: row =>
    let (log, value) := match fieldType with
      | none           => (log, rawValue)
      | some fieldType =>
        if countryColumnIndex = some columnIndex then (log, rawValue)
        else standardizeCell py lookupTables config rowCountry rowIndex columnName fieldType log rawValue
    (standardizeCells countryColumnIndex rowCountry rowIndex (columnIndex + 1) columns log row).map
      (fun (log, row) => (log, value :: row))

/-- The country cell of a row: the row with it settled, and the country the other rules go by. -/
def standardizeCountryCell (countryColumnIndex rowIndex : Nat) (columnName : Str) (log : Log) (row : List Str)
    (rawCountryValue : Str) : Log × List Str × Option Str :=
  let countryLookup := lookupTables.forFieldType .country
  let trimmed := trimStep rawCountryValue
  let log := log.record rowIndex columnName .country rawCountryValue trimmed.1 trimmed.2
  let new := standardizeCountry py trimmed.1 countryLookup
  let log := log.record rowIndex columnName .country trimmed.1 new.1 new.2
  let rowCountry := match resolveCountryCode py new.1 countryLookup with
    | some resolved => some resolved
    | none          => config.defaultCountry
  (log, row.set countryColumnIndex new.1, rowCountry)

def standardizeRow (columns : List (Str × Option FieldType)) (countryColumnIndex : Option Nat) (rowIndex : Nat)
    (log : Log) (row : List Str) : Option (Log × List Str) :=
  match countryColumnIndex with
  | none => standardizeCells py lookupTables config none config.defaultCountry rowIndex 0 columns log row
  | some c =>
    match columns[c]?, row[c]? with
    | some column, some rawCountryValue =>
      let (log, row, rowCountry) :=
        standardizeCountryCell py lookupTables config c rowIndex column.1 log row rawCountryValue
      standardizeCells py lookupTables config (some c) rowCountry rowIndex 0 columns log row
    | _, _ => none

def standardizeRows (columns : List (Str × Option FieldType)) (countryColumnIndex : Option Nat) :
    Nat → Log → List (List Str) → Option (Log × List (List Str))
  | _, log, []                 => some (log, [])
  | rowIndex, log, row :: rows =>
    match standardizeRow py lookupTables config columns countryColumnIndex rowIndex log row with
    | none            => none
    | some (log, row) =>
      (standardizeRows columns countryColumnIndex (rowIndex + 1) log rows).map (fun (log, rows) => (log, row :: rows))

def standardize (rows : List (List Str)) (headers : List Str) (fieldTypes : List (Option FieldType))
    (limits : StandardizationLimits) : Option StandardizationResult :=
  let countryColumnIndex := fieldTypes.findIdx? (fun fieldType => fieldType = some .country)
  match standardizeRows py lookupTables config (headers.zip fieldTypes) countryColumnIndex 0 ⟨[], []⟩ rows with
  | none                         => none
  | some (log, standardizedRows) =>
    some { standardizedRows := standardizedRows
           changes := log.changes.take limits.maxPersistedChanges
           totalChangesCount := log.changes.length
           changesByRule := log.changesByRule
           confidenceScore := ((log.changes.map (·.confidence)).min?).getD 1 }

end

/-! ## What a run consists of -/

section
variable {py : PythonValues} {lookupTables : LookupTables} {config : StandardizationConfig}
  {rowIndex : Nat} {log log' : Log}

/-- The first row, and the rest of them. -/
theorem standardizeRows_cons {columns : List (Str × Option FieldType)} {countryColumnIndex : Option Nat} {row : List Str}
    {rows out : List (List Str)}
    (h : standardizeRows py lookupTables config columns countryColumnIndex rowIndex log (row :: rows) = some (log', out)) :
    ∃ mid rowOut rest, standardizeRow py lookupTables config columns countryColumnIndex rowIndex log row =
      some (mid, rowOut) ∧
      standardizeRows py lookupTables config columns countryColumnIndex (rowIndex + 1) mid rows = some (log', rest) ∧
      out = rowOut :: rest := by
  rw [standardizeRows] at h
  split at h
  · cases h
  · rename_i mid rowOut hrow
    obtain ⟨⟨last, rest⟩, hrows, heq⟩ := Option.map_eq_some_iff.1 h
    cases heq
    exact ⟨mid, rowOut, rest, hrow, hrows, rfl⟩

/-- The rows of a result, and the log its numbers are read off. -/
theorem standardize_ok {rows : List (List Str)} {headers : List Str} {fieldTypes : List (Option FieldType)}
    {limits : StandardizationLimits} {result : StandardizationResult}
    (h : standardize py lookupTables config rows headers fieldTypes limits = some result) :
    ∃ log, standardizeRows py lookupTables config (headers.zip fieldTypes)
        (fieldTypes.findIdx? (fun fieldType => fieldType = some .country)) 0 ⟨[], []⟩ rows =
          some (log, result.standardizedRows) ∧
      result.changes = log.changes.take limits.maxPersistedChanges ∧ result.totalChangesCount = log.changes.length ∧
      result.changesByRule = log.changesByRule := by
  unfold standardize at h
  dsimp only at h
  split at h
  · cases h
  · rename_i log standardizedRows hrows
    cases h
    exact ⟨log, hrows, rfl, rfl, rfl⟩

end

end Standardization
end DataOps

import Mathlib.Data.List.Infix
import DataOps.StandardizationEngine
/-!
# StandardizationColumns — what a column is standardized as

`classify_columns`, and what `StandardizationHandler` reads for it and for the rules: an organization's mappings, where
those of the data source go before those of every data source, and its lookup entries.
-/
namespace DataOps
namespace Standardization

/-- A row of `standardization_column_mappings`. -/
structure StandardizationColumnMapping where
  organizationId : Nat
  dataSourceId   : Option Nat
  columnName     : Str
  fieldType      : FieldType
  isActive       : Bool
deriving DecidableEq, Repr

/-- A row of `standardization_lookup_entries`. -/
structure StandardizationLookupEntry where
  organizationId : Nat
  fieldType      : Option FieldType
  lookupKey      : Str
  lookupValue    : Str
  isActive       : Bool
deriving DecidableEq, Repr

/-- `_HEADER_PATTERNS`. -/
def headerPatterns : List (FieldType × List Str) :=
  [(.email, ["email".toList, "e-mail".toList, "e_mail".toList, "emailaddress".toList]),
   (.phone, ["phone".toList, "telephone".toList, "tel".toList, "mobile".toList, "cell".toList, "fax".toList]),
   (.personName, ["firstname".toList, "first_name".toList, "lastname".toList, "last_name".toList, "fullname".toList,
     "full_name".toList, "contactname".toList, "contact_name".toList]),
   (.companyName, ["company".toList, "companyname".toList, "company_name".toList, "organization".toList,
     "org_name".toList, "employer".toList, "business_name".toList]),
   (.postalAddress, ["address".toList, "street".toList, "addressline".toList, "address_line".toList,
     "street_address".toList]),
   (.city, ["city".toList, "town".toList]),
   (.stateProvince, ["state".toList, "province".toList, "state_province".toList, "region".toList]),
   (.country, ["country".toList, "nation".toList]),
   (.postalCode, ["zip".toList, "zipcode".toList, "zip_code".toList, "postal".toList, "postalcode".toList,
     "postal_code".toList]),
   (.date, ["date".toList, "dob".toList, "birthdate".toList, "birth_date".toList]),
   (.time, ["time".toList]),
   (.boolean, ["isactive".toList, "is_active".toList, "active".toList, "enabled".toList, "flag".toList]),
   (.numeric, ["amount".toList, "quantity".toList, "qty".toList, "count".toList, "number".toList, "num".toList]),
   (.currency, ["price".toList, "cost".toList, "salary".toList, "revenue".toList, "currency".toList])]

/-- `s.replace("-", "").replace("_", "")`. -/
def withoutDashes (s : Str) : Str := s.filter (fun c => c ≠ '-' ∧ c ≠ '_')

section
variable (py : Python)

/-- `_normalize_header`. -/
def normalizeHeader (header : Str) : Str :=
  withoutDashes ((py.lower header.strip).filter (fun c => ¬ Str.isSpace c))

def classifyColumn (header : Str) (columnOverrides : Dict Str FieldType) : Option FieldType :=
  match columnOverrides.get? (py.lower header.strip) with
  | some fieldType => some fieldType
  | none           =>
    let normalized := normalizeHeader py header
    if normalized = [] then none
    else
      (headerPatterns.find? (fun entry =>
        entry.2.any (fun pattern => decide (withoutDashes pattern <:+: normalized)))).map Prod.fst

def classifyColumns (headers : List Str) (columnOverrides : Dict Str FieldType) : List (Option FieldType) :=
  headers.map (fun header => classifyColumn py header columnOverrides)

/-- `overrides.setdefault(..)`: the first of the organization's own. -/
def setDefault (overrides : Dict Str FieldType) (row : StandardizationColumnMapping) : Dict Str FieldType :=
  match overrides.get? (py.lower row.columnName.strip) with
  | some _ => overrides
  | none   => overrides.set (py.lower row.columnName.strip) row.fieldType

def setOverride (overrides : Dict Str FieldType) (row : StandardizationColumnMapping) : Dict Str FieldType :=
  overrides.set (py.lower row.columnName.strip) row.fieldType

/-- `_load_column_overrides`. -/
def loadColumnOverrides (mappings : List StandardizationColumnMapping) (organizationId dataSourceId : Nat) :
    Dict Str FieldType :=
  let rows := mappings.filter (fun row => row.organizationId = organizationId ∧ row.isActive = true)
  let overrides := (rows.filter (fun row => row.dataSourceId = none)).foldl (setDefault py) []
  (rows.filter (fun row => row.dataSourceId = some dataSourceId)).foldl (setOverride py) overrides

def setLookup (tables : LookupTables) (row : StandardizationLookupEntry) : LookupTables :=
  let key := py.lower row.lookupKey.strip
  match row.fieldType with
  | none           => { tables with globalLookup := tables.globalLookup.set key row.lookupValue }
  | some fieldType =>
    { tables with
      scopedLookup := tables.scopedLookup.set fieldType ((tables.forFieldType fieldType).set key row.lookupValue) }

/-- `_load_lookup_tables`. -/
def loadLookupTables (entries : List StandardizationLookupEntry) (organizationId : Nat) : LookupTables :=
  (entries.filter (fun row => row.organizationId = organizationId ∧ row.isActive = true)).foldl (setLookup py) ⟨[], []⟩

end

/-! ## Which mapping a column has -/

section
variable {py : Python} {key : Str}

/-- The last mapping of a column replaces whatever was there. -/
theorem setOverride_foldl_get? : ∀ (rows : List StandardizationColumnMapping) (overrides : Dict Str FieldType),
    (rows.foldl (setOverride py) overrides).get? key =
      (((rows.filter (fun row => py.lower row.columnName.strip = key)).getLast?).map
        (fun row => row.fieldType)).or (overrides.get? key)
  | [], _ => by simp
  | row :: rows, overrides => by
    rw [List.foldl_cons, setOverride_foldl_get? rows]
    unfold setOverride
    rw [Dict.get?_set]
    by_cases hkey : py.lower row.columnName.strip = key
    · rw [if_pos hkey, List.filter_cons_of_pos (by simpa using hkey), List.getLast?_cons]
      cases (rows.filter (fun row => py.lower row.columnName.strip = key)).getLast? <;> rfl
    · rw [if_neg hkey, List.filter_cons_of_neg (by simpa using hkey)]

/-- **A mapping of the data source goes before every other one of its column.** -/
theorem loadColumnOverrides_own {mappings : List StandardizationColumnMapping} {organizationId dataSourceId : Nat}
    {row : StandardizationColumnMapping} (hrow : row ∈ mappings) (horganization : row.organizationId = organizationId)
    (hactive : row.isActive = true) (hdataSource : row.dataSourceId = some dataSourceId)
    (hkey : py.lower row.columnName.strip = key) :
    ∃ own ∈ mappings, own.dataSourceId = some dataSourceId ∧ py.lower own.columnName.strip = key ∧
      (loadColumnOverrides py mappings organizationId dataSourceId).get? key = some own.fieldType := by
  unfold loadColumnOverrides
  rw [setOverride_foldl_get?]
  have hmem : row ∈ ((mappings.filter (fun row => row.organizationId = organizationId ∧ row.isActive = true)).filter
      (fun row => row.dataSourceId = some dataSourceId)).filter (fun row => py.lower row.columnName.strip = key) := by
    simp [hrow, horganization, hactive, hdataSource, hkey]
  obtain ⟨own, hlast⟩ := Option.isSome_iff_exists.1 (List.getLast?_isSome.2 (List.ne_nil_of_mem hmem))
  have hown := List.mem_of_getLast? hlast
  simp only [List.mem_filter, decide_eq_true_eq] at hown
  refine ⟨own, hown.1.1.1, hown.1.2, hown.2, ?_⟩
  rw [hlast]
  rfl

end

end Standardization
end DataOps

import DataOps.DataSourceWrites
import DataOps.StandardizationColumns
/-!
# StandardizationConfiguration — an organization's column mappings and lookup entries

Both are created without a look at what is there: the indexes let one active row have each scope and name.  That is what
makes them mean something, for they are read in no particular order: a column has the one mapping of its data source, or
else the organization's own (`loaded_mappings_exact`), and a key the one entry of its scope (`loaded_lookups_exact`).
The indexes go by PostgreSQL's lower case and the loaders by Python's: it takes a key that is one name to the database.
-/
namespace DataOps
namespace Standardization

open Accounts (validateName)
open Api (HTTPException OrganizationId User)
open Registry (Naming Unambiguous holders)
open Schedule (DataSourceId bind_eq_ok sqlTrim validateDataSourceRef)
open Tickets (State step)
open Trace (exec)

abbrev MappingId := Nat

abbrev EntryId := Nat

structure Tables where
  -- the data sources and the tasks, for the reference of a mapping
  schedule : Schedule.Tables
  mappings : Dict MappingId StandardizationColumnMapping
  entries  : Dict EntryId StandardizationLookupEntry

section
variable (py : Backend)

/-- `ix_standardization_column_mappings_scoped_active` and `.._orgwide_active`: one index for each scope. -/
def mappingNaming : Naming StandardizationColumnMapping OrganizationId (Option DataSourceId × Str) where
  owner := StandardizationColumnMapping.organizationId
  name := fun row => (row.dataSourceId, py.sqlLower (sqlTrim row.columnName))
  active := StandardizationColumnMapping.isActive

/-- `ix_standardization_lookup_entries_scoped_active` and `.._global_active`. -/
def entryNaming : Naming StandardizationLookupEntry OrganizationId (Option FieldType × Str) where
  owner := StandardizationLookupEntry.organizationId
  name := fun row => (row.fieldType, py.sqlLower (sqlTrim row.lookupKey))
  active := StandardizationLookupEntry.isActive

/-! ## The requests -/

structure StandardizationColumnMappingCreate where
  dataSourceId : Option DataSourceId := none
  columnName   : Str
  fieldType    : FieldType

structure StandardizationLookupEntryCreate where
  fieldType   : Option FieldType := none
  lookupKey   : Str
  lookupValue : Str

inductive Request
  | createMapping (payload : StandardizationColumnMappingCreate) (currentUser : User) (id : MappingId)
  | deleteMapping (mappingId : MappingId) (currentUser : User)
  | createEntry (payload : StandardizationLookupEntryCreate) (currentUser : User) (id : EntryId)
  | deleteEntry (entryId : EntryId) (currentUser : User)

inductive Write
  | insertMapping (id : MappingId) (row : StandardizationColumnMapping)
  | deactivateMapping (id : MappingId)
  | insertEntry (id : EntryId) (row : StandardizationLookupEntry)
  | deactivateEntry (id : EntryId)
deriving DecidableEq

def createStandardizationColumnMapping (db : Tables) (payload : StandardizationColumnMappingCreate) (currentUser : User)
    (id : MappingId) : Except HTTPException Write := do
  let columnName ← validateName "column_name must not be blank" payload.columnName
  validateDataSourceRef db.schedule payload.dataSourceId currentUser.organizationId
  return .insertMapping id ⟨currentUser.organizationId, payload.dataSourceId, columnName, payload.fieldType, true⟩

def createStandardizationLookupEntry (payload : StandardizationLookupEntryCreate) (currentUser : User) (id : EntryId) :
    Except HTTPException Write := do
  let lookupKey ← validateName "must not be blank" payload.lookupKey
  let lookupValue ← validateName "must not be blank" payload.lookupValue
  return .insertEntry id ⟨currentUser.organizationId, payload.fieldType, lookupKey, lookupValue, true⟩

/-- The row of a soft delete. -/
def findActive {κ ρ : Type} [DecidableEq κ] (naming : Naming ρ OrganizationId κ) (rows : Dict Nat ρ) (id : Nat)
    (orgId : OrganizationId) : Option ρ :=
  (rows.get? id).filter (fun row => naming.owner row = orgId ∧ naming.active row = true)

def deleteStandardizationColumnMapping (db : Tables) (mappingId : MappingId) (currentUser : User) :
    Except HTTPException Write :=
  match findActive (mappingNaming py) db.mappings mappingId currentUser.organizationId with
  | some _ => .ok (.deactivateMapping mappingId)
  | none   => .error ⟨404, "Column mapping not found"⟩

def deleteStandardizationLookupEntry (db : Tables) (entryId : EntryId) (currentUser : User) :
    Except HTTPException Write :=
  match findActive (entryNaming py) db.entries entryId currentUser.organizationId with
  | some _ => .ok (.deactivateEntry entryId)
  | none   => .error ⟨404, "Lookup entry not found"⟩

/-- The commit of a new row; `none` is an `IntegrityError`. -/
def insertActive {κ ρ : Type} [DecidableEq κ] (naming : Naming ρ OrganizationId κ)
    (rows : Dict Nat ρ) (id : Nat) (row : ρ) :
    Option (Dict Nat ρ) :=
  if rows.get? id = none ∧ (holders naming rows (naming.owner row) (naming.name row) none).isEmpty = true then
    some (rows.set id row)
  else none

/-- What the commit leaves. -/
def Write.apply (db : Tables) : Write → Option Tables
  | .insertMapping id row =>
    (insertActive (mappingNaming py) db.mappings id row).map (fun mappings => { db with mappings := mappings })
  | .deactivateMapping id =>
    (db.mappings.get? id).map (fun row => { db with mappings := db.mappings.set id { row with isActive := false } })
  | .insertEntry id row =>
    (insertActive (entryNaming py) db.entries id row).map (fun entries => { db with entries := entries })
  | .deactivateEntry id =>
    (db.entries.get? id).map (fun row => { db with entries := db.entries.set id { row with isActive := false } })

/-- The endpoints, each as its reads and its later commit. -/
def endpoints : Tickets.Protocol Tables Request HTTPException Write where
  plan := fun r db => match r with
    | .createMapping payload currentUser id => createStandardizationColumnMapping db payload currentUser id
    | .deleteMapping mappingId currentUser  => deleteStandardizationColumnMapping py db mappingId currentUser
    | .createEntry payload currentUser id   => createStandardizationLookupEntry payload currentUser id
    | .deleteEntry entryId currentUser      => deleteStandardizationLookupEntry py db entryId currentUser
  write := fun w db => (w.apply py db).getD db

end

/-! ## What commits keep -/

section
variable {py : Backend}

/-- Each scope and key has one active row, under a key without blanks around it. -/
structure Configured (py : Backend) (db : Tables) : Prop where
  mappings    : Unambiguous (mappingNaming py) db.mappings
  columnNames : ∀ row ∈ db.mappings.values, row.columnName.strip = row.columnName
  entries     : Unambiguous (entryNaming py) db.entries
  lookupKeys  : ∀ row ∈ db.entries.values, row.lookupKey.strip = row.lookupKey

/-- The key of a new row has no blanks around it. -/
def Write.Trimmed : Write → Prop
  | .insertMapping _ row => row.columnName.strip = row.columnName
  | .insertEntry _ row   => row.lookupKey.strip = row.lookupKey
  | _                    => True

theorem plan_trimmed {db : Tables} {r : Request} {w : Write} (h : (endpoints py).plan r db = .ok w) : w.Trimmed := by
  cases r with
  | createMapping payload currentUser id =>
    obtain ⟨columnName, hname, h⟩ := bind_eq_ok h
    obtain ⟨-, -, h⟩ := bind_eq_ok h
    cases h
    exact (DataSources.validateName_ok hname).1
  | createEntry payload currentUser id =>
    obtain ⟨lookupKey, hkey, h⟩ := bind_eq_ok h
    obtain ⟨lookupValue, -, h⟩ := bind_eq_ok h
    cases h
    exact (DataSources.validateName_ok hkey).1
  | deleteMapping mappingId currentUser =>
    simp only [endpoints, deleteStandardizationColumnMapping] at h
    split at h
    · cases h
      trivial
    · cases h
  | deleteEntry entryId currentUser =>
    simp only [endpoints, deleteStandardizationLookupEntry] at h
    split at h
    · cases h
      trivial
    · cases h

theorem mem_values_set {ρ : Type} {rows : Dict Nat ρ} {id : Nat} {row new : ρ} (h : new ∈ (rows.set id row).values)
    (hkeys : rows.keys.Nodup) : new = row ∨ new ∈ rows.values := by
  obtain ⟨e, he, rfl⟩ := List.mem_map.1 h
  rcases (Registry.mem_set hkeys).1 he with rfl | ⟨he, -⟩
  · exact .inl rfl
  · exact .inr (List.mem_map_of_mem he)

/-- **What the indexes accept keeps every key to one row.** -/
theorem insertActive_some {κ ρ : Type} [DecidableEq κ] {naming : Naming ρ OrganizationId κ} {rows rows' : Dict Nat ρ}
    (hrows : Unambiguous naming rows) {id : Nat} {row : ρ} (h : insertActive naming rows id row = some rows') :
    rows' = rows.set id row ∧ Unambiguous naming rows' := by
  unfold insertActive at h
  split at h
  · rename_i hok
    cases h
    refine ⟨rfl, (hrows.set_iff id row).2 (fun _ => Registry.holders_eq_nil_iff.2 (fun e he howner hname hactive => ?_))⟩
    have hnone := Registry.holders_eq_nil_iff.1 (List.isEmpty_iff.1 hok.2) e he howner hname hactive
    cases hnone
  · cases h

theorem Configured.apply {db db' : Tables} (hdb : Configured py db) {w : Write} (hw : w.Trimmed)
    (h : w.apply py db = some db') : Configured py db' := by
  cases w with
  | insertMapping id row =>
    obtain ⟨mappings, hinsert, rfl⟩ := Option.map_eq_some_iff.1 h
    obtain ⟨rfl, hmappings⟩ := insertActive_some hdb.mappings hinsert
    refine { hdb with mappings := hmappings, columnNames := fun new hnew => ?_ }
    rcases mem_values_set hnew hdb.mappings.keys with rfl | hold
    · exact hw
    · exact hdb.columnNames new hold
  | deactivateMapping id =>
    obtain ⟨row, hrow, rfl⟩ := Option.map_eq_some_iff.1 h
    refine { hdb with
      mappings := hdb.mappings.keep hrow ⟨rfl, rfl, fun hactive => (by cases hactive)⟩
      columnNames := fun new hnew => ?_ }
    rcases mem_values_set hnew hdb.mappings.keys with rfl | hold
    · exact hdb.columnNames row (List.mem_map_of_mem (Dict.mem_of_get?_eq_some hrow))
    · exact hdb.columnNames new hold
  | insertEntry id row =>
    obtain ⟨entries, hinsert, rfl⟩ := Option.map_eq_some_iff.1 h
    obtain ⟨rfl, hentries⟩ := insertActive_some hdb.entries hinsert
    refine { hdb with entries := hentries, lookupKeys := fun new hnew => ?_ }
    rcases mem_values_set hnew hdb.entries.keys with rfl | hold
    · exact hw
    · exact hdb.lookupKeys new hold
  | deactivateEntry id =>
    obtain ⟨row, hrow, rfl⟩ := Option.map_eq_some_iff.1 h
    refine { hdb with
      entries := hdb.entries.keep hrow ⟨rfl, rfl, fun hactive => (by cases hactive)⟩
      lookupKeys := fun new hnew => ?_ }
    rcases mem_values_set hnew hdb.entries.keys with rfl | hold
    · exact hdb.lookupKeys row (List.mem_map_of_mem (Dict.mem_of_get?_eq_some hrow))
    · exact hdb.lookupKeys new hold

theorem configured_exec (schedule : Schedule.Tables) (ls : List (Tickets.Label Request)) :
    Configured py (exec (step (endpoints py)) (State.initial ⟨schedule, [], []⟩) ls).store := by
  refine (Trace.exec_invariant _ (I := fun (s : State Tables Request Write) => Configured py s.store ∧
    ∀ t ∈ s.pending, t.write.Trimmed)
    (fun s l h => ?_) ls _ ⟨⟨Registry.unambiguous_nil, ?_, Registry.unambiguous_nil, ?_⟩, ?_⟩).1
  · rcases Tickets.step_cases (endpoints py) s l with heq | ⟨r, w, hplan, heq⟩ |
      ⟨i, t, rfl, hi, heq⟩ | ⟨i, heq⟩ <;> rw [heq]
    · exact h
    · refine ⟨h.1, fun t ht => ?_⟩
      rcases List.mem_append.1 ht with hold | hnew
      · exact h.2 t hold
      · rw [List.mem_singleton.1 hnew]
        exact plan_trimmed hplan
    · refine ⟨?_, fun t' ht' => h.2 t' (List.mem_of_mem_eraseIdx ht')⟩
      show Configured py ((t.write.apply py s.store).getD s.store)
      cases happly : t.write.apply py s.store with
      | none => exact h.1
      | some db' => exact h.1.apply (h.2 t (List.mem_of_getElem? hi)) happly
    · exact ⟨h.1, fun t ht => h.2 t (List.mem_of_mem_eraseIdx ht)⟩
  · exact fun row hrow => by cases hrow
  · exact fun row hrow => by cases hrow
  · exact fun t ht => by cases ht

/-! ## What is loaded -/

theorem setDefault_foldl_get? {key : Str} : ∀ (rows : List StandardizationColumnMapping) (overrides : Dict Str FieldType),
    (rows.foldl (setDefault py.toPython) overrides).get? key =
      (overrides.get? key).or (((rows.filter (fun row => py.lower row.columnName.strip = key)).head?).map
        (fun row => row.fieldType))
  | [], overrides => by simp
  | row :: rows, overrides => by
    rw [List.foldl_cons, setDefault_foldl_get? rows]
    unfold setDefault
    by_cases hkey : py.lower row.columnName.strip = key
    · rw [List.filter_cons_of_pos (by simpa using hkey), hkey]
      cases hget : overrides.get? key with
      | none =>
        dsimp only
        rw [Dict.get?_set, if_pos rfl]
        rfl
      | some fieldType =>
        dsimp only
        rw [hget]
        rfl
    · rw [List.filter_cons_of_neg (by simpa using hkey)]
      cases hget : overrides.get? (py.lower row.columnName.strip) with
      | none =>
        dsimp only
        rw [Dict.get?_set, if_neg hkey]
      | some fieldType => rfl

/-- What the loader reads a mapping under. -/
def mappingKey (py : Python) (row : StandardizationColumnMapping) : Option DataSourceId × Str :=
  (row.dataSourceId, py.lower row.columnName.strip)

def entryKey (py : Python) (row : StandardizationLookupEntry) : Option FieldType × Str :=
  (row.fieldType, py.lower row.lookupKey.strip)

section
variable {κ ρ : Type} [DecidableEq κ]

/-- An active row of an organization under a key of the loader. -/
def keyed (naming : Naming ρ OrganizationId κ) (key : ρ → κ) (organizationId : OrganizationId) (k : κ) (row : ρ) : Bool :=
  naming.active row = true ∧ naming.owner row = organizationId ∧ key row = k

/-- The rows under a key go by one name in the database. -/
def OneName (naming : Naming ρ OrganizationId κ) (key : ρ → κ) (rows : Dict Nat ρ)
    (organizationId : OrganizationId) (k : κ) :
    Prop :=
  ∀ row ∈ rows.values, ∀ row' ∈ rows.values, keyed naming key organizationId k row = true →
    keyed naming key organizationId k row' = true → naming.name row = naming.name row'

/-- **A key of one name is one row's**, among whatever a query returns. -/
theorem OneName.filter_eq {naming : Naming ρ OrganizationId κ} {key : ρ → κ} {rows : Dict Nat ρ}
    {organizationId : OrganizationId} {k : κ} (h : OneName naming key rows organizationId k)
    (hrows : Unambiguous naming rows) {found : List ρ} (hfound : found.Perm rows.values) {row : ρ} (hrow : row ∈ found)
    (hkeyed : keyed naming key organizationId k row = true) :
    found.filter (keyed naming key organizationId k) = [row] := by
  refine hrows.filter_of_perm hfound (fun r hr r' hr' hp hp' => ?_) hrow hkeyed
  have hname := h r hr r' hr' hp hp'
  obtain ⟨hactive, howner, -⟩ := of_decide_eq_true hp
  obtain ⟨hactive', howner', -⟩ := of_decide_eq_true hp'
  exact ⟨hactive, hactive', howner.trans howner'.symm, hname⟩

theorem OneName.of_eq {naming : Naming ρ OrganizationId κ} {key : ρ → κ} {rows : Dict Nat ρ}
    (h : ∀ row ∈ rows.values, naming.name row = key row) (organizationId : OrganizationId) (k : κ) :
    OneName naming key rows organizationId k := by
  intro row hrow row' hrow' hkeyed hkeyed'
  obtain ⟨-, -, hkey⟩ := of_decide_eq_true hkeyed
  obtain ⟨-, -, hkey'⟩ := of_decide_eq_true hkeyed'
  rw [h row hrow, h row' hrow', hkey, hkey']

end

/-- Column names that PostgreSQL and Python lower-case alike. -/
theorem Configured.mappings_oneName {db : Tables} (hdb : Configured py db)
    (h : ∀ row ∈ db.mappings.values, py.Alike row.columnName) (organizationId : OrganizationId)
    (k : Option DataSourceId × Str) :
    OneName (mappingNaming py) (mappingKey py.toPython) db.mappings organizationId k := by
  refine .of_eq (fun row hrow => ?_) organizationId k
  have hname := hdb.columnNames row hrow
  simp only [mappingNaming, mappingKey, DataSources.sqlTrim_of_strip hname, hname]
  rw [h row hrow]

theorem Configured.entries_oneName {db : Tables} (hdb : Configured py db)
    (h : ∀ row ∈ db.entries.values, py.Alike row.lookupKey) (organizationId : OrganizationId)
    (k : Option FieldType × Str) :
    OneName (entryNaming py) (entryKey py.toPython) db.entries organizationId k := by
  refine .of_eq (fun row hrow => ?_) organizationId k
  have hkey := hdb.lookupKeys row hrow
  simp only [entryNaming, entryKey, DataSources.sqlTrim_of_strip hkey, hkey]
  rw [h row hrow]

/-- The mappings of an organization with one scope and one key, among the rows a query returns. -/
theorem filter_mappings (rows : List StandardizationColumnMapping) (organizationId : OrganizationId)
    (scope : Option DataSourceId) (key : Str) :
    ((rows.filter (fun row => row.organizationId = organizationId ∧ row.isActive = true)).filter
        (fun row => row.dataSourceId = scope)).filter (fun row => py.lower row.columnName.strip = key) =
      rows.filter (keyed (mappingNaming py) (mappingKey py.toPython) organizationId (scope, key)) := by
  rw [List.filter_filter, List.filter_filter]
  refine List.filter_congr (fun row _ => ?_)
  rw [Bool.eq_iff_iff]
  simp only [keyed, mappingNaming, mappingKey, Prod.mk.injEq, Bool.and_eq_true, decide_eq_true_eq]
  tauto

/-- A mapping that says so. -/
def Maps (py : Python) (db : Tables) (organizationId : OrganizationId) (scope : Option DataSourceId) (key : Str)
    (fieldType : FieldType) : Prop :=
  ∃ row ∈ db.mappings.values, row.isActive = true ∧ row.organizationId = organizationId ∧ row.dataSourceId = scope ∧
    py.lower row.columnName = key ∧ row.fieldType = fieldType

/-- **The mapping found for a scope and key.** -/
theorem filter_mappings_eq {db : Tables} (hdb : Configured py db) {rows : List StandardizationColumnMapping}
    (hrows : rows.Perm db.mappings.values) {organizationId : OrganizationId} {scope : Option DataSourceId} {key : Str}
    (hname : OneName (mappingNaming py) (mappingKey py.toPython) db.mappings organizationId (scope, key)) :
    (∀ fieldType, Maps py.toPython db organizationId scope key fieldType → ∃ row, row.fieldType = fieldType ∧
      rows.filter (keyed (mappingNaming py) (mappingKey py.toPython) organizationId (scope, key)) = [row]) ∧
    ((∀ fieldType, ¬ Maps py.toPython db organizationId scope key fieldType) →
      rows.filter (keyed (mappingNaming py) (mappingKey py.toPython) organizationId (scope, key)) = []) := by
  constructor
  · rintro fieldType ⟨row, hrow, hactive, howner, hscope, hkey, rfl⟩
    refine ⟨row, rfl, hname.filter_eq hdb.mappings hrows (hrows.mem_iff.2 hrow) (decide_eq_true ⟨hactive, howner, ?_⟩)⟩
    exact Prod.ext hscope ((congrArg py.lower (hdb.columnNames row hrow)).trans hkey)
  · intro hnone
    refine List.filter_eq_nil_iff.2 (fun row hrow hkeyed => ?_)
    obtain ⟨hactive, howner, hkey⟩ := of_decide_eq_true hkeyed
    have hrow := hrows.mem_iff.1 hrow
    obtain ⟨hscope, hkey⟩ := Prod.mk.inj hkey
    rw [hdb.columnNames row hrow] at hkey
    exact hnone row.fieldType ⟨row, hrow, hactive, howner, hscope, hkey, rfl⟩

theorem loadColumnOverrides_get? (rows : List StandardizationColumnMapping) (organizationId : OrganizationId)
    (dataSourceId : DataSourceId) (key : Str) :
    (loadColumnOverrides py.toPython rows organizationId dataSourceId).get? key =
      ((rows.filter (keyed (mappingNaming py) (mappingKey py.toPython) organizationId
        (some dataSourceId, key))).getLast?.map (fun row => row.fieldType)).or
      ((rows.filter (keyed (mappingNaming py) (mappingKey py.toPython) organizationId (none, key))).head?.map
        (fun row => row.fieldType)) := by
  unfold loadColumnOverrides
  rw [setOverride_foldl_get?, setDefault_foldl_get?, filter_mappings, filter_mappings]
  have hget : (Dict.get? [] key : Option FieldType) = none := rfl
  rw [hget, Option.none_or]

/-- The lookups of a field type, or those for all. -/
def LookupTables.under (tables : LookupTables) : Option FieldType → Dict Str Str
  | none           => tables.globalLookup
  | some fieldType => tables.forFieldType fieldType

theorem setLookup_get? (tables : LookupTables) (row : StandardizationLookupEntry) (scope : Option FieldType) (key : Str) :
    ((setLookup py.toPython tables row).under scope).get? key =
      if row.fieldType = scope ∧ py.lower row.lookupKey.strip = key then some row.lookupValue
      else (tables.under scope).get? key := by
  unfold setLookup
  cases hrow : row.fieldType with
  | none =>
    cases scope with
    | none => simp [LookupTables.under, Dict.get?_set]
    | some fieldType => simp [LookupTables.under, LookupTables.forFieldType]
  | some own =>
    cases scope with
    | none => simp [LookupTables.under]
    | some fieldType =>
      by_cases heq : own = fieldType
      · subst heq
        simp [LookupTables.under, LookupTables.forFieldType, Dict.get?_set]
      · simp [LookupTables.under, LookupTables.forFieldType, Dict.get?_set, heq]

/-- The last entry of a scope and key counts. -/
theorem setLookup_foldl_get? {scope : Option FieldType} {key : Str} :
    ∀ (rows : List StandardizationLookupEntry) (tables : LookupTables),
      ((rows.foldl (setLookup py.toPython) tables).under scope).get? key =
        ((rows.filter (fun row => row.fieldType = scope ∧ py.lower row.lookupKey.strip = key)).getLast?.map
          (fun row => row.lookupValue)).or ((tables.under scope).get? key)
  | [], tables => by simp
  | row :: rows, tables => by
    rw [List.foldl_cons, setLookup_foldl_get? rows, setLookup_get?]
    by_cases hrow : row.fieldType = scope ∧ py.lower row.lookupKey.strip = key
    · rw [if_pos hrow, List.filter_cons_of_pos (by simpa using hrow), List.getLast?_cons]
      cases (rows.filter (fun row => row.fieldType = scope ∧ py.lower row.lookupKey.strip = key)).getLast? <;> rfl
    · rw [if_neg hrow, List.filter_cons_of_neg (by simpa using hrow)]

/-- An entry that says so. -/
def LooksUp (py : Python) (db : Tables) (organizationId : OrganizationId) (scope : Option FieldType) (key value : Str) :
    Prop :=
  ∃ row ∈ db.entries.values, row.isActive = true ∧ row.organizationId = organizationId ∧ row.fieldType = scope ∧
    py.lower row.lookupKey = key ∧ row.lookupValue = value

theorem filter_entries (rows : List StandardizationLookupEntry) (organizationId : OrganizationId)
    (scope : Option FieldType) (key : Str) :
    (rows.filter (fun row => row.organizationId = organizationId ∧ row.isActive = true)).filter
        (fun row => row.fieldType = scope ∧ py.lower row.lookupKey.strip = key) =
      rows.filter (keyed (entryNaming py) (entryKey py.toPython) organizationId (scope, key)) := by
  rw [List.filter_filter]
  refine List.filter_congr (fun row _ => ?_)
  rw [Bool.eq_iff_iff]
  simp only [keyed, entryNaming, entryKey, Prod.mk.injEq, Bool.and_eq_true, decide_eq_true_eq]
  tauto

/-- **A lookup finds what the one active entry of its scope and key says**, in whatever order the rows come. -/
theorem loadLookupTables_get? {db : Tables} (hdb : Configured py db) {rows : List StandardizationLookupEntry}
    (hrows : rows.Perm db.entries.values) {scope : Option FieldType} {organizationId : OrganizationId} {key : Str}
    (hname : OneName (entryNaming py) (entryKey py.toPython) db.entries organizationId (scope, key)) (value : Str) :
    ((loadLookupTables py.toPython rows organizationId).under scope).get? key = some value ↔
      LooksUp py.toPython db organizationId scope key value := by
  have hnone : ((⟨[], []⟩ : LookupTables).under scope).get? key = none := by cases scope <;> rfl
  unfold loadLookupTables
  rw [setLookup_foldl_get?, filter_entries, hnone, Option.or_none, Option.map_eq_some_iff]
  constructor
  · rintro ⟨row, hlast, rfl⟩
    obtain ⟨hrow, hkeyed⟩ := List.mem_filter.1 (List.mem_of_getLast? hlast)
    obtain ⟨hactive, howner, hkey⟩ := of_decide_eq_true hkeyed
    have hrow := hrows.mem_iff.1 hrow
    obtain ⟨hscope, hkey⟩ := Prod.mk.inj hkey
    rw [hdb.lookupKeys row hrow] at hkey
    exact ⟨row, hrow, hactive, howner, hscope, hkey, rfl⟩
  · rintro ⟨row, hrow, hactive, howner, hscope, hkey, rfl⟩
    refine ⟨row, ?_, rfl⟩
    rw [hname.filter_eq hdb.entries hrows (hrows.mem_iff.2 hrow) (decide_eq_true ⟨hactive, howner, ?_⟩)]
    · rfl
    · exact Prod.ext hscope ((congrArg py.lower (hdb.lookupKeys row hrow)).trans hkey)

/-- **A column has the one mapping of its data source, or else the one of its organization, and is otherwise classified
by its header**: in whatever order the rows come, and however they were created and deleted. -/
theorem loaded_mappings_exact (py : Backend) (schedule : Schedule.Tables) (ls : List (Tickets.Label Request))
    (rows : List StandardizationColumnMapping)
    (hrows : rows.Perm (exec (step (endpoints py)) (State.initial ⟨schedule, [], []⟩) ls).store.mappings.values)
    (organizationId : OrganizationId) (dataSourceId : DataSourceId) (header : Str)
    (hname : ∀ scope, OneName (mappingNaming py) (mappingKey py.toPython)
      (exec (step (endpoints py)) (State.initial ⟨schedule, [], []⟩) ls).store.mappings organizationId
      (scope, py.lower header.strip)) :
    let db := (exec (step (endpoints py)) (State.initial ⟨schedule, [], []⟩) ls).store
    let loaded := classifyColumn py.toPython header (loadColumnOverrides py.toPython rows organizationId dataSourceId)
    let key := py.lower header.strip
    (∀ fieldType, Maps py.toPython db organizationId (some dataSourceId) key fieldType → loaded = some fieldType) ∧
    ((∀ fieldType, ¬ Maps py.toPython db organizationId (some dataSourceId) key fieldType) →
      (∀ fieldType, Maps py.toPython db organizationId none key fieldType → loaded = some fieldType) ∧
      ((∀ fieldType, ¬ Maps py.toPython db organizationId none key fieldType) →
        loaded = classifyColumn py.toPython header [])) := by
  intro db loaded key
  have hdb : Configured py db := configured_exec schedule ls
  have hget := @loadColumnOverrides_get? py rows organizationId dataSourceId key
  have hloaded : ∀ found, (loadColumnOverrides py.toPython rows organizationId dataSourceId).get? key = found →
      loaded = found.or (classifyColumn py.toPython header []) := by
    intro found hfound
    show classifyColumn py.toPython header _ = _
    unfold classifyColumn
    rw [show (loadColumnOverrides py.toPython rows organizationId dataSourceId).get? (py.lower header.strip) = found from
      hfound]
    cases found <;> rfl
  obtain ⟨hown, hnoOwn⟩ := filter_mappings_eq hdb hrows (hname (some dataSourceId))
  obtain ⟨horg, hnoOrg⟩ := filter_mappings_eq hdb hrows (hname none)
  refine ⟨fun fieldType hmaps => ?_, fun hnone => ⟨fun fieldType hmaps => ?_, fun hnone' => ?_⟩⟩
  · obtain ⟨row, rfl, hrow⟩ := hown fieldType hmaps
    rw [hrow] at hget
    exact hloaded _ hget
  · obtain ⟨row, rfl, hrow⟩ := horg fieldType hmaps
    rw [hnoOwn hnone, hrow] at hget
    exact hloaded _ hget
  · rw [hnoOwn hnone, hnoOrg hnone'] at hget
    exact hloaded _ hget

/-- **A lookup finds exactly what an active entry of its scope says**: in whatever order the rows come, and however they
were created and deleted. -/
theorem loaded_lookups_exact (py : Backend) (schedule : Schedule.Tables) (ls : List (Tickets.Label Request))
    (rows : List StandardizationLookupEntry)
    (hrows : rows.Perm (exec (step (endpoints py)) (State.initial ⟨schedule, [], []⟩) ls).store.entries.values)
    (organizationId : OrganizationId) (key value : Str)
    (hname : ∀ scope, OneName (entryNaming py) (entryKey py.toPython)
      (exec (step (endpoints py)) (State.initial ⟨schedule, [], []⟩) ls).store.entries organizationId (scope, key)) :
    ((loadLookupTables py.toPython rows organizationId).globalLookup.get? key = some value ↔
      LooksUp py.toPython (exec (step (endpoints py)) (State.initial ⟨schedule, [], []⟩) ls).store organizationId none key
        value) ∧
    ∀ fieldType, (((loadLookupTables py.toPython rows organizationId).forFieldType fieldType).get? key = some value ↔
      LooksUp py.toPython (exec (step (endpoints py)) (State.initial ⟨schedule, [], []⟩) ls).store organizationId
        (some fieldType) key value) :=
  ⟨loadLookupTables_get? (configured_exec schedule ls) hrows (hname none) value,
    fun fieldType => loadLookupTables_get? (configured_exec schedule ls) hrows (hname (some fieldType)) value⟩

end

/-! ## A column and a key with two rows each -/

def cleo : User := ⟨1, 1, "cleo@acme.test", none, false⟩

/-- Data source 5. -/
def oneSource : Schedule.Tables := ⟨[(5, ⟨1, true⟩)], [], []⟩

/-- A column is mapped for the organization and, otherwise, for its data source; a key is looked up for all columns and,
otherwise, for addresses. -/
def revenueLabels : List (Tickets.Label Request) :=
  [.read (.createMapping ⟨none, " Revenue".toList, .numeric⟩ cleo 1), .commit 0,
    .read (.createMapping ⟨some 5, "revenue".toList, .currency⟩ cleo 2), .commit 0,
    .read (.createEntry ⟨none, "St".toList, "Saint".toList⟩ cleo 1), .commit 0,
    .read (.createEntry ⟨some .postalAddress, "st ".toList, "Street".toList⟩ cleo 2), .commit 0]

theorem loaded_mappings_exact_revenue :
    classifyColumn asciiPython " REVENUE".toList (loadColumnOverrides asciiPython
      [⟨1, some 5, "revenue".toList, .currency, true⟩, ⟨1, none, "Revenue".toList, .numeric, true⟩] 1 5) =
        some .currency :=
  (loaded_mappings_exact asciiBackend oneSource revenueLabels
    [⟨1, some 5, "revenue".toList, .currency, true⟩, ⟨1, none, "Revenue".toList, .numeric, true⟩]
      (List.Perm.swap _ _ []) 1 5
    " REVENUE".toList
    (fun _ => (@configured_exec asciiBackend oneSource revenueLabels).mappings_oneName (fun _ _ => rfl) 1 _)).1 .currency
    ⟨⟨1, some 5, "revenue".toList, .currency, true⟩, by decide, rfl, rfl, rfl, rfl, rfl⟩

theorem loaded_lookups_exact_st :
    (loadLookupTables asciiPython [⟨1, some .postalAddress, "st".toList, "Street".toList, true⟩,
      ⟨1, none, "St".toList, "Saint".toList, true⟩] 1).globalLookup.get? "st".toList = some "Saint".toList :=
  (loaded_lookups_exact asciiBackend oneSource revenueLabels [⟨1, some .postalAddress, "st".toList, "Street".toList, true⟩,
    ⟨1, none, "St".toList, "Saint".toList, true⟩] (List.Perm.swap _ _ []) 1 "st".toList "Saint".toList
    (fun _ => (@configured_exec asciiBackend oneSource revenueLabels).entries_oneName (fun _ _ => rfl) 1 _)).1.2
    ⟨⟨1, none, "St".toList, "Saint".toList, true⟩, by decide, rfl, rfl, rfl, rfl, rfl⟩

/-- A column in capitals, and the same with a final sigma. -/
def greekLabels : List (Tickets.Label Request) :=
  [.read (.createMapping ⟨none, ['Α', 'Σ'], .numeric⟩ cleo 1), .commit 0,
    .read (.createMapping ⟨none, ['α', 'ς'], .currency⟩ cleo 2), .commit 0]

-- the index takes both, and the loader the one that comes first
example :
    let mappings :=
      (exec (step (endpoints greekBackend)) (State.initial ⟨oneSource, [], []⟩) greekLabels).store.mappings.values
    classifyColumn greekBackend.toPython ['Α', 'Σ'] (loadColumnOverrides greekBackend.toPython mappings 1 5) ≠
      classifyColumn greekBackend.toPython ['Α', 'Σ']
        (loadColumnOverrides greekBackend.toPython mappings.reverse 1 5) := by
  decide

end Standardization
end DataOps

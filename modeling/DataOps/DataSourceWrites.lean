import DataOps.DataSources
import DataOps.LibTextTrim
/-!
# DataSourceWrites — what requests on data sources plan, and what their commits leave

Part of a plan stays true whatever commits before it (`Sound`): rows never go away or change hands.  The rest is what its
check saw (`Write.Free`), until another write takes it.
-/
namespace DataOps
namespace DataSources

open Accounts (validateName)
open Api (HTTPException OrganizationId User activeOr404_eq_ok scalarOneOrNone)
open Registry (Naming Unambiguous holders)
open Schedule (DataSourceId bind_eq_ok setColumn sqlTrim)
open Secrets (validateConnectionMetadata)

section
variable {σ : Type} {py : Backend} {enc : Encryption σ} {settings : Settings}
  {sameMetadata : Members σ → Members σ → Bool}

/-- A name without blanks around it, and metadata without secrets. -/
structure DataSource.WellFormed (py : Backend) (row : DataSource σ) : Prop where
  name     : row.name.strip = row.name ∧ row.name ≠ []
  metadata : validateConnectionMetadata py.toPython row.connectionMetadata = .ok row.connectionMetadata

/-- A data source has one row of credentials. -/
def credentialNaming (Token : Type) : Naming (DataSourceCredential Token) OrganizationId DataSourceId where
  owner := DataSourceCredential.organizationId
  name := DataSourceCredential.dataSourceId
  active := fun _ => true

/-- What the constraints and the checks keep. -/
structure Consistent {Token : Type} (py : Backend) (db : Tables σ Token) : Prop where
  names       : Unambiguous (naming py) db.dataSources
  rows        : ∀ e ∈ db.dataSources, e.2.WellFormed py
  credentials : Unambiguous (credentialNaming Token) db.credentials
  owned       : ∀ e ∈ db.credentials, ∃ source, db.dataSources.get? e.2.dataSourceId = some source ∧
    source.organizationId = e.2.organizationId

/-! ## What the checks leave -/

theorem validateName_ok {blank : String} {v name : Str} (h : validateName blank v = .ok name) :
    name.strip = name ∧ name ≠ [] := by
  unfold validateName at h
  dsimp only at h
  split at h
  · cases h
  · obtain ⟨-, -, h⟩ := bind_eq_ok h
    split at h
    · cases h
    · rename_i hne
      cases h
      exact ⟨Str.strip_strip v, hne⟩

theorem noSecrets_ok {v v' : Members σ} (h : noSecrets py v = .ok v') :
    validateConnectionMetadata py.toPython v' = .ok v' := by
  unfold noSecrets at h
  cases hv : validateConnectionMetadata py.toPython v with
  | error message =>
    rw [hv] at h
    cases h
  | ok found =>
    rw [hv] at h
    cases h
    have hsame : v' = v := by
      unfold validateConnectionMetadata at hv
      split at hv
      · exact (Except.ok.inj hv).symm
      · split at hv
        · cases hv
        · exact (Except.ok.inj hv).symm
    rw [← hsame] at hv
    exact hv

theorem whenGiven_ok {α : Type} {validate : α → Except HTTPException α} {P : α → Prop}
    (hP : ∀ v v', validate v = .ok v' → P v') {given found : Option α} (h : whenGiven validate given = .ok found) {v : α}
    (hv : found = some v) : P v := by
  cases given with
  | none =>
    cases h
    cases hv
  | some raw =>
    simp only [whenGiven] at h
    cases hraw : validate raw with
    | error e =>
      rw [hraw] at h
      cases h
    | ok found' =>
      rw [hraw] at h
      cases h
      exact Option.some.inj hv ▸ hP raw found' hraw

theorem getActiveOr404_ok {Token : Type} {db : Tables σ Token} {dataSourceId : DataSourceId} {orgId : OrganizationId}
    {row : DataSource σ} (h : getActiveOr404 db dataSourceId orgId = .ok row) :
    db.dataSources.get? dataSourceId = some row ∧ row.organizationId = orgId ∧ row.isActive = true :=
  activeOr404_eq_ok.1 h

/-- A stripped name is what the database trims it to. -/
theorem sqlTrim_of_strip {name : Str} (h : name.strip = name) : sqlTrim name = name := by
  obtain ⟨hhead, hlast⟩ := Str.strip_eq_self_iff.1 h
  have hspace : ∀ c : Char, Str.isSpace c = false → decide (c = ' ') = false := by
    rintro c hc
    refine decide_eq_false (fun heq => ?_)
    rw [heq] at hc
    exact absurd hc (by decide)
  unfold sqlTrim
  have hdrop : name.dropWhile (fun c => decide (c = ' ')) = name := by
    cases name with
    | nil => rfl
    | cons c cs => exact List.dropWhile_cons_of_neg (by simpa using hspace c (hhead c rfl))
  rw [hdrop, List.rdropWhile_eq_self_iff]
  intro hne hlastSpace
  rw [hspace _ (hlast _ (List.getLast?_eq_getLast_of_ne_nil hne))] at hlastSpace
  cases hlastSpace

/-! ## What a commit leaves -/

theorem clashes_eq_false_iff {id : DataSourceId} {row : DataSource σ} {rows : Dict DataSourceId (DataSource σ)} :
    row.clashes py id rows = false ↔ ((naming py).active row = true →
      holders (naming py) rows ((naming py).owner row) ((naming py).name row) (some id) = []) := by
  unfold DataSource.clashes
  rw [Bool.and_eq_false_iff, Bool.not_eq_false', List.isEmpty_iff, imp_iff_not_or, Bool.not_eq_true]
  rfl

/-- **Everything an accepted commit can do.** -/
theorem Write.apply_cases {db db' : Tables σ enc.Token} {w : Write σ enc.Token}
    (h : w.apply py sameMetadata db = some db') :
    (∃ id row, w = .insert id row ∧ db.dataSources.get? id = none ∧ row.clashes py id db.dataSources = false ∧
      db' = { db with dataSources := db.dataSources.set id row }) ∨
    (∃ id loaded edited current, w = .update id loaded edited ∧ db.dataSources.get? id = some current ∧
      (current.updated sameMetadata loaded edited).clashes py id db.dataSources = false ∧
      db' = { db with dataSources := db.dataSources.set id (current.updated sameMetadata loaded edited) }) ∨
    (∃ id row source, w = .insertCredential id row ∧ db.credentials.get? id = none ∧
      row.dataSourceId ∉ db.credentials.values.map DataSourceCredential.dataSourceId ∧
      db.dataSources.get? row.dataSourceId = some source ∧ source.organizationId = row.organizationId ∧
      db' = { db with credentials := db.credentials.set id row }) ∨
    (∃ id payload version row, w = .updateCredential id payload version ∧ db.credentials.get? id = some row ∧
      db' = { db with
        credentials := db.credentials.set id { row with encryptedPayload := payload, keyVersion := version } }) := by
  cases w with
  | insert id row =>
    simp only [Write.apply] at h
    split at h
    · rename_i hok
      exact .inl ⟨id, row, rfl, hok.1, hok.2, (Option.some.inj h).symm⟩
    · cases h
  | update id loaded edited =>
    simp only [Write.apply] at h
    split at h
    · cases h
    · rename_i current hcurrent
      split at h
      · rename_i hok
        exact .inr (.inl ⟨id, loaded, edited, current, rfl, hcurrent, hok, (Option.some.inj h).symm⟩)
      · cases h
  | insertCredential id row =>
    simp only [Write.apply] at h
    split at h
    · rename_i hok
      obtain ⟨hfresh, hone, howned⟩ := hok
      obtain ⟨source, hsource, horg⟩ := (Option.any_eq_true _ _).1 howned
      exact .inr (.inr (.inl ⟨id, row, source, rfl, hfresh, hone, hsource, by simpa using horg, (Option.some.inj h).symm⟩))
    · cases h
  | updateCredential id payload version =>
    simp only [Write.apply] at h
    split at h
    · cases h
    · rename_i row hrow
      exact .inr (.inr (.inr ⟨id, payload, version, row, rfl, hrow, (Option.some.inj h).symm⟩))

/-- The columns an edit may change. -/
structure Edits (loaded edited : DataSource σ) : Prop where
  organizationId : edited.organizationId = loaded.organizationId
  isActive       : edited.isActive = loaded.isActive ∨ edited.isActive = false

theorem updated_isActive {current loaded edited : DataSource σ} (h : Edits loaded edited)
    (hactive : (current.updated sameMetadata loaded edited).isActive = true) : current.isActive = true := by
  simp only [DataSource.updated, setColumn] at hactive
  split at hactive
  · exact hactive
  · rename_i hne
    rcases h.isActive with heq | hfalse
    · exact absurd heq hne
    · rw [hfalse] at hactive
      cases hactive

/-- A row keeps its name, or goes by the one it was edited to. -/
theorem updated_name {current loaded edited : DataSource σ} (h : Edits loaded edited) :
    (edited.name = loaded.name ∧ (current.updated sameMetadata loaded edited).name = current.name ∧
      (naming py).Keeps current (current.updated sameMetadata loaded edited)) ∨
    (edited.name ≠ loaded.name ∧ (current.updated sameMetadata loaded edited).name = edited.name) := by
  by_cases hname : edited.name = loaded.name
  · have hnew : (current.updated sameMetadata loaded edited).name = current.name := by
      simp only [DataSource.updated, setColumn, if_pos hname]
    exact .inl ⟨hname, hnew, rfl, congrArg (fun name => py.sqlLower (sqlTrim name)) hnew,
      fun (hactive : (current.updated sameMetadata loaded edited).isActive = true) => updated_isActive h hactive⟩
  · exact .inr ⟨hname, by simp only [DataSource.updated, setColumn, if_neg hname]⟩

theorem updated_wellFormed {current loaded edited : DataSource σ} (hcurrent : current.WellFormed py)
    (hedited : edited.WellFormed py) : (current.updated sameMetadata loaded edited).WellFormed py := by
  refine ⟨?_, ?_⟩
  · simp only [DataSource.updated, setColumn]
    split
    · exact hcurrent.name
    · exact hedited.name
  · simp only [DataSource.updated]
    split
    · exact hcurrent.metadata
    · exact hedited.metadata

/-! ## What a request plans -/

/-- The name a write takes, and of which organization. -/
def Write.takes {Token : Type} (py : Backend) : Write σ Token → Option (OrganizationId × Str)
  | .insert _ row           => some (row.organizationId, py.sqlLower (sqlTrim row.name))
  | .update _ loaded edited =>
    if edited.name = loaded.name then none else some (loaded.organizationId, py.sqlLower (sqlTrim edited.name))
  | _ => none

/-- The name a write gives. -/
def Write.names {Token : Type} : Write σ Token → Option Str
  | .insert _ row           => some row.name
  | .update _ loaded edited => if edited.name = loaded.name then none else some edited.name
  | _                       => none

/-- The data source whose first credentials a write adds. -/
def Write.adds {Token : Type} : Write σ Token → Option DataSourceId
  | .insertCredential _ row => some row.dataSourceId
  | _                       => none

/-- The data source a write is about, if it exists already. -/
def Write.target {Token : Type} : Write σ Token → Option DataSourceId
  | .update id _ _ => some id
  | _              => none

/-- The data source a request sets the credentials of. -/
def Request.sets {Nonce : Type} : Request σ Nonce → Option DataSourceId
  | .setCredentials dataSourceId _ _ _ _ => some dataSourceId
  | _                                    => none

/-- What stays true of a planned write, whatever commits before it. -/
def Sound {Token Nonce : Type} (py : Backend) (db : Tables σ Token) (r : Request σ Nonce) : Write σ Token → Prop
  | .insert _ row             => row.WellFormed py ∧ row.isActive = true
  | .update id loaded edited  => edited.WellFormed py ∧ Edits loaded edited ∧
    ∃ current, db.dataSources.get? id = some current ∧ current.organizationId = loaded.organizationId
  | .insertCredential _ row   => r.sets = some row.dataSourceId ∧
    ∃ source, db.dataSources.get? row.dataSourceId = some source ∧ source.organizationId = row.organizationId
  | .updateCredential id _ _  => ∃ row, db.credentials.get? id = some row ∧ r.sets = some row.dataSourceId

/-- What a check saw, until another write takes it. -/
structure Write.Free {Token : Type} (py : Backend) (db : Tables σ Token) (w : Write σ Token) : Prop where
  -- the check is for the name as Python lower-cases it
  name       : (∀ name, w.names = some name → py.Alike name) → ∀ n, w.takes py = some n →
    holders (naming py) db.dataSources n.1 n.2 w.target = []
  credential : ∀ dataSourceId, w.adds = some dataSourceId →
    dataSourceId ∉ db.credentials.values.map DataSourceCredential.dataSourceId

/-! ## Steps -/

/-- A write to a dictionary keeps the row of every key, but for what it changes of its own. -/
theorem exists_get?_set {κ ρ γ : Type} [DecidableEq κ] {rows : Dict κ ρ} {id id' : κ} {row new : ρ} {g : ρ → γ}
    (hrow : rows.get? id = some row) (hkeeps : ∀ current, rows.get? id' = some current → g new = g current) :
    ∃ row', (rows.set id' new).get? id = some row' ∧ g row' = g row := by
  by_cases heq : id' = id
  · subst heq
    exact ⟨new, (Dict.get?_set _ _ _ _).trans (if_pos rfl), hkeeps row hrow⟩
  · exact ⟨row, (Dict.get?_set _ _ _ _).trans ((if_neg heq).trans hrow), rfl⟩

/-- No data source goes away or changes hands. -/
theorem Write.apply_source {db db' : Tables σ enc.Token} {w : Write σ enc.Token}
    (h : w.apply py sameMetadata db = some db') {id : DataSourceId} {row : DataSource σ}
    (hrow : db.dataSources.get? id = some row) :
    ∃ row', db'.dataSources.get? id = some row' ∧ row'.organizationId = row.organizationId := by
  rcases w.apply_cases h with ⟨id', row', rfl, hnone, -, rfl⟩ | ⟨id', loaded, edited, current, rfl, hcurrent, -, rfl⟩ |
    ⟨_, _, _, rfl, -, -, -, -, rfl⟩ | ⟨_, _, _, _, rfl, -, rfl⟩
  · exact exists_get?_set hrow (fun current hcurrent => by rw [hnone] at hcurrent; cases hcurrent)
  · exact exists_get?_set hrow (fun current' hcurrent' => by cases hcurrent.symm.trans hcurrent'; rfl)
  · exact ⟨row, hrow, rfl⟩
  · exact ⟨row, hrow, rfl⟩

/-- No row of credentials goes away or changes hands. -/
theorem Write.apply_credential {db db' : Tables σ enc.Token} {w : Write σ enc.Token}
    (h : w.apply py sameMetadata db = some db') {id : CredentialId} {row : DataSourceCredential enc.Token}
    (hrow : db.credentials.get? id = some row) :
    ∃ row', db'.credentials.get? id = some row' ∧ row'.dataSourceId = row.dataSourceId := by
  rcases w.apply_cases h with ⟨_, _, rfl, -, -, rfl⟩ | ⟨_, _, _, _, rfl, -, -, rfl⟩ |
    ⟨id', row', _, rfl, hnone, -, -, -, rfl⟩ | ⟨id', _, _, current, rfl, hcurrent, rfl⟩
  · exact ⟨row, hrow, rfl⟩
  · exact ⟨row, hrow, rfl⟩
  · exact exists_get?_set hrow (fun current hcurrent => by rw [hnone] at hcurrent; cases hcurrent)
  · exact exists_get?_set hrow (fun current' hcurrent' => by cases hcurrent.symm.trans hcurrent'; rfl)

/-- **What is sound stays sound.** -/
theorem Sound.apply {db db' : Tables σ enc.Token} {r : Request σ enc.Nonce} {w w' : Write σ enc.Token}
    (hw : Sound py db r w) (h : w'.apply py sameMetadata db = some db') : Sound py db' r w := by
  cases w with
  | insert id row => exact hw
  | update id loaded edited =>
    obtain ⟨hedited, hedits, current, hcurrent, horg⟩ := hw
    obtain ⟨row', hrow', horg'⟩ := w'.apply_source h hcurrent
    exact ⟨hedited, hedits, row', hrow', horg'.trans horg⟩
  | insertCredential id row =>
    obtain ⟨hsets, source, hsource, horg⟩ := hw
    obtain ⟨row', hrow', horg'⟩ := w'.apply_source h hsource
    exact ⟨hsets, row', hrow', horg'.trans horg⟩
  | updateCredential id payload version =>
    obtain ⟨row, hrow, hsets⟩ := hw
    obtain ⟨row', hrow', hsame⟩ := w'.apply_credential h hrow
    exact ⟨row', hrow', hsame ▸ hsets⟩

/-- Whose credentials are unique by their data source are unique. -/
theorem holders_credential_nil {rows : Dict CredentialId (DataSourceCredential enc.Token)}
    {row : DataSourceCredential enc.Token}
    (h : row.dataSourceId ∉ rows.values.map DataSourceCredential.dataSourceId) (orgId : OrganizationId)
    (exclude : Option CredentialId) : holders (credentialNaming enc.Token) rows orgId row.dataSourceId exclude = [] := by
  refine Registry.holders_eq_nil_iff.2 (fun e he _ hname _ => absurd ?_ h)
  exact List.mem_map.2 ⟨e.2, List.mem_map_of_mem he, hname⟩

/-- **A commit keeps the tables consistent.** -/
theorem Consistent.apply {db db' : Tables σ enc.Token} (hdb : Consistent py db) {r : Request σ enc.Nonce}
    {w : Write σ enc.Token} (hw : Sound py db r w) (h : w.apply py sameMetadata db = some db') : Consistent py db' := by
  have howned : ∀ (row : DataSourceCredential enc.Token), (∃ source, db.dataSources.get? row.dataSourceId = some source ∧
      source.organizationId = row.organizationId) → ∃ source, db'.dataSources.get? row.dataSourceId = some source ∧
        source.organizationId = row.organizationId := by
    rintro row ⟨source, hsource, horg⟩
    obtain ⟨row', hrow', horg'⟩ := w.apply_source h hsource
    exact ⟨row', hrow', horg'.trans horg⟩
  rcases w.apply_cases h with ⟨id, row, rfl, -, hfree, rfl⟩ | ⟨id, loaded, edited, current, rfl, hcurrent, hfree, rfl⟩ |
    ⟨id, row, source, rfl, -, hone, hsource, horg, rfl⟩ | ⟨id, payload, version, row, rfl, hrow, rfl⟩
  · refine ⟨(hdb.names.set_iff id row).2 (clashes_eq_false_iff.1 hfree), fun e he => ?_, hdb.credentials,
      fun e he => howned e.2 (hdb.owned e he)⟩
    rcases (Registry.mem_set hdb.names.keys).1 he with rfl | ⟨he, -⟩
    · exact hw.1
    · exact hdb.rows e he
  · refine ⟨(hdb.names.set_iff id _).2 (clashes_eq_false_iff.1 hfree), fun e he => ?_, hdb.credentials,
      fun e he => howned e.2 (hdb.owned e he)⟩
    rcases (Registry.mem_set hdb.names.keys).1 he with rfl | ⟨he, -⟩
    · exact updated_wellFormed (hdb.rows _ (Dict.mem_of_get?_eq_some hcurrent)) hw.1
    · exact hdb.rows e he
  · refine ⟨hdb.names, hdb.rows, (hdb.credentials.set_iff id row).2 (fun _ => holders_credential_nil hone _ _), ?_⟩
    intro e he
    rcases (Registry.mem_set hdb.credentials.keys).1 he with rfl | ⟨he, -⟩
    · exact ⟨source, hsource, horg⟩
    · exact hdb.owned e he
  · refine ⟨hdb.names, hdb.rows, (hdb.credentials.set_iff id _).2 (fun _ => ?_), fun e he => ?_⟩
    · exact hdb.credentials.others (r := row) hrow rfl
    · rcases (Registry.mem_set hdb.credentials.keys).1 he with rfl | ⟨he, -⟩
      · exact hdb.owned (id, row) (Dict.mem_of_get?_eq_some hrow)
      · exact hdb.owned e he

/-- **A commit leaves what it does not take.** -/
theorem Write.Free.apply {db db' : Tables σ enc.Token} (hdb : Consistent py db) {r' : Request σ enc.Nonce}
    {w w' : Write σ enc.Token} (hw : w.Free py db) (hw' : Sound py db r' w') (h : w'.apply py sameMetadata db = some db')
    (hname : ∀ n, w'.takes py = some n → w.takes py ≠ some n)
    (hcredential : ∀ dataSourceId, w'.adds = some dataSourceId → w.adds ≠ some dataSourceId) : w.Free py db' := by
  rcases w'.apply_cases h with ⟨id, row, rfl, -, -, rfl⟩ | ⟨id, loaded, edited, current, rfl, hcurrent, -, rfl⟩ |
    ⟨id, row, source, rfl, -, -, -, -, rfl⟩ | ⟨id, payload, version, row, rfl, hrow, rfl⟩
  · refine ⟨fun halike n hn => ?_, hw.credential⟩
    refine Registry.holders_set_eq_nil hdb.names.keys (hw.name halike n hn) (fun _ howner hkey => ?_)
    exact absurd hn (hname n (congrArg some (Prod.ext howner hkey)))
  · refine ⟨fun halike n hn => ?_, hw.credential⟩
    obtain ⟨-, hedits, current', hcurrent', horg⟩ := hw'
    obtain rfl : current = current' := Option.some.inj (hcurrent.symm.trans hcurrent')
    rcases updated_name hedits with ⟨-, -, hkeeps⟩ | ⟨hne, hnew⟩
    · exact Registry.holders_keep hdb.names.keys (hw.name halike n hn) hcurrent hkeeps
    · refine Registry.holders_set_eq_nil hdb.names.keys (hw.name halike n hn) (fun _ howner hkey => absurd hn (hname n ?_))
      have hkey' : py.sqlLower (sqlTrim edited.name) = n.2 := by
        rw [← hkey]
        exact congrArg (fun name => py.sqlLower (sqlTrim name)) hnew.symm
      simp only [Write.takes, if_neg hne]
      exact congrArg some (Prod.ext (horg.symm.trans howner) hkey')
  · refine ⟨hw.name, fun dataSourceId hadds hmem => ?_⟩
    obtain ⟨row', hrow', hsame⟩ := List.mem_map.1 hmem
    obtain ⟨e, he, rfl⟩ := List.mem_map.1 hrow'
    rcases (Registry.mem_set hdb.credentials.keys).1 he with rfl | ⟨he, -⟩
    · exact hcredential dataSourceId (congrArg some hsame) hadds
    · exact hw.credential dataSourceId hadds (List.mem_map.2 ⟨e.2, List.mem_map_of_mem he, hsame⟩)
  · refine ⟨hw.name, fun dataSourceId hadds hmem => hw.credential dataSourceId hadds ?_⟩
    obtain ⟨row', hrow', hsame⟩ := List.mem_map.1 hmem
    obtain ⟨e, he, rfl⟩ := List.mem_map.1 hrow'
    rcases (Registry.mem_set hdb.credentials.keys).1 he with rfl | ⟨he, -⟩
    · exact List.mem_map.2 ⟨row, List.mem_map_of_mem (Dict.mem_of_get?_eq_some hrow), hsame⟩
    · exact List.mem_map.2 ⟨e.2, List.mem_map_of_mem he, hsame⟩

/-! ## Plans -/

/-- **In consistent tables the check of a name never finds two rows.** -/
theorem Consistent.nameTaken {Token : Type} {db : Tables σ Token} (hdb : Consistent py db) (orgId : OrganizationId)
    (name : Str) (excludeId : Option DataSourceId) : nameTaken py db orgId name excludeId =
      .ok (!(holders (naming py) db.dataSources orgId (py.lower name.strip) excludeId).isEmpty) := by
  unfold DataSources.nameTaken
  rcases hdb.names.holders_le_one orgId (py.lower name.strip) excludeId with hnone | ⟨e, hone⟩
  · rw [hnone]
    rfl
  · rw [hone]
    rfl

theorem Consistent.nameFree {Token : Type} {db : Tables σ Token} (hdb : Consistent py db) {orgId : OrganizationId}
    {name : Str} (hname : name.strip = name) (halike : py.Alike name) {excludeId : Option DataSourceId}
    (h : DataSources.nameTaken py db orgId name excludeId = .ok false) :
    holders (naming py) db.dataSources orgId (py.sqlLower (sqlTrim name)) excludeId = [] := by
  rw [hdb.nameTaken, Except.ok.injEq, Bool.not_eq_false', List.isEmpty_iff, hname] at h
  rw [sqlTrim_of_strip hname, halike]
  exact h

theorem create_sound {db : Tables σ enc.Token} (hdb : Consistent py db) {payload : DataSourceCreate σ} {currentUser : User}
    {id : DataSourceId} {w : Write σ enc.Token} (h : createDataSource py enc db payload currentUser id = .ok w) :
    Sound py db (.create payload currentUser id : Request σ enc.Nonce) w ∧ w.Free py db := by
  unfold createDataSource at h
  obtain ⟨payload', hvalid, h⟩ := bind_eq_ok h
  obtain ⟨taken, htaken, h⟩ := bind_eq_ok h
  unfold DataSourceCreate.validate at hvalid
  obtain ⟨name, hname, hvalid⟩ := bind_eq_ok hvalid
  obtain ⟨metadata, hmetadata, hvalid⟩ := bind_eq_ok hvalid
  cases hvalid
  cases taken with
  | true => cases h
  | false =>
    cases h
    refine ⟨⟨⟨validateName_ok hname, noSecrets_ok hmetadata⟩, rfl⟩, fun halike n hn => ?_,
      fun _ hadds => by cases hadds⟩
    cases hn
    exact hdb.nameFree (validateName_ok hname).1 (halike name rfl) htaken

/-- What a validated PATCH gives is well formed. -/
theorem validate_update_ok {payload payload' : DataSourceUpdate σ} (h : payload.validate py = .ok payload') :
    (∀ name, payload'.name = some name → name.strip = name ∧ name ≠ []) ∧
      ∀ v, payload'.connectionMetadata = some v → validateConnectionMetadata py.toPython v = .ok v := by
  unfold DataSourceUpdate.validate at h
  obtain ⟨name, hname, h⟩ := bind_eq_ok h
  obtain ⟨metadata, hmetadata, h⟩ := bind_eq_ok h
  cases h
  exact ⟨fun v => whenGiven_ok (fun _ _ => validateName_ok) hname,
    fun v => whenGiven_ok (fun _ _ => noSecrets_ok) hmetadata⟩

theorem edit_wellFormed {payload : DataSourceUpdate σ} {dataSource : DataSource σ}
    (hname : ∀ name, payload.name = some name → name.strip = name ∧ name ≠ [])
    (hmetadata : ∀ v, payload.connectionMetadata = some v → validateConnectionMetadata py.toPython v = .ok v)
    (h : dataSource.WellFormed py) : (payload.edit py dataSource).WellFormed py := by
  constructor
  · unfold DataSourceUpdate.edit
    cases hrenames : payload.renames py dataSource with
    | none => exact h.name
    | some name => exact hname name (Option.filter_eq_some_iff.1 hrenames).1
  · unfold DataSourceUpdate.edit
    cases hm : payload.connectionMetadata with
    | none => exact h.metadata
    | some v => exact hmetadata v hm

theorem update_sound {db : Tables σ enc.Token} (hdb : Consistent py db) {dataSourceId : DataSourceId}
    {payload : DataSourceUpdate σ} {currentUser : User} {w : Write σ enc.Token}
    (h : updateDataSource py enc db dataSourceId payload currentUser = .ok w) :
    Sound py db (.update dataSourceId payload currentUser : Request σ enc.Nonce) w ∧ w.Free py db := by
  unfold updateDataSource at h
  obtain ⟨payload', hvalid, h⟩ := bind_eq_ok h
  obtain ⟨dataSource, hfound, h⟩ := bind_eq_ok h
  obtain ⟨hname, hmetadata⟩ := validate_update_ok hvalid
  obtain ⟨hrow, horg, -⟩ := getActiveOr404_ok hfound
  have hedited := edit_wellFormed hname hmetadata (hdb.rows _ (Dict.mem_of_get?_eq_some hrow))
  have hsound : Sound py db (.update dataSourceId payload currentUser : Request σ enc.Nonce)
      (.update dataSourceId dataSource (payload'.edit py dataSource)) :=
    ⟨hedited, ⟨rfl, .inl rfl⟩, dataSource, hrow, rfl⟩
  have hnew : (payload'.edit py dataSource).name = (payload'.renames py dataSource).getD dataSource.name := rfl
  split at h
  · rename_i hsame
    cases h
    refine ⟨hsound, fun _ n hn => ?_, fun _ hadds => by cases hadds⟩
    rw [hsame, Option.getD_none] at hnew
    rw [Write.takes, if_pos hnew] at hn
    cases hn
  · rename_i name hrenames
    obtain ⟨taken, htaken, h⟩ := bind_eq_ok h
    cases taken with
    | true => cases h
    | false =>
      cases h
      refine ⟨hsound, fun halike n hn => ?_, fun _ hadds => by cases hadds⟩
      rw [hrenames, Option.getD_some] at hnew
      rw [Write.takes] at hn
      split at hn
      · cases hn
      · rename_i hne
        cases hn
        rw [← horg] at htaken
        rw [hnew]
        have hgiven : py.Alike name := hnew ▸ halike _ (if_neg hne)
        exact hdb.nameFree (hname name (Option.filter_eq_some_iff.1 hrenames).1).1 hgiven htaken

theorem delete_sound {db : Tables σ enc.Token} (hdb : Consistent py db) {dataSourceId : DataSourceId} {currentUser : User}
    {w : Write σ enc.Token} (h : deleteDataSource enc db dataSourceId currentUser = .ok w) :
    Sound py db (.delete dataSourceId currentUser : Request σ enc.Nonce) w ∧ w.Free py db := by
  unfold deleteDataSource at h
  obtain ⟨dataSource, hfound, h⟩ := bind_eq_ok h
  obtain ⟨hrow, -, -⟩ := getActiveOr404_ok hfound
  have hcurrent := hdb.rows _ (Dict.mem_of_get?_eq_some hrow)
  cases h
  refine ⟨⟨⟨hcurrent.name, hcurrent.metadata⟩, ⟨rfl, .inr rfl⟩, dataSource, hrow, rfl⟩,
    fun _ n hn => ?_, fun _ hadds => by
    cases hadds⟩
  rw [Write.takes, if_pos rfl] at hn
  cases hn

theorem credentialsOf_eq {Token : Type} (db : Tables σ Token) (orgId : OrganizationId) (dataSourceId : DataSourceId) :
    db.credentialsOf orgId dataSourceId = holders (credentialNaming Token) db.credentials orgId dataSourceId none := by
  refine List.filter_congr (fun e _ => ?_)
  simp [credentialNaming]

/-- **Setting credentials**: the row to overwrite, or a row to add where the data source has none. -/
theorem setDataSourceCredentials_ok {db : Tables σ enc.Token} (hdb : Consistent py db) {dataSourceId : DataSourceId}
    {credentials : Members σ} {currentUser : User} {id : CredentialId} {nonce : enc.Nonce} {w : Write σ enc.Token}
    (h : setDataSourceCredentials enc settings db dataSourceId credentials currentUser id nonce = .ok w) :
    ∃ encrypted source, encryptCredentials enc settings nonce credentials = .ok encrypted ∧
      db.dataSources.get? dataSourceId = some source ∧ source.organizationId = currentUser.organizationId ∧
      ((∃ existing row, w = .updateCredential existing encrypted currentKeyVersion ∧
          db.credentials.get? existing = some row ∧ row.dataSourceId = dataSourceId) ∨
        (w = .insertCredential id ⟨currentUser.organizationId, dataSourceId, encrypted, currentKeyVersion⟩ ∧
          dataSourceId ∉ db.credentials.values.map DataSourceCredential.dataSourceId)) := by
  unfold setDataSourceCredentials at h
  dsimp only at h
  split at h
  · cases h
  · obtain ⟨source, hfound, h⟩ := bind_eq_ok h
    obtain ⟨hsource, horg, -⟩ := getActiveOr404_ok hfound
    unfold setCredentials at h
    split at h
    · cases h
    · rename_i encrypted hencrypted
      refine ⟨encrypted, source, hencrypted, hsource, horg, ?_⟩
      rw [credentialsOf_eq] at h
      rcases hdb.credentials.holders_le_one currentUser.organizationId dataSourceId none with hnone | ⟨e, hone⟩
      · rw [hnone] at h
        cases h
        refine .inr ⟨rfl, fun hmem => ?_⟩
        obtain ⟨row, hrow, hsame⟩ := List.mem_map.1 hmem
        obtain ⟨e, he, rfl⟩ := List.mem_map.1 hrow
        -- the row would be of the same organization
        obtain ⟨source', hsource', horg'⟩ := hdb.owned e he
        rw [hsame, hsource, Option.some.injEq] at hsource'
        have hcontra := Registry.holders_eq_nil_iff.1 hnone e he (by rw [← horg, hsource', horg']; rfl) hsame rfl
        cases hcontra
      · rw [hone] at h
        cases h
        obtain ⟨hmem, -, hname, -, -⟩ := Registry.mem_holders.1 (hone ▸ List.mem_singleton_self e)
        exact .inl ⟨e.1, e.2, rfl, Dict.get?_eq_some_of_mem hdb.credentials.keys hmem, hname⟩

theorem credentials_sound {db : Tables σ enc.Token} (hdb : Consistent py db) {dataSourceId : DataSourceId}
    {credentials : Members σ} {currentUser : User} {id : CredentialId} {nonce : enc.Nonce} {w : Write σ enc.Token}
    (h : setDataSourceCredentials enc settings db dataSourceId credentials currentUser id nonce = .ok w) :
    Sound py db (.setCredentials dataSourceId credentials currentUser id nonce) w ∧ w.Free py db := by
  obtain ⟨encrypted, source, -, hsource, horg, ⟨existing, row, rfl, hrow, hsame⟩ | ⟨rfl, hnone⟩⟩ :=
    setDataSourceCredentials_ok hdb h
  · exact ⟨⟨row, hrow, congrArg some hsame.symm⟩, ⟨fun _ _ hn => (by cases hn), fun _ hadds => (by cases hadds)⟩⟩
  · refine ⟨⟨rfl, source, hsource, horg⟩, ⟨fun _ _ hn => (by cases hn), fun d hadds => ?_⟩⟩
    cases hadds
    exact hnone

/-- **What a request plans against consistent tables.** -/
theorem plan_sound {db : Tables σ enc.Token} (hdb : Consistent py db) {r : Request σ enc.Nonce} {w : Write σ enc.Token}
    (h : (endpoints py enc settings sameMetadata).plan r db = .ok w) : Sound py db r w ∧ w.Free py db := by
  cases r with
  | create payload currentUser id => exact create_sound hdb h
  | update dataSourceId payload currentUser => exact update_sound hdb h
  | delete dataSourceId currentUser => exact delete_sound hdb h
  | setCredentials dataSourceId credentials currentUser id nonce => exact credentials_sound hdb h

end
end DataSources
end DataOps

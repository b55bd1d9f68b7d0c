import DataOps.Accounts
import DataOps.LibRegistry
import DataOps.SecretKeys
/-!
# DataSources — an organization's data sources, and the credentials they are reached with

Metadata is stored as it is sent, credentials encrypted and in a table of their own.  A request checks that a name is
free and later commits; so does a request that sets credentials, once it has looked for a row to overwrite.
-/
namespace DataOps
namespace DataSources

open Accounts (validateName)
open Api (HTTPException OrganizationId User UserId activeOr404 dataSourceNotFound scalarOneOrNone)
open Registry (Naming holders)
open Schedule (DataSourceId setColumn sqlTrim)
open Secrets (validateConnectionMetadata)

abbrev CredentialId := Nat

inductive SourceType
  | postgres | mysql | restApi | csvUpload | s3 | other
deriving DecidableEq, Repr

/-- The members of a JSON object. -/
abbrev Members (σ : Type) := List (Str × Json Str σ)

structure DataSource (σ : Type) where
  organizationId     : OrganizationId
  name               : Str
  sourceType         : SourceType
  connectionMetadata : Members σ
  isActive           : Bool := true
  createdBy          : Option UserId

/-! ## Encryption -/

structure Settings where
  credentialEncryptionKey : Option Str
  isProduction            : Bool

/-- What `app.core.encryption` takes from `cryptography.fernet` and `json`. -/
structure Encryption (σ : Type) where
  Key   : Type
  Nonce : Type
  Bytes : Type
  Token : Type
  -- `Fernet(key)`; `none` is `ValueError`
  fernet  : Str → Option Key
  encrypt : Key → Nonce → Bytes → Token
  -- `none` is `InvalidToken`
  decrypt : Key → Token → Option Bytes
  -- `json.dumps(..).encode("utf-8")` and `json.loads(..decode("utf-8"))`; `none` is `ValueError`
  dumps : Json Str σ → Bytes
  loads : Bytes → Option (Json Str σ)
  decrypt_encrypt : ∀ key nonce plaintext, decrypt key (encrypt key nonce plaintext) = some plaintext
  decrypt_other   : ∀ key key' nonce plaintext, key ≠ key' → decrypt key' (encrypt key nonce plaintext) = none
  loads_dumps     : ∀ v, loads (dumps v) = some v

/-- `CredentialEncryptionError`, by its messages. -/
inductive CredentialEncryptionError
  | keyNotSet | malformedKey | wrongKeyOrCorrupted | malformedPayload
deriving DecidableEq, Repr

def currentKeyVersion : Nat := 1

def devFallbackKey : Str := "ZGV2LW9ubHktaW5zZWN1cmUtZmVybmV0LWtleS0zMmI=".toList

section
variable {σ : Type} (enc : Encryption σ) (settings : Settings)

/-- `_get_fernet`. -/
def getFernet : Except CredentialEncryptionError enc.Key :=
  match Str.given settings.credentialEncryptionKey with
  | some key => (enc.fernet key).elim (.error .malformedKey) .ok
  | none     =>
    if settings.isProduction then .error .keyNotSet else (enc.fernet devFallbackKey).elim (.error .malformedKey) .ok

def encryptCredentials (nonce : enc.Nonce) (credentials : Members σ) : Except CredentialEncryptionError enc.Token := do
  let key ← getFernet enc settings
  return enc.encrypt key nonce (enc.dumps (.object credentials))

def decryptCredentials (encryptedPayload : enc.Token) : Except CredentialEncryptionError (Json Str σ) := do
  let key ← getFernet enc settings
  match enc.decrypt key encryptedPayload with
  | none           => .error .wrongKeyOrCorrupted
  | some plaintext => (enc.loads plaintext).elim (.error .malformedPayload) .ok

end

/-! ## The tables -/

structure DataSourceCredential (Token : Type) where
  organizationId   : OrganizationId
  dataSourceId     : DataSourceId
  encryptedPayload : Token
  keyVersion       : Nat

structure Tables (σ Token : Type) where
  dataSources : Dict DataSourceId (DataSource σ)
  credentials : Dict CredentialId (DataSourceCredential Token)

def Tables.empty {σ Token : Type} : Tables σ Token := ⟨[], []⟩

section
variable {σ Token : Type}

/-- `ix_data_sources_org_name_active`. -/
def naming (py : Backend) : Naming (DataSource σ) OrganizationId Str where
  owner := DataSource.organizationId
  name := fun row => py.sqlLower (sqlTrim row.name)
  active := DataSource.isActive

variable (py : Backend) (db : Tables σ Token)

/-- `_name_taken`. -/
def nameTaken (orgId : OrganizationId) (name : Str) (excludeId : Option DataSourceId) : Except HTTPException Bool := do
  let found ← scalarOneOrNone ((holders (naming py) db.dataSources orgId (py.lower name.strip) excludeId).map Prod.fst)
  return found ≠ none

/-- `_get_active_or_404`. -/
def getActiveOr404 (dataSourceId : DataSourceId) (orgId : OrganizationId) : Except HTTPException (DataSource σ) :=
  activeOr404 dataSourceNotFound DataSource.organizationId DataSource.isActive orgId (db.dataSources.get? dataSourceId)

/-- The rows of a data source's credentials. -/
def Tables.credentialsOf (orgId : OrganizationId) (dataSourceId : DataSourceId) :
    List (CredentialId × DataSourceCredential Token) :=
  db.credentials.filter (fun e => e.2.organizationId = orgId ∧ e.2.dataSourceId = dataSourceId)

end

/-! ## Reading credentials -/

inductive CredentialError
  | multipleResultsFound
  | notFound (dataSourceId : DataSourceId)
  | encryption (e : CredentialEncryptionError)
deriving DecidableEq, Repr

/-- `DatabaseCredentialProvider.get_credentials`. -/
def getCredentials {σ : Type} (enc : Encryption σ) (settings : Settings) (db : Tables σ enc.Token) (orgId : OrganizationId)
    (dataSourceId : DataSourceId) : Except CredentialError (Json Str σ) :=
  match db.credentialsOf orgId dataSourceId with
  | []    => .error (.notFound dataSourceId)
  | [row] => (decryptCredentials enc settings row.2.encryptedPayload).mapError .encryption
  | _     => .error .multipleResultsFound

/-! ## What a request commits -/

inductive Write (σ Token : Type)
  | insert (id : DataSourceId) (row : DataSource σ)
  | update (id : DataSourceId) (loaded edited : DataSource σ)
  | insertCredential (id : CredentialId) (row : DataSourceCredential Token)
  | updateCredential (id : CredentialId) (encryptedPayload : Token) (keyVersion : Nat)

section
variable {σ : Type} (py : Backend) (sameMetadata : Members σ → Members σ → Bool)

/-- The row after `UPDATE .. SET <changed columns> WHERE id = :id`. -/
def DataSource.updated (current loaded edited : DataSource σ) : DataSource σ where
  organizationId := current.organizationId
  name := setColumn loaded.name edited.name current.name
  sourceType := setColumn loaded.sourceType edited.sourceType current.sourceType
  connectionMetadata :=
    if sameMetadata loaded.connectionMetadata edited.connectionMetadata then current.connectionMetadata
    else edited.connectionMetadata
  isActive := setColumn loaded.isActive edited.isActive current.isActive
  createdBy := current.createdBy

/-- The row is active and another holds its name. -/
def DataSource.clashes (id : DataSourceId) (row : DataSource σ) (rows : Dict DataSourceId (DataSource σ)) : Bool :=
  row.isActive && !(holders (naming py) rows row.organizationId (py.sqlLower (sqlTrim row.name)) (some id)).isEmpty

/-- What the commit leaves; `none` is an `IntegrityError`. -/
def Write.apply {Token : Type} (db : Tables σ Token) : Write σ Token → Option (Tables σ Token)
  | .insert id row =>
    if db.dataSources.get? id = none ∧ row.clashes py id db.dataSources = false then
      some { db with dataSources := db.dataSources.set id row }
    else none
  | .update id loaded edited =>
    match db.dataSources.get? id with
    | none         => none
    | some current =>
      let row := current.updated sameMetadata loaded edited
      if row.clashes py id db.dataSources = false then some { db with dataSources := db.dataSources.set id row } else none
  | .insertCredential id row =>
    if db.credentials.get? id = none ∧ row.dataSourceId ∉ db.credentials.values.map DataSourceCredential.dataSourceId ∧
        (db.dataSources.get? row.dataSourceId).any (fun source => source.organizationId = row.organizationId) = true then
      some { db with credentials := db.credentials.set id row }
    else none
  | .updateCredential id encryptedPayload keyVersion =>
    match db.credentials.get? id with
    | none     => none
    | some row =>
      some { db with
        credentials := db.credentials.set id { row with encryptedPayload := encryptedPayload, keyVersion := keyVersion } }

end

/-! ## The requests -/

structure DataSourceCreate (σ : Type) where
  name               : Str
  sourceType         : SourceType
  connectionMetadata : Members σ := []

structure DataSourceUpdate (σ : Type) where
  name               : Option Str := none
  sourceType         : Option SourceType := none
  connectionMetadata : Option (Members σ) := none

def nameExists (name : Str) : HTTPException := ⟨409, "A data source named '" ++ String.ofList name ++ "' already exists"⟩

section
variable {σ : Type} (py : Backend)

/-- `_no_secrets`. -/
def noSecrets (v : Members σ) : Except HTTPException (Members σ) :=
  (validateConnectionMetadata py.toPython v).mapError (fun message => ⟨422, String.ofList message⟩)

def DataSourceCreate.validate (payload : DataSourceCreate σ) : Except HTTPException (DataSourceCreate σ) := do
  let name ← validateName "name must not be blank" payload.name
  let connectionMetadata ← noSecrets py payload.connectionMetadata
  return ⟨name, payload.sourceType, connectionMetadata⟩

/-- A validator of a field that may be omitted. -/
def whenGiven {α : Type} (validate : α → Except HTTPException α) : Option α → Except HTTPException (Option α)
  | none   => .ok none
  | some v => (validate v).map some

def DataSourceUpdate.validate (payload : DataSourceUpdate σ) : Except HTTPException (DataSourceUpdate σ) := do
  let name ← whenGiven (validateName "name must not be blank") payload.name
  let connectionMetadata ← whenGiven (noSecrets py) payload.connectionMetadata
  return ⟨name, payload.sourceType, connectionMetadata⟩

/-- The PATCH gives a name that is another one. -/
def DataSourceUpdate.renames (payload : DataSourceUpdate σ) (dataSource : DataSource σ) : Option Str :=
  payload.name.filter (fun name => py.lower name ≠ py.lower dataSource.name.strip)

/-- The row as the request edits it in memory. -/
def DataSourceUpdate.edit (payload : DataSourceUpdate σ) (dataSource : DataSource σ) : DataSource σ :=
  { dataSource with
    name := (payload.renames py dataSource).getD dataSource.name
    sourceType := payload.sourceType.getD dataSource.sourceType
    connectionMetadata := payload.connectionMetadata.getD dataSource.connectionMetadata }

end

section
variable {σ : Type} (py : Backend) (enc : Encryption σ) (settings : Settings) (db : Tables σ enc.Token)

def createDataSource (payload : DataSourceCreate σ) (currentUser : User) (id : DataSourceId) :
    Except HTTPException (Write σ enc.Token) := do
  let payload ← payload.validate py
  if ← nameTaken py db currentUser.organizationId payload.name none then .error (nameExists payload.name)
  return .insert id
    { organizationId := currentUser.organizationId, name := payload.name, sourceType := payload.sourceType
      connectionMetadata := payload.connectionMetadata, createdBy := some currentUser.id }

def updateDataSource (dataSourceId : DataSourceId) (payload : DataSourceUpdate σ) (currentUser : User) :
    Except HTTPException (Write σ enc.Token) := do
  let payload ← payload.validate py
  let dataSource ← getActiveOr404 db dataSourceId currentUser.organizationId
  match payload.renames py dataSource with
  | none      => return .update dataSourceId dataSource (payload.edit py dataSource)
  | some name =>
    if ← nameTaken py db currentUser.organizationId name (some dataSourceId) then .error (nameExists name)
    return .update dataSourceId dataSource (payload.edit py dataSource)

def deleteDataSource (dataSourceId : DataSourceId) (currentUser : User) : Except HTTPException (Write σ enc.Token) := do
  let dataSource ← getActiveOr404 db dataSourceId currentUser.organizationId
  return .update dataSourceId dataSource { dataSource with isActive := false }

/-- `DatabaseCredentialProvider.set_credentials`. -/
def setCredentials (organizationId : OrganizationId) (dataSourceId : DataSourceId) (credentials : Members σ)
    (id : CredentialId) (nonce : enc.Nonce) : Except HTTPException (Write σ enc.Token) :=
  match encryptCredentials enc settings nonce credentials with
  | .error _      => .error ⟨500, "Internal Server Error"⟩
  | .ok encrypted => do
    match ← scalarOneOrNone ((db.credentialsOf organizationId dataSourceId).map Prod.fst) with
    | some existing => return .updateCredential existing encrypted currentKeyVersion
    | none          => return .insertCredential id ⟨organizationId, dataSourceId, encrypted, currentKeyVersion⟩

def setDataSourceCredentials (dataSourceId : DataSourceId) (credentials : Members σ) (currentUser : User)
    (id : CredentialId) (nonce : enc.Nonce) : Except HTTPException (Write σ enc.Token) := do
  if credentials.isEmpty then .error ⟨422, "credentials must not be empty"⟩
  let _ ← getActiveOr404 db dataSourceId currentUser.organizationId
  setCredentials enc settings db currentUser.organizationId dataSourceId credentials id nonce

end

/-- A request, with the ids and the nonce drawn for it. -/
inductive Request (σ Nonce : Type)
  | create (payload : DataSourceCreate σ) (currentUser : User) (id : DataSourceId)
  | update (dataSourceId : DataSourceId) (payload : DataSourceUpdate σ) (currentUser : User)
  | delete (dataSourceId : DataSourceId) (currentUser : User)
  | setCredentials (dataSourceId : DataSourceId) (credentials : Members σ) (currentUser : User) (id : CredentialId)
      (nonce : Nonce)

/-- The endpoints, each as its reads and its later commit. -/
def endpoints {σ : Type} (py : Backend) (enc : Encryption σ) (settings : Settings)
    (sameMetadata : Members σ → Members σ → Bool) :
    Tickets.Protocol (Tables σ enc.Token) (Request σ enc.Nonce) HTTPException (Write σ enc.Token) where
  plan := fun r db => match r with
    | .create payload currentUser id => createDataSource py enc db payload currentUser id
    | .update dataSourceId payload currentUser => updateDataSource py enc db dataSourceId payload currentUser
    | .delete dataSourceId currentUser => deleteDataSource enc db dataSourceId currentUser
    | .setCredentials dataSourceId credentials currentUser id nonce =>
      setDataSourceCredentials enc settings db dataSourceId credentials currentUser id nonce
  write := fun w db => (w.apply py sameMetadata db).getD db

end DataSources
end DataOps

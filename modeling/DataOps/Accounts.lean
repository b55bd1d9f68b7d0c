import DataOps.ApiTables
import DataOps.LibTickets
import DataOps.ScheduleTasks
import DataOps.Slugs
/-!
# Accounts — organizations, their users, and the tokens they are given

Registering checks that a slug is free and later commits an organization and its first user together.  A token names a user
and an organization, and every request with one looks both up again.
-/
namespace DataOps
namespace Accounts

open Api (HTTPException OrganizationId Time UserId scalarOneOrNone)
open Slugs (generateSlug isValidSlug)

/-! ## The tables -/

structure Organization where
  id   : OrganizationId
  name : Str
  slug : Str
deriving DecidableEq, Repr

structure User where
  id             : UserId
  organizationId : OrganizationId
  email          : Str
  hashedPassword : Str
  fullName       : Option Str
  isActive       : Bool := true
  isSuperuser    : Bool := false
deriving DecidableEq, Repr

structure Tables where
  organizations : List Organization
  users         : List User

def Tables.empty : Tables := ⟨[], []⟩

/-! ## Passwords and tokens -/

/-- The claims of a token; a text that is missing is `none`. -/
structure TokenClaims where
  sub   : Option Str
  orgId : Option Str
  exp   : Time
deriving DecidableEq, Repr

def bcryptMaxBytes : Nat := 72

/-- What `app.core.security` takes from `bcrypt`, `jwt` and `uuid`, and how long a token lasts. -/
structure Security where
  Salt : Type
  -- `bcrypt.hashpw(.., bcrypt.gensalt())` and `bcrypt.checkpw`; `none` is `ValueError`
  hashpw  : Str → Salt → Str
  checkpw : Str → Str → Option Bool
  -- `jwt.encode` and `jwt.decode` with the secret key; `none` is `PyJWTError`
  Token  : Type
  encode : TokenClaims → Token
  decode : Time → Token → Option TokenClaims
  -- `str(id)` and `uuid.UUID(text)`; `none` is `ValueError`
  uuidText : Nat → Str
  uuid     : Str → Option Nat
  accessTokenExpireMinutes : Nat
  checkpw_hashpw : ∀ password salt, (String.ofList password).utf8ByteSize ≤ bcryptMaxBytes →
    checkpw password (hashpw password salt) = some true
  decode_encode  : ∀ now claims, now < claims.exp → decode now (encode claims) = some claims
  uuid_uuidText  : ∀ id, uuid (uuidText id) = some id
  uuidText_ne    : ∀ id, uuidText id ≠ []

section
variable (security : Security)

/-- `none` is `ValueError`. -/
def hashPassword (password : Str) (salt : security.Salt) : Option Str :=
  if bcryptMaxBytes < (String.ofList password).utf8ByteSize then none else some (security.hashpw password salt)

def verifyPassword (password hashedPassword : Str) : Bool := (security.checkpw password hashedPassword).getD false

/-- A token for the user, from now on. -/
def createAccessToken (now : Time) (user : User) : security.Token :=
  security.encode ⟨some (security.uuidText user.id), some (security.uuidText user.organizationId),
    now + 60 * security.accessTokenExpireMinutes⟩

end

/-! ## The requests -/

section
variable (py : Python)

def normalizeEmail (email : Str) : Str := py.lower (Str.strip email)

structure RegisterRequest where
  organizationName : Str
  organizationSlug : Option Str
  email            : Str
  password         : Str
  fullName         : Option Str

structure LoginRequest where
  organizationSlug : Str
  email            : Str
  password         : Str

def minPasswordLength : Nat := 8
def maxPasswordBytes : Nat := 72

/-- `_validate_password_strength`. -/
def validatePasswordStrength (password : Str) : Except HTTPException Str :=
  let encodedLen := (String.ofList password).utf8ByteSize
  if password.length < minPasswordLength then
    .error ⟨422, s!"Password must be at least {minPasswordLength} characters long"⟩
  else if maxPasswordBytes < encodedLen then
    .error ⟨422, s!"Password must not exceed {maxPasswordBytes} bytes when UTF-8 encoded (got {encodedLen} bytes). " ++
      "Passwords are never truncated — please choose a shorter password."⟩
  else .ok password

/-- `Field(max_length=255)`. -/
def validateMaxLength (value : Str) : Except HTTPException Unit :=
  if 255 < value.length then .error ⟨422, "String should have at most 255 characters"⟩ else .ok ()

/-- `Field(min_length=1, max_length=255)` and the validator of a name. -/
def validateName (blank : String) (v : Str) : Except HTTPException Str := do
  if v = [] then .error ⟨422, "String should have at least 1 character"⟩
  validateMaxLength v
  if Str.strip v = [] then .error ⟨422, blank⟩
  return Str.strip v

/-- `_strip_org_name`. -/
def validateOrganizationName (v : Str) : Except HTTPException Str := validateName "organization_name must not be blank" v

/-- `_normalize_org_slug`, and the bound of the field. -/
def validateOrganizationSlug (v : Option Str) : Except HTTPException (Option Str) :=
  match v with
  | none   => .ok none
  | some v => do
    validateMaxLength v
    let v := py.lower (Str.strip v)
    if isValidSlug v then return some v
    else .error ⟨422, "organization_slug must be lowercase alphanumeric characters separated by single hyphens " ++
      "(e.g. 'acme-corp')"⟩

/-- `EmailStr`, then `_normalize_email`. -/
def validateEmail (emailStr : Str → Option Str) (email : Str) : Except HTTPException Str :=
  match emailStr email with
  | none       => .error ⟨422, "value is not a valid email address"⟩
  | some email => .ok (normalizeEmail py email)

variable (emailStr : Str → Option Str)

def RegisterRequest.validate (payload : RegisterRequest) : Except HTTPException RegisterRequest := do
  let organizationName ← validateOrganizationName payload.organizationName
  let organizationSlug ← validateOrganizationSlug py payload.organizationSlug
  let email ← validateEmail py emailStr payload.email
  let password ← validatePasswordStrength payload.password
  match payload.fullName with
  | none          => return ⟨organizationName, organizationSlug, email, password, none⟩
  | some fullName =>
    validateMaxLength fullName
    return ⟨organizationName, organizationSlug, email, password, some fullName⟩

def LoginRequest.validate (payload : LoginRequest) : Except HTTPException LoginRequest := do
  let email ← validateEmail py emailStr payload.email
  return ⟨py.lower (Str.strip payload.organizationSlug), email, payload.password⟩

/-- `self.organization_slug or generate_slug(self.organization_name)`. -/
def RegisterRequest.resolvedSlug (payload : RegisterRequest) : Str :=
  (Str.given payload.organizationSlug).getD (generateSlug py payload.organizationName)

end

/-! ## The endpoints -/

def slugTaken (slug : Str) : HTTPException := ⟨409, "Organization slug '" ++ String.ofList slug ++ "' is already taken"⟩

/-- The two rows a registration adds. -/
structure Registration where
  organization : Organization
  user         : User

def Tables.bySlug (db : Tables) (slug : Str) : List Organization := db.organizations.filter (fun o => o.slug = slug)

/-- The constraints of both tables; a violation is an `IntegrityError`. -/
def Registration.accepted (db : Tables) (w : Registration) : Bool :=
  db.organizations.all (fun o => o.id ≠ w.organization.id ∧ o.slug ≠ w.organization.slug) &&
    db.users.all (fun u => u.id ≠ w.user.id ∧ ¬ (u.organizationId = w.user.organizationId ∧ u.email = w.user.email))

/-- Both rows or neither. -/
def Registration.write (w : Registration) (db : Tables) : Tables :=
  if w.accepted db then ⟨db.organizations ++ [w.organization], db.users ++ [w.user]⟩ else db

section
variable (py : Python) (security : Security) (emailStr : Str → Option Str)

/-- `register` up to its commit; the ids are drawn by the request. -/
def register (db : Tables) (payload : RegisterRequest) (organizationId : OrganizationId) (userId : UserId)
    (salt : security.Salt) : Except HTTPException Registration := do
  let slug := payload.resolvedSlug py
  let existing ← scalarOneOrNone (db.bySlug slug)
  if existing ≠ none then .error (slugTaken slug)
  match hashPassword security payload.password salt with
  | none                => .error ⟨500, "Internal Server Error"⟩
  | some hashedPassword =>
    return ⟨⟨organizationId, payload.organizationName, slug⟩,
      { id := userId, organizationId := organizationId, email := payload.email, hashedPassword := hashedPassword
        fullName := payload.fullName, isSuperuser := true }⟩

/-- Its answer, once it has committed. -/
def Registration.respond (w : Registration) (db : Tables) (now : Time) : Except HTTPException security.Token :=
  if w.accepted db then .ok (createAccessToken security now w.user) else .error (slugTaken w.organization.slug)

def invalidCredentials : HTTPException := ⟨401, "Invalid organization, email, or password"⟩

def login (db : Tables) (payload : LoginRequest) (now : Time) : Except HTTPException security.Token := do
  match ← scalarOneOrNone (db.bySlug payload.organizationSlug) with
  | none              => .error invalidCredentials
  | some organization =>
    match ← scalarOneOrNone
        (db.users.filter (fun u => u.organizationId = organization.id ∧ u.email = payload.email)) with
    | none      => .error invalidCredentials
    | some user =>
      if verifyPassword security payload.password user.hashedPassword = false then .error invalidCredentials
      else if user.isActive = false then .error ⟨403, "Inactive user"⟩
      else .ok (createAccessToken security now user)

def credentialsException : HTTPException := ⟨401, "Could not validate credentials"⟩

def getCurrentUser (db : Tables) (now : Time) (token : security.Token) : Except HTTPException User :=
  match security.decode now token with
  | none        => .error credentialsException
  | some claims =>
    match Str.given claims.sub, Str.given claims.orgId with
    | some rawUserId, some orgId =>
      match (security.uuid rawUserId).bind (fun userId => db.users.find? (fun u => u.id = userId)) with
      | none      => .error credentialsException
      | some user =>
        if security.uuidText user.organizationId ≠ orgId then .error credentialsException else .ok user
    | _, _ => .error credentialsException

def getCurrentActiveUser (db : Tables) (now : Time) (token : security.Token) : Except HTTPException User := do
  let currentUser ← getCurrentUser security db now token
  if currentUser.isActive = false then .error ⟨403, "Inactive user"⟩
  return currentUser

def getCurrentSuperuser (db : Tables) (now : Time) (token : security.Token) : Except HTTPException User := do
  let currentUser ← getCurrentActiveUser security db now token
  if currentUser.isSuperuser = false then .error ⟨403, "Superuser privileges required"⟩
  return currentUser

/-- A request to register, with what is drawn for it. -/
structure RegisterCall where
  payload        : RegisterRequest
  organizationId : OrganizationId
  userId         : UserId
  salt           : security.Salt

/-- `register` as its checks and its later commit. -/
def registrations : Tickets.Protocol Tables (RegisterCall security) HTTPException Registration where
  plan := fun call db => do
    let payload ← call.payload.validate py emailStr
    register py security db payload call.organizationId call.userId call.salt
  write := Registration.write

end

end Accounts
end DataOps

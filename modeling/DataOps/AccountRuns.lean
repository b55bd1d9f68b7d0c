import DataOps.Accounts
import DataOps.LibTextTrim
import DataOps.StandardizeCasing
/-!
# AccountRuns — registering while others register

Two requests may find one slug free; the constraint lets one of them commit.  Each registration adds an organization and
its one user, who is its superuser, and nothing changes either again: whoever registers can log in from then on, and a
token names the same user until it expires.
-/
namespace DataOps
namespace Accounts

open Api (HTTPException OrganizationId Time UserId scalarOneOrNone)
open Schedule (bind_eq_ok)
open Slugs (IsSlug generateSlug isValidSlug)
open Tickets (State step)
open Trace (exec)

/-- Organizations are known by their slugs, and each has one user, who is active and its superuser. -/
structure Consistent (db : Tables) : Prop where
  slugs           : (db.organizations.map Organization.slug).Nodup
  organizationIds : (db.organizations.map Organization.id).Nodup
  userIds         : (db.users.map User.id).Nodup
  members         : db.users.map User.organizationId = db.organizations.map Organization.id
  admins          : ∀ user ∈ db.users, user.isActive = true ∧ user.isSuperuser = true

/-- What a registration is made of. -/
structure Registration.Fresh (w : Registration) : Prop where
  member : w.user.organizationId = w.organization.id
  admin  : w.user.isActive = true ∧ w.user.isSuperuser = true

section
variable {py : Python} {security : Security} {emailStr : Str → Option Str} {db : Tables}

/-! ## What the checks leave -/

/-- The one element that passes, when a key tells the elements apart. -/
theorem filter_eq_singleton {α κ : Type} {f : α → κ} {l : List α} (h : (l.map f).Nodup) {a : α} (ha : a ∈ l)
    {p : α → Bool} (hp : p a = true) (hkey : ∀ b ∈ l, p b = true → f b = f a) : l.filter p = [a] := by
  refine List.perm_singleton.1 ((List.perm_ext_iff_of_nodup (h.of_map.filter p) (List.nodup_singleton a)).2 (fun b => ?_))
  rw [List.mem_filter, List.mem_singleton]
  constructor
  · rintro ⟨hb, hpb⟩
    exact List.inj_on_of_nodup_map h hb ha (hkey b hb hpb)
  · rintro rfl
    exact ⟨ha, hp⟩

theorem register_ok {payload : RegisterRequest} {organizationId : OrganizationId} {userId : UserId} {salt : security.Salt}
    {w : Registration} (h : register py security db payload organizationId userId salt = .ok w) :
    w.Fresh ∧ w.organization.slug = payload.resolvedSlug py ∧ w.user.email = payload.email ∧
      hashPassword security payload.password salt = some w.user.hashedPassword := by
  unfold register at h
  obtain ⟨existing, -, h⟩ := bind_eq_ok h
  dsimp only at h
  split at h
  · cases h
  · split at h
    · cases h
    · rename_i hashedPassword hhash
      cases h
      exact ⟨⟨rfl, rfl, rfl⟩, rfl, rfl, hhash⟩

theorem plan_ok {call : RegisterCall security} {w : Registration}
    (h : (registrations py security emailStr).plan call db = .ok w) :
    ∃ payload, call.payload.validate py emailStr = .ok payload ∧
      register py security db payload call.organizationId call.userId call.salt = .ok w := bind_eq_ok h

/-! ## What a commit leaves -/

theorem accepted_iff {w : Registration} : w.accepted db = true ↔
    (∀ o ∈ db.organizations, o.id ≠ w.organization.id ∧ o.slug ≠ w.organization.slug) ∧
      ∀ u ∈ db.users, u.id ≠ w.user.id ∧ ¬ (u.organizationId = w.user.organizationId ∧ u.email = w.user.email) := by
  simp only [Registration.accepted, Bool.and_eq_true, List.all_eq_true, decide_eq_true_eq]

/-- **Both rows or neither keep the tables consistent.** -/
theorem Consistent.write (h : Consistent db) {w : Registration} (hfresh : w.Fresh) : Consistent (w.write db) := by
  unfold Registration.write
  split
  · rename_i haccepted
    obtain ⟨horganizations, husers⟩ := accepted_iff.1 haccepted
    refine ⟨?_, ?_, ?_, ?_, fun user huser => ?_⟩
    · rw [List.map_append, List.map_singleton, ← List.concat_eq_append]
      refine h.slugs.concat (fun hmem => ?_)
      obtain ⟨o, ho, hslug⟩ := List.mem_map.1 hmem
      exact (horganizations o ho).2 hslug
    · rw [List.map_append, List.map_singleton, ← List.concat_eq_append]
      refine h.organizationIds.concat (fun hmem => ?_)
      obtain ⟨o, ho, hid⟩ := List.mem_map.1 hmem
      exact (horganizations o ho).1 hid
    · rw [List.map_append, List.map_singleton, ← List.concat_eq_append]
      refine h.userIds.concat (fun hmem => ?_)
      obtain ⟨u, hu, hid⟩ := List.mem_map.1 hmem
      exact (husers u hu).1 hid
    · rw [List.map_append, List.map_append, h.members, List.map_singleton, List.map_singleton, hfresh.member]
    · rcases List.mem_append.1 huser with hold | hnew
      · exact h.admins user hold
      · rw [List.mem_singleton.1 hnew]
        exact hfresh.admin
  · exact h

/-- Rows are added and none is removed or changed. -/
structure Grows (db db' : Tables) : Prop where
  organizations : db.organizations <+: db'.organizations
  users         : db.users <+: db'.users

theorem Grows.write (w : Registration) (db : Tables) : Grows db (w.write db) := by
  unfold Registration.write
  split
  · exact ⟨List.prefix_append _ _, List.prefix_append _ _⟩
  · exact ⟨List.prefix_rfl, List.prefix_rfl⟩

/-! ## Every run -/

/-- The tables are consistent, and every pending registration was planned. -/
structure Registered (py : Python) (security : Security) (emailStr : Str → Option Str)
    (s : State Tables (RegisterCall security) Registration) : Prop where
  consistent : Consistent s.store
  planned    : ∀ t ∈ s.pending, ∃ db, (registrations py security emailStr).plan t.request db = .ok t.write

theorem Registered.step {s : State Tables (RegisterCall security) Registration}
    (h : Registered py security emailStr s) (l : Tickets.Label (RegisterCall security)) :
    Registered py security emailStr (step (registrations py security emailStr) s l) := by
  rcases Tickets.step_cases (registrations py security emailStr) s l with heq | ⟨call, w, hplan, heq⟩ |
    ⟨i, t, rfl, hi, heq⟩ | ⟨i, heq⟩ <;> rw [heq]
  · exact h
  · refine ⟨h.consistent, fun t ht => ?_⟩
    rcases List.mem_append.1 ht with hold | hnew
    · exact h.planned t hold
    · rw [List.mem_singleton.1 hnew]
      exact ⟨s.store, hplan⟩
  · refine ⟨?_, fun t' ht' => h.planned t' (List.mem_of_mem_eraseIdx ht')⟩
    obtain ⟨db, hplan⟩ := h.planned t (List.mem_of_getElem? hi)
    obtain ⟨payload, -, hregister⟩ := plan_ok hplan
    exact h.consistent.write (register_ok hregister).1
  · exact ⟨h.consistent, fun t ht => h.planned t (List.mem_of_mem_eraseIdx ht)⟩

theorem registered_exec (ls : List (Tickets.Label (RegisterCall security))) :
    Registered py security emailStr (exec (step (registrations py security emailStr)) (State.initial .empty) ls) := by
  refine Trace.exec_invariant _ (fun s l h => h.step l) ls _ ⟨⟨?_, ?_, ?_, rfl, ?_⟩, ?_⟩
  · exact List.nodup_nil
  · exact List.nodup_nil
  · exact List.nodup_nil
  · exact fun user huser => by cases huser
  · exact fun t ht => by cases ht

theorem grows_exec (ls : List (Tickets.Label (RegisterCall security)))
    (s : State Tables (RegisterCall security) Registration) :
    Grows s.store (exec (step (registrations py security emailStr)) s ls).store := by
  refine Trace.exec_invariant _ (I := fun s' => Grows s.store s'.store) (fun s' l h => ?_) ls s
    ⟨List.prefix_rfl, List.prefix_rfl⟩
  have hstep : Grows s'.store (step (registrations py security emailStr) s' l).store := by
    rcases Tickets.step_cases (registrations py security emailStr) s' l with heq | ⟨call, w, hplan, heq⟩ |
      ⟨i, t, rfl, hi, heq⟩ | ⟨i, heq⟩ <;> rw [heq]
    · exact ⟨List.prefix_rfl, List.prefix_rfl⟩
    · exact ⟨List.prefix_rfl, List.prefix_rfl⟩
    · exact .write t.write s'.store
    · exact ⟨List.prefix_rfl, List.prefix_rfl⟩
  exact ⟨h.organizations.trans hstep.organizations, h.users.trans hstep.users⟩

/-! ## A registration -/

/-- Passwords and tokens in the clear, and ids counted by the letters of their text. -/
def plainSecurity : Security where
  Salt := Unit
  hashpw := fun password _ => password
  checkpw := fun password hashedPassword => some (password = hashedPassword)
  Token := TokenClaims
  encode := fun claims => claims
  decode := fun now claims => if now < claims.exp then some claims else none
  uuidText := fun id => 'u' :: List.replicate id 'u'
  uuid := fun text => some text.tail.length
  accessTokenExpireMinutes := 30
  checkpw_hashpw := fun password salt _ => by simp
  decode_encode := fun now claims h => if_pos h
  uuid_uuidText := fun id => by simp
  uuidText_ne := fun id => List.cons_ne_nil _ _

def acmeCall : RegisterCall plainSecurity :=
  ⟨⟨"Acme".toList, some "acme".toList, "ada@acme.test".toList, "correct horse".toList, none⟩, 1, 2, ()⟩

def acmeTicket : Tickets.Ticket (RegisterCall plainSecurity) Registration :=
  ⟨acmeCall,
    ⟨⟨1, "Acme".toList, "acme".toList⟩, ⟨2, 1, "ada@acme.test".toList, "correct horse".toList, none, true, true⟩⟩, 0⟩

/-! ## Tokens -/

theorem given_some {s : Str} (h : s ≠ []) : Str.given (some s) = some s := by simp [Str.given, h]

/-- In consistent tables the checks on the user refuse nobody. -/
theorem Consistent.currentSuperuser (h : Consistent db) (now : Time) (token : security.Token) :
    getCurrentSuperuser security db now token = getCurrentUser security db now token := by
  unfold getCurrentSuperuser getCurrentActiveUser
  cases huser : getCurrentUser security db now token with
  | error e => rfl
  | ok user =>
    have hmem : user ∈ db.users := by
      unfold getCurrentUser at huser
      split at huser
      · cases huser
      · split at huser
        · split at huser
          · cases huser
          · rename_i found hfound
            split at huser
            · cases huser
            · cases huser
              obtain ⟨id, -, hid⟩ := Option.bind_eq_some_iff.1 hfound
              exact List.mem_of_find?_eq_some hid
        · cases huser
    obtain ⟨hactive, hsuperuser⟩ := h.admins user hmem
    simp [hactive, hsuperuser, bind, Except.bind, pure, Except.pure]

/-- A token for a user of the tables. -/
theorem Consistent.getCurrentUser (h : Consistent db) {user : User} (huser : user ∈ db.users) {now later : Time}
    (hlater : later < now + 60 * security.accessTokenExpireMinutes) :
    getCurrentUser security db later (createAccessToken security now user) = .ok user := by
  have hfind : db.users.find? (fun u => u.id = user.id) = some user := by
    rw [← List.head?_filter, filter_eq_singleton h.userIds huser (by simp) (by simp), List.head?_cons]
  have hdecode : security.decode later (createAccessToken security now user) =
      some ⟨some (security.uuidText user.id), some (security.uuidText user.organizationId),
        now + 60 * security.accessTokenExpireMinutes⟩ := security.decode_encode later _ hlater
  simp only [Accounts.getCurrentUser, hdecode, given_some (security.uuidText_ne _), security.uuid_uuidText,
    Option.bind_some, hfind]
  simp

/-- **However the requests interleave, slugs stay unique and every organization has one user, who is active and its
superuser; so whoever has a valid token passes the checks for active users and for superusers.** -/
theorem accounts_kept (py : Python) (security : Security) (emailStr : Str → Option Str)
    (ls : List (Tickets.Label (RegisterCall security))) :
    Consistent (exec (step (registrations py security emailStr)) (State.initial .empty) ls).store ∧
      ∀ now token,
        getCurrentSuperuser security (exec (step (registrations py security emailStr)) (State.initial .empty) ls).store now
            token =
          Accounts.getCurrentUser security
            (exec (step (registrations py security emailStr)) (State.initial .empty) ls).store now token :=
  ⟨(registered_exec ls).consistent, fun now token => (registered_exec ls).consistent.currentSuperuser now token⟩

/-- **A token made for a user names that user until it expires**, whoever registers in between. -/
theorem token_names_user (py : Python) (security : Security) (emailStr : Str → Option Str)
    (before after : List (Tickets.Label (RegisterCall security))) (user : User)
    (huser : user ∈ (exec (step (registrations py security emailStr)) (State.initial .empty) before).store.users)
    (now later : Time) (hlater : later < now + 60 * security.accessTokenExpireMinutes) :
    getCurrentSuperuser security
        (exec (step (registrations py security emailStr)) (State.initial .empty) (before ++ after)).store later
        (createAccessToken security now user) = .ok user := by
  have hconsistent := (@registered_exec py security emailStr (before ++ after)).consistent
  have hgrows := @grows_exec py security emailStr after
    (exec (step (registrations py security emailStr)) (State.initial .empty) before)
  rw [hconsistent.currentSuperuser]
  refine hconsistent.getCurrentUser ?_ hlater
  rw [Trace.exec_append]
  exact hgrows.users.subset huser

theorem token_names_user_acme :
    getCurrentSuperuser plainSecurity
        (exec (step (registrations asciiPython plainSecurity some)) (State.initial .empty)
          ([.read acmeCall, .commit 0] ++ [.read acmeCall])).store 1000
        (createAccessToken plainSecurity 0 acmeTicket.write.user) = .ok acmeTicket.write.user :=
  token_names_user asciiPython plainSecurity some [.read acmeCall, .commit 0] [.read acmeCall] acmeTicket.write.user
    (List.mem_singleton.2 rfl) 0 1000 (by decide)

end

/-! ## Logging in -/

section
variable {py : Python} {security : Security} {emailStr : Str → Option Str} {db : Tables}

/-- The organization and the user that the credentials are of. -/
structure Credentials (security : Security) (db : Tables) (payload : LoginRequest) (user : User) : Prop where
  organization : ∃ organization ∈ db.organizations, organization.slug = payload.organizationSlug ∧
    organization.id = user.organizationId
  mem          : user ∈ db.users
  email        : user.email = payload.email
  password     : verifyPassword security payload.password user.hashedPassword = true

/-- The users of an organization: one, or none with that email. -/
theorem Consistent.users_filter (h : Consistent db) (organizationId : OrganizationId) (email : Str) :
    db.users.filter (fun u => u.organizationId = organizationId ∧ u.email = email) = [] ∨
      ∃ user ∈ db.users, user.organizationId = organizationId ∧ user.email = email ∧
        db.users.filter (fun u => u.organizationId = organizationId ∧ u.email = email) = [user] := by
  by_cases hex : ∃ user ∈ db.users, user.organizationId = organizationId ∧ user.email = email
  · obtain ⟨user, huser, hid, hemail⟩ := hex
    have hnodup : (db.users.map User.organizationId).Nodup := h.members ▸ h.organizationIds
    refine .inr ⟨user, huser, hid, hemail, filter_eq_singleton hnodup huser (by simp [hid, hemail]) (fun b _ hb => ?_)⟩
    simp only [decide_eq_true_eq] at hb
    exact hb.1.trans hid.symm
  · refine .inl (List.filter_eq_nil_iff.2 (fun u hu hp => hex ⟨u, hu, ?_⟩))
    simpa using hp

theorem Consistent.bySlug (h : Consistent db) (slug : Str) :
    db.bySlug slug = [] ∨ ∃ organization ∈ db.organizations, organization.slug = slug ∧
      db.bySlug slug = [organization] := by
  by_cases hex : ∃ organization ∈ db.organizations, organization.slug = slug
  · obtain ⟨organization, hmem, hslug⟩ := hex
    exact .inr ⟨organization, hmem, hslug, filter_eq_singleton h.slugs hmem (by simp [hslug]) (by simp [hslug])⟩
  · exact .inl (List.filter_eq_nil_iff.2 (fun o ho hp => hex ⟨o, ho, by simpa using hp⟩))

/-- **Logging in**: a token for the user the credentials are of, or the one answer to all others. -/
theorem Consistent.login (h : Consistent db) (payload : LoginRequest) (now : Time) :
    (∃ user, Credentials security db payload user ∧
      login security db payload now = .ok (createAccessToken security now user)) ∨
    (∀ user, ¬ Credentials security db payload user) ∧ login security db payload now = .error invalidCredentials := by
  rcases h.bySlug payload.organizationSlug with hnone | ⟨organization, horganization, hslug, hone⟩
  · refine .inr ⟨fun user hcredentials => ?_, by simp only [Accounts.login, hnone, scalarOneOrNone, bind, Except.bind]⟩
    obtain ⟨organization, hmem, hslug, -⟩ := hcredentials.organization
    exact absurd hnone (List.ne_nil_of_mem (List.mem_filter.2 ⟨hmem, by simpa using hslug⟩))
  · have hsame : ∀ user, Credentials security db payload user → user.organizationId = organization.id := by
      intro user hcredentials
      obtain ⟨other, hother, hotherSlug, hid⟩ := hcredentials.organization
      have heq := List.inj_on_of_nodup_map h.slugs hother horganization (hotherSlug.trans hslug.symm)
      rw [← hid, heq]
    rcases h.users_filter organization.id payload.email with hnone | ⟨user, huser, hid, hemail, hfilter⟩
    · refine .inr ⟨fun user hcredentials => ?_, by
        simp only [Accounts.login, hone, hnone, scalarOneOrNone, bind, Except.bind]⟩
      refine absurd hnone (List.ne_nil_of_mem (List.mem_filter.2 ⟨hcredentials.mem, ?_⟩))
      simpa using ⟨hsame user hcredentials, hcredentials.email⟩
    · have hactive := (h.admins user huser).1
      cases hpassword : verifyPassword security payload.password user.hashedPassword with
      | true =>
        refine .inl ⟨user, ⟨⟨organization, horganization, hslug, hid.symm⟩, huser, hemail, hpassword⟩, ?_⟩
        simp only [Accounts.login, hone, hfilter, scalarOneOrNone, hpassword, hactive, bind, Except.bind,
          Bool.true_eq_false, if_false]
      | false =>
        refine .inr ⟨fun other hcredentials => ?_, by
          simp only [Accounts.login, hone, hfilter, scalarOneOrNone, hpassword, bind, Except.bind, if_true]⟩
        have hmem : other ∈ db.users.filter (fun u => u.organizationId = organization.id ∧ u.email = payload.email) :=
          List.mem_filter.2 ⟨hcredentials.mem, by simpa using ⟨hsame other hcredentials, hcredentials.email⟩⟩
        rw [hfilter, List.mem_singleton] at hmem
        have hverified := hcredentials.password
        rw [hmem, hpassword] at hverified
        cases hverified

/-- **In every state reached, exactly the right credentials are given a token, of the user they are of, and every other
request the same answer**, whether its organization or its email exists or not. -/
theorem login_exact (py : Python) (security : Security) (emailStr : Str → Option Str)
    (ls : List (Tickets.Label (RegisterCall security))) (payload : LoginRequest) (now : Time) :
    (∃ user,
      Credentials security (exec (step (registrations py security emailStr)) (State.initial .empty) ls).store payload
        user ∧
      login security (exec (step (registrations py security emailStr)) (State.initial .empty) ls).store payload now =
        .ok (createAccessToken security now user)) ∨
    (∀ user, ¬ Credentials security (exec (step (registrations py security emailStr)) (State.initial .empty) ls).store
      payload user) ∧
      login security (exec (step (registrations py security emailStr)) (State.initial .empty) ls).store payload now =
        .error invalidCredentials :=
  (registered_exec ls).consistent.login payload now

end

/-! ## From registering to logging in -/

section
variable {py : Python} {security : Security} {emailStr : Str → Option Str} {db : Tables}

theorem Credentials.unique (h : Consistent db) {payload : LoginRequest} {user user' : User}
    (hc : Credentials security db payload user) (hc' : Credentials security db payload user') : user = user' := by
  obtain ⟨organization, hmem, hslug, hid⟩ := hc.organization
  obtain ⟨organization', hmem', hslug', hid'⟩ := hc'.organization
  have hsame := List.inj_on_of_nodup_map h.slugs hmem hmem' (hslug.trans hslug'.symm)
  have hnodup : (db.users.map User.organizationId).Nodup := h.members ▸ h.organizationIds
  exact List.inj_on_of_nodup_map hnodup hc.mem hc'.mem (by rw [← hid, ← hid', hsame])

theorem validatePasswordStrength_ok {raw password : Str} (h : validatePasswordStrength raw = .ok password) :
    password = raw ∧ (String.ofList raw).utf8ByteSize ≤ bcryptMaxBytes := by
  unfold validatePasswordStrength at h
  dsimp only at h
  split at h
  · cases h
  · split at h
    · cases h
    · rename_i hlong
      exact ⟨(Except.ok.inj h).symm, Nat.le_of_not_lt hlong⟩

theorem validateOrganizationSlug_ok {raw slug : Option Str} (h : validateOrganizationSlug py raw = .ok slug) {v : Str}
    (hv : slug = some v) : ∃ text, v = py.lower (Str.strip text) ∧ isValidSlug v = true := by
  unfold validateOrganizationSlug at h
  split at h
  · cases h
    cases hv
  · rename_i text
    obtain ⟨_, -, h⟩ := bind_eq_ok h
    dsimp only at h
    split at h
    · rename_i hvalid
      cases h
      cases hv
      exact ⟨text, rfl, hvalid⟩
    · cases h

theorem validate_ok {payload request : RegisterRequest} (h : payload.validate py emailStr = .ok request) :
    (∃ name, request.organizationName = name) ∧ validateOrganizationSlug py payload.organizationSlug =
        .ok request.organizationSlug ∧
      validateEmail py emailStr payload.email = .ok request.email ∧
      validatePasswordStrength payload.password = .ok request.password := by
  unfold RegisterRequest.validate at h
  obtain ⟨name, -, h⟩ := bind_eq_ok h
  obtain ⟨slug, hslug, h⟩ := bind_eq_ok h
  obtain ⟨email, hemail, h⟩ := bind_eq_ok h
  obtain ⟨password, hpassword, h⟩ := bind_eq_ok h
  split at h
  · cases h
    exact ⟨⟨_, rfl⟩, hslug, hemail, hpassword⟩
  · obtain ⟨_, -, h⟩ := bind_eq_ok h
    cases h
    exact ⟨⟨_, rfl⟩, hslug, hemail, hpassword⟩

theorem verifyPassword_hashPassword {password hashed : Str} {salt : security.Salt}
    (h : hashPassword security password salt = some hashed) : verifyPassword security password hashed = true := by
  unfold hashPassword at h
  split at h
  · cases h
  · rename_i hlong
    cases h
    rw [verifyPassword, security.checkpw_hashpw _ _ (Nat.le_of_not_lt hlong), Option.getD_some]

variable (lower_ascii : ∀ s, (∀ c ∈ s, c.toNat < 128) → py.lower s = s.map Char.toLower)
  (lower_strip : ∀ s, Str.strip (py.lower (Str.strip s)) = py.lower (Str.strip s))
include lower_ascii

/-- A slug is what it is normalized to. -/
theorem lower_strip_slug {slug : Str} (h : slug = [] ∨ IsSlug slug) : py.lower (Str.strip slug) = slug := by
  have hchars : ∀ c ∈ slug, c.toNat < 128 ∧ Str.isSpace c = false ∧ c.toLower = c := by
    rcases h with rfl | h
    · exact fun c hc => absurd hc List.not_mem_nil
    · exact h.ascii
  rw [Str.strip_eq_self (fun c hc => (hchars c hc).2.1), lower_ascii _ (fun c hc => (hchars c hc).1)]
  exact (List.map_congr_left (fun c hc => (hchars c hc).2.2)).trans (List.map_id' slug)

include lower_strip

/-- **The slug of a valid request is its own normal form.** -/
theorem lower_strip_resolvedSlug {payload request : RegisterRequest} (h : payload.validate py emailStr = .ok request) :
    py.lower (Str.strip (request.resolvedSlug py)) = request.resolvedSlug py := by
  obtain ⟨-, hslug, -, -⟩ := validate_ok h
  refine lower_strip_slug lower_ascii ?_
  unfold RegisterRequest.resolvedSlug
  cases hgiven : Str.given request.organizationSlug with
  | none => exact Slugs.generateSlug_slug _
  | some v =>
    refine .inr ?_
    have hv : request.organizationSlug = some v := (Option.filter_eq_some_iff.1 hgiven).1
    obtain ⟨text, htext, hvalid⟩ := validateOrganizationSlug_ok hslug hv
    rcases Slugs.isValidSlug_iff.1 hvalid with hv | ⟨u, hu, -⟩
    · exact hv
    · -- a normalized text does not end with a line feed
      have hstripped : Str.strip v = v := by rw [htext, lower_strip]
      have hlast := (Str.strip_eq_self_iff.1 hstripped).2 '\n' (by rw [hu, List.getLast?_concat])
      exact absurd hlast (by decide)

/-- The request to log in as who has just registered. -/
def RegisterCall.loginRequest (call : RegisterCall security) (slug : Str) : LoginRequest :=
  ⟨slug, call.payload.email, call.payload.password⟩

theorem loginRequest_valid {call : RegisterCall security} {request : RegisterRequest}
    (h : call.payload.validate py emailStr = .ok request) :
    (call.loginRequest (request.resolvedSlug py)).validate py emailStr =
      .ok ⟨request.resolvedSlug py, request.email, request.password⟩ := by
  obtain ⟨-, -, hemail, hpassword⟩ := validate_ok h
  unfold LoginRequest.validate RegisterCall.loginRequest
  rw [hemail, lower_strip_resolvedSlug lower_ascii lower_strip h, (validatePasswordStrength_ok hpassword).1]
  rfl

/-- **Whoever has registered can log in**, with the slug the organization was given and the email and the password of the
request, whatever is registered afterwards. -/
theorem registered_can_log_in (before after : List (Tickets.Label (RegisterCall security))) (i : Nat)
    (t : Tickets.Ticket (RegisterCall security) Registration)
    (ht : (exec (step (registrations py security emailStr)) (State.initial .empty) before).pending[i]? = some t)
    (haccepted : t.write.accepted (exec (step (registrations py security emailStr)) (State.initial .empty) before).store =
      true) (now : Time) :
    ((t.request.loginRequest t.write.organization.slug).validate py emailStr >>= fun payload =>
      login security
        (exec (step (registrations py security emailStr)) (State.initial .empty) (before ++ .commit i :: after)).store
        payload now) = .ok (createAccessToken security now t.write.user) := by
  have hbefore := @registered_exec py security emailStr before
  have hafter := @registered_exec py security emailStr (before ++ .commit i :: after)
  obtain ⟨db, hplan⟩ := hbefore.planned t (List.mem_of_getElem? ht)
  obtain ⟨request, hvalid, hregister⟩ := plan_ok hplan
  obtain ⟨hfresh, hslug, hemail, hhash⟩ := register_ok hregister
  have hgrows := @grows_exec py security emailStr after
    (step (registrations py security emailStr)
      (exec (step (registrations py security emailStr)) (State.initial .empty) before) (.commit i))
  rw [Trace.exec_append, Trace.exec_cons] at hafter ⊢
  have hcommit : (step (registrations py security emailStr)
      (exec (step (registrations py security emailStr)) (State.initial .empty) before) (.commit i)).store =
        t.write.write (exec (step (registrations py security emailStr)) (State.initial .empty) before).store := by
    rw [Tickets.step_commit ht]
    rfl
  rw [hcommit, Registration.write, if_pos haccepted] at hgrows
  -- the two rows that were committed are still there
  have hcredentials : Credentials security _ ⟨t.write.organization.slug, request.email, request.password⟩ t.write.user :=
    { organization := ⟨t.write.organization, hgrows.organizations.subset (by simp), rfl, hfresh.member.symm⟩
      mem := hgrows.users.subset (by simp)
      email := hemail
      password := verifyPassword_hashPassword hhash }
  rw [hslug, loginRequest_valid lower_ascii lower_strip hvalid, ← hslug]
  rcases hafter.consistent.login ⟨t.write.organization.slug, request.email, request.password⟩ now with
    ⟨user, huser, hlogin⟩ | ⟨hnone, -⟩
  · rw [hcredentials.unique hafter.consistent huser]
    exact hlogin
  · exact absurd hcredentials (hnone t.write.user)

end

theorem asciiPython_lower_strip (s : Str) :
    Str.strip (asciiPython.lower (Str.strip s)) = asciiPython.lower (Str.strip s) := by
  obtain ⟨hhead, hlast⟩ := Str.strip_eq_self_iff.1 (Str.strip_strip s)
  have hlower : ∀ c : Char, Str.isSpace c = false → Str.isSpace c.toLower = false := by
    intro c hc
    by_contra hspace
    rw [← (toLower_eq_blank (Bool.eq_true_of_not_eq_false hspace)).1 rfl] at hspace
    exact hspace hc
  refine Str.strip_eq_self_iff.2 ⟨fun x hx => ?_, fun x hx => ?_⟩
  · obtain ⟨c, hc, rfl⟩ := Option.map_eq_some_iff.1 (List.head?_map ▸ hx)
    exact hlower c (hhead c hc)
  · obtain ⟨c, hc, rfl⟩ := Option.map_eq_some_iff.1 (List.getLast?_map ▸ hx)
    exact hlower c (hlast c hc)

theorem registered_can_log_in_acme :
    ((acmeCall.loginRequest "acme".toList).validate asciiPython some >>= fun payload =>
      login plainSecurity
        (exec (step (registrations asciiPython plainSecurity some)) (State.initial .empty)
          ([.read acmeCall] ++ .commit 0 :: [.read acmeCall])).store
        payload 5) = .ok (createAccessToken plainSecurity 5 acmeTicket.write.user) :=
  registered_can_log_in (fun _ _ => rfl) asciiPython_lower_strip [.read acmeCall] [.read acmeCall] 0 acmeTicket rfl
    (by decide) 5

end Accounts
end DataOps

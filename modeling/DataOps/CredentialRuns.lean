import DataOps.DataSourceRuns
/-!
# CredentialRuns — credentials as they are read back

A data source has one row of credentials, whoever sets them at once, and it holds what the last accepted request set: a
reader with the same key gets it back, and a reader with another key an error (`credentials_read_back`).
-/
namespace DataOps
namespace DataSources

open Api (OrganizationId User)
open Schedule (DataSourceId)
open Tickets (State step)
open Trace (Along exec)

section
variable {σ : Type} {py : Backend} {enc : Encryption σ} {settings : Settings}
  {sameMetadata : Members σ → Members σ → Bool}

/-- The token is what a data source's credentials are stored as. -/
def Stored (db : Tables σ enc.Token) (orgId : OrganizationId) (dataSourceId : DataSourceId)
    (encrypted : enc.Token) : Prop :=
  ∃ id row, db.credentials.get? id = some row ∧ row.organizationId = orgId ∧ row.dataSourceId = dataSourceId ∧
    row.encryptedPayload = encrypted

/-- No request for the credentials of a data source commits, unless it is refused. -/
def LeavesCredentials (py : Backend) (sameMetadata : Members σ → Members σ → Bool) (dataSourceId : DataSourceId)
    (s : State (Tables σ enc.Token) (Request σ enc.Nonce) (Write σ enc.Token))
    (l : Tickets.Label (Request σ enc.Nonce)) : Prop :=
  Tickets.Commits (fun s t => t.request.sets = some dataSourceId → t.write.apply py sameMetadata s.store = none) s l

/-- **The row that is stored is the one that is found.** -/
theorem Stored.credentialsOf {db : Tables σ enc.Token} (hdb : Consistent py db) {orgId : OrganizationId}
    {dataSourceId : DataSourceId} {encrypted : enc.Token} (h : Stored db orgId dataSourceId encrypted) :
    ∃ id row, db.credentialsOf orgId dataSourceId = [(id, row)] ∧ row.encryptedPayload = encrypted := by
  obtain ⟨id, row, hrow, horg, hsource, hpayload⟩ := h
  have hmem : (id, row) ∈ db.credentialsOf orgId dataSourceId :=
    List.mem_filter.2 ⟨Dict.mem_of_get?_eq_some hrow, by simp [horg, hsource]⟩
  rw [credentialsOf_eq] at hmem ⊢
  rcases hdb.credentials.holders_le_one orgId dataSourceId none with hnone | ⟨e, hone⟩
  · rw [hnone] at hmem
    cases hmem
  · rw [hone, List.mem_singleton] at hmem
    exact ⟨id, row, hone.trans (congrArg ([·]) hmem.symm), hpayload⟩

/-- Nobody else's organization has any. -/
theorem Stored.credentialsOf_other {db : Tables σ enc.Token} (hdb : Consistent py db) {orgId orgId' : OrganizationId}
    {dataSourceId : DataSourceId} {encrypted : enc.Token} (h : Stored db orgId dataSourceId encrypted)
    (hother : orgId' ≠ orgId) : db.credentialsOf orgId' dataSourceId = [] := by
  obtain ⟨id, row, hrow, rfl, rfl, -⟩ := h
  obtain ⟨source, hsource, horg⟩ := hdb.owned (id, row) (Dict.mem_of_get?_eq_some hrow)
  refine List.filter_eq_nil_iff.2 (fun e he hp => hother ?_)
  obtain ⟨horg', hsame⟩ := of_decide_eq_true hp
  obtain ⟨source', hsource', howner⟩ := hdb.owned e he
  rw [hsame, hsource, Option.some.injEq] at hsource'
  rw [← horg', ← howner, ← hsource', horg]

/-- **A commit leaves the credentials of the data sources it is not about.** -/
theorem Stored.apply {db db' : Tables σ enc.Token} {r : Request σ enc.Nonce} {w : Write σ enc.Token}
    (hw : Sound py db r w) {orgId : OrganizationId} {dataSourceId : DataSourceId} {encrypted : enc.Token}
    (h : Stored db orgId dataSourceId encrypted) (hother : r.sets ≠ some dataSourceId)
    (happly : w.apply py sameMetadata db = some db') : Stored db' orgId dataSourceId encrypted := by
  obtain ⟨id, row, hrow, horg, hsource, hpayload⟩ := h
  rcases w.apply_cases happly with ⟨_, _, rfl, -, -, rfl⟩ | ⟨_, _, _, _, rfl, -, -, rfl⟩ |
    ⟨id', row', _, rfl, hnone, -, -, -, rfl⟩ | ⟨id', payload, version, current, rfl, hcurrent, rfl⟩
  · exact ⟨id, row, hrow, horg, hsource, hpayload⟩
  · exact ⟨id, row, hrow, horg, hsource, hpayload⟩
  · have hne : id' ≠ id := fun heq => by
      rw [heq, hrow] at hnone
      cases hnone
    exact ⟨id, row, (Dict.get?_set _ _ _ _).trans ((if_neg hne).trans hrow), horg, hsource, hpayload⟩
  · have hne : id' ≠ id := fun heq => by
      obtain ⟨overwritten, hoverwritten, hsets⟩ := hw
      rw [heq, hrow, Option.some.injEq] at hoverwritten
      rw [← hoverwritten, hsource] at hsets
      exact hother hsets
    exact ⟨id, row, (Dict.get?_set _ _ _ _).trans ((if_neg hne).trans hrow), horg, hsource, hpayload⟩

theorem stored_exec {s : State (Tables σ enc.Token) (Request σ enc.Nonce) (Write σ enc.Token)} (hs : Kept py s)
    {orgId : OrganizationId} {dataSourceId : DataSourceId} {encrypted : enc.Token}
    (h : Stored s.store orgId dataSourceId encrypted) (ls : List (Tickets.Label (Request σ enc.Nonce)))
    (hleaves : Along (step (endpoints py enc settings sameMetadata))
      (LeavesCredentials py sameMetadata dataSourceId) s ls) :
    Stored (exec (step (endpoints py enc settings sameMetadata)) s ls).store orgId dataSourceId encrypted := by
  refine (Trace.exec_invariant_along _ (I := fun s => Kept py s ∧ Stored s.store orgId dataSourceId encrypted)
    (fun s l hI hl => ⟨hI.1.step l, ?_⟩) ls s ⟨hs, h⟩ hleaves).2
  rcases Tickets.step_cases (endpoints py enc settings sameMetadata) s l with heq | ⟨r, w, hplan, heq⟩ |
    ⟨i, t, rfl, hi, heq⟩ | ⟨i, heq⟩ <;> rw [heq]
  · exact hI.2
  · exact hI.2
  · show Stored ((t.write.apply py sameMetadata s.store).getD s.store) orgId dataSourceId encrypted
    cases happly : t.write.apply py sameMetadata s.store with
    | none => exact hI.2
    | some db' =>
      refine hI.2.apply (hI.1.pending t (List.mem_of_getElem? hi)).sound (fun hsets => ?_) happly
      rw [hl i t rfl hi hsets] at happly
      cases happly
  · exact hI.2

/-! ## Setting credentials -/

/-- What a pending request for credentials will store, and for whom. -/
def Encrypts (enc : Encryption σ) (settings : Settings) (db : Tables σ enc.Token) :
    Request σ enc.Nonce → Write σ enc.Token → Prop
  | .setCredentials dataSourceId credentials currentUser _ nonce, w =>
    ∃ encrypted, encryptCredentials enc settings nonce credentials = .ok encrypted ∧
      (∃ source, db.dataSources.get? dataSourceId = some source ∧ source.organizationId = currentUser.organizationId) ∧
      ((∃ id, w = .updateCredential id encrypted currentKeyVersion) ∨
        ∃ id, w = .insertCredential id ⟨currentUser.organizationId, dataSourceId, encrypted, currentKeyVersion⟩)
  | _, _ => True

theorem Encrypts.apply {db db' : Tables σ enc.Token} {r : Request σ enc.Nonce} {w w' : Write σ enc.Token}
    (h : Encrypts enc settings db r w) (happly : w'.apply py sameMetadata db = some db') :
    Encrypts enc settings db' r w := by
  cases r with
  | setCredentials dataSourceId credentials currentUser id nonce =>
    obtain ⟨encrypted, hencrypted, ⟨source, hsource, horg⟩, hw⟩ := h
    obtain ⟨source', hsource', horg'⟩ := w'.apply_source happly hsource
    exact ⟨encrypted, hencrypted, ⟨source', hsource', horg'.trans horg⟩, hw⟩
  | _ => trivial

theorem encrypts_exec (ls : List (Tickets.Label (Request σ enc.Nonce))) :
    ∀ t ∈ (exec (step (endpoints py enc settings sameMetadata)) (State.initial .empty) ls).pending,
      Encrypts enc settings (exec (step (endpoints py enc settings sameMetadata))
        (State.initial .empty) ls).store t.request
        t.write := by
  refine (Trace.exec_invariant _
    (I := fun s => Kept py s ∧ ∀ t ∈ s.pending, Encrypts enc settings s.store t.request t.write)
    (fun s l hI => ⟨hI.1.step l, ?_⟩) ls _ ⟨.initial, fun t ht => by cases ht⟩).2
  rcases Tickets.step_cases (endpoints py enc settings sameMetadata) s l with heq | ⟨r, w, hplan, heq⟩ |
    ⟨i, t, rfl, hi, heq⟩ | ⟨i, heq⟩ <;> rw [heq]
  · exact hI.2
  · intro t ht
    rcases List.mem_append.1 ht with hold | hnew
    · exact hI.2 t hold
    · rw [List.mem_singleton.1 hnew]
      cases r with
      | setCredentials dataSourceId credentials currentUser id nonce =>
        obtain ⟨encrypted, source, hencrypted, hsource, horg, ⟨existing, _, hw, -, -⟩ | ⟨hw, -⟩⟩ :=
          setDataSourceCredentials_ok hI.1.consistent hplan
        · exact ⟨encrypted, hencrypted, ⟨source, hsource, horg⟩, .inl ⟨existing, hw⟩⟩
        · exact ⟨encrypted, hencrypted, ⟨source, hsource, horg⟩, .inr ⟨id, hw⟩⟩
      | _ => trivial
  · intro t' ht'
    have hold := hI.2 t' (List.mem_of_mem_eraseIdx ht')
    show Encrypts enc settings ((t.write.apply py sameMetadata s.store).getD s.store) t'.request t'.write
    cases happly : t.write.apply py sameMetadata s.store with
    | none => exact hold
    | some db' => exact hold.apply happly
  · exact fun t' ht' => hI.2 t' (List.mem_of_mem_eraseIdx ht')

theorem encryptCredentials_ok {nonce : enc.Nonce} {credentials : Members σ} {encrypted : enc.Token}
    (h : encryptCredentials enc settings nonce credentials = .ok encrypted) :
    ∃ key, getFernet enc settings = .ok key ∧ encrypted = enc.encrypt key nonce (enc.dumps (.object credentials)) := by
  unfold encryptCredentials at h
  obtain ⟨key, hkey, h⟩ := Schedule.bind_eq_ok h
  exact ⟨key, hkey, (Except.ok.inj h).symm⟩

/-- **Reading what was encrypted**: the credentials with the key they were encrypted with, an error with any other. -/
theorem decryptCredentials_encrypt {nonce : enc.Nonce} {credentials : Members σ} {encrypted : enc.Token}
    (h : encryptCredentials enc settings nonce credentials = .ok encrypted) (reader : Settings) :
    (getFernet enc reader = getFernet enc settings → decryptCredentials enc reader encrypted = .ok (.object credentials)) ∧
      (getFernet enc reader ≠ getFernet enc settings → ∃ e, decryptCredentials enc reader encrypted = .error e) := by
  obtain ⟨key, hkey, rfl⟩ := encryptCredentials_ok h
  unfold decryptCredentials
  refine ⟨fun hsame => ?_, fun hother => ?_⟩
  · rw [hsame, hkey]
    simp only [bind, Except.bind, enc.decrypt_encrypt, enc.loads_dumps, Option.elim_some]
  · cases hreader : getFernet enc reader with
    | error e => exact ⟨e, rfl⟩
    | ok key' =>
      have hne : key ≠ key' := fun heq => hother (by rw [hreader, hkey, heq])
      refine ⟨.wrongKeyOrCorrupted, ?_⟩
      simp only [bind, Except.bind, enc.decrypt_other key key' _ _ hne]

/-- **An accepted request stores its credentials**, under its user's organization. -/
theorem Encrypts.stored {db db' : Tables σ enc.Token} (hdb : Consistent py db) {dataSourceId : DataSourceId}
    {credentials : Members σ} {currentUser : User} {id : CredentialId} {nonce : enc.Nonce} {w : Write σ enc.Token}
    (h : Encrypts enc settings db (.setCredentials dataSourceId credentials currentUser id nonce) w)
    (hw : Sound py db (.setCredentials dataSourceId credentials currentUser id nonce) w)
    (happly : w.apply py sameMetadata db = some db') : ∃ encrypted,
      encryptCredentials enc settings nonce credentials = .ok encrypted ∧
      Stored db' currentUser.organizationId dataSourceId encrypted := by
  obtain ⟨encrypted, hencrypted, ⟨source, hsource, horg⟩, ⟨existing, rfl⟩ | ⟨id', rfl⟩⟩ := h
  · obtain ⟨row, hrow, hsets⟩ := hw
    obtain ⟨source', hsource', horg'⟩ := hdb.owned (existing, row) (Dict.mem_of_get?_eq_some hrow)
    have hsame : row.dataSourceId = dataSourceId := (Option.some.inj hsets).symm
    rw [show (existing, row).2.dataSourceId = dataSourceId from hsame, hsource, Option.some.injEq] at hsource'
    simp only [Write.apply, hrow, Option.some.injEq] at happly
    rw [← happly]
    exact ⟨encrypted, hencrypted, existing, _, (Dict.get?_set _ _ _ _).trans (if_pos rfl),
      by rw [← horg, hsource', horg'], hsame, rfl⟩
  · simp only [Write.apply] at happly
    split at happly
    · cases happly
      exact ⟨encrypted, hencrypted, id', _, (Dict.get?_set _ _ _ _).trans (if_pos rfl), rfl, rfl, rfl⟩
    · cases happly

/-- **Credentials that were accepted are read back** until others are: exactly as they were set by a reader with the same
key, not at all by one with another, and for no other organization. -/
theorem credentials_read_back (py : Backend) (enc : Encryption σ) (settings : Settings)
    (sameMetadata : Members σ → Members σ → Bool) (before after : List (Tickets.Label (Request σ enc.Nonce))) (i : Nat)
    (dataSourceId : DataSourceId) (credentials : Members σ) (currentUser : User) (id : CredentialId) (nonce : enc.Nonce)
    (w : Write σ enc.Token) (seen : Nat)
    (ht : (exec (step (endpoints py enc settings sameMetadata)) (State.initial .empty) before).pending[i]? =
      some ⟨.setCredentials dataSourceId credentials currentUser id nonce, w, seen⟩)
    (haccepted : w.apply py sameMetadata
      (exec (step (endpoints py enc settings sameMetadata)) (State.initial .empty) before).store ≠ none)
    (hafter : Along (step (endpoints py enc settings sameMetadata)) (LeavesCredentials py sameMetadata dataSourceId)
      (exec (step (endpoints py enc settings sameMetadata)) (State.initial .empty) (before ++ [.commit i])) after)
    (reader : Settings) :
    let db := (exec (step (endpoints py enc settings sameMetadata)) (State.initial .empty)
      (before ++ [.commit i] ++ after)).store
    (getFernet enc reader = getFernet enc settings →
      getCredentials enc reader db currentUser.organizationId dataSourceId = .ok (.object credentials)) ∧
    (getFernet enc reader ≠ getFernet enc settings →
      ∃ e, getCredentials enc reader db currentUser.organizationId dataSourceId = .error (.encryption e)) ∧
    ∀ orgId, orgId ≠ currentUser.organizationId →
      getCredentials enc reader db orgId dataSourceId = .error (.notFound dataSourceId) := by
  intro db
  have hkept := @kept_exec σ py enc settings sameMetadata before
  have hpending := hkept.pending _ (List.mem_of_getElem? ht)
  have hencrypts := @encrypts_exec σ py enc settings sameMetadata before _ (List.mem_of_getElem? ht)
  obtain ⟨db', happly⟩ := Option.ne_none_iff_exists'.1 haccepted
  obtain ⟨encrypted, hencrypted, hstored⟩ := hencrypts.stored hkept.consistent hpending.sound happly
  have hcommit : (exec (step (endpoints py enc settings sameMetadata)) (State.initial .empty)
    (before ++ [.commit i])).store =
      db' := by
    rw [Trace.exec_concat, Tickets.step_commit ht]
    show (w.apply py sameMetadata _).getD _ = db'
    rw [happly, Option.getD_some]
  rw [← hcommit] at hstored
  have hfinal : Stored db currentUser.organizationId dataSourceId encrypted := by
    have h := stored_exec (kept_exec (before ++ [.commit i])) hstored after hafter
    rw [← Trace.exec_append] at h
    exact h
  have hdb : Consistent py db := (kept_exec (before ++ [.commit i] ++ after)).consistent
  obtain ⟨hsame, hother⟩ := decryptCredentials_encrypt hencrypted reader
  obtain ⟨rowId, row, hrows, rfl⟩ := hfinal.credentialsOf hdb
  refine ⟨fun hkey => ?_, fun hkey => ?_, fun orgId horg => ?_⟩
  · simp only [getCredentials, hrows, hsame hkey, Except.mapError]
  · obtain ⟨e, he⟩ := hother hkey
    exact ⟨e, by simp only [getCredentials, hrows, he, Except.mapError]⟩
  · simp only [getCredentials, hfinal.credentialsOf_other hdb horg]

end

/-! ## Two requests for the first credentials -/

def ada : User := ⟨1, 1, "ada@acme.test", none, true⟩

/-- One member of that name. -/
def named (text : Str) : Members Unit := [(text, .scalar ())]

/-- A data source is created, and two requests read it before either commits its credentials. -/
def firstCredentials : List (Tickets.Label (Request Unit plainEncryption.Nonce)) :=
  [.read (.create ⟨"Sales".toList, .postgres, []⟩ ada 1), .commit 0,
    .read (.setCredentials 1 (named "first".toList) ada 1 ()), .read (.setCredentials 1 (named "second".toList) ada 2 ())]

theorem credentials_read_back_first :
    getCredentials plainEncryption keyed
      (exec (step (endpoints asciiBackend plainEncryption keyed (fun _ _ => false))) (State.initial .empty)
        (firstCredentials ++ [.commit 0] ++ [.commit 0])).store 1 1 = .ok (.object (named "first".toList)) :=
  (credentials_read_back asciiBackend plainEncryption keyed (fun _ _ => false) firstCredentials [.commit 0] 0 1
    (named "first".toList) ada 1 ()
    (.insertCredential 1 ⟨1, 1, ("key".toList, .object (named "first".toList)), currentKeyVersion⟩) 1 rfl
    (fun h => by cases h)
    ⟨fun i t hi ht _ => by
      cases hi
      cases ht
      rfl, trivial⟩ keyed).1 rfl

end DataSources
end DataOps

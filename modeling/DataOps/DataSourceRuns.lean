import DataOps.DataSourceWrites
/-!
# DataSourceRuns — names that stay unique, whoever creates and renames

What a request is told by `_name_taken` may be out of date when it commits, and then the index refuses it: every name is
held once (`names_kept`), and a commit is refused only after another has taken the name, or set the credentials, in
between, or for a name that Python, which asks, and PostgreSQL, which answers, lower-case differently
(`refused_only_overtaken`).
-/
namespace DataOps
namespace DataSources

open Api (OrganizationId User)
open Registry (holders)
open Schedule (DataSourceId sqlTrim)
open Tickets (State step)
open Trace (exec)

section
variable {σ : Type} {py : Backend} {enc : Encryption σ} {settings : Settings}
  {sameMetadata : Members σ → Members σ → Bool}

/-! ## Every run -/

/-- A committed write takes what a pending one is about to take. -/
def Write.Overtakes {Token : Type} (py : Backend) (w w' : Write σ Token) : Prop :=
  (∃ n, w.takes py = some n ∧ w'.takes py = some n) ∨ ∃ dataSourceId, w.adds = some dataSourceId ∧
    w'.adds = some dataSourceId

/-- A pending request, as the tables are when it commits. -/
structure Pending (py : Backend) (db : Tables σ enc.Token) (history : List (Write σ enc.Token))
    (t : Tickets.Ticket (Request σ enc.Nonce) (Write σ enc.Token)) : Prop where
  seen  : t.seen ≤ history.length
  sound : Sound py db t.request t.write
  free  : (∀ w ∈ history.drop t.seen, ¬ w.Overtakes py t.write) → t.write.Free py db

structure Kept (py : Backend) (s : State (Tables σ enc.Token) (Request σ enc.Nonce) (Write σ enc.Token)) : Prop where
  consistent : Consistent py s.store
  pending    : ∀ t ∈ s.pending, Pending py s.store s.history t

/-- **A commit, refused or not, leaves the pending requests as they were.** -/
theorem Pending.commit {db : Tables σ enc.Token} (hdb : Consistent py db) {history : List (Write σ enc.Token)}
    {t t' : Tickets.Ticket (Request σ enc.Nonce) (Write σ enc.Token)} (ht : Sound py db t.request t.write)
    (h : Pending py db history t') :
    Pending py ((t.write.apply py sameMetadata db).getD db) (history ++ [t.write]) t' := by
  refine ⟨?_, ?_, fun hno => ?_⟩
  · rw [List.length_append]
    exact Nat.le_trans h.seen (Nat.le_add_right _ _)
  · cases happly : t.write.apply py sameMetadata db with
    | none => exact h.sound
    | some db' => exact h.sound.apply happly
  · rw [Tickets.drop_concat_of_le h.seen] at hno
    have hfree := h.free (fun w hw => hno w (List.mem_append_left _ hw))
    have hlast := hno t.write (List.mem_append_right _ (List.mem_singleton_self _))
    cases happly : t.write.apply py sameMetadata db with
    | none => exact hfree
    | some db' =>
      exact hfree.apply hdb ht happly (fun n hn hn' => hlast (.inl ⟨n, hn, hn'⟩))
        (fun d hd hd' => hlast (.inr ⟨d, hd, hd'⟩))

theorem Kept.step {s : State (Tables σ enc.Token) (Request σ enc.Nonce) (Write σ enc.Token)} (h : Kept py s)
    (l : Tickets.Label (Request σ enc.Nonce)) : Kept py (step (endpoints py enc settings sameMetadata) s l) := by
  rcases Tickets.step_cases (endpoints py enc settings sameMetadata) s l with heq | ⟨r, w, hplan, heq⟩ |
    ⟨i, t, rfl, hi, heq⟩ | ⟨i, heq⟩ <;> rw [heq]
  · exact h
  · refine ⟨h.consistent, fun t ht => ?_⟩
    rcases List.mem_append.1 ht with hold | hnew
    · exact h.pending t hold
    · obtain ⟨hsound, hfree⟩ := plan_sound h.consistent hplan
      rw [List.mem_singleton.1 hnew]
      exact ⟨Nat.le_refl _, hsound, fun _ => hfree⟩
  · have ht := (h.pending t (List.mem_of_getElem? hi)).sound
    refine ⟨?_, fun t' ht' => (h.pending t' (List.mem_of_mem_eraseIdx ht')).commit h.consistent ht⟩
    show Consistent py ((t.write.apply py sameMetadata s.store).getD s.store)
    cases happly : t.write.apply py sameMetadata s.store with
    | none => exact h.consistent
    | some db' => exact h.consistent.apply ht happly
  · exact ⟨h.consistent, fun t ht => h.pending t (List.mem_of_mem_eraseIdx ht)⟩

theorem Kept.initial :
    Kept py (State.initial .empty : State (Tables σ enc.Token) (Request σ enc.Nonce) (Write σ enc.Token)) where
  consistent := ⟨Registry.unambiguous_nil, fun e he => (by cases he), Registry.unambiguous_nil, fun e he => (by cases he)⟩
  pending := fun t ht => by cases ht

theorem kept_exec (ls : List (Tickets.Label (Request σ enc.Nonce))) :
    Kept py (exec (step (endpoints py enc settings sameMetadata)) (State.initial .empty) ls) :=
  Trace.exec_invariant _ (fun _ l h => h.step l) ls _ .initial

/-- **However the requests interleave, the active data sources of an organization differ in their names, whatever their
case in the database, and the check of a name tells exactly whether one has it**, as Python lower-cases it: it never
meets two. -/
theorem names_kept (py : Backend) (enc : Encryption σ) (settings : Settings) (sameMetadata : Members σ → Members σ → Bool)
    (ls : List (Tickets.Label (Request σ enc.Nonce))) :
    let db := (exec (step (endpoints py enc settings sameMetadata)) (State.initial .empty) ls).store
    (∀ e ∈ db.dataSources, ∀ e' ∈ db.dataSources, e.2.isActive = true → e'.2.isActive = true →
      e.2.organizationId = e'.2.organizationId → py.sqlLower e.2.name = py.sqlLower e'.2.name → e.1 = e'.1) ∧
    ∀ orgId name excludeId, ∃ taken, nameTaken py db orgId name excludeId = .ok taken ∧
      (taken = true ↔ ∃ e ∈ db.dataSources, e.2.organizationId = orgId ∧ py.sqlLower e.2.name = py.lower name.strip ∧
        e.2.isActive = true ∧ some e.1 ≠ excludeId) := by
  intro db
  have hdb : Consistent py db := (kept_exec ls).consistent
  have hname : ∀ e ∈ db.dataSources, (naming py).name e.2 = py.sqlLower e.2.name :=
    fun e he => congrArg py.sqlLower (sqlTrim_of_strip (hdb.rows e he).name.1)
  refine ⟨fun e he e' he' hactive hactive' horg hsame => ?_, fun orgId name excludeId => ⟨_, hdb.nameTaken _ _ _, ?_⟩⟩
  · exact hdb.names.one e he e' he' hactive hactive' horg ((hname e he).trans (hsame.trans (hname e' he').symm))
  · rw [Bool.not_eq_true', ← Bool.not_eq_true, List.isEmpty_iff, Registry.holders_eq_nil_iff]
    push Not
    refine exists_congr (fun e => and_congr_right (fun he => ?_))
    rw [hname e he]
    rfl

/-! ## Commits that are refused -/

/-- The id drawn for a new row is new. -/
def Write.Fresh {Token : Type} (db : Tables σ Token) : Write σ Token → Prop
  | .insert id _           => db.dataSources.get? id = none
  | .insertCredential id _ => db.credentials.get? id = none
  | _                      => True

/-- **What a check still knows is enough**: the constraints accept the write. -/
theorem Consistent.accepts {db : Tables σ enc.Token} (hdb : Consistent py db) {r : Request σ enc.Nonce}
    {w : Write σ enc.Token} (hw : Sound py db r w) (hfree : w.Free py db) (hfresh : w.Fresh db)
    (halike : ∀ name, w.names = some name → py.Alike name) : ∃ db', w.apply py sameMetadata db = some db' := by
  cases w with
  | insert id row =>
    have hname : row.clashes py id db.dataSources = false := by
      refine clashes_eq_false_iff.2 (fun _ => Registry.holders_eq_nil_iff.2 (fun e he howner hname hactive => ?_))
      cases Registry.holders_eq_nil_iff.1 (hfree.name halike _ rfl) e he howner hname hactive
    exact ⟨_, if_pos ⟨hfresh, hname⟩⟩
  | update id loaded edited =>
    obtain ⟨-, hedits, current, hcurrent, horg⟩ := hw
    have hname : (current.updated sameMetadata loaded edited).clashes py id db.dataSources = false := by
      refine clashes_eq_false_iff.2 (fun (hactive : (current.updated sameMetadata loaded edited).isActive = true) => ?_)
      rcases updated_name hedits with ⟨-, -, hkeeps⟩ | ⟨hne, hnew⟩
      · rw [hkeeps.owner, hkeeps.name]
        exact hdb.names.others hcurrent (hkeeps.active hactive)
      · have hfree' := hfree.name halike (loaded.organizationId, py.sqlLower (sqlTrim edited.name)) (if_neg hne)
        unfold naming at hfree' ⊢
        dsimp only at hfree' ⊢
        rw [hnew, show (current.updated sameMetadata loaded edited).organizationId = loaded.organizationId from horg]
        exact hfree'
    refine ⟨{ db with dataSources := db.dataSources.set id (current.updated sameMetadata loaded edited) }, ?_⟩
    simp only [Write.apply, hcurrent]
    exact if_pos hname
  | insertCredential id row =>
    obtain ⟨-, source, hsource, horg⟩ := hw
    have howned : (db.dataSources.get? row.dataSourceId).any (fun source => source.organizationId = row.organizationId) =
        true := (Option.any_eq_true _ _).2 ⟨source, hsource, by simpa using horg⟩
    exact ⟨_, if_pos ⟨hfresh, hfree.credential _ rfl, howned⟩⟩
  | updateCredential id payload version =>
    obtain ⟨row, hrow, -⟩ := hw
    exact ⟨{ db with
      credentials := db.credentials.set id { row with encryptedPayload := payload, keyVersion := version } }, by
        simp only [Write.apply, hrow]⟩

/-- Encryption that shows the key and the plaintext. -/
def plainEncryption : Encryption Unit where
  Key := Str
  Nonce := Unit
  Bytes := Json Str Unit
  Token := Str × Json Str Unit
  fernet := some
  encrypt := fun key _ plaintext => (key, plaintext)
  decrypt := fun key token => if token.1 = key then some token.2 else none
  dumps := fun v => v
  loads := some
  decrypt_encrypt := fun _ _ _ => if_pos rfl
  decrypt_other := fun _ _ _ _ h => if_neg h
  loads_dumps := fun _ => rfl

def keyed : Settings := ⟨some "key".toList, true⟩

def twoUsers : List User := [⟨1, 1, "ada@acme.test", none, true⟩, ⟨2, 1, "bob@acme.test", none, false⟩]

/-- Two users create a data source of one name, one of them in capitals, who commits first. -/
def twoCreates : List (Tickets.Label (Request Unit plainEncryption.Nonce)) :=
  List.zipWith (fun user name => .read (.create ⟨name, .s3, []⟩ user user.id)) twoUsers ["SALES".toList,
    "Sales ".toList] ++
    [.commit 0]

def overtakenCreate : Tickets.Ticket (Request Unit plainEncryption.Nonce) (Write Unit plainEncryption.Token) :=
  ⟨.create ⟨"Sales ".toList, .s3, []⟩ ⟨2, 1, "bob@acme.test", none, false⟩ 2,
    .insert 2 ⟨1, "Sales".toList, .s3, [], true, some 2⟩, 0⟩

/-- One data source `ΑΣ`. -/
def greekCreate : List (Tickets.Label (Request Unit plainEncryption.Nonce)) :=
  [.read (.create ⟨['Α', 'Σ'], .s3, []⟩ ⟨1, 1, "ada@acme.test", none, true⟩ 1), .commit 0]

-- the check for another of its name does not find it
example : nameTaken greekBackend
    (exec (step (endpoints greekBackend plainEncryption keyed (fun _ _ => false)))
      (State.initial .empty) greekCreate).store 1
    ['Α', 'Σ'] none = .ok false := rfl

/-! ## What is stored in the clear -/

/-- **No key of any metadata, at any depth, ever looks secret**, whatever is created and changed. -/
theorem metadata_never_secret (py : Backend)
    (lower_ascii : ∀ s : Str, (∀ c ∈ s, c.toNat < 128) → py.lower s = s.map Char.toLower) (enc : Encryption σ)
    (settings : Settings) (sameMetadata : Members σ → Members σ → Bool)
    (ls : List (Tickets.Label (Request σ enc.Nonce))) (e : DataSourceId × DataSource σ)
    (he : e ∈ (exec (step (endpoints py enc settings sameMetadata)) (State.initial .empty) ls).store.dataSources)
    (p : Json.Path Str) (key : Str) (hkey : Json.KeyAt (.object e.2.connectionMetadata) p key) :
    ¬ Secrets.SecretLike py.toPython key :=
  (Secrets.validateConnectionMetadata_ok_iff lower_ascii _).1 ((kept_exec ls).consistent.rows e he).metadata p key hkey

theorem metadata_never_secret_host :
    ¬ Secrets.SecretLike asciiPython "host".toList :=
  metadata_never_secret asciiBackend Secrets.asciiPython_lower_ascii plainEncryption keyed (fun _ _ => false)
    [.read (.create ⟨"Sales".toList, .postgres, [("host".toList, .scalar ())]⟩ ⟨1, 1, "ada@acme.test", none, true⟩ 1),
      .commit 0]
    (1, ⟨1, "Sales".toList, .postgres, [("host".toList, .scalar ())], true, some 1⟩) (List.mem_singleton.2 rfl)
    [.key "host".toList] "host".toList (.here List.mem_cons_self)

end
end DataSources
end DataOps

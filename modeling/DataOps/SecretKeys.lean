import Mathlib.Data.List.Infix
import DataOps.LibJson
import DataOps.LibPython
/-!
# SecretKeys — the screen of connection metadata for keys that look like secrets

`find_secret_like_key` walks a JSON value depth first and builds the path as it goes; it finds the first key that
contains an entry of the denylist, whatever its case (`findSecretLikeKey_eq`).  The path is empty below an empty key too,
so that the next key gets no dot: the path returned is the path of the key exactly where no key of an object under a
root's empty key comes first (`secret_screen_iff`).
-/
namespace DataOps
namespace Secrets

open Json (Path Step KeyAt Located)

/-- `SECRET_KEY_DENYLIST`. -/
def secretKeyDenylist : List Str :=
  ["password", "passwd", "pwd", "secret", "token", "api_key", "apikey", "access_key",
    "accesskey", "private_key", "privatekey",
    "client_secret", "credential", "credentials", "ssh_key", "cert", "certificate", "pem"].map String.toList

/-- `f"[{index}]"`. -/
def bracketed (index : Nat) : Str := '[' :: ((toString index).toList ++ [']'])

section
variable (py : Python) {σ : Type}

/-- `any(bad in key_lower for bad in SECRET_KEY_DENYLIST)`. -/
def looksSecret (key : Str) : Bool := secretKeyDenylist.any (fun bad => decide (bad <:+: py.lower key))

mutual

def findSecretLikeKey : Json Str σ → Str → Option Str
  | .object members, path => findInMembers members path
  | .array items, path    => findInItems 0 items path
  | .scalar _, _          => none

/-- The loop over `value.items()`. -/
def findInMembers : List (Str × Json Str σ) → Str → Option Str
  | [], _                       => none
  | (key, subValue) :: members, path =>
    let currentPath := if path ≠ [] then path ++ '.' :: key else key
    if looksSecret py key = true then some currentPath
    else
      match findSecretLikeKey subValue currentPath with
      | none       => findInMembers members path
      -- `if found:`
      | some found => if found ≠ [] then some found else findInMembers members path

/-- The loop over `enumerate(value)`. -/
def findInItems : Nat → List (Json Str σ) → Str → Option Str
  | _, [], _                   => none
  | index, item :: items, path =>
    match findSecretLikeKey item (path ++ bracketed index) with
    | none       => findInItems (index + 1) items path
    | some found => if found ≠ [] then some found else findInItems (index + 1) items path

end

/-- `_validate_connection_metadata`. -/
def validateConnectionMetadata (v : List (Str × Json Str σ)) : Except Str (List (Str × Json Str σ)) :=
  match findSecretLikeKey py (.object v) [] with
  | none               => .ok v
  | some offendingPath =>
    if offendingPath ≠ [] then
      .error ("connection_metadata field '".toList ++ offendingPath ++
        ("' looks like a secret (password/token/key/etc.). " ++
        "Do not store credentials here — a future encrypted secrets module will handle real credentials.").toList)
    else .ok v

end

/-! ## What is looked for -/

/-- The key contains an entry of the denylist, whatever the case of either. -/
def SecretLike (py : Python) (key : Str) : Prop := ∃ bad ∈ secretKeyDenylist, py.lower bad <:+: py.lower key

instance (py : Python) : DecidablePred (SecretLike py) := fun key =>
  inferInstanceAs (Decidable (∃ bad ∈ secretKeyDenylist, py.lower bad <:+: py.lower key))

/-- What follows a path, one step down. -/
def suffix : Step Str → Str
  | .key k   => '.' :: k
  | .index i => bracketed i

/-- **The dotted path**: `a.b[0].c`. -/
def dotted : Path Str → Str
  | []             => []
  | .key k :: p    => k ++ p.flatMap suffix
  | .index i :: p  => bracketed i ++ p.flatMap suffix

/-- The first key that looks secret, with its path. -/
def firstSecret (py : Python) {σ : Type} (v : Json Str σ) : Option (Located Str) :=
  v.keys.find? (fun e => SecretLike py e.2)

/-- **The screen is complete**: nothing is found exactly where there is nothing to find, and otherwise the path is that
of the first such key. -/
structure ScreenComplete (py : Python) {σ : Type} (v : Json Str σ) : Prop where
  none_iff : findSecretLikeKey py v [] = none ↔ ∀ p key, KeyAt v p key → ¬ SecretLike py key
  first    : ∀ e, firstSecret py v = some e → findSecretLikeKey py v [] = some (dotted e.1)

/-! ## The path as it is built -/

/-- `current_path`, and the path of an item. -/
def extend (path : Str) : Step Str → Str
  | .key k   => if path ≠ [] then path ++ '.' :: k else k
  | .index i => path ++ bracketed i

theorem bracketed_ne_nil (index : Nat) : bracketed index ≠ [] := List.cons_ne_nil _ _

theorem foldl_extend : ∀ (p : Path Str) {path : Str}, path ≠ [] → p.foldl extend path = path ++ p.flatMap suffix
  | [], path, _          => (List.append_nil path).symm
  | .key k :: p, path, h => by
    rw [List.foldl_cons, extend, if_pos h, foldl_extend p (by simp), List.flatMap_cons, List.append_assoc]
    rfl
  | .index i :: p, path, h => by
    rw [List.foldl_cons, extend, foldl_extend p (by simp [h]), List.flatMap_cons, List.append_assoc]
    rfl

/-- Without the dots below an empty key. -/
theorem length_foldl_extend_le (p : Path Str) : (p.foldl extend []).length ≤ (dotted p).length := by
  induction p with
  | nil => exact Nat.le_refl 0
  | cons step p ih =>
    cases step with
    | index i => rw [List.foldl_cons, extend, List.nil_append, foldl_extend p (bracketed_ne_nil i), dotted]
    | key k =>
      rw [List.foldl_cons, extend, if_neg (not_not_intro rfl), dotted]
      by_cases hk : k = []
      · subst hk
        refine Nat.le_trans ih ?_
        cases p with
        | nil => exact Nat.le_refl 0
        | cons step p =>
          cases step with
          | key k => simp [dotted, suffix]
          | index i => simp [dotted, suffix]
      · rw [foldl_extend p hk]

/-- **The path built is the dotted one, unless it begins with an empty key and a key.** -/
theorem foldl_extend_eq_dotted_iff (p : Path Str) :
    p.foldl extend [] = dotted p ↔ ¬ ∃ k q, p = .key [] :: .key k :: q := by
  constructor
  · rintro h ⟨k, q, rfl⟩
    have hle := length_foldl_extend_le (.key k :: q)
    rw [List.foldl_cons, extend, if_neg (not_not_intro rfl)] at h
    rw [h] at hle
    simp [dotted, suffix] at hle
  · intro h
    cases p with
    | nil => rfl
    | cons step p =>
      cases step with
      | index i => rw [List.foldl_cons, extend, List.nil_append, foldl_extend p (bracketed_ne_nil i), dotted]
      | key k =>
        rw [List.foldl_cons, extend, if_neg (not_not_intro rfl), dotted]
        by_cases hk : k = []
        · subst hk
          cases p with
          | nil => rfl
          | cons step p =>
            cases step with
            | key k => exact absurd ⟨k, p, rfl⟩ h
            | index i => rw [List.foldl_cons, extend, List.nil_append, foldl_extend p (bracketed_ne_nil i)]; rfl
        · rw [foldl_extend p hk]

theorem foldl_extend_ne_nil {p : Path Str} {key : Str} (hkey : key ≠ []) (path : Str) :
    (p ++ [Step.key key]).foldl extend path ≠ [] := by
  rw [List.foldl_append, List.foldl_cons, List.foldl_nil, extend]
  split
  · simp
  · exact hkey

/-! ## What is found -/

section
variable {py : Python} {σ : Type}

/-- The first of the located keys that looks secret, as a path built on `path`. -/
def foundIn (py : Python) (path : Str) (l : List (Located Str)) : Option Str :=
  (l.find? (fun e => looksSecret py e.2)).map (fun e => e.1.foldl extend path)

theorem foundIn_under (path : Str) (step : Step Str) (l : List (Located Str)) :
    foundIn py path (l.map (Located.under step)) = foundIn py (extend path step) l := by
  unfold foundIn
  rw [List.find?_map, Option.map_map]
  rfl

theorem foundIn_append (path : Str) (l l' : List (Located Str)) :
    foundIn py path (l ++ l') = (foundIn py path l).or (foundIn py path l') := by
  unfold foundIn
  rw [List.find?_append, Option.map_or]

/-- What is found is no empty path, so that the test for truth loses nothing. -/
theorem foundIn_keys_ne_nil (hempty : looksSecret py [] = false) {v : Json Str σ} {path found : Str}
    (h : foundIn py path v.keys = some found) : found ≠ [] := by
  obtain ⟨⟨p, key⟩, hfind, rfl⟩ := Option.map_eq_some_iff.1 h
  obtain ⟨q, rfl⟩ := ((Json.mem_keys_iff v p key).1 (List.mem_of_find?_eq_some hfind)).exists_eq_concat
  have hsecret := List.find?_some hfind
  refine foldl_extend_ne_nil (fun hnil => ?_) path
  subst hnil
  rw [hempty] at hsecret
  cases hsecret

mutual

/-- **The walk finds the first key that looks secret.** -/
theorem findSecretLikeKey_eq (hempty : looksSecret py [] = false) : ∀ (v : Json Str σ) (path : Str),
    findSecretLikeKey py v path = foundIn py path v.keys
  | .scalar _, path => by rw [findSecretLikeKey, Json.keys]; rfl
  | .array items, path => by rw [findSecretLikeKey, Json.keys, findInItems_eq hempty]
  | .object members, path => by rw [findSecretLikeKey, Json.keys, findInMembers_eq hempty]

theorem findInItems_eq (hempty : looksSecret py [] = false) : ∀ (items : List (Json Str σ)) (index : Nat) (path : Str),
    findInItems py index items path = foundIn py path (Json.itemKeys index items)
  | [], index, path => by rw [findInItems, Json.itemKeys]; rfl
  | item :: items, index, path => by
    rw [findInItems, Json.itemKeys, foundIn_append, foundIn_under, findSecretLikeKey_eq hempty,
      findInItems_eq hempty items]
    rw [show path ++ bracketed index = extend path (.index index) from rfl]
    cases hfound : foundIn py (extend path (.index index)) item.keys with
    | none => rfl
    | some found => exact if_pos (foundIn_keys_ne_nil hempty hfound)

theorem findInMembers_eq (hempty : looksSecret py [] = false) : ∀ (members : List (Str × Json Str σ)) (path : Str),
    findInMembers py members path = foundIn py path (Json.memberKeys members)
  | [], path => by rw [findInMembers, Json.memberKeys]; rfl
  | (key, subValue) :: members, path => by
    rw [findInMembers, Json.memberKeys]
    by_cases hsecret : looksSecret py key = true
    · rw [if_pos hsecret]
      unfold foundIn
      rw [List.find?_cons_of_pos (by exact hsecret)]
      rfl
    · have hskip : foundIn py path (([.key key], key) ::
          ((subValue.keys.map (Located.under (.key key))) ++ Json.memberKeys members)) =
            foundIn py path (subValue.keys.map (Located.under (.key key)) ++ Json.memberKeys members) := by
        unfold foundIn
        rw [List.find?_cons_of_neg (by exact hsecret)]
      rw [if_neg hsecret, hskip, foundIn_append, foundIn_under, findSecretLikeKey_eq hempty,
        findInMembers_eq hempty members, show (if path ≠ [] then path ++ '.' :: key else key) =
          extend path (.key key) from rfl]
      cases hfound : foundIn py (extend path (.key key)) subValue.keys with
      | none => rfl
      | some found => exact if_pos (foundIn_keys_ne_nil hempty hfound)

end

end

/-! ## The screen -/

section
variable {py : Python} {σ : Type}

/-- The members of a root under an empty key: an object that holds a key that looks secret, before which none comes. -/
def UnderEmptyKey (py : Python) {σ : Type} (v : Json Str σ) : Prop :=
  ∃ before members after, v = .object (before ++ ([], .object members) :: after) ∧
    (∀ p key, KeyAt (.object before) p key → ¬ SecretLike py key) ∧ ∃ p key, KeyAt (.object members) p key ∧
      SecretLike py key

/-- A path that begins with a key is one in an object. -/
theorem exists_members_of_keyAt {v : Json Str σ} {k : Str} {p : Path Str} {key : Str} (h : KeyAt v (.key k :: p) key) :
    ∃ members, v = .object members := by
  cases h with
  | here _ => exact ⟨_, rfl⟩
  | member _ _ => exact ⟨_, rfl⟩

theorem firstSecret_object (members before : List (Str × Json Str σ))
    (hbefore : ∀ e ∈ Json.memberKeys before, ¬ SecretLike py e.2) :
    firstSecret py (.object (before ++ members)) = firstSecret py (.object members) := by
  unfold firstSecret
  rw [Json.keys, Json.keys, Json.memberKeys_append, List.find?_append,
    List.find?_eq_none.2 (fun e he => by simpa using hbefore e he), Option.none_or]

theorem firstSecret_cons (k : Str) (w : Json Str σ) (members : List (Str × Json Str σ)) (hk : ¬ SecretLike py k) :
    firstSecret py (.object ((k, w) :: members)) =
      ((firstSecret py w).map (Located.under (.key k))).or (firstSecret py (.object members)) := by
  unfold firstSecret
  rw [Json.keys, Json.memberKeys, List.find?_cons_of_neg (by simpa using hk), List.find?_append, List.find?_map,
    Json.keys]
  rfl

theorem underEmptyKey_of_firstSecret {k : Str} {q : Path Str} {key : Str} :
    ∀ (members before : List (Str × Json Str σ)), (∀ e ∈ Json.memberKeys before, ¬ SecretLike py e.2) →
      firstSecret py (.object members) = some (.key [] :: .key k :: q, key) →
        UnderEmptyKey py (.object (before ++ members))
  | [], _, _, h => by cases h
  | (k₀, w) :: members, before, hbefore, h => by
    by_cases hk : SecretLike py k₀
    · unfold firstSecret at h
      rw [Json.keys, Json.memberKeys, List.find?_cons_of_pos (by simpa using hk)] at h
      cases h
    · rw [firstSecret_cons k₀ w members hk] at h
      cases hw : firstSecret py w with
      | some e =>
        obtain ⟨p', key'⟩ := e
        rw [hw] at h
        cases h
        have hat := (Json.mem_keys_iff w _ _).1 (List.mem_of_find?_eq_some hw)
        obtain ⟨inner, rfl⟩ := exists_members_of_keyAt hat
        have hsecret := List.find?_some hw
        refine ⟨before, inner, members, rfl, fun p key' hkey => ?_, _, _, hat, of_decide_eq_true hsecret⟩
        have hmem := (Json.mem_keys_iff _ _ _).2 hkey
        rw [Json.keys] at hmem
        exact hbefore (p, key') hmem
      | none =>
        rw [hw] at h
        have hkeys : ∀ e ∈ Json.memberKeys (before ++ [(k₀, w)]), ¬ SecretLike py e.2 := by
          intro e he
          rw [Json.memberKeys_append] at he
          rcases List.mem_append.1 he with he | he
          · exact hbefore e he
          · rw [Json.memberKeys, Json.memberKeys, List.append_nil] at he
            rcases List.mem_cons.1 he with rfl | he
            · exact hk
            · obtain ⟨e', he', rfl⟩ := List.mem_map.1 he
              exact fun hsecret => List.find?_eq_none.1 hw e' he' (decide_eq_true hsecret)
        have ih := underEmptyKey_of_firstSecret members (before ++ [(k₀, w)]) hkeys h
        rwa [List.append_assoc] at ih

-- `lower` on ASCII texts
variable (lower_ascii : ∀ s : Str, (∀ c ∈ s, c.toNat < 128) → py.lower s = s.map Char.toLower)
include lower_ascii

theorem looksSecret_iff {key : Str} :
    looksSecret py key = true ↔ SecretLike py key := by
  have hall : secretKeyDenylist.all (fun bad =>
    bad.all (fun c => c.toNat < 128) && decide (bad.map Char.toLower = bad)) = true := by
    decide
  have hlower : ∀ bad ∈ secretKeyDenylist, py.lower bad = bad := by
    intro bad hbad
    obtain ⟨hascii, hmap⟩ := Bool.and_eq_true_iff.1 (List.all_eq_true.1 hall bad hbad)
    rw [lower_ascii bad (by simpa using hascii)]
    exact of_decide_eq_true hmap
  unfold looksSecret SecretLike
  rw [List.any_eq_true]
  constructor
  · rintro ⟨bad, hbad, hin⟩
    exact ⟨bad, hbad, by rw [hlower bad hbad]; exact of_decide_eq_true hin⟩
  · rintro ⟨bad, hbad, hin⟩
    exact ⟨bad, hbad, decide_eq_true (by rwa [hlower bad hbad] at hin)⟩

theorem looksSecret_nil : looksSecret py [] = false := by
  unfold looksSecret
  rw [lower_ascii [] (fun c hc => absurd hc List.not_mem_nil)]
  decide

theorem firstSecret_eq (v : Json Str σ) : firstSecret py v = v.keys.find? (fun e => looksSecret py e.2) := by
  unfold firstSecret
  congr 1
  funext e
  rw [Bool.eq_iff_iff, decide_eq_true_iff, looksSecret_iff lower_ascii]

/-- **Where the first key that looks secret is below a root's empty key and a key.** -/
theorem underEmptyKey_iff (v : Json Str σ) :
    UnderEmptyKey py v ↔ ∃ k q key, firstSecret py v = some (.key [] :: .key k :: q, key) := by
  constructor
  · rintro ⟨before, members, after, rfl, hbefore, p, key, hkey, hsecret⟩
    have hnone : ∀ e ∈ Json.memberKeys before, ¬ SecretLike py e.2 := by
      intro e he
      have hmem : (e.1, e.2) ∈ Json.keys (.object before) := by rwa [Json.keys]
      exact hbefore e.1 e.2 ((Json.mem_keys_iff _ _ _).1 hmem)
    have hnil : ¬ SecretLike py [] := by
      rw [← looksSecret_iff lower_ascii, looksSecret_nil lower_ascii]
      exact Bool.false_ne_true
    rw [firstSecret_object _ _ hnone, firstSecret_cons _ _ _ hnil]
    cases hfirst : firstSecret py (.object members) with
    | none =>
      have hmem := (Json.mem_keys_iff _ _ _).2 hkey
      exact absurd (decide_eq_true hsecret) (List.find?_eq_none.1 hfirst (p, key) hmem)
    | some e =>
      obtain ⟨p', key'⟩ := e
      have hat := (Json.mem_keys_iff _ _ _).1 (List.mem_of_find?_eq_some hfirst)
      cases hat with
      | here _ => exact ⟨_, _, _, rfl⟩
      | member _ _ => exact ⟨_, _, _, rfl⟩
  · rintro ⟨k, q, key, hfirst⟩
    obtain ⟨members, rfl⟩ := exists_members_of_keyAt ((Json.mem_keys_iff _ _ _).1 (List.mem_of_find?_eq_some hfirst))
    exact underEmptyKey_of_firstSecret members [] (fun _ he => absurd he List.not_mem_nil) hfirst

/-- **Nothing is found exactly where no key looks secret.** -/
theorem findSecretLikeKey_eq_none_iff (v : Json Str σ) :
    findSecretLikeKey py v [] = none ↔ ∀ p key, KeyAt v p key → ¬ SecretLike py key := by
  rw [findSecretLikeKey_eq (looksSecret_nil lower_ascii), foundIn, Option.map_eq_none_iff, List.find?_eq_none]
  constructor
  · intro h p key hkey hsecret
    exact h (p, key) ((Json.mem_keys_iff v p key).2 hkey) ((looksSecret_iff lower_ascii).2 hsecret)
  · intro h e he hlooks
    exact h e.1 e.2 ((Json.mem_keys_iff v e.1 e.2).1 he) ((looksSecret_iff lower_ascii).1 hlooks)

/-- **The screen is complete, and names the first key that looks secret by its path, exactly where that key is not below a
root's empty key and a key.** -/
theorem secret_screen_iff (v : Json Str σ) : ScreenComplete py v ↔ ¬ UnderEmptyKey py v := by
  have hfound := fun e (he : firstSecret py v = some e) => show findSecretLikeKey py v [] = some (e.1.foldl extend []) by
    rw [findSecretLikeKey_eq (looksSecret_nil lower_ascii), foundIn, ← firstSecret_eq lower_ascii, he]
    rfl
  rw [underEmptyKey_iff lower_ascii]
  constructor
  · rintro hscreen ⟨k, q, key, hfirst⟩
    have hpath := Option.some.inj ((hfound _ hfirst).symm.trans (hscreen.first _ hfirst))
    exact (foldl_extend_eq_dotted_iff _).1 hpath ⟨k, q, rfl⟩
  · intro hnot
    refine ⟨findSecretLikeKey_eq_none_iff lower_ascii v, fun e he => ?_⟩
    rw [hfound e he, (foldl_extend_eq_dotted_iff e.1).2]
    rintro ⟨k, q, hpath⟩
    exact hnot ⟨k, q, e.2, by rw [he, ← hpath]⟩

/-- **Metadata is refused exactly when one of its keys, at any depth, looks secret.** -/
theorem validateConnectionMetadata_ok_iff (v : List (Str × Json Str σ)) :
    validateConnectionMetadata py v = .ok v ↔ ∀ p key, KeyAt (.object v) p key → ¬ SecretLike py key := by
  rw [← findSecretLikeKey_eq_none_iff lower_ascii]
  unfold validateConnectionMetadata
  cases hfound : findSecretLikeKey py (.object v) [] with
  | none => exact iff_of_true rfl rfl
  | some found =>
    rw [findSecretLikeKey_eq (looksSecret_nil lower_ascii)] at hfound
    have hne := foundIn_keys_ne_nil (looksSecret_nil lower_ascii) hfound
    dsimp only
    rw [if_pos hne]
    exact iff_of_false (fun h => by cases h) (fun h => by cases h)

end

/-! ## An empty key -/

theorem asciiPython_lower_ascii (s : Str) (_ : ∀ c ∈ s, c.toNat < 128) : asciiPython.lower s = s.map Char.toLower := rfl

/-- A key that looks secret, in an object under an empty key. -/
def emptyKeyed : Json Str Unit := .object [([], .object [("password".toList, .scalar ())])]

/-- **The path returned is that of a key of the root.** -/
theorem emptyKeyed_not_complete : findSecretLikeKey asciiPython emptyKeyed [] = some "password".toList ∧
    ¬ ScreenComplete asciiPython emptyKeyed := by
  have hfound : findSecretLikeKey asciiPython emptyKeyed [] = some "password".toList := by decide +kernel
  refine ⟨hfound, fun h => ?_⟩
  have hpath := h.first ([.key [], .key "password".toList], "password".toList) (by decide +kernel)
  rw [hfound] at hpath
  exact absurd hpath (by decide)

/-- A key that looks secret, in an array. -/
def nestedKey : Json Str Unit := .object [("auth".toList, .array [.object [("api_key".toList, .scalar ())]])]

theorem secret_screen_iff_nested : ScreenComplete asciiPython nestedKey := by
  refine (secret_screen_iff asciiPython_lower_ascii nestedKey).2 ?_
  rintro ⟨before, members, after, heq, -⟩
  cases before with
  | nil => cases heq
  | cons b before => cases before <;> cases heq

end Secrets
end DataOps

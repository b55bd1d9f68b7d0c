import Mathlib.Algebra.GroupWithZero.Nat
import Mathlib.Data.List.Basic
import Mathlib.Data.List.Induction
import Mathlib.Data.List.Nodup
import Mathlib.Data.List.TakeWhile
/-!
# LibDict — dictionaries that keep their insertion order

A dictionary is its list of entries; `set` overwrites in place or appends, and `push` appends to the list under a key.
`collect` groups a list by a key, and `mem_collect` says what it holds: under each key that occurs, the elements with
that key, in their order.
-/
namespace DataOps

universe u v

/-- Entries in insertion order. -/
abbrev Dict (κ : Type u) (α : Type v) := List (κ × α)

namespace Dict

variable {κ : Type u} {α : Type v} [DecidableEq κ]

def get? : Dict κ α → κ → Option α
  | [], _          => none
  | (k', v) :: d, k => if k' = k then some v else get? d k

def keys (d : Dict κ α) : List κ := d.map Prod.fst

def values (d : Dict κ α) : List α := d.map Prod.snd

/-- `d[k] = v`. -/
def set : Dict κ α → κ → α → Dict κ α
  | [], k, v            => [(k, v)]
  | (k', v') :: d, k, v => if k' = k then (k', v) :: d else (k', v') :: set d k v

/-- `{key(a): a for a in l}`. -/
def index (key : α → κ) (l : List α) : Dict κ α := l.foldl (fun d a => d.set (key a) a) []

/-- `d.setdefault(k, []).append(a)`. -/
def push : Dict κ (List α) → κ → α → Dict κ (List α)
  | [], k, a            => [(k, [a])]
  | (k', l) :: d, k, a => if k' = k then (k', l ++ [a]) :: d else (k', l) :: push d k a

/-- `d[k] = d.get(k, 0) + 1`. -/
def increment (d : Dict κ Nat) (k : κ) : Dict κ Nat := d.set k ((d.get? k).getD 0 + 1)

/-- How often each key occurs. -/
def tally (ks : List κ) : Dict κ Nat := ks.foldl increment []

/-- The most frequent key; of several, the first in `priority`. -/
def mostFrequent (priority ks : List κ) : Option κ :=
  match (tally ks).values.max? with
  | none          => none
  | some maxCount => priority.find? (fun k => ((tally ks).get? k).getD 0 = maxCount)

/-- A list grouped by a key. -/
def collect (key : α → κ) (l : List α) : Dict κ (List α) := l.foldl (fun d a => d.push (key a) a) []

theorem get?_eq_some_of_mem : ∀ {d : Dict κ α} {k : κ} {v : α}, d.keys.Nodup → (k, v) ∈ d → d.get? k = some v
  | (k', v') :: d, k, v, hnd, hmem => by
    have hnd' := List.nodup_cons.1 hnd
    rcases List.mem_cons.1 hmem with heq | hmem
    · cases heq
      exact if_pos rfl
    · have hne : k' ≠ k := fun heq => hnd'.1 (heq ▸ List.mem_map.2 ⟨(k, v), hmem, rfl⟩)
      rw [get?, if_neg hne]
      exact get?_eq_some_of_mem hnd'.2 hmem

theorem mem_of_get?_eq_some : ∀ {d : Dict κ α} {k : κ} {v : α}, d.get? k = some v → (k, v) ∈ d
  | (k', v') :: d, k, v, h => by
    rw [get?] at h
    split at h
    · rename_i heq
      subst heq
      cases h
      exact List.mem_cons_self
    · exact List.mem_cons_of_mem _ (mem_of_get?_eq_some h)

theorem get?_eq_some_iff {d : Dict κ α} (hnd : d.keys.Nodup) {k : κ} {v : α} : d.get? k = some v ↔ (k, v) ∈ d :=
  ⟨mem_of_get?_eq_some, get?_eq_some_of_mem hnd⟩

theorem get?_eq_none_iff : ∀ {d : Dict κ α} {k : κ}, d.get? k = none ↔ k ∉ d.keys
  | [], k => by simp [get?, keys]
  | (k', v) :: d, k => by
    have ih := get?_eq_none_iff (d := d) (k := k)
    simp only [get?, keys, List.map_cons, List.mem_cons, not_or] at ih ⊢
    by_cases h : k' = k
    · simp [h]
    · rw [if_neg h, ih]
      exact ⟨fun hk => ⟨fun heq => h heq.symm, hk⟩, fun hk => hk.2⟩

theorem get?_set : ∀ (d : Dict κ α) (k : κ) (v : α) (k' : κ),
    (d.set k v).get? k' = if k = k' then some v else d.get? k'
  | [], k, v, k' => rfl
  | (j, w) :: d, k, v, k' => by
    rw [set]
    split
    · rename_i hj
      subst hj
      by_cases h : j = k' <;> simp [get?, h]
    · rename_i hj
      rw [get?, get?, get?_set d k v k']
      by_cases h : j = k'
      · subst h
        rw [if_pos rfl, if_pos rfl, if_neg (fun heq => hj heq.symm)]
      · rw [if_neg h, if_neg h]

theorem set_of_notMem : ∀ {d : Dict κ α} {k : κ} {v : α}, k ∉ d.keys → d.set k v = d ++ [(k, v)]
  | [], _, _, _ => rfl
  | (k', w) :: d, k, v, h => by
    have hne : k' ≠ k := fun heq => h (heq ▸ List.mem_cons_self)
    have hd : k ∉ keys d := fun hk => h (List.mem_cons_of_mem _ hk)
    rw [set, if_neg hne, set_of_notMem hd, List.cons_append]

/-- **An index on distinct keys is the list.** -/
theorem index_eq_map {key : α → κ} {l : List α} (h : (l.map key).Nodup) : index key l = l.map (fun a => (key a, a)) := by
  unfold index
  induction l using List.reverseRecOn with
  | nil => rfl
  | append_singleton l a ih =>
    rw [List.map_append, List.nodup_append] at h
    obtain ⟨hl, -, hdisjoint⟩ := h
    rw [List.foldl_append, ih hl, List.map_append]
    refine set_of_notMem (fun hmem => ?_)
    rw [keys, List.map_map] at hmem
    exact hdisjoint _ hmem _ (List.mem_singleton_self _) rfl

theorem get?_index {key : α → κ} {l : List α} (h : (l.map key).Nodup) {a : α} (ha : a ∈ l) :
    (index key l).get? (key a) = some a := by
  have hkeys : (index key l).keys = l.map key := by
    rw [index_eq_map h, keys, List.map_map]
    rfl
  refine get?_eq_some_of_mem (hkeys ▸ h) ?_
  rw [index_eq_map h]
  exact List.mem_map_of_mem ha

/-! ## Counting -/

theorem getD_get?_increment (d : Dict κ Nat) (k k' : κ) :
    ((d.increment k).get? k').getD 0 = (d.get? k').getD 0 + if k = k' then 1 else 0 := by
  unfold increment
  rw [get?_set]
  by_cases h : k = k'
  · subst h
    simp
  · simp [h]

theorem get?_tally (ks : List κ) (k : κ) : ((tally ks).get? k).getD 0 = ks.count k := by
  unfold tally
  induction ks using List.reverseRecOn with
  | nil => rfl
  | append_singleton ks k' ih =>
    rw [List.foldl_append, List.foldl_cons, List.foldl_nil, getD_get?_increment, ih, List.count_append,
      List.count_singleton]
    by_cases h : k' = k <;> simp [h]

theorem keys_set : ∀ (d : Dict κ α) (k : κ) (v : α), (d.set k v).keys = if k ∈ d.keys then d.keys else d.keys ++ [k]
  | [], k, v => by simp [set, keys]
  | (k', w) :: d, k, v => by
    have ih := keys_set d k v
    simp only [set, keys] at ih ⊢
    by_cases h : k' = k
    · simp [h]
    · have h' : ¬ k = k' := fun heq => h heq.symm
      rw [if_neg h, List.map_cons, ih]
      by_cases hk : k ∈ d.map Prod.fst <;> simp [hk, h']

theorem nodup_keys_set {d : Dict κ α} (h : d.keys.Nodup) (k : κ) (v : α) : (d.set k v).keys.Nodup := by
  rw [keys_set]
  split
  · exact h
  · rename_i hk
    exact h.append (List.nodup_singleton k) (List.disjoint_singleton.2 hk)

theorem nodup_keys_tally (ks : List κ) : (tally ks).keys.Nodup := by
  unfold tally
  induction ks using List.reverseRecOn with
  | nil => exact List.nodup_nil
  | append_singleton ks k ih =>
    rw [List.foldl_append]
    exact nodup_keys_set ih _ _

theorem mem_keys_tally {ks : List κ} {k : κ} : k ∈ (tally ks).keys ↔ k ∈ ks := by
  unfold tally
  induction ks using List.reverseRecOn with
  | nil => exact Iff.rfl
  | append_singleton ks k' ih =>
    rw [List.foldl_append, List.foldl_cons, List.foldl_nil, List.mem_append, List.mem_singleton, ← ih]
    unfold increment
    rw [keys_set]
    split
    · rename_i hmem
      exact ⟨.inl, fun h => h.elim id (fun heq => heq ▸ hmem)⟩
    · rw [List.mem_append, List.mem_singleton]

theorem get?_tally_eq (ks : List κ) (k : κ) : (tally ks).get? k = if k ∈ ks then some (ks.count k) else none := by
  have hcount := get?_tally ks k
  split
  · rename_i hk
    cases hget : (tally ks).get? k with
    | none => exact absurd (mem_keys_tally.2 hk) (get?_eq_none_iff.1 hget)
    | some n =>
      rw [hget] at hcount
      exact congrArg some hcount
  · rename_i hk
    exact get?_eq_none_iff.2 (fun hkeys => hk (mem_keys_tally.1 hkeys))

/-- A tally does not depend on the order of the keys. -/
theorem get?_tally_perm {ks ks' : List κ} (h : ks.Perm ks') (k : κ) : (tally ks).get? k = (tally ks').get? k := by
  rw [get?_tally_eq, get?_tally_eq, h.count_eq]
  simp only [h.mem_iff]

/-- The counts in a tally. -/
theorem mem_values_tally {ks : List κ} {n : Nat} : n ∈ (tally ks).values ↔ ∃ k ∈ ks, n = ks.count k := by
  have hnd := nodup_keys_tally ks
  have hget : ∀ k v, (k, v) ∈ tally ks → v = ks.count k := by
    intro k v hmem
    have h := get?_tally ks k
    rw [get?_eq_some_of_mem hnd hmem] at h
    exact h
  unfold values
  rw [List.mem_map]
  constructor
  · rintro ⟨⟨k, v⟩, hmem, rfl⟩
    exact ⟨k, mem_keys_tally.1 (List.mem_map_of_mem hmem), hget k v hmem⟩
  · rintro ⟨k, hk, rfl⟩
    obtain ⟨⟨k', v⟩, hmem, rfl⟩ := List.mem_map.1 (mem_keys_tally.2 hk)
    exact ⟨(k', v), hmem, hget k' v hmem⟩

theorem sum_values_increment (d : Dict κ Nat) (k : κ) : (d.increment k).values.sum = d.values.sum + 1 := by
  induction d with
  | nil => simp [increment, set, values, get?]
  | cons item d ih =>
    obtain ⟨j, w⟩ := item
    unfold increment values at ih ⊢
    by_cases hj : j = k
    · simp [set, get?, hj]
      omega
    · simp only [set, get?, if_neg hj, List.map_cons, List.sum_cons, ih]
      omega

theorem sum_values_tally (ks : List κ) : (tally ks).values.sum = ks.length := by
  induction ks using List.reverseRecOn with
  | nil => rfl
  | append_singleton ks k ih =>
    have htally : tally (ks ++ [k]) = (tally ks).increment k := by simp [tally]
    rw [htally, sum_values_increment, ih, List.length_append, List.length_singleton]

theorem mem_tally {ks : List κ} {k : κ} {n : Nat} : (k, n) ∈ tally ks ↔ k ∈ ks ∧ n = ks.count k := by
  rw [← get?_eq_some_iff (nodup_keys_tally ks), get?_tally_eq]
  by_cases hmem : k ∈ ks
  · simp [hmem, eq_comm]
  · simp [hmem]

/-- **The first key of `priority` that no key outnumbers.** -/
theorem mostFrequent_eq (priority ks : List κ) :
    mostFrequent priority ks =
      if ks = [] then none else priority.find? (fun k => ∀ k' ∈ ks, ks.count k' ≤ ks.count k) := by
  unfold mostFrequent
  cases hmax : (tally ks).values.max? with
  | none =>
    rw [List.max?_eq_none_iff] at hmax
    have hks : ks = [] := by
      cases ks with
      | nil => rfl
      | cons k ks =>
        have hmem : (k :: ks).count k ∈ (tally (k :: ks)).values := mem_values_tally.2 ⟨k, List.mem_cons_self, rfl⟩
        rw [hmax] at hmem
        cases hmem
    rw [if_pos hks]
  | some maxCount =>
    obtain ⟨hmem, hle⟩ := List.max?_eq_some_iff.1 hmax
    obtain ⟨k, hk, rfl⟩ := mem_values_tally.1 hmem
    have hne : ks ≠ [] := fun h => by rw [h] at hk; cases hk
    rw [if_neg hne]
    refine congrArg (fun p => priority.find? p) (funext (fun k' => ?_))
    rw [get?_tally, decide_eq_decide]
    constructor
    · intro heq k'' hk''
      rw [heq]
      exact hle _ (mem_values_tally.2 ⟨k'', hk'', rfl⟩)
    · intro h
      have hpos : 0 < ks.count k := List.count_pos_iff.2 hk
      have hk' : k' ∈ ks := List.count_pos_iff.1 (Nat.lt_of_lt_of_le hpos (h k hk))
      exact Nat.le_antisymm (hle _ (mem_values_tally.2 ⟨k', hk', rfl⟩)) (h k hk)

/-- A key is outnumbered by none when every key of the list is ranked. -/
theorem exists_mostFrequent {priority ks : List κ} (hne : ks ≠ []) (hranked : ∀ k ∈ ks, k ∈ priority) :
    ∃ k, mostFrequent priority ks = some k := by
  rw [mostFrequent_eq, if_neg hne, ← Option.isSome_iff_exists, List.find?_isSome]
  obtain ⟨m, hm⟩ := Option.isSome_iff_exists.1 (List.isSome_max?_of_ne_nil (l := ks.map ks.count) (by simpa using hne))
  obtain ⟨hmem, hle⟩ := List.max?_eq_some_iff.1 hm
  obtain ⟨k, hk, rfl⟩ := List.mem_map.1 hmem
  exact ⟨k, hranked k hk, decide_eq_true (fun k' hk' => hle _ (List.mem_map_of_mem hk'))⟩

theorem find?_eq_some_iff_takeWhile {p : κ → Bool} {k : κ} : ∀ {l : List κ}, k ∈ l →
    (l.find? p = some k ↔ p k = true ∧ ∀ k' ∈ l.takeWhile (fun k' => k' ≠ k), p k' = false)
  | k' :: l, h => by
    by_cases heq : k' = k
    · subst heq
      rw [List.takeWhile_cons_of_neg (by simp)]
      cases hp : p k' with
      | true => simp [hp]
      | false =>
        rw [List.find?_cons_of_neg (by simp [hp])]
        simp only [Bool.false_eq_true, false_and, iff_false]
        intro hfind
        rw [List.find?_some hfind] at hp
        cases hp
    · have hmem : k ∈ l := (List.mem_cons.1 h).resolve_left (fun h => heq h.symm)
      have ih := find?_eq_some_iff_takeWhile (p := p) hmem
      rw [List.takeWhile_cons_of_pos (by simpa using heq)]
      cases hp : p k' with
      | true =>
        rw [List.find?_cons_of_pos hp]
        simp [heq, hp]
      | false =>
        rw [List.find?_cons_of_neg (by simp [hp]), ih]
        simp [hp]

/-- **When a key that occurs is the most frequent one**: no key is more frequent, and none before it as frequent. -/
theorem mostFrequent_eq_some_iff {priority ks : List κ} (hranked : ∀ k ∈ ks, k ∈ priority) {k : κ} (hk : k ∈ ks) :
    mostFrequent priority ks = some k ↔ (∀ k' ∈ priority, ks.count k' ≤ ks.count k) ∧
      ∀ k' ∈ priority.takeWhile (fun k' => k' ≠ k), ks.count k' < ks.count k := by
  have hne : ks ≠ [] := fun h => by rw [h] at hk; cases hk
  have hmax : (∀ k' ∈ priority, ks.count k' ≤ ks.count k) ↔ ∀ k' ∈ ks, ks.count k' ≤ ks.count k := by
    constructor
    · exact fun h k' hk' => h k' (hranked k' hk')
    · intro h k' _
      by_cases hk' : k' ∈ ks
      · exact h k' hk'
      · rw [List.count_eq_zero_of_not_mem hk']
        exact Nat.zero_le _
  rw [mostFrequent_eq, if_neg hne, find?_eq_some_iff_takeWhile (hranked k hk), hmax]
  simp only [decide_eq_true_eq, decide_eq_false_iff_not]
  refine and_congr_right (fun hall => forall₂_congr (fun k' _ => ?_))
  constructor
  · intro hnot
    rcases Nat.lt_or_ge (ks.count k') (ks.count k) with hlt | hge
    · exact hlt
    · exact absurd (fun k'' hk'' => Nat.le_trans (hall k'' hk'') hge) hnot
  · exact fun hlt h => Nat.lt_irrefl _ (Nat.lt_of_lt_of_le hlt (h k hk))

theorem mostFrequent_perm {priority ks ks' : List κ} (h : ks.Perm ks') :
    mostFrequent priority ks = mostFrequent priority ks' := by
  rw [mostFrequent_eq, mostFrequent_eq]
  have hnil : ks = [] ↔ ks' = [] := ⟨fun hk => (hk ▸ h).nil_eq.symm, fun hk => (hk ▸ h).eq_nil⟩
  have hpred : (fun k => decide (∀ k' ∈ ks, ks.count k' ≤ ks.count k)) =
      fun k => decide (∀ k' ∈ ks', ks'.count k' ≤ ks'.count k) := by
    funext k
    simp only [h.mem_iff, h.count_eq]
  rw [hpred]
  simp only [hnil]

/-- A key would be the most frequent one of a list if it came to it. -/
def Prevails (priority others : List κ) (k : κ) : Prop :=
  (∀ k' ∈ priority, others.count k' ≤ others.count k + 1) ∧
    ∀ k' ∈ priority.takeWhile (fun k' => k' ≠ k), others.count k' ≤ others.count k

theorem mostFrequent_cons_iff (priority others : List κ) (hranked : ∀ k ∈ others, k ∈ priority) {k : κ}
    (hk : k ∈ priority) : mostFrequent priority (k :: others) = some k ↔ Prevails priority others k := by
  have hall : ∀ k' ∈ k :: others, k' ∈ priority := by
    intro k' hk'
    rcases List.mem_cons.1 hk' with rfl | hk'
    · exact hk
    · exact hranked k' hk'
  have hcount : ∀ k', (k :: others).count k' = if k' = k then others.count k + 1 else others.count k' := by
    intro k'
    by_cases heq : k' = k
    · rw [if_pos heq, heq, List.count_cons_self]
    · rw [if_neg heq, List.count_cons_of_ne (fun h => heq h.symm)]
  rw [mostFrequent_eq_some_iff hall List.mem_cons_self, Prevails, hcount k, if_pos rfl]
  refine and_congr (forall₂_congr (fun k' _ => ?_)) (forall₂_congr (fun k' hk' => ?_))
  · rw [hcount]
    by_cases heq : k' = k
    · rw [if_pos heq, heq]
      omega
    · rw [if_neg heq]
  · have heq : k' ≠ k := by simpa using List.mem_takeWhile_imp hk'
    rw [hcount, if_neg heq]
    omega

/-! ## Grouping -/

theorem keys_push : ∀ (d : Dict κ (List α)) (k : κ) (a : α),
    (d.push k a).keys = if k ∈ d.keys then d.keys else d.keys ++ [k]
  | [], k, a => by simp [push, keys]
  | (k', l) :: d, k, a => by
    have ih := keys_push d k a
    simp only [push, keys] at ih ⊢
    by_cases h : k' = k
    · simp [h]
    · rw [if_neg h, List.map_cons, ih]
      have h' : ¬ k = k' := fun heq => h heq.symm
      by_cases hk : k ∈ d.map Prod.fst <;> simp [hk, h']

theorem nodup_keys_push {d : Dict κ (List α)} (h : d.keys.Nodup) (k : κ) (a : α) : (d.push k a).keys.Nodup := by
  rw [keys_push]
  split
  · exact h
  · rename_i hk
    exact h.append (List.nodup_singleton k) (List.disjoint_singleton.2 hk)

theorem get?_push : ∀ (d : Dict κ (List α)) (k : κ) (a : α) (k' : κ),
    (d.push k a).get? k' = if k = k' then some ((d.get? k).getD [] ++ [a]) else d.get? k'
  | [], k, a, k' => rfl
  | (j, l) :: d, k, a, k' => by
    rw [push]
    by_cases hj : j = k
    · subst hj
      rw [if_pos rfl]
      by_cases h : j = k' <;> simp [get?, h]
    · rw [if_neg hj, get?, get?_push d k a k', get?, get?, if_neg hj]
      by_cases h : j = k'
      · subst h
        rw [if_pos rfl, if_pos rfl, if_neg (fun heq => hj heq.symm)]
      · rw [if_neg h, if_neg h]

/-- **What `collect` holds under a key.** -/
theorem get?_collect (key : α → κ) (l : List α) (k : κ) :
    ((collect key l).get? k).getD [] = l.filter (fun a => key a = k) ∧
      ((collect key l).get? k = none ↔ l.filter (fun a => key a = k) = []) := by
  induction l using List.reverseRecOn with
  | nil => simp [collect, get?]
  | append_singleton l a ih =>
    have hpush : collect key (l ++ [a]) = (collect key l).push (key a) a := by simp [collect]
    rw [hpush, get?_push, List.filter_append]
    by_cases h : key a = k
    · subst h
      simp [ih.1]
    · simp [h, ih]

theorem nodup_keys_collect (key : α → κ) (l : List α) : (collect key l).keys.Nodup := by
  induction l using List.reverseRecOn with
  | nil => exact List.nodup_nil
  | append_singleton l a ih =>
    have hpush : collect key (l ++ [a]) = (collect key l).push (key a) a := by simp [collect]
    rw [hpush]
    exact nodup_keys_push ih _ _

/-- **Under each key that occurs, the elements with that key.** -/
theorem mem_collect {key : α → κ} {l : List α} {k : κ} {vs : List α} :
    (k, vs) ∈ collect key l ↔ vs = l.filter (fun a => key a = k) ∧ vs ≠ [] := by
  rw [← get?_eq_some_iff (nodup_keys_collect key l)]
  obtain ⟨hget, hnone⟩ := get?_collect key l k
  constructor
  · intro h
    rw [h] at hget
    refine ⟨hget, fun hvs => ?_⟩
    rw [← hget] at hnone
    rw [hnone.2 hvs] at h
    cases h
  · rintro ⟨rfl, hne⟩
    cases hg : (collect key l).get? k with
    | none => exact absurd (hnone.1 hg) hne
    | some vs => rw [hg] at hget; exact congrArg some hget

theorem push_map {κ' : Type u'} [DecidableEq κ'] (h : κ → κ') (k : κ) (a : α) : ∀ (d : Dict κ (List α)),
    (∀ k' ∈ d.keys, h k' = h k → k' = k) →
    push (d.map (fun e => (h e.1, e.2))) (h k) a = (d.push k a).map (fun e => (h e.1, e.2))
  | [], _ => rfl
  | (k', vs) :: d, hinj => by
    rw [List.map_cons, push, push]
    by_cases heq : k' = k
    · rw [if_pos (congrArg h heq), if_pos heq, List.map_cons]
    · have hne : h k' ≠ h k := fun hk => heq (hinj k' List.mem_cons_self hk)
      have ih := push_map h k a d (fun j hj => hinj j (List.mem_cons_of_mem _ hj))
      rw [if_neg hne, if_neg heq, List.map_cons, ih]

/-- **Renaming the keys renames the keys alone.** -/
theorem collect_comp {κ' : Type u'} [DecidableEq κ'] {h : κ → κ'} {key : α → κ} {l : List α}
    (hinj : ∀ a ∈ l, ∀ b ∈ l, h (key a) = h (key b) → key a = key b) :
    collect (fun a => h (key a)) l = (collect key l).map (fun e => (h e.1, e.2)) := by
  induction l using List.reverseRecOn with
  | nil => rfl
  | append_singleton l a ih =>
    have hpush : collect key (l ++ [a]) = (collect key l).push (key a) a := by simp [collect]
    have hpush' : collect (fun a => h (key a)) (l ++ [a]) = (collect (fun a => h (key a)) l).push (h (key a)) a := by
      simp [collect]
    have ih := ih (fun b hb c hc => hinj b (List.mem_append_left _ hb) c (List.mem_append_left _ hc))
    rw [hpush, hpush', ih]
    refine push_map h (key a) a _ (fun k hk heq => ?_)
    obtain ⟨e, he, rfl⟩ := List.mem_map.1 hk
    obtain ⟨hvs, hne⟩ := mem_collect.1 he
    obtain ⟨b, hb⟩ := List.exists_mem_of_ne_nil _ hne
    rw [hvs, List.mem_filter, decide_eq_true_iff] at hb
    rw [← hb.2] at heq ⊢
    exact hinj b (List.mem_append_left _ hb.1) a List.mem_concat_self heq

theorem flatten_values_push : ∀ (d : Dict κ (List α)) (k : κ) (a : α),
    (d.push k a).values.flatten.Perm (d.values.flatten ++ [a])
  | [], _, _ => List.Perm.refl _
  | (k', vs) :: d, k, a => by
    rw [push]
    by_cases heq : k' = k
    · rw [if_pos heq]
      unfold values
      rw [List.map_cons, List.map_cons, List.flatten_cons, List.flatten_cons, List.append_assoc, List.append_assoc]
      exact List.perm_append_comm.append_left vs
    · rw [if_neg heq]
      have ih := flatten_values_push d k a
      unfold values at ih ⊢
      rw [List.map_cons, List.map_cons, List.flatten_cons, List.flatten_cons, List.append_assoc]
      exact ih.append_left vs

/-- **A grouping loses no element and repeats none.** -/
theorem flatten_values_collect (key : α → κ) (l : List α) : (collect key l).values.flatten.Perm l := by
  induction l using List.reverseRecOn with
  | nil => exact List.Perm.refl _
  | append_singleton l a ih =>
    have hpush : collect key (l ++ [a]) = (collect key l).push (key a) a := by simp [collect]
    rw [hpush]
    exact (flatten_values_push _ _ _).trans (ih.append_right [a])

/-- What a condition finds after a write that does not meet it. -/
theorem filter_set {p : κ × α → Bool} {k : κ} {v : α} (hv : p (k, v) = false) : ∀ {d : Dict κ α}, d.keys.Nodup →
    (d.set k v).filter p = (d.filter p).filter (fun e => e.1 ≠ k)
  | [], _              => by simp [set, hv]
  | (k', v') :: d, hnd => by
    obtain ⟨hk', hnd⟩ := List.nodup_cons.1 hnd
    by_cases heq : k' = k
    · subst heq
      have hrest : (d.filter p).filter (fun e => e.1 ≠ k') = d.filter p := by
        refine List.filter_eq_self.2 (fun e he => decide_eq_true (fun heq => hk' ?_))
        have hmem : e.1 ∈ keys d := List.mem_map_of_mem (List.mem_of_mem_filter he)
        exact heq ▸ hmem
      rw [set, if_pos rfl, List.filter_cons_of_neg (by simp [hv]), List.filter_cons]
      split
      · rw [List.filter_cons_of_neg (by simp), hrest]
      · rw [hrest]
    · rw [set, if_neg heq, List.filter_cons, List.filter_cons, filter_set hv hnd]
      split
      · rw [List.filter_cons_of_pos (by simpa using heq)]
      · rfl

end Dict
end DataOps

import Mathlib.Data.List.Sort
/-!
# LibSortedCut — the first few of a stably sorted list

A list sorted by a key keeps equal keys in the order they came in.  Its first `n` elements are the same whatever that
order was exactly when no run of equal keys lies across the cut (`take_perm`, `exists_cut_off`).
-/
namespace DataOps
namespace SortedCut

variable {α κ : Type} [LinearOrder κ] {key : α → κ} {l l' s s' : List α} {n : Nat}

/-- `s` is `l` sorted by the key, equal keys in the order of `l`. -/
structure StablySorts (key : α → κ) (l s : List α) : Prop where
  sorted : s.Pairwise (fun a b => key a ≤ key b)
  perm   : s.Perm l
  stable : ∀ k, s.filter (fun a => key a = k) = l.filter (fun a => key a = k)

/-- A run of equal keys lies across the cut after `n` elements. -/
def SplitsTie (key : α → κ) (l : List α) (n : Nat) : Prop :=
  ∃ a ∈ l, l.countP (fun b => key b < key a) < n ∧ n < l.countP (fun b => key b ≤ key a)

instance (key : α → κ) (l : List α) (n : Nat) : Decidable (SplitsTie key l n) := List.decidableBEx _ _

theorem splitsTie_perm (h : l.Perm l') : SplitsTie key l n ↔ SplitsTie key l' n := by
  unfold SplitsTie
  refine exists_congr (fun a => ?_)
  rw [h.mem_iff, h.countP_eq, h.countP_eq]

/-- **Insertion sort is stable.** -/
theorem stablySorts_insertionSort (key : α → κ) (l : List α) :
    StablySorts key l (l.insertionSort (fun a b => key a ≤ key b)) := by
  have htrans : IsTrans α (fun a b => key a ≤ key b) := ⟨fun a b c => le_trans⟩
  have htotal : Std.Total (fun a b : α => key a ≤ key b) := ⟨fun a b => le_total _ _⟩
  have hperm := List.perm_insertionSort (fun a b => key a ≤ key b) l
  refine ⟨List.pairwise_insertionSort _ l, hperm, fun k => ?_⟩
  have hequal : (l.filter (fun a => key a = k)).Pairwise (fun a b => key a ≤ key b) := by
    refine List.pairwise_of_forall_mem_list (fun a ha b hb => ?_)
    rw [of_decide_eq_true (List.mem_filter.1 ha).2, of_decide_eq_true (List.mem_filter.1 hb).2]
  have hsub := (List.sublist_insertionSort hequal List.filter_sublist).filter (fun a => key a = k)
  rw [List.filter_filter] at hsub
  simp only [Bool.and_self] at hsub
  exact (hsub.eq_of_length (hperm.filter _).length_eq.symm).symm

/-- Elements left out before or after the sort. -/
theorem StablySorts.filter (h : StablySorts key l s) (p : α → Bool) : StablySorts key (l.filter p) (s.filter p) := by
  refine ⟨h.sorted.sublist List.filter_sublist, h.perm.filter p, fun k => ?_⟩
  rw [List.filter_comm, h.stable k, List.filter_comm]

/-- **Where keys tell the elements apart, sorting what is left is leaving out of what is sorted.** -/
theorem insertionSort_filter (hkey : ∀ a ∈ l, ∀ b ∈ l, key a = key b → a = b) (p : α → Bool) :
    (l.filter p).insertionSort (fun a b => key a ≤ key b) = (l.insertionSort (fun a b => key a ≤ key b)).filter p := by
  have h := (stablySorts_insertionSort key l).filter p
  have h' := stablySorts_insertionSort key (l.filter p)
  refine (h'.perm.trans h.perm.symm).eq_of_pairwise (fun a b ha hb hab hba => ?_) h'.sorted h.sorted
  exact hkey a (List.mem_of_mem_filter (h'.perm.subset ha)) b (List.mem_of_mem_filter (h.perm.subset hb))
    (le_antisymm hab hba)

/-- The elements before one of the list have no greater key, those after it no smaller one. -/
theorem StablySorts.count_split (h : StablySorts key l s) {before after : List α} {a : α}
    (hs : s = before ++ a :: after) :
    l.countP (fun b => key b < key a) ≤ before.length ∧ before.length < l.countP (fun b => key b ≤ key a) := by
  obtain ⟨-, hafter, hbetween⟩ := List.pairwise_append.1 (hs ▸ h.sorted)
  have hle : ∀ b ∈ before, key b ≤ key a := fun b hb => hbetween b hb a List.mem_cons_self
  have hge : ∀ b ∈ a :: after, ¬ key b < key a := by
    intro b hb
    rcases List.mem_cons.1 hb with rfl | hb
    · exact lt_irrefl _
    · exact not_lt.2 ((List.pairwise_cons.1 hafter).1 b hb)
  rw [← h.perm.countP_eq, ← h.perm.countP_eq, hs, List.countP_append, List.countP_append]
  constructor
  · rw [(List.countP_eq_zero (l := a :: after)).2 (fun b hb => by simpa using hge b hb)]
    exact List.countP_le_length
  · rw [(List.countP_eq_length (l := before)).2 (fun b hb => by simpa using hle b hb), List.countP_cons]
    simp

/-- An element among the first `n` stands behind fewer. -/
theorem exists_split_of_mem_take {s : List α} {a : α} (ha : a ∈ s.take n) :
    ∃ before after, s = before ++ a :: after ∧ before.length < n := by
  obtain ⟨before, after, htake⟩ := List.append_of_mem ha
  have hlen := congrArg List.length htake
  rw [List.length_take, List.length_append, List.length_cons] at hlen
  refine ⟨before, after ++ s.drop n, ?_, by omega⟩
  conv => lhs; rw [← List.take_append_drop n s, htake]
  rw [List.append_assoc, List.cons_append]

/-- Lists that agree on what `p` keeps are split at such an element alike. -/
theorem exists_split_filter {p : α → Bool} {l l' before after : List α} {a : α} (h : l.filter p = l'.filter p)
    (ha : p a = true) (hl : l = before ++ a :: after) :
    ∃ pre post, l' = pre ++ a :: post ∧ pre.filter p = before.filter p := by
  rw [hl, List.filter_append, List.filter_cons_of_pos ha] at h
  obtain ⟨pre, tail, rfl, hpre, htail⟩ := List.filter_eq_append_iff.1 h.symm
  obtain ⟨between, post, rfl, hbetween, -, -⟩ := List.filter_eq_cons_iff.1 htail
  refine ⟨pre ++ between, post, (List.append_assoc _ _ _).symm, ?_⟩
  rw [List.filter_append, hpre, List.filter_eq_nil_iff.2 hbetween, List.append_nil]

/-- **Before an element of the sorted list stand the lesser ones** and those of its key that came in before it. -/
theorem StablySorts.length_before (h : StablySorts key l s) {before after pre post : List α} {a : α}
    (hs : s = before ++ a :: after) (hl : l = pre ++ a :: post)
    (hties : before.filter (fun b => key b = key a) = pre.filter (fun b => key b = key a)) :
    before.length = l.countP (fun b => key b < key a) + pre.countP (fun b => key b = key a) := by
  obtain ⟨-, hafter, hbetween⟩ := List.pairwise_append.1 (hs ▸ h.sorted)
  have hlesser : l.countP (fun b => key b < key a) = before.countP (fun b => key b < key a) := by
    have hnone : (a :: after).countP (fun b => key b < key a) = 0 := by
      refine List.countP_eq_zero.2 (fun b hb => ?_)
      rw [decide_eq_true_iff, not_lt]
      rcases List.mem_cons.1 hb with rfl | hb
      · exact le_refl _
      · exact (List.pairwise_cons.1 hafter).1 b hb
    rw [← h.perm.countP_eq, hs, List.countP_append, hnone, Nat.add_zero]
  have hsplit := List.length_eq_countP_add_countP (fun b => decide (key b < key a)) (l := before)
  have hrest : before.countP (fun b => ¬ decide (key b < key a) = true) = before.countP (fun b => key b = key a) := by
    refine List.countP_congr (fun b hb => ?_)
    have hle := hbetween b hb a List.mem_cons_self
    rw [decide_eq_true_iff, decide_eq_true_iff, decide_eq_true_iff, not_lt]
    exact ⟨fun hge => le_antisymm hle hge, fun heq => heq.ge⟩
  rw [hsplit, hrest, hlesser, List.countP_eq_length_filter (p := fun b => decide (key b = key a)), hties,
    ← List.countP_eq_length_filter]

/-- **Something is among the first `n`** exactly when it holds of an element with fewer than `n` before it: the lesser
ones, and those of its key that came in before it. -/
theorem StablySorts.exists_mem_take (h : StablySorts key l s) {P : α → Prop} : (∃ a ∈ s.take n, P a) ↔
    ∃ pre a post, l = pre ++ a :: post ∧ P a ∧
      l.countP (fun b => key b < key a) + pre.countP (fun b => key b = key a) < n := by
  constructor
  · rintro ⟨a, ha, hPa⟩
    obtain ⟨before, after, hs, hlt⟩ := exists_split_of_mem_take ha
    obtain ⟨pre, post, hl, hties⟩ := exists_split_filter (h.stable (key a)) (decide_eq_true rfl) hs
    have hlength := h.length_before hs hl hties.symm
    exact ⟨pre, a, post, hl, hPa, by omega⟩
  · rintro ⟨pre, a, post, hl, hPa, hlt⟩
    obtain ⟨before, after, hs, hties⟩ := exists_split_filter (h.stable (key a)).symm (decide_eq_true rfl) hl
    have hlength := h.length_before hs hl hties
    refine ⟨a, ?_, hPa⟩
    rw [hs, List.take_append, List.mem_append]
    right
    rw [show n - before.length = n - before.length - 1 + 1 by omega, List.take_succ_cons]
    exact List.mem_cons_self

/-- With no tie across the cut, the first `n` are those with at most `n` elements up to their key. -/
theorem StablySorts.take_eq_filter (h : StablySorts key l s) (hcut : ¬ SplitsTie key l n) :
    s.take n = s.filter (fun a => l.countP (fun b => key b ≤ key a) ≤ n) := by
  have hkept : ∀ a ∈ s.take n, l.countP (fun b => key b ≤ key a) ≤ n := by
    intro a ha
    obtain ⟨before, after, hs, hlt⟩ := exists_split_of_mem_take ha
    have hcount := (h.count_split hs).1
    by_contra hmore
    exact hcut ⟨a, h.perm.mem_iff.1 (List.mem_of_mem_take ha), by omega, not_le.1 hmore⟩
  have hcutOff : ∀ a ∈ s.drop n, ¬ l.countP (fun b => key b ≤ key a) ≤ n := by
    intro a ha
    obtain ⟨before, after, hdrop⟩ := List.append_of_mem ha
    have hs : s = (s.take n ++ before) ++ a :: after := by
      conv => lhs; rw [← List.take_append_drop n s, hdrop]
      rw [List.append_assoc]
    have hlen := congrArg List.length hdrop
    rw [List.length_drop, List.length_append, List.length_cons] at hlen
    have hcount := (h.count_split hs).2
    rw [List.length_append, List.length_take] at hcount
    omega
  conv => rhs; rw [← List.take_append_drop n s]
  rw [List.filter_append, List.filter_eq_self.2 (fun a ha => decide_eq_true (hkept a ha)),
    List.filter_eq_nil_iff.2 (fun a ha => by simpa using hcutOff a ha), List.append_nil]

/-- **With no tie across the cut, the order a list came in does not change its first `n` elements.** -/
theorem take_perm (h : StablySorts key l s) (h' : StablySorts key l' s') (hperm : l'.Perm l)
    (hcut : ¬ SplitsTie key l n) : (s'.take n).Perm (s.take n) := by
  rw [h.take_eq_filter hcut, h'.take_eq_filter (fun hsplit => hcut ((splitsTie_perm hperm).1 hsplit))]
  simp only [hperm.countP_eq]
  exact ((h'.perm.trans hperm).trans h.perm.symm).filter _

theorem drop_perm (h : StablySorts key l s) (h' : StablySorts key l' s') (hperm : l'.Perm l)
    (hcut : ¬ SplitsTie key l n) : (s'.drop n).Perm (s.drop n) := by
  have hwhole : (s'.take n ++ s'.drop n).Perm (s.take n ++ s.drop n) := by
    rw [List.take_append_drop, List.take_append_drop]
    exact (h'.perm.trans hperm).trans h.perm.symm
  exact (List.perm_append_left_iff _).1 (((take_perm h h' hperm hcut).symm.append_right _).trans hwhole)

/-- With a tie across the cut, some element is among the first `n`, and no longer so when the list comes in reversed. -/
theorem exists_cut_off (h : StablySorts key l s) (h' : StablySorts key l.reverse s') (hnd : l.Nodup)
    (hsplit : SplitsTie key l n) : ∃ a ∈ s.take n, a ∉ s'.take n := by
  obtain ⟨a, ha, hlow, hhigh⟩ := hsplit
  have hmem : a ∈ l.filter (fun b => key b = key a) := List.mem_filter.2 ⟨ha, decide_eq_true rfl⟩
  obtain ⟨first, rest, hties⟩ := List.exists_cons_of_ne_nil (List.ne_nil_of_mem hmem)
  have hfirst : key first = key a := by
    have : first ∈ l.filter (fun b => key b = key a) := by rw [hties]; exact List.mem_cons_self
    exact of_decide_eq_true (List.mem_filter.1 this).2
  refine ⟨first, ?_, ?_⟩
  · -- nothing of its key comes before it
    obtain ⟨before, after, hs, hbefore, -⟩ := List.filter_eq_cons_iff.1 ((h.stable (key a)).trans hties)
    have hlt : before.length ≤ l.countP (fun b => key b < key a) := by
      rw [← h.perm.countP_eq, hs, List.countP_append]
      refine Nat.le_trans (Nat.le_of_eq (List.countP_eq_length.2 (fun b hb => ?_)).symm) (Nat.le_add_right _ _)
      have hle := (List.pairwise_append.1 (hs ▸ h.sorted)).2.2 b hb first List.mem_cons_self
      rw [hfirst] at hle
      exact decide_eq_true (lt_of_le_of_ne hle (by simpa using hbefore b hb))
    rw [hs, List.take_append, List.mem_append]
    right
    rw [show n - before.length = (n - before.length - 1) + 1 by omega, List.take_succ_cons]
    exact List.mem_cons_self
  · -- nothing of its key comes after it
    have hties' : s'.filter (fun b => key b = key a) = rest.reverse ++ [first] := by
      rw [h'.stable, List.filter_reverse, hties, List.reverse_cons]
    obtain ⟨before₁, tail, hs', -, htail⟩ := List.filter_eq_append_iff.1 hties'
    obtain ⟨before₂, after, rfl, -, -, hafter⟩ := List.filter_eq_cons_iff.1 htail
    rw [← List.append_assoc] at hs'
    have hperm : s'.Perm l := h'.perm.trans (List.reverse_perm l)
    have hcount : l.countP (fun b => key b ≤ key a) ≤ (before₁ ++ before₂).length + 1 := by
      have hgreater : ∀ b ∈ after, ¬ key b ≤ key a := by
        intro b hb hle
        have hge := (List.pairwise_cons.1 (List.pairwise_append.1 (hs' ▸ h'.sorted)).2.1).1 b hb
        rw [hfirst] at hge
        exact List.filter_eq_nil_iff.1 hafter b hb (decide_eq_true (le_antisymm hle hge))
      rw [← hperm.countP_eq, hs', List.countP_append, List.countP_cons,
        (List.countP_eq_zero (l := after)).2 (fun b hb => by simpa using hgreater b hb)]
      have hbefore := List.countP_le_length (p := fun b => decide (key b ≤ key a)) (l := before₁ ++ before₂)
      split <;> omega
    have hnd' := hperm.nodup_iff.2 hnd
    rw [hs'] at hnd'
    rw [hs', List.take_append_of_le_length (by omega)]
    intro hfirst'
    exact (List.nodup_append.1 hnd').2.2 first (List.mem_of_mem_take hfirst') first List.mem_cons_self rfl

/-! ## Groups in increasing order -/

/-- **What the first few of grouped elements hold**: something of a bad group exactly when such a group is not empty and
those before it leave room. -/
theorem exists_mem_take_flatMap {β : Type} {f : κ → List β} {bad : κ → Prop} {P : β → Prop} :
    ∀ {ks : List κ} {n : Nat}, ks.Pairwise (· < ·) → (∀ k ∈ ks, ∀ x ∈ f k, (P x ↔ bad k)) →
      ((∃ x ∈ (ks.flatMap f).take n, P x) ↔
        ∃ k ∈ ks, bad k ∧ f k ≠ [] ∧ ((ks.filter (· < k)).flatMap f).length < n)
  | [], n, _, _ => by simp
  | k :: ks, n, hsorted, hP => by
    obtain ⟨hk, hks⟩ := List.pairwise_cons.1 hsorted
    have hrest := exists_mem_take_flatMap (n := n - (f k).length) hks (fun k' hk' => hP k' (List.mem_cons_of_mem _ hk'))
    have hbefore : (k :: ks).filter (· < k) = [] := by
      refine List.filter_eq_nil_iff.2 (fun k' hk' => ?_)
      rcases List.mem_cons.1 hk' with rfl | hk'
      · simp
      · simpa using (hk k' hk').le
    have hafter : ∀ k' ∈ ks, (k :: ks).filter (· < k') = k :: ks.filter (· < k') := fun k' hk' =>
      List.filter_cons_of_pos (decide_eq_true (hk k' hk'))
    rw [List.flatMap_cons, List.take_append]
    constructor
    · rintro ⟨x, hx, hPx⟩
      rcases List.mem_append.1 hx with hx | hx
      · refine ⟨k, List.mem_cons_self, (hP k List.mem_cons_self x (List.mem_of_mem_take hx)).1 hPx,
          List.ne_nil_of_mem (List.mem_of_mem_take hx), ?_⟩
        have hpos := List.length_pos_of_mem hx
        rw [List.length_take] at hpos
        rw [hbefore, List.flatMap_nil, List.length_nil]
        omega
      · obtain ⟨k', hk', hbad, hne, hlt⟩ := hrest.1 ⟨x, hx, hPx⟩
        refine ⟨k', List.mem_cons_of_mem _ hk', hbad, hne, ?_⟩
        rw [hafter k' hk', List.flatMap_cons, List.length_append]
        omega
    · rintro ⟨k', hk', hbad, hne, hlt⟩
      rcases List.mem_cons.1 hk' with rfl | hk'
      · rw [hbefore, List.flatMap_nil, List.length_nil] at hlt
        obtain ⟨x, l, hfk⟩ := List.exists_cons_of_ne_nil hne
        refine ⟨x, List.mem_append_left _ ?_, (hP k' List.mem_cons_self x (by rw [hfk]; exact List.mem_cons_self)).2 hbad⟩
        rw [hfk, show n = n - 1 + 1 by omega, List.take_succ_cons]
        exact List.mem_cons_self
      · rw [hafter k' hk', List.flatMap_cons, List.length_append] at hlt
        obtain ⟨x, hx, hPx⟩ := hrest.2 ⟨k', hk', hbad, hne, by omega⟩
        exact ⟨x, List.mem_append_right _ hx, hPx⟩

end SortedCut
end DataOps

import Mathlib.Data.List.Dedup
import Mathlib.Data.List.Perm.Basic
import Mathlib.Data.List.Sort
/-!
# LibRelations — what a query over tables returns

Tables are lists of rows, in no particular order.  Joined on a key that no two rows share, a row has at most one partner
(`join_eq_filterMap`, `leftOuterJoin_eq_map`).  `ORDER BY` promises no more than a sorted arrangement and `GROUP BY` no
more than each group once: one query may be answered in several ways, unless the order tells all rows apart
(`Answers.unique`).
-/
namespace DataOps
namespace Relations

variable {α β κ : Type}

/-- A condition that only rows with a property meet keeps the same rows of tables with the same rows of it. -/
theorem filter_perm_of_mem {own p : α → Bool} {l l' : List α} (h : (l.filter own).Perm (l'.filter own))
    (hp : ∀ a ∈ l, p a = true → own a = true) (hp' : ∀ a ∈ l', p a = true → own a = true) :
    (l.filter p).Perm (l'.filter p) := by
  have hsplit : ∀ {m : List α}, (∀ a ∈ m, p a = true → own a = true) → m.filter p = (m.filter own).filter p := by
    intro m hm
    rw [List.filter_filter]
    refine List.filter_congr (fun a ha => ?_)
    cases hpa : p a with
    | false => rfl
    | true => rw [hm a ha hpa]; rfl
  rw [hsplit hp, hsplit hp']
  exact h.filter p

/-! ## Joins -/

/-- `l JOIN r ON ..`. -/
def join (on : α → β → Bool) (l : List α) (r : List β) : List (α × β) :=
  l.flatMap (fun a => (r.filter (on a)).map (fun b => (a, b)))

/-- `l LEFT OUTER JOIN r ON ..`. -/
def leftOuterJoin (on : α → β → Bool) (l : List α) (r : List β) : List (α × Option β) :=
  l.flatMap (fun a =>
    if (r.filter (on a)).isEmpty then [(a, none)] else (r.filter (on a)).map (fun b => (a, some b)))

section
variable [DecidableEq κ] {key : β → κ} {r : List β}

/-- The row with a key. -/
def partner (key : β → κ) (r : List β) (k : κ) : Option β := r.find? (fun b => key b = k)

theorem partner_eq_some_iff (hnd : (r.map key).Nodup) {k : κ} {b : β} : partner key r k = some b ↔ b ∈ r ∧ key b = k := by
  unfold partner
  constructor
  · intro h
    exact ⟨List.mem_of_find?_eq_some h, by simpa using List.find?_some h⟩
  · rintro ⟨hb, rfl⟩
    obtain ⟨b', hb'⟩ : ∃ b', r.find? (fun x => key x = key b) = some b' :=
      Option.isSome_iff_exists.1 (List.find?_isSome.2 ⟨b, hb, decide_eq_true rfl⟩)
    have hkey : key b' = key b := by simpa using List.find?_some hb'
    rw [hb', List.inj_on_of_nodup_map hnd (List.mem_of_find?_eq_some hb') hb hkey]

/-- **No more than one row has a key.** -/
theorem filter_key_eq (hnd : (r.map key).Nodup) (k : κ) :
    r.filter (fun b => key b = k) = (partner key r k).toList := by
  induction r with
  | nil => rfl
  | cons b r ih =>
    obtain ⟨hb, hnd⟩ := List.nodup_cons.1 hnd
    unfold partner at ih ⊢
    by_cases hk : key b = k
    · have hnone : r.filter (fun b => key b = k) = [] := by
        refine List.filter_eq_nil_iff.2 (fun b' hb' hk' => hb ?_)
        rw [hk, ← of_decide_eq_true hk']
        exact List.mem_map_of_mem hb'
      rw [List.filter_cons, if_pos (decide_eq_true hk), List.find?_cons, decide_eq_true hk, hnone]
      rfl
    · rw [List.filter_cons_of_neg (by simpa using hk), List.find?_cons_of_neg (by simpa using hk)]
      exact ih hnd

theorem join_eq_filterMap (hnd : (r.map key).Nodup) (on : α → κ) (l : List α) :
    join (fun a b => key b = on a) l r = l.filterMap (fun a => (partner key r (on a)).map (fun b => (a, b))) := by
  unfold join
  induction l with
  | nil => rfl
  | cons a l ih =>
    rw [List.flatMap_cons, ih, filter_key_eq hnd]
    cases hp : partner key r (on a) with
    | none => rw [List.filterMap_cons_none (by rw [hp]; rfl)]; rfl
    | some b => rw [List.filterMap_cons_some (by rw [hp]; rfl)]; rfl

theorem leftOuterJoin_eq_map (hnd : (r.map key).Nodup) (on : α → κ) (l : List α) :
    leftOuterJoin (fun a b => key b = on a) l r = l.map (fun a => (a, partner key r (on a))) := by
  unfold leftOuterJoin
  rw [List.map_eq_flatMap]
  refine List.flatMap_congr (fun a _ => ?_)
  rw [filter_key_eq hnd]
  cases partner key r (on a) with
  | none => rfl
  | some b => rfl

/-- A condition on the right row holds of the partner. -/
theorem join_filter_fst (hnd : (r.map key).Nodup) (on : α → κ) (p : α → Bool) (q : β → Bool) (l : List α) :
    ((join (fun a b => key b = on a) l r).filter (fun x => p x.1 && q x.2)).map Prod.fst =
      l.filter (fun a => p a && (partner key r (on a)).any q) := by
  rw [join_eq_filterMap hnd]
  induction l with
  | nil => rfl
  | cons a l ih =>
    cases hp : partner key r (on a) with
    | none =>
      rw [List.filterMap_cons_none (by rw [hp]; rfl), ih, List.filter_cons_of_neg (by simp [hp])]
    | some b =>
      rw [List.filterMap_cons_some (b := (a, b)) (by rw [hp]; rfl), List.filter_cons, List.filter_cons, hp]
      dsimp only [Option.any_some]
      split
      · rw [List.map_cons, ih]
      · exact ih

/-- A join whose condition reads the left row only. -/
theorem join_where {γ : Type} (hnd : (r.map key).Nodup) (on : α → κ) (p : α → Bool) (g : α → β → γ) (l : List α) :
    ((join (fun a b => key b = on a) l r).filter (fun q => p q.1)).map (fun q => g q.1 q.2) =
      (l.filter p).filterMap (fun a => (partner key r (on a)).map (g a)) := by
  rw [join_eq_filterMap hnd]
  induction l with
  | nil => rfl
  | cons a l ih =>
    cases hp : partner key r (on a) with
    | none =>
      rw [List.filterMap_cons_none (by rw [hp]; rfl), ih, List.filter_cons]
      split
      · rw [List.filterMap_cons_none (by rw [hp]; rfl)]
      · rfl
    | some b =>
      rw [List.filterMap_cons_some (b := (a, b)) (by rw [hp]; rfl), List.filter_cons, List.filter_cons]
      dsimp only
      split
      · rw [List.map_cons, List.filterMap_cons_some (b := g a b) (by rw [hp]; rfl), ih]
      · exact ih

end

/-! ## Pages -/

/-- `ORDER BY .. LIMIT .. OFFSET ..`: a slice of a sorted arrangement of the rows. -/
def Answers (before : α → α → Prop) (rows : List α) (limit offset : Nat) (page : List α) : Prop :=
  ∃ sorted : List α, sorted.Perm rows ∧ sorted.Pairwise before ∧ page = (sorted.drop offset).take limit

/-- **An order that tells the rows apart leaves one answer.** -/
theorem Answers.unique {before : α → α → Prop} {rows sorted : List α} {limit offset : Nat} {page : List α}
    (hanti : ∀ a ∈ rows, ∀ b ∈ rows, before a b → before b a → a = b) (hperm : sorted.Perm rows)
    (hsorted : sorted.Pairwise before) (h : Answers before rows limit offset page) :
    page = (sorted.drop offset).take limit := by
  obtain ⟨sorted', hperm', hsorted', rfl⟩ := h
  have hsame : sorted' = sorted :=
    (hperm'.trans hperm.symm).eq_of_pairwise
      (fun a b ha hb => hanti a (hperm'.subset ha) b (hperm.subset hb)) hsorted' hsorted
  rw [hsame]

theorem Answers.perm {before : α → α → Prop} {rows rows' : List α} (h : rows.Perm rows') {limit offset : Nat}
    {page : List α} : Answers before rows limit offset page ↔ Answers before rows' limit offset page := by
  unfold Answers
  refine exists_congr (fun sorted => and_congr_left' ?_)
  exact ⟨fun hs => hs.trans h, fun hs => hs.trans h.symm⟩

/-- **The first pages make up the first rows.** -/
theorem flatMap_pages (l : List α) (limit : Nat) :
    ∀ n : Nat, (List.range n).flatMap (fun k => (l.drop (k * limit)).take limit) = l.take (n * limit)
  | 0 => by rw [Nat.zero_mul, List.take_zero]; rfl
  | n + 1 => by
    rw [List.range_succ, List.flatMap_append, flatMap_pages l limit n, List.flatMap_singleton, Nat.succ_mul, List.take_add]

/-! ## Groups -/

/-- `SELECT k, count(*) .. GROUP BY k`: every key that occurs, once, with its count. -/
structure GroupedCounts [DecidableEq κ] (ks : List κ) (groups : List (κ × Nat)) : Prop where
  nodup  : (groups.map Prod.fst).Nodup
  counts : ∀ g ∈ groups, g.1 ∈ ks ∧ g.2 = ks.count g.1
  covers : ∀ k ∈ ks, k ∈ groups.map Prod.fst

theorem GroupedCounts.perm [DecidableEq κ] {ks ks' : List κ} (h : ks.Perm ks') {groups : List (κ × Nat)} :
    GroupedCounts ks groups ↔ GroupedCounts ks' groups := by
  have himp : ∀ {l l' : List κ}, l.Perm l' → GroupedCounts l groups → GroupedCounts l' groups := fun h hg =>
    ⟨hg.nodup, fun g hmem => ⟨h.mem_iff.1 (hg.counts g hmem).1, (hg.counts g hmem).2.trans (h.count_eq g.1)⟩,
      fun k hk => hg.covers k (h.mem_iff.2 hk)⟩
  exact ⟨himp h, himp h.symm⟩

theorem exists_groupedCounts [DecidableEq κ] (ks : List κ) : ∃ groups, GroupedCounts ks groups := by
  have hkeys : (ks.dedup.map (fun k => (k, ks.count k))).map Prod.fst = ks.dedup := by
    rw [List.map_map]
    exact List.map_id _
  refine ⟨ks.dedup.map (fun k => (k, ks.count k)), ?_, ?_, ?_⟩
  · rw [hkeys]
    exact List.nodup_dedup ks
  · intro g hg
    obtain ⟨k, hk, rfl⟩ := List.mem_map.1 hg
    exact ⟨List.mem_dedup.1 hk, rfl⟩
  · intro k hk
    rw [hkeys]
    exact List.mem_dedup.2 hk

/-- The counts of the groups with a property. -/
def countGroups (p : κ → Bool) : List (κ × Nat) → Nat
  | []          => 0
  | g :: groups => (if p g.1 then g.2 else 0) + countGroups p groups

/-- **Counting by groups is counting.** -/
theorem GroupedCounts.countGroups_eq [DecidableEq κ] (p : κ → Bool) : ∀ {groups : List (κ × Nat)} {ks : List κ},
    GroupedCounts ks groups → countGroups p groups = ks.countP p
  | [], ks, h => by
    cases ks with
    | nil => rfl
    | cons k ks => exact absurd (h.covers k List.mem_cons_self) List.not_mem_nil
  | g :: groups, ks, h => by
    obtain ⟨hg, hnd⟩ := List.nodup_cons.1 h.nodup
    -- the other groups are those of the other keys
    have hrest : GroupedCounts (ks.filter (fun k => k ≠ g.1)) groups := by
      have hne : ∀ g' ∈ groups, g'.1 ≠ g.1 := fun g' hg' heq => hg (heq ▸ List.mem_map_of_mem hg')
      refine ⟨hnd, fun g' hg' => ?_, fun k hk => ?_⟩
      · obtain ⟨hmem, hcount⟩ := h.counts g' (List.mem_cons_of_mem _ hg')
        have hpos : decide (g'.1 ≠ g.1) = true := decide_eq_true (hne g' hg')
        exact ⟨List.mem_filter.2 ⟨hmem, hpos⟩,
          hcount.trans (List.count_filter (p := fun k => decide (k ≠ g.1)) hpos).symm⟩
      · obtain ⟨hk, hne⟩ := List.mem_filter.1 hk
        exact (List.mem_cons.1 (h.covers k hk)).resolve_left (of_decide_eq_true hne)
    have hsplit : ks.countP p = (if p g.1 then ks.count g.1 else 0) + (ks.filter (fun k => k ≠ g.1)).countP p := by
      clear h hrest
      induction ks with
      | nil => simp
      | cons k ks ih =>
        by_cases hk : k = g.1
        · subst hk
          rw [List.filter_cons_of_neg (by simp), List.countP_cons, ih, List.count_cons_self]
          split <;> omega
        · rw [List.filter_cons_of_pos (by simpa using hk), List.countP_cons, List.countP_cons, ih,
            List.count_cons_of_ne (Ne.symm (Ne.symm hk))]
          omega
    rw [countGroups, hrest.countGroups_eq p, hsplit, (h.counts g List.mem_cons_self).2]

end Relations
end DataOps

import Mathlib.Data.Fintype.Card
import Mathlib.Logic.Function.Basic
import Mathlib.Logic.Relation
import DataOps.LibDict
import DataOps.LibForests
/-!
# MatchUnionFind — the disjoint sets the duplicate pairs are clustered with

`UnionFind` carries its own acyclicity: along every parent pointer the rank grows.  Everything else here reads it
through `root`: a `find` keeps every root (`root_find`), a `union` joins two classes and no others
(`root_union_eq_iff`), and so the classes after a list of unions are the connected components of its pairs
(`root_unions_eq_iff`).
-/
namespace DataOps
namespace Matching

/-- `_parent` and `_rank`. -/
structure UnionFind (n : Nat) where
  parent  : Fin n → Fin n
  rank    : Fin n → Nat
  rank_lt : ∀ x, parent x ≠ x → rank x < rank (parent x)

namespace UnionFind

variable {n : Nat}

def init (n : Nat) : UnionFind n where
  parent x := x
  rank _ := 0
  rank_lt _ h := absurd rfl h

/-- `while parent[root] != root: root = parent[root]`, for so many turns at most. -/
def climb (parent : Fin n → Fin n) : Nat → Fin n → Fin n
  | 0, x        => x
  | fuel + 1, x => if parent x = x then x else climb parent fuel (parent x)

/-- The first loop of `find`; `n` turns are enough (`parent_root`). -/
def root (uf : UnionFind n) (x : Fin n) : Fin n := climb uf.parent n x

/-- The second loop of `find`: `while parent[x] != root: parent[x], x = root, parent[x]`. -/
def compress (root : Fin n) : Nat → (Fin n → Fin n) → Fin n → (Fin n → Fin n)
  | 0, parent, _        => parent
  | fuel + 1, parent, x =>
    if parent x = root then parent else compress root fuel (Function.update parent x root) (parent x)

/-! ## The first loop reaches the root -/

/-- How many elements outrank `x`. -/
def above (uf : UnionFind n) (x : Fin n) : Nat := (Finset.univ.filter (fun y => uf.rank x < uf.rank y)).card

theorem above_parent_lt (uf : UnionFind n) {x : Fin n} (h : uf.parent x ≠ x) : uf.above (uf.parent x) < uf.above x := by
  refine Finset.card_lt_card (Finset.ssubset_iff_subset_ne.2 ⟨fun y hy => ?_, fun heq => ?_⟩)
  · rw [Finset.mem_filter] at hy ⊢
    exact ⟨hy.1, Nat.lt_trans (uf.rank_lt x h) hy.2⟩
  · have hmem : uf.parent x ∈ Finset.univ.filter (fun y => uf.rank x < uf.rank y) :=
      Finset.mem_filter.2 ⟨Finset.mem_univ _, uf.rank_lt x h⟩
    rw [← heq, Finset.mem_filter] at hmem
    exact Nat.lt_irrefl _ hmem.2

theorem above_lt (uf : UnionFind n) (x : Fin n) : uf.above x < n := by
  have hlt : uf.above x < (Finset.univ : Finset (Fin n)).card := by
    refine Finset.card_lt_card (Finset.ssubset_univ_iff.2 (fun heq => ?_))
    have hmem : x ∈ Finset.univ.filter (fun y => uf.rank x < uf.rank y) := by rw [heq]; exact Finset.mem_univ x
    exact Nat.lt_irrefl _ (Finset.mem_filter.1 hmem).2
  rwa [Finset.card_univ, Fintype.card_fin] at hlt

/-- Following parents from any element ends at a root. -/
theorem induct (uf : UnionFind n) {P : Fin n → Prop} (hroot : ∀ x, uf.parent x = x → P x)
    (hstep : ∀ x, uf.parent x ≠ x → P (uf.parent x) → P x) (x : Fin n) : P x := by
  induction hk : uf.above x using Nat.strong_induction_on generalizing x with
  | _ k ih =>
    by_cases h : uf.parent x = x
    · exact hroot x h
    · refine hstep x h (ih (uf.above (uf.parent x)) ?_ (uf.parent x) rfl)
      rw [← hk]
      exact uf.above_parent_lt h

theorem climb_of_above_le (uf : UnionFind n) :
    ∀ (fuel fuel' : Nat) (x : Fin n), uf.above x ≤ fuel → uf.above x ≤ fuel' →
    climb uf.parent fuel x = climb uf.parent fuel' x
  | 0, 0, _, _, _ => rfl
  | 0, fuel' + 1, x, h, _ => by
    have hx : uf.parent x = x := Classical.byContradiction (fun hne =>
      Nat.not_lt_zero _ (Nat.lt_of_lt_of_le (uf.above_parent_lt hne) h))
    rw [climb, climb, if_pos hx]
  | fuel + 1, 0, x, _, h => by
    have hx : uf.parent x = x := Classical.byContradiction (fun hne =>
      Nat.not_lt_zero _ (Nat.lt_of_lt_of_le (uf.above_parent_lt hne) h))
    rw [climb, climb, if_pos hx]
  | fuel + 1, fuel' + 1, x, h, h' => by
    rw [climb, climb]
    by_cases hx : uf.parent x = x
    · rw [if_pos hx, if_pos hx]
    · have hlt := uf.above_parent_lt hx
      rw [if_neg hx, if_neg hx]
      exact climb_of_above_le uf fuel fuel' (uf.parent x) (Nat.le_of_lt_succ (Nat.lt_of_lt_of_le hlt h))
        (Nat.le_of_lt_succ (Nat.lt_of_lt_of_le hlt h'))

theorem root_of_isRoot (uf : UnionFind n) {x : Fin n} (h : uf.parent x = x) : uf.root x = x := by
  unfold root
  cases n with
  | zero => exact x.elim0
  | succ n => rw [climb, if_pos h]

/-- **A parent has its child's root.** -/
theorem root_parent (uf : UnionFind n) (x : Fin n) : uf.root (uf.parent x) = uf.root x := by
  by_cases h : uf.parent x = x
  · rw [h]
  · have hlt := uf.above_parent_lt h
    have hn := uf.above_lt x
    unfold root
    rw [climb_of_above_le uf n (uf.above x + 1) x (Nat.le_of_lt hn) (Nat.le_succ _), climb, if_neg h]
    exact climb_of_above_le uf n (uf.above x) _ (Nat.le_of_lt (Nat.lt_trans hlt hn)) (Nat.le_of_lt hlt)

/-- **The root `find` returns is a root.** -/
theorem parent_root (uf : UnionFind n) (x : Fin n) : uf.parent (uf.root x) = uf.root x := by
  induction x using uf.induct with
  | hroot x h => rw [uf.root_of_isRoot h, h]
  | hstep x _ ih => rw [← uf.root_parent x]; exact ih

@[simp] theorem root_root (uf : UnionFind n) (x : Fin n) : uf.root (uf.root x) = uf.root x :=
  uf.root_of_isRoot (uf.parent_root x)

theorem root_eq_self_iff (uf : UnionFind n) (x : Fin n) : uf.root x = x ↔ uf.parent x = x :=
  ⟨fun h => by rw [← h]; exact uf.parent_root x, uf.root_of_isRoot⟩

theorem rank_lt_root (uf : UnionFind n) {x : Fin n} (h : uf.parent x ≠ x) : uf.rank x < uf.rank (uf.root x) := by
  induction x using uf.induct with
  | hroot x hx => exact absurd hx h
  | hstep x _ ih =>
    rw [← uf.root_parent x]
    by_cases hp : uf.parent (uf.parent x) = uf.parent x
    · rw [uf.root_of_isRoot hp]
      exact uf.rank_lt x h
    · exact Nat.lt_trans (uf.rank_lt x h) (ih hp)

/-! ## Path compression -/

/-- Every pointer is as it was, or points at its element's root. -/
def Shortcut (uf : UnionFind n) (parent : Fin n → Fin n) : Prop :=
  ∀ x, parent x = uf.parent x ∨ (uf.parent x ≠ x ∧ parent x = uf.root x)

theorem Shortcut.refl (uf : UnionFind n) : uf.Shortcut uf.parent := fun _ => .inl rfl

/-- An element whose pointer does not lead to the root has the pointer it had. -/
theorem Shortcut.eq_parent {uf : UnionFind n} {parent : Fin n → Fin n} (h : uf.Shortcut parent) {x : Fin n}
    (hne : parent x ≠ uf.root x) : uf.parent x ≠ x ∧ parent x = uf.parent x := by
  rcases h x with hp | ⟨-, hp⟩
  · refine ⟨fun hroot => hne ?_, hp⟩
    rw [hp, hroot, uf.root_of_isRoot hroot]
  · exact absurd hp hne

theorem Shortcut.update {uf : UnionFind n} {parent : Fin n → Fin n} (h : uf.Shortcut parent) {x : Fin n}
    (hx : uf.parent x ≠ x) : uf.Shortcut (Function.update parent x (uf.root x)) := by
  intro y
  by_cases hy : y = x
  · subst hy
    exact .inr ⟨hx, Function.update_self _ _ _⟩
  · rw [Function.update_of_ne hy]
    exact h y

/-- **The second loop only makes shortcuts.** -/
theorem Shortcut.compress {uf : UnionFind n} {r : Fin n} : ∀ (fuel : Nat) (parent : Fin n → Fin n) (x : Fin n),
    uf.Shortcut parent → uf.root x = r → uf.Shortcut (UnionFind.compress r fuel parent x)
  | 0, _, _, h, _ => h
  | fuel + 1, parent, x, h, hx => by
    rw [UnionFind.compress]
    split
    · exact h
    · rename_i hne
      rw [← hx] at hne ⊢
      obtain ⟨hnroot, hparent⟩ := h.eq_parent hne
      refine Shortcut.compress fuel _ _ (h.update hnroot) ?_
      rw [hparent, uf.root_parent]

theorem Shortcut.rank_lt {uf : UnionFind n} {parent : Fin n → Fin n} (h : uf.Shortcut parent) (x : Fin n)
    (hx : parent x ≠ x) : uf.rank x < uf.rank (parent x) := by
  rcases h x with hp | ⟨hne, hp⟩
  · rw [hp] at hx ⊢
    exact uf.rank_lt x hx
  · rw [hp]
    exact uf.rank_lt_root hne

/-- `find`: the root, and the sets after path compression. -/
def find (uf : UnionFind n) (x : Fin n) : Fin n × UnionFind n :=
  (uf.root x,
    { parent := compress (uf.root x) n uf.parent x
      rank := uf.rank
      rank_lt := (Shortcut.compress n uf.parent x (Shortcut.refl uf) rfl).rank_lt })

theorem root_of_shortcut {uf uf' : UnionFind n} (h : uf.Shortcut uf'.parent) (x : Fin n) : uf'.root x = uf.root x := by
  induction x using uf'.induct with
  | hroot x hx =>
    rw [uf'.root_of_isRoot hx]
    rcases h x with hp | ⟨hne, hp⟩
    · exact (uf.root_of_isRoot (hp.symm.trans hx)).symm
    · exact absurd ((uf.root_eq_self_iff x).1 (hp.symm.trans hx)) hne
  | hstep x _ ih =>
    rw [← uf'.root_parent x, ih]
    rcases h x with hp | ⟨-, hp⟩
    · rw [hp, uf.root_parent]
    · rw [hp, uf.root_root]

/-- **A `find` keeps every root.** -/
theorem root_find (uf : UnionFind n) (x y : Fin n) : (uf.find x).2.root y = uf.root y :=
  root_of_shortcut (Shortcut.compress n uf.parent x (Shortcut.refl uf) rfl) y

/-! ## `union` -/

/-- Hanging one root below another of at least its rank. -/
def link (uf : UnionFind n) (a b : Fin n) (ha : uf.parent a = a) (hb : uf.parent b = b) (hne : a ≠ b)
    (hle : uf.rank b ≤ uf.rank a) : UnionFind n where
  parent := Function.update uf.parent b a
  rank := if uf.rank a = uf.rank b then Function.update uf.rank a (uf.rank a + 1) else uf.rank
  rank_lt x hx := by
    by_cases hxb : x = b
    · subst hxb
      rw [Function.update_self]
      split
      · rw [Function.update_of_ne (fun h => hne h.symm), Function.update_self]
        exact Nat.lt_succ_of_le hle
      · rename_i hr
        exact Nat.lt_of_le_of_ne hle (fun h => hr h.symm)
    · rw [Function.update_of_ne hxb] at hx ⊢
      have hxa : x ≠ a := fun h => hx (by rw [h]; exact ha)
      have hlt := uf.rank_lt x hx
      split
      · rw [Function.update_of_ne hxa]
        by_cases hpa : uf.parent x = a
        · rw [hpa, Function.update_self]
          rw [hpa] at hlt
          exact Nat.lt_succ_of_lt hlt
        · rw [Function.update_of_ne hpa]
          exact hlt
      · exact hlt

theorem root_link (uf : UnionFind n) {a b : Fin n} (ha : uf.parent a = a) (hb : uf.parent b = b) (hne : a ≠ b)
    (hle : uf.rank b ≤ uf.rank a) (x : Fin n) :
    (uf.link a b ha hb hne hle).root x = if uf.root x = b then a else uf.root x := by
  have hroot : ∀ y, uf.parent y = y → y ≠ b → (uf.link a b ha hb hne hle).root y = y := fun y hy hyb =>
    (uf.link a b ha hb hne hle).root_of_isRoot (by
      show Function.update uf.parent b a y = y
      rw [Function.update_of_ne hyb, hy])
  have hb' : (uf.link a b ha hb hne hle).root b = a := by
    rw [← (uf.link a b ha hb hne hle).root_parent b,
      show (uf.link a b ha hb hne hle).parent b = a from Function.update_self _ _ _]
    exact hroot a ha hne
  induction x using uf.induct with
  | hroot x hx =>
    rw [uf.root_of_isRoot hx]
    by_cases hxb : x = b
    · rw [if_pos hxb, hxb, hb']
    · rw [if_neg hxb, hroot x hx hxb]
  | hstep x hx ih =>
    have hxb : x ≠ b := fun h => hx (by rw [h, hb])
    rw [← (uf.link a b ha hb hne hle).root_parent x,
      show (uf.link a b ha hb hne hle).parent x = uf.parent x from Function.update_of_ne hxb _ _, ih, uf.root_parent]

/-- A root `find` returned is still one after later finds. -/
theorem parent_find (uf : UnionFind n) {r : Fin n} (h : uf.parent r = r) (x : Fin n) : (uf.find x).2.parent r = r := by
  rw [← root_eq_self_iff, root_find]
  exact uf.root_of_isRoot h

theorem parent_find_self (uf : UnionFind n) (x : Fin n) : (uf.find x).2.parent (uf.find x).1 = (uf.find x).1 :=
  parent_find uf (uf.parent_root x) x

def union (uf : UnionFind n) (a b : Fin n) : UnionFind n :=
  let rootA := (uf.find a).1
  let rootB := ((uf.find a).2.find b).1
  let uf₂ := ((uf.find a).2.find b).2
  have hA : uf₂.parent rootA = rootA := parent_find _ (parent_find_self uf a) b
  have hB : uf₂.parent rootB = rootB := parent_find_self _ b
  if h : rootA = rootB then uf₂
  else if hr : uf₂.rank rootA < uf₂.rank rootB then
    uf₂.link rootB rootA hB hA (fun heq => h heq.symm) (Nat.le_of_lt hr)
  else uf₂.link rootA rootB hA hB h (Nat.not_lt.1 hr)

/-- **After a `union`, the elements of either class have one root, and every other element the root it had.** -/
theorem root_union (uf : UnionFind n) (a b : Fin n) :
    ∃ r, (r = uf.root a ∨ r = uf.root b) ∧
      ∀ x, (uf.union a b).root x = if uf.root x = uf.root a ∨ uf.root x = uf.root b then r else uf.root x := by
  have hroot : ∀ x, ((uf.find a).2.find b).2.root x = uf.root x := fun x => by rw [root_find, root_find]
  have hB : ((uf.find a).2.find b).1 = uf.root b := root_find uf a b
  unfold union
  dsimp only
  split
  · rename_i h
    have hab : uf.root a = uf.root b := by rw [← hB]; exact h
    refine ⟨uf.root a, .inl rfl, fun x => ?_⟩
    rw [hroot]
    by_cases hx : uf.root x = uf.root a
    · rw [if_pos (.inl hx), hx]
    · rw [if_neg (by rw [← hab, or_self]; exact hx)]
  · split
    · refine ⟨uf.root b, .inr rfl, fun x => ?_⟩
      rw [root_link, hroot, hB, show (uf.find a).1 = uf.root a from rfl]
      by_cases hx : uf.root x = uf.root a
      · rw [if_pos hx, if_pos (.inl hx)]
      · by_cases hx' : uf.root x = uf.root b
        · rw [if_neg hx, if_pos (.inr hx'), hx']
        · rw [if_neg hx, if_neg (by rintro (h | h); exacts [hx h, hx' h])]
    · refine ⟨uf.root a, .inl rfl, fun x => ?_⟩
      rw [root_link, hroot, hB, show (uf.find a).1 = uf.root a from rfl]
      by_cases hx : uf.root x = uf.root b
      · rw [if_pos hx, if_pos (.inr hx)]
      · by_cases hx' : uf.root x = uf.root a
        · rw [if_neg hx, if_pos (.inl hx'), hx']
        · rw [if_neg hx, if_neg (by rintro (h | h); exacts [hx' h, hx h])]

/-- **A `union` joins the two classes, and no others.** -/
theorem root_union_eq_iff (uf : UnionFind n) (a b x y : Fin n) :
    (uf.union a b).root x = (uf.union a b).root y ↔
      uf.root x = uf.root y ∨ (uf.root x = uf.root a ∧ uf.root b = uf.root y) ∨
        (uf.root x = uf.root b ∧ uf.root a = uf.root y) := by
  obtain ⟨r, hr, hroot⟩ := uf.root_union a b
  rw [hroot, hroot]
  grind

/-! ## Unions of a list of pairs -/

/-- The classes are those that the pairs connect. -/
def Clusters (uf : UnionFind n) (pairs : List (Fin n × Fin n)) : Prop :=
  ∀ x y, uf.root x = uf.root y ↔ Relation.EqvGen (fun a b => (a, b) ∈ pairs) x y

theorem root_init (x : Fin n) : (init n).root x = x := (init n).root_of_isRoot rfl

theorem clusters_init (n : Nat) : (init n).Clusters [] := by
  intro x y
  rw [root_init, root_init, Forests.eqvGen_nil_iff]

/-- What keeps the roots keeps the classes. -/
theorem Clusters.congr {uf uf' : UnionFind n} {pairs : List (Fin n × Fin n)} (h : uf.Clusters pairs)
    (hroot : ∀ x, uf'.root x = uf.root x) : uf'.Clusters pairs := by
  intro x y
  rw [hroot, hroot]
  exact h x y

theorem Clusters.union {uf : UnionFind n} {pairs : List (Fin n × Fin n)} (h : uf.Clusters pairs) (a b : Fin n) :
    (uf.union a b).Clusters (pairs ++ [(a, b)]) := by
  intro x y
  rw [root_union_eq_iff, Forests.eqvGen_concat_iff, h x y, h x a, h b y, h x b, h a y]

/-- The sets after uniting every pair, in order. -/
def unions (n : Nat) (pairs : List (Fin n × Fin n)) : UnionFind n := pairs.foldl (fun uf p => uf.union p.1 p.2) (init n)

theorem unions_concat (pairs : List (Fin n × Fin n)) (p : Fin n × Fin n) :
    unions n (pairs ++ [p]) = (unions n pairs).union p.1 p.2 := by simp [unions]

/-- **Two elements have one root exactly when the pairs connect them.** -/
theorem root_unions_eq_iff (pairs : List (Fin n × Fin n)) (x y : Fin n) :
    (unions n pairs).root x = (unions n pairs).root y ↔ Relation.EqvGen (fun a b => (a, b) ∈ pairs) x y := by
  have h : (unions n pairs).Clusters pairs := by
    induction pairs using List.reverseRecOn with
    | nil => exact clusters_init n
    | append_singleton pairs p ih =>
      rw [unions_concat]
      exact ih.union p.1 p.2
  exact h x y

/-! ## `components` -/

/-- `components`: every element under the root a `find` returns for it. -/
def components (uf : UnionFind n) : Dict (Fin n) (List (Fin n)) :=
  ((List.finRange n).foldl (fun (acc : UnionFind n × Dict (Fin n) (List (Fin n))) i =>
    ((acc.1.find i).2, acc.2.push (acc.1.find i).1 i)) (uf, [])).2

/-- **The finds along the way change no root.** -/
theorem components_eq (uf : UnionFind n) : uf.components = Dict.collect uf.root (List.finRange n) := by
  have h : ∀ (l : List (Fin n)) (uf' : UnionFind n) (d : Dict (Fin n) (List (Fin n))), (∀ x, uf'.root x = uf.root x) →
      (l.foldl (fun (acc : UnionFind n × Dict (Fin n) (List (Fin n))) i =>
        ((acc.1.find i).2, acc.2.push (acc.1.find i).1 i)) (uf', d)).2 =
      l.foldl (fun d i => d.push (uf.root i) i) d := by
    intro l
    induction l with
    | nil => intro _ _ _; rfl
    | cons i l ih =>
      intro uf' d huf'
      rw [List.foldl_cons, List.foldl_cons, ih _ _ (fun x => (root_find uf' i x).trans (huf' x))]
      rw [show (uf'.find i).1 = uf.root i from huf' i]
  exact h (List.finRange n) uf [] (fun _ => rfl)

/-- **The components are the classes, each in increasing order.** -/
theorem mem_components {uf : UnionFind n} {r : Fin n} {members : List (Fin n)} :
    (r, members) ∈ uf.components ↔ members = (List.finRange n).filter (fun x => uf.root x = r) ∧ members ≠ [] := by
  rw [components_eq]
  exact Dict.mem_collect

end UnionFind
end Matching
end DataOps

import DataOps.MatchUnionFindArrays
/-!
# MatchUnionFindRuns — any sequence of calls on the disjoint sets

Whatever is called, in whatever order, the parents stay a forest, and the classes are those that the pairs united so far
connect (`run_arrays`, `Clusters.run`).  So `components` returns the classes, one after the other by their least members,
whatever the order of the pairs (`union_find_correct`).
-/
namespace DataOps
namespace Matching
namespace UnionFind

open Forests (Below RootOf Forest)

variable {n : Nat}

/-- A call on a `UnionFind` of size `n`. -/
inductive Call (n : Nat)
  | find (x : Fin n)
  | union (a b : Fin n)
  | components
deriving DecidableEq, Repr

/-- The pair a call unites. -/
def Call.pair : Call n → Option (Fin n × Fin n)
  | .find _     => none
  | .union a b  => some (a, b)
  | .components => none

/-- The pairs united so far. -/
def united (calls : List (Call n)) : List (Fin n × Fin n) := calls.filterMap Call.pair

/-- What a call leaves; `none` when it does not return. -/
def Arrays.call (turns : Nat) (s : Arrays) : Call n → Option Arrays
  | .find x     => (s.find turns x).map Prod.snd
  | .union a b  => s.union turns a b
  | .components => (s.components turns).map Prod.snd

/-- `UnionFind(n)` after a sequence of calls. -/
def Arrays.run (turns : Nat) (calls : List (Call n)) : Option Arrays := calls.foldlM (Arrays.call turns) (Arrays.init n)

/-! ## What a call does -/

def call (uf : UnionFind n) : Call n → UnionFind n
  | .find x     => (uf.find x).2
  | .union a b  => uf.union a b
  | .components => uf.swept

def run (calls : List (Call n)) : UnionFind n := calls.foldl call (init n)

theorem call_arrays (uf : UnionFind n) (c : Call n) {turns : Nat} (hturns : n ≤ turns) :
    uf.arrays.call turns c = some (uf.call c).arrays := by
  cases c with
  | find x => exact congrArg (Option.map Prod.snd) (find_arrays uf x hturns)
  | union a b => exact union_arrays uf a b hturns
  | components => exact congrArg (Option.map Prod.snd) (components_arrays uf hturns)

/-- **Every sequence of calls returns, and is the calls on the disjoint sets.** -/
theorem run_arrays (calls : List (Call n)) {turns : Nat} (hturns : n ≤ turns) :
    Arrays.run turns calls = some (run calls).arrays := by
  have h : ∀ (calls : List (Call n)) (uf : UnionFind n),
      calls.foldlM (Arrays.call turns) uf.arrays = some (calls.foldl call uf).arrays := by
    intro calls
    induction calls with
    | nil => exact fun _ => rfl
    | cons c calls ih =>
      intro uf
      rw [List.foldlM_cons, call_arrays uf c hturns, Option.bind_eq_bind, Option.bind_some, ih]
      rfl
  unfold Arrays.run
  rw [← init_arrays]
  exact h calls (init n)

theorem Clusters.call {uf : UnionFind n} {pairs : List (Fin n × Fin n)} (h : uf.Clusters pairs) (c : Call n) :
    (uf.call c).Clusters (pairs ++ c.pair.toList) := by
  cases c with
  | find x =>
    rw [show (Call.find x).pair.toList = [] from rfl, List.append_nil]
    exact h.congr (root_find uf x)
  | union a b => exact h.union a b
  | components =>
    rw [show (Call.components : Call n).pair.toList = [] from rfl, List.append_nil]
    exact h.congr (root_swept uf)

/-- **After any sequence of calls, the classes are those that the united pairs connect.** -/
theorem Clusters.run (calls : List (Call n)) : (run calls).Clusters (united calls) := by
  induction calls using List.reverseRecOn with
  | nil => exact clusters_init n
  | append_singleton calls c ih =>
    have hcall : UnionFind.run (calls ++ [c]) = (UnionFind.run calls).call c := by simp [UnionFind.run]
    have hunited : united (calls ++ [c]) = united calls ++ c.pair.toList := by
      unfold united
      rw [List.filterMap_append]
      cases c <;> rfl
    rw [hcall, hunited]
    exact ih.call c

/-! ## The forest -/

/-- The parent of an index; an index beyond the size has none. -/
def Arrays.up (s : Arrays) (i : Nat) : Option Nat := s.parent[i]?

theorem up_arrays (uf : UnionFind n) (x : Fin n) : uf.arrays.up x = some (uf.parent x : Nat) := getElem?_parent uf x

theorem rootOf_arrays (uf : UnionFind n) (x : Fin n) : RootOf uf.arrays.up x (uf.root x : Nat) := by
  induction x using uf.induct with
  | hroot x hx =>
    rw [uf.root_of_isRoot hx]
    exact .self (by rw [up_arrays, hx])
  | hstep x hx ih =>
    rw [← uf.root_parent x]
    exact ih.up ⟨up_arrays uf x, fun heq => hx (Fin.ext heq)⟩

/-- **The parents are an acyclic forest.** -/
theorem forest_arrays (uf : UnionFind n) : Forest uf.arrays.up (· < n) where
  inside i hi := ⟨_, up_arrays uf ⟨i, hi⟩, (uf.parent ⟨i, hi⟩).isLt⟩
  acyclic := by
    refine @Forests.acyclic_of_rank Nat uf.arrays.up (fun i => uf.arrays.rank[i]?.getD 0) ?_
    rintro i p ⟨hp, hne⟩
    have hi : i < n := by
      have hlt := (List.getElem?_eq_some_iff.1 hp).1
      rwa [show uf.arrays.parent.length = n from List.length_ofFn] at hlt
    obtain rfl : (uf.parent ⟨i, hi⟩ : Nat) = p := Option.some.inj ((up_arrays uf ⟨i, hi⟩).symm.trans hp)
    have hrank := getElem?_rank uf ⟨i, hi⟩
    dsimp only at hrank ⊢
    rw [hrank, getElem?_rank]
    exact uf.rank_lt ⟨i, hi⟩ (fun heq => hne (congrArg Fin.val heq))
  rooted i hi := ⟨_, rootOf_arrays uf ⟨i, hi⟩⟩

/-- Two elements have one root. -/
def SameRoot (s : Arrays) (i j : Nat) : Prop := ∃ r, RootOf s.up i r ∧ RootOf s.up j r

theorem sameRoot_arrays_iff (uf : UnionFind n) (x y : Fin n) : SameRoot uf.arrays x y ↔ uf.root x = uf.root y := by
  constructor
  · rintro ⟨r, hx, hy⟩
    exact Fin.ext (((rootOf_arrays uf x).unique hx).trans ((rootOf_arrays uf y).unique hy).symm)
  · intro h
    exact ⟨uf.root x, rootOf_arrays uf x, h ▸ rootOf_arrays uf y⟩

/-! ## The classes -/

/-- **The lists of a partition**: each element in one of them, and each in increasing order. -/
structure Partition (n : Nat) (Same : Fin n → Fin n → Prop) (classes : List (List Nat)) : Prop where
  covers     : classes.flatten.Perm (List.range n)
  ne_nil     : ∀ members ∈ classes, members ≠ []
  increasing : ∀ members ∈ classes, members.Pairwise (· < ·)
  same       : ∀ x y : Fin n, (∃ members ∈ classes, (x : Nat) ∈ members ∧ (y : Nat) ∈ members) ↔ Same x y

theorem mem_values_collect {uf : UnionFind n} {members : List Nat} :
    members ∈ (Dict.collect uf.rootIndex (List.range n)).values ↔
      ∃ k, members = (List.range n).filter (fun i => uf.rootIndex i = k) ∧ members ≠ [] := by
  unfold Dict.values
  rw [List.mem_map]
  constructor
  · rintro ⟨⟨k, members⟩, hmem, rfl⟩
    exact ⟨k, Dict.mem_collect.1 hmem⟩
  · rintro ⟨k, hmem⟩
    exact ⟨(k, members), Dict.mem_collect.2 hmem, rfl⟩

/-- **What `components` returns are the classes.** -/
theorem partition_collect {uf : UnionFind n} {pairs : List (Fin n × Fin n)} (h : uf.Clusters pairs) :
    Partition n (Relation.EqvGen (fun a b => (a, b) ∈ pairs)) (Dict.collect uf.rootIndex (List.range n)).values where
  covers := Dict.flatten_values_collect _ _
  ne_nil members hmem := by
    obtain ⟨k, -, hne⟩ := mem_values_collect.1 hmem
    exact hne
  increasing members hmem := by
    obtain ⟨k, rfl, -⟩ := mem_values_collect.1 hmem
    exact List.pairwise_lt_range.sublist List.filter_sublist
  same x y := by
    rw [← h x y]
    constructor
    · rintro ⟨members, hmem, hx, hy⟩
      obtain ⟨k, rfl, -⟩ := mem_values_collect.1 hmem
      have hx := of_decide_eq_true (List.mem_filter.1 hx).2
      have hy := of_decide_eq_true (List.mem_filter.1 hy).2
      rw [rootIndex_val] at hx hy
      exact Fin.ext (hx.trans hy.symm)
    · intro heq
      have hin : ∀ z : Fin n, uf.root z = uf.root x →
          (z : Nat) ∈ (List.range n).filter (fun i => uf.rootIndex i = (uf.root x : Nat)) := by
        intro z hz
        rw [List.mem_filter, decide_eq_true_iff, rootIndex_val, hz]
        exact ⟨List.mem_range.2 z.isLt, rfl⟩
      exact ⟨_, mem_values_collect.2 ⟨_, rfl, List.ne_nil_of_mem (hin x rfl)⟩, hin x rfl, hin y heq.symm⟩

/-- **Where two runs have one partition, `components` returns the same lists**, under other roots. -/
theorem values_collect_eq {uf uf' : UnionFind n} (h : ∀ x y, uf.root x = uf.root y ↔ uf'.root x = uf'.root y) :
    (Dict.collect uf'.rootIndex (List.range n)).values = (Dict.collect uf.rootIndex (List.range n)).values := by
  have hroot : ∀ i, uf'.rootIndex (uf.rootIndex i) = uf'.rootIndex i := by
    intro i
    by_cases hi : i < n
    · have heq := (h (uf.root ⟨i, hi⟩) ⟨i, hi⟩).1 (uf.root_root _)
      rw [show uf.rootIndex i = (uf.root ⟨i, hi⟩ : Nat) from dif_pos hi, rootIndex_val, heq]
      exact (rootIndex_val uf' ⟨i, hi⟩).symm
    · rw [show uf.rootIndex i = i from dif_neg hi]
  have hinj : ∀ i ∈ List.range n, ∀ j ∈ List.range n, uf'.rootIndex (uf.rootIndex i) = uf'.rootIndex (uf.rootIndex j) →
      uf.rootIndex i = uf.rootIndex j := by
    intro i hi j hj heq
    rw [hroot, hroot] at heq
    have hi := List.mem_range.1 hi
    have hj := List.mem_range.1 hj
    unfold rootIndex at heq ⊢
    rw [dif_pos hi, dif_pos hj] at heq ⊢
    exact congrArg Fin.val ((h _ _).2 (Fin.ext heq))
  have hcomp := Dict.collect_comp hinj
  rw [show (fun i => uf'.rootIndex (uf.rootIndex i)) = uf'.rootIndex from funext hroot] at hcomp
  rw [hcomp]
  unfold Dict.values
  rw [List.map_map]
  rfl

/-! ## The class -/

/-- **What holds of the lists after some calls**: `turns` bounds each loop, and `n` turns are enough. -/
structure Correct (calls : List (Call n)) (s : Arrays) : Prop where
  length     : s.parent.length = n
  forest     : Forest s.up (· < n)
  -- `find` returns the root, and the path it compresses leads every element to the root it had
  find       : ∀ x : Fin n, ∃ r s', (∀ turns, n ≤ turns → s.find turns x = some (r, s')) ∧ RootOf s.up x r ∧
                 ∀ i < n, ∀ r', RootOf s.up i r' ↔ RootOf s'.up i r'
  sameRoot   : ∀ x y : Fin n, SameRoot s x y ↔ Relation.EqvGen (fun a b => (a, b) ∈ united calls) x y
  components : ∃ d s', (∀ turns, n ≤ turns → s.components turns = some (d, s')) ∧ d.keys.Nodup ∧
                 (∀ root members, (root, members) ∈ d → ∀ i ∈ members, RootOf s.up i root) ∧
                 Partition n (Relation.EqvGen (fun a b => (a, b) ∈ united calls)) d.values ∧
                 -- the order of the pairs does not matter
                 ∀ calls' : List (Call n), (united calls').Perm (united calls) → ∃ s₁ d' s₂,
                   (∀ turns, n ≤ turns → Arrays.run turns calls' = some s₁ ∧
                     s₁.components turns = some (d', s₂)) ∧
                     d'.values = d.values

theorem rootOf_arrays_iff (uf : UnionFind n) {i r : Nat} (hi : i < n) :
    RootOf uf.arrays.up i r ↔ r = uf.root ⟨i, hi⟩ :=
  ⟨fun h => h.unique (rootOf_arrays uf ⟨i, hi⟩), fun h => h ▸ rootOf_arrays uf ⟨i, hi⟩⟩

theorem correct_run (calls : List (Call n)) : Correct calls (run calls).arrays where
  length := List.length_ofFn
  forest := forest_arrays _
  find x := by
    refine ⟨_, _, fun turns hturns => find_arrays _ x hturns, rootOf_arrays _ x, fun i hi r' => ?_⟩
    rw [rootOf_arrays_iff _ hi, rootOf_arrays_iff _ hi, root_find]
  sameRoot x y := by
    rw [sameRoot_arrays_iff]
    exact Clusters.run calls x y
  components := by
    refine ⟨_, _, fun turns hturns => components_arrays _ hturns, Dict.nodup_keys_collect _ _, ?_,
      partition_collect (Clusters.run calls), fun calls' hperm => ?_⟩
    · intro root members hmem i hi
      obtain ⟨rfl, -⟩ := Dict.mem_collect.1 hmem
      obtain ⟨hin, hroot⟩ := List.mem_filter.1 hi
      have hlt := List.mem_range.1 hin
      rw [rootOf_arrays_iff _ hlt, ← of_decide_eq_true hroot]
      exact dif_pos hlt
    · refine ⟨_, _, _, fun turns hturns => ⟨run_arrays calls' hturns, components_arrays _ hturns⟩, values_collect_eq ?_⟩
      intro x y
      rw [Clusters.run calls x y, Clusters.run calls' x y]
      exact (Forests.eqvGen_perm hperm).symm

/-- **Union-find is correct**: every sequence of calls returns, and leaves a forest of the classes that its pairs
connect. -/
theorem union_find_correct (n : Nat) (calls : List (Call n)) :
    ∃ s : Arrays, (∀ turns, n ≤ turns → Arrays.run turns calls = some s) ∧ Correct calls s :=
  ⟨_, fun _ hturns => run_arrays calls hturns, correct_run calls⟩

end UnionFind
end Matching
end DataOps

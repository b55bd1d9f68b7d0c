import Mathlib.Data.List.FinRange
import Mathlib.Data.List.OfFn
import DataOps.LibTrace
import DataOps.MatchUnionFind
/-!
# MatchUnionFindArrays — the disjoint sets as the code holds them

`_parent` and `_rank` are plain lists, and `find` walks and rewrites the first in two `while` loops.  Every call on the
lists returns, and is the call on the disjoint sets that the lists stand for (`find_arrays`, `union_arrays`,
`components_arrays`).
-/
namespace DataOps
namespace Matching
namespace UnionFind

open Loops (whileLoop whileLoop_total)

/-- `_parent` and `_rank`. -/
structure Arrays where
  parent : List Nat
  rank   : List Nat
deriving DecidableEq, Repr

/-- `l[i] = v`. -/
def setItem (l : List Nat) (i v : Nat) : Option (List Nat) := if i < l.length then some (l.set i v) else none

namespace Arrays

/-- `UnionFind(size)`. -/
def init (size : Nat) : Arrays := ⟨List.range size, List.replicate size 0⟩

section
variable (turns : Nat)

/-- `while self._parent[root] != root: root = self._parent[root]`. -/
def climb (parent : List Nat) (x : Nat) : Option Nat :=
  whileLoop (fun root => parent[root]?.map (fun p => p ≠ root)) (fun root => parent[root]?) turns x

/-- `while self._parent[x] != root: self._parent[x], x = root, self._parent[x]`; the right side is read first. -/
def compress (root : Nat) (parent : List Nat) (x : Nat) : Option (List Nat × Nat) :=
  whileLoop (fun (parent, x) => parent[x]?.map (fun p => p ≠ root))
    (fun (parent, x) => parent[x]?.bind (fun next => (setItem parent x root).map (fun parent => (parent, next))))
    turns (parent, x)

def find (s : Arrays) (x : Nat) : Option (Nat × Arrays) := do
  let root ← climb turns s.parent x
  let (parent, _) ← compress turns root s.parent x
  some (root, { s with parent := parent })

/-- `self._parent[root_b] = root_a`, and the rank of `root_a`. -/
def link (s : Arrays) (rootA rootB : Nat) : Option Arrays := do
  let parent ← setItem s.parent rootB rootA
  let rankA ← s.rank[rootA]?
  let rankB ← s.rank[rootB]?
  if rankA = rankB then
    let rank ← setItem s.rank rootA (rankA + 1)
    some ⟨parent, rank⟩
  else some ⟨parent, s.rank⟩

def union (s : Arrays) (a b : Nat) : Option Arrays := do
  let (rootA, s) ← s.find turns a
  let (rootB, s) ← s.find turns b
  if rootA = rootB then some s
  else
    let rankA ← s.rank[rootA]?
    let rankB ← s.rank[rootB]?
    -- the two names are swapped
    if rankA < rankB then s.link rootB rootA else s.link rootA rootB

/-- The body of the loop of `components`. -/
def collectRoot (acc : Dict Nat (List Nat) × Arrays) (i : Nat) : Option (Dict Nat (List Nat) × Arrays) :=
  (acc.2.find turns i).map (fun found => (acc.1.push found.1 i, found.2))

def components (s : Arrays) : Option (Dict Nat (List Nat) × Arrays) :=
  (List.range s.parent.length).foldlM (collectRoot turns) ([], s)

end

end Arrays

/-! ## The lists of disjoint sets -/

section
variable {n : Nat}

/-- The lists that stand for `uf`. -/
def arrays (uf : UnionFind n) : Arrays := ⟨List.ofFn (fun x => (uf.parent x : Nat)), List.ofFn uf.rank⟩

/-- The root of an index; none but itself beyond the size. -/
def rootIndex (uf : UnionFind n) (i : Nat) : Nat := if h : i < n then uf.root ⟨i, h⟩ else i

@[simp] theorem rootIndex_val (uf : UnionFind n) (x : Fin n) : uf.rootIndex x = uf.root x := dif_pos x.isLt

/-- How many elements outrank an index. -/
def aboveIndex (uf : UnionFind n) (i : Nat) : Nat := if h : i < n then uf.above ⟨i, h⟩ else 0

theorem aboveIndex_val (uf : UnionFind n) (x : Fin n) : uf.aboveIndex x = uf.above x := dif_pos x.isLt

theorem getElem?_ofFn_val {α : Type} (f : Fin n → α) (x : Fin n) : (List.ofFn f)[(x : Nat)]? = some (f x) := by
  rw [List.getElem?_ofFn, dif_pos x.isLt]

theorem getElem?_parent (uf : UnionFind n) (x : Fin n) : uf.arrays.parent[(x : Nat)]? = some (uf.parent x : Nat) :=
  getElem?_ofFn_val (fun x => (uf.parent x : Nat)) x

theorem getElem?_rank (uf : UnionFind n) (x : Fin n) : uf.arrays.rank[(x : Nat)]? = some (uf.rank x) :=
  getElem?_ofFn_val uf.rank x

theorem setItem_ofFn (f : Fin n → Nat) (x : Fin n) (v : Nat) :
    setItem (List.ofFn f) x v = some (List.ofFn (Function.update f x v)) := by
  unfold setItem
  rw [if_pos (by rw [List.length_ofFn]; exact x.isLt)]
  refine congrArg some (List.ext_getElem? (fun i => ?_))
  rw [List.getElem?_set, List.length_ofFn, List.getElem?_ofFn, List.getElem?_ofFn]
  by_cases hi : i < n
  · rw [dif_pos hi, dif_pos hi]
    by_cases hx : (x : Nat) = i
    · subst hx
      simp
    · rw [if_neg hx, Function.update_of_ne (fun h => hx (congrArg Fin.val h).symm)]
  · have hx : (x : Nat) ≠ i := fun heq => hi (heq ▸ x.isLt)
    rw [dif_neg hi, dif_neg hi, if_neg hx]

theorem setItem_ofFn_val (f : Fin n → Fin n) (x v : Fin n) :
    setItem (List.ofFn (fun y => (f y : Nat))) x v = some (List.ofFn (fun y => (Function.update f x v y : Nat))) := by
  rw [setItem_ofFn]
  exact congrArg (fun g => some (List.ofFn g)) (Function.comp_update Fin.val f x v).symm

theorem init_arrays (n : Nat) : (init n).arrays = Arrays.init n := by
  unfold arrays Arrays.init init
  congr 1
  · exact List.ext_getElem (by simp) (fun i _ _ => by simp)
  · exact List.ext_getElem (by simp) (fun i _ _ => by simp)

/-! ## `find` -/

/-- **The first loop ends at the root.** -/
theorem climb_arrays (uf : UnionFind n) (x : Fin n) {turns : Nat} (hturns : n ≤ turns) :
    Arrays.climb turns uf.arrays.parent x = some (uf.root x : Nat) := by
  have hturn : ∀ i, (∃ y : Fin n, (y : Nat) = i ∧ uf.root y = uf.root x) →
      uf.arrays.parent[i]?.map (fun p => decide (p ≠ i)) = some false ∨
        uf.arrays.parent[i]?.map (fun p => decide (p ≠ i)) = some true ∧
          ∃ p, uf.arrays.parent[i]? = some p ∧ (∃ y : Fin n, (y : Nat) = p ∧ uf.root y = uf.root x) ∧
            uf.aboveIndex p < uf.aboveIndex i := by
    rintro _ ⟨y, rfl, hy⟩
    rw [getElem?_parent]
    by_cases hroot : uf.parent y = y
    · exact .inl (by simp [hroot])
    · refine .inr ⟨by simpa [Fin.ext_iff] using hroot, _, rfl, ⟨uf.parent y, rfl, ?_⟩, ?_⟩
      · rw [uf.root_parent, hy]
      · rw [aboveIndex_val, aboveIndex_val]
        exact uf.above_parent_lt hroot
  obtain ⟨_, hloop, ⟨y, rfl, hy⟩, hstop⟩ := whileLoop_total hturn turns x ⟨x, rfl, rfl⟩
    (by rw [aboveIndex_val]; exact Nat.lt_of_lt_of_le (uf.above_lt x) hturns)
  have hroot : uf.parent y = y := by
    rw [getElem?_parent] at hstop
    simpa [Fin.ext_iff] using hstop
  unfold Arrays.climb
  rw [hloop, ← hy, uf.root_of_isRoot hroot]

/-- **The second loop ends, and makes the shortcuts.** -/
theorem compress_arrays (uf : UnionFind n) (x : Fin n) {turns : Nat} (hturns : n ≤ turns) :
    ∃ y, Arrays.compress turns (uf.root x : Nat) uf.arrays.parent x =
      some ((uf.find x).2.arrays.parent, y) := by
  -- what is left to do of the list and the element reached makes the list that `compress` makes
  let I : List Nat × Nat → Prop := fun s => ∃ (parent : Fin n → Fin n) (y : Fin n) (fuel : Nat),
    s = (List.ofFn (fun z => (parent z : Nat)), (y : Nat)) ∧ uf.Shortcut parent ∧ uf.root y = uf.root x ∧
      uf.above y ≤ fuel ∧ compress (uf.root x) fuel parent y = compress (uf.root x) n uf.parent x
  have hget : ∀ (parent : Fin n → Fin n) (y : Fin n), (List.ofFn (fun z => (parent z : Nat)))[(y : Nat)]? =
      some (parent y : Nat) := fun parent y => getElem?_ofFn_val (fun z => (parent z : Nat)) y
  have hturn : ∀ s, I s →
      s.1[s.2]?.map (fun p => decide (p ≠ (uf.root x : Nat))) = some false ∨
        s.1[s.2]?.map (fun p => decide (p ≠ (uf.root x : Nat))) = some true ∧
          ∃ s', s.1[s.2]?.bind (fun next => (setItem s.1 s.2 (uf.root x)).map (fun parent => (parent, next))) = some s' ∧
            I s' ∧ uf.aboveIndex s'.2 < uf.aboveIndex s.2 := by
    rintro _ ⟨parent, y, fuel, rfl, hshort, hy, hfuel, hrest⟩
    dsimp only
    rw [hget]
    by_cases hstop : parent y = uf.root x
    · exact .inl (by simp [hstop])
    · obtain ⟨hnroot, hparent⟩ := hshort.eq_parent (hy ▸ hstop)
      have hless := uf.above_parent_lt hnroot
      obtain ⟨left, rfl⟩ : ∃ left, fuel = left + 1 := ⟨fuel - 1, by omega⟩
      rw [compress, if_neg hstop] at hrest
      refine .inr ⟨by simpa [Fin.ext_iff] using hstop, _, ?_,
        ⟨Function.update parent y (uf.root x), parent y, left, rfl, ?_,
        ?_, ?_, hrest⟩, ?_⟩
      · rw [Option.bind_some, setItem_ofFn_val]
        rfl
      · exact hy ▸ hshort.update hnroot
      · rw [hparent, uf.root_parent, hy]
      · rw [hparent]
        omega
      · dsimp only
        rw [aboveIndex_val, aboveIndex_val, hparent]
        exact hless
  obtain ⟨_, hloop, ⟨parent, y, fuel, rfl, hshort, hy, hfuel, hrest⟩, hstop⟩ := whileLoop_total hturn turns
    (uf.arrays.parent, (x : Nat)) ⟨uf.parent, x, n, rfl, Shortcut.refl uf, rfl, Nat.le_of_lt (uf.above_lt x), rfl⟩
    (by rw [aboveIndex_val]; exact Nat.lt_of_lt_of_le (uf.above_lt x) hturns)
  dsimp only at hstop
  rw [hget] at hstop
  have hroot : parent y = uf.root x := by simpa [Fin.ext_iff] using hstop
  have hdone : compress (uf.root x) fuel parent y = parent := by
    cases fuel with
    | zero => rfl
    | succ fuel => rw [compress, if_pos hroot]
  refine ⟨y, hloop.trans ?_⟩
  rw [← hdone, hrest]
  rfl

/-- **`find` returns the root, and compresses the path.** -/
theorem find_arrays (uf : UnionFind n) (x : Fin n) {turns : Nat} (hturns : n ≤ turns) :
    uf.arrays.find turns x = some ((uf.root x : Nat), (uf.find x).2.arrays) := by
  obtain ⟨y, hcompress⟩ := uf.compress_arrays x hturns
  unfold Arrays.find
  rw [climb_arrays uf x hturns, Option.bind_eq_bind, Option.bind_some, hcompress]
  rfl

/-! ## `union` -/

theorem link_arrays (uf : UnionFind n) {a b : Fin n} (ha : uf.parent a = a) (hb : uf.parent b = b) (hne : a ≠ b)
    (hle : uf.rank b ≤ uf.rank a) : uf.arrays.link a b = some (uf.link a b ha hb hne hle).arrays := by
  unfold Arrays.link
  simp only [Option.bind_eq_bind, getElem?_rank, Option.bind_some]
  unfold arrays link
  dsimp only
  rw [setItem_ofFn_val]
  simp only [setItem_ofFn, Option.bind_some]
  split
  · rfl
  · rfl

/-- **`union` returns, and links the two roots.** -/
theorem union_arrays (uf : UnionFind n) (a b : Fin n) {turns : Nat} (hturns : n ≤ turns) :
    uf.arrays.union turns a b = some (uf.union a b).arrays := by
  have hroot : (uf.find a).1 = uf.root a := rfl
  have hroot' : ((uf.find a).2.find b).1 = (uf.find a).2.root b := rfl
  unfold Arrays.union union
  rw [find_arrays uf a hturns, Option.bind_eq_bind, Option.bind_some]
  dsimp only
  rw [find_arrays (uf.find a).2 b hturns, Option.bind_some, ← hroot, ← hroot']
  dsimp only
  by_cases h : (uf.find a).1 = ((uf.find a).2.find b).1
  · rw [dif_pos h, if_pos (congrArg Fin.val h)]
  · rw [dif_neg h, if_neg (fun heq => h (Fin.ext heq))]
    simp only [Option.bind_eq_bind, getElem?_rank, Option.bind_some]
    split
    · exact link_arrays _ _ _ _ _
    · exact link_arrays _ _ _ _ _

/-! ## `components` -/

/-- The sets after the finds of `components`. -/
def swept (uf : UnionFind n) : UnionFind n := (List.finRange n).foldl (fun uf i => (uf.find i).2) uf

theorem foldl_find_root (l : List (Fin n)) : ∀ (uf : UnionFind n) (x : Fin n),
    (l.foldl (fun uf i => (uf.find i).2) uf).root x = uf.root x := by
  induction l with
  | nil => exact fun _ _ => rfl
  | cons i l ih => exact fun uf x => (ih (uf.find i).2 x).trans (root_find uf i x)

theorem root_swept (uf : UnionFind n) (x : Fin n) : uf.swept.root x = uf.root x := foldl_find_root _ uf x

theorem foldlM_collectRoot {turns : Nat} (hturns : n ≤ turns) (l : List (Fin n)) : ∀ (uf uf' : UnionFind n)
    (membersByRoot : Dict Nat (List Nat)), (∀ x, uf'.root x = uf.root x) →
    (l.map Fin.val).foldlM (Arrays.collectRoot turns) (membersByRoot, uf'.arrays) =
      some ((l.map Fin.val).foldl (fun d i => d.push (uf.rootIndex i) i) membersByRoot,
        (l.foldl (fun uf i => (uf.find i).2) uf').arrays) := by
  induction l with
  | nil => exact fun _ _ _ _ => rfl
  | cons i l ih =>
    intro uf uf' membersByRoot hroots
    have hstep : Arrays.collectRoot turns (membersByRoot, uf'.arrays) (i : Nat) =
        some (membersByRoot.push (uf.rootIndex i) i, (uf'.find i).2.arrays) := by
      unfold Arrays.collectRoot
      rw [find_arrays uf' i hturns, rootIndex_val, ← hroots]
      rfl
    rw [List.map_cons, List.foldlM_cons, hstep, Option.bind_eq_bind, Option.bind_some,
      ih uf (uf'.find i).2 _ (fun x => (root_find uf' i x).trans (hroots x))]
    rfl

/-- **`components` returns the indices by their roots.** -/
theorem components_arrays (uf : UnionFind n) {turns : Nat} (hturns : n ≤ turns) :
    uf.arrays.components turns = some (Dict.collect uf.rootIndex (List.range n), uf.swept.arrays) := by
  have hlength : uf.arrays.parent.length = n := List.length_ofFn
  unfold Arrays.components
  rw [hlength, ← List.map_coe_finRange_eq_range]
  exact foldlM_collectRoot hturns (List.finRange n) uf uf [] (fun _ => rfl)

end

end UnionFind
end Matching
end DataOps

import Mathlib.Logic.Relation
/-!
# LibForests — parent pointers, and what pairs connect

Every element points at a parent, a root at itself.  Where a rank grows along the pointers no element is above itself
(`acyclic_of_rank`), and an element has one root at most (`RootOf.unique`).  One more pair connects what it joins and
nothing else (`eqvGen_concat_iff`).
-/
namespace DataOps
namespace Forests

section
variable {α : Type} {parent : α → Option α} {x p r r' : α}

/-- `p` is the parent of `x`, which is no root. -/
def Below (parent : α → Option α) (x p : α) : Prop := parent x = some p ∧ p ≠ x

/-- Following parents from `x` ends at `r`, which points at itself. -/
def RootOf (parent : α → Option α) (x r : α) : Prop := Relation.ReflTransGen (Below parent) x r ∧ parent r = some r

/-- **An acyclic forest whose roots are fixed points**, on the elements of `S`. -/
structure Forest (parent : α → Option α) (S : α → Prop) : Prop where
  inside  : ∀ x, S x → ∃ p, parent x = some p ∧ S p
  acyclic : ∀ x, ¬ Relation.TransGen (Below parent) x x
  rooted  : ∀ x, S x → ∃ r, RootOf parent x r

theorem RootOf.self (h : parent r = some r) : RootOf parent r r := ⟨.refl, h⟩

theorem RootOf.up (h : Below parent x p) (hp : RootOf parent p r) : RootOf parent x r := ⟨.head h hp.1, hp.2⟩

/-- **An element has one root at most.** -/
theorem RootOf.unique (h : RootOf parent x r) (h' : RootOf parent x r') : r = r' := by
  obtain ⟨hpath, hroot⟩ := h
  obtain ⟨hpath', hroot'⟩ := h'
  induction hpath using Relation.ReflTransGen.head_induction_on with
  | refl =>
    rcases hpath'.cases_head with heq | ⟨p, ⟨hp, hne⟩, -⟩
    · exact heq
    · rw [hroot] at hp
      exact absurd (Option.some.inj hp).symm hne
  | head hstep _ ih =>
    obtain ⟨hp, hne⟩ := hstep
    rcases hpath'.cases_head with rfl | ⟨q, ⟨hq, -⟩, hrest⟩
    · rw [hroot'] at hp
      exact absurd (Option.some.inj hp).symm hne
    · rw [hp] at hq
      cases hq
      exact ih hrest

/-- **Where a rank grows along the pointers, no element is above itself.** -/
theorem acyclic_of_rank {rank : α → Nat} (hrank : ∀ x p, Below parent x p → rank x < rank p) (x : α) :
    ¬ Relation.TransGen (Below parent) x x := by
  have hgrows : ∀ y, Relation.TransGen (Below parent) x y → rank x < rank y := by
    intro y hy
    induction hy with
    | single h => exact hrank _ _ h
    | tail _ h ih => exact Nat.lt_trans ih (hrank _ _ h)
  exact fun h => Nat.lt_irrefl _ (hgrows x h)

end

/-! ## What pairs connect -/

section
variable {α : Type} {pairs pairs' : List (α × α)} {x y : α}

open Relation (EqvGen)

/-- No pair connects nothing. -/
theorem eqvGen_nil_iff : EqvGen (fun u v => (u, v) ∈ ([] : List (α × α))) x y ↔ x = y := by
  constructor
  · intro h
    induction h with
    | rel _ _ huv => cases huv
    | refl _ => rfl
    | symm _ _ _ ih => exact ih.symm
    | trans _ _ _ _ _ ih ih' => exact ih.trans ih'
  · rintro rfl
    exact .refl _

/-- **One more pair joins the two classes it meets.** -/
theorem eqvGen_concat_iff {a b : α} : EqvGen (fun u v => (u, v) ∈ pairs ++ [(a, b)]) x y ↔
    EqvGen (fun u v => (u, v) ∈ pairs) x y ∨
      (EqvGen (fun u v => (u, v) ∈ pairs) x a ∧ EqvGen (fun u v => (u, v) ∈ pairs) b y) ∨
        (EqvGen (fun u v => (u, v) ∈ pairs) x b ∧ EqvGen (fun u v => (u, v) ∈ pairs) a y) := by
  have hmono : ∀ {u v}, EqvGen (fun u v => (u, v) ∈ pairs) u v → EqvGen (fun u v => (u, v) ∈ pairs ++ [(a, b)]) u v :=
    fun h => h.mono (fun _ _ hab => List.mem_append_left _ hab)
  have hnew : EqvGen (fun u v => (u, v) ∈ pairs ++ [(a, b)]) a b :=
    .rel _ _ (List.mem_append_right _ (List.mem_singleton_self _))
  constructor
  · intro h
    induction h with
    | rel u v huv =>
      rcases List.mem_append.1 huv with huv | huv
      · exact .inl (.rel _ _ huv)
      · cases List.mem_singleton.1 huv
        exact .inr (.inl ⟨.refl _, .refl _⟩)
    | refl u => exact .inl (.refl u)
    | symm u v _ ih =>
      rcases ih with h | ⟨h₁, h₂⟩ | ⟨h₁, h₂⟩
      · exact .inl h.symm
      · exact .inr (.inr ⟨h₂.symm, h₁.symm⟩)
      · exact .inr (.inl ⟨h₂.symm, h₁.symm⟩)
    | trans u v w _ _ ih ih' =>
      rcases ih with h | ⟨h₁, h₂⟩ | ⟨h₁, h₂⟩ <;> rcases ih' with h' | ⟨h₁', h₂'⟩ | ⟨h₁', h₂'⟩
      · exact .inl (h.trans _ _ _ h')
      · exact .inr (.inl ⟨h.trans _ _ _ h₁', h₂'⟩)
      · exact .inr (.inr ⟨h.trans _ _ _ h₁', h₂'⟩)
      · exact .inr (.inl ⟨h₁, h₂.trans _ _ _ h'⟩)
      · exact .inr (.inl ⟨h₁, h₂'⟩)
      · exact .inl (h₁.trans _ _ _ h₂')
      · exact .inr (.inr ⟨h₁, h₂.trans _ _ _ h'⟩)
      · exact .inl (h₁.trans _ _ _ h₂')
      · exact .inr (.inr ⟨h₁, h₂'⟩)
  · rintro (h | ⟨h₁, h₂⟩ | ⟨h₁, h₂⟩)
    · exact hmono h
    · exact ((hmono h₁).trans _ _ _ hnew).trans _ _ _ (hmono h₂)
    · exact ((hmono h₁).trans _ _ _ hnew.symm).trans _ _ _ (hmono h₂)

/-- The order of the pairs does not matter. -/
theorem eqvGen_perm (h : pairs.Perm pairs') :
    EqvGen (fun u v => (u, v) ∈ pairs) x y ↔ EqvGen (fun u v => (u, v) ∈ pairs') x y :=
  ⟨fun hxy => hxy.mono (fun _ _ hmem => h.mem_iff.1 hmem), fun hxy => hxy.mono (fun _ _ hmem => h.mem_iff.2 hmem)⟩

end

end Forests
end DataOps

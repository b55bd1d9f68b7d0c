import Mathlib.Data.Finset.Card
import Mathlib.Data.Finset.Dedup
import Mathlib.Data.List.FinRange
import Mathlib.Data.List.Sort
/-!
# LibLists — lists that loops build

A list that stops growing at a cap is a prefix (`take_concat_eq`); the positions of a list that a loop rewrites, in any
order and any number of times, are those it holds (`foldl_modify_getElem?`); and what a sorted list of indices has.
-/
namespace DataOps

variable {α β : Type}

/-- The elements whose key is in `seen` or an earlier element has. -/
def repeated {κ : Type} [DecidableEq κ] (key : α → κ) : List κ → List α → List α
  | _, []         => []
  | seen, a :: as => if key a ∈ seen then a :: repeated key seen as else repeated key (key a :: seen) as

theorem take_concat_eq (l : List α) (a : α) (k : Nat) :
    (l ++ [a]).take k = if (l.take k).length < k then l.take k ++ [a] else l.take k := by
  rw [List.take_append, List.length_take]
  by_cases h : l.length < k
  · rw [if_pos (by omega), List.take_of_length_le (l := [a]) (by simp; omega)]
  · rw [if_neg (by omega), Nat.sub_eq_zero_of_le (Nat.not_lt.1 h), List.take_zero, List.append_nil]

theorem exists_mem_concat {l : List α} {a : α} {P : α → Prop} :
    (∃ x ∈ l ++ [a], P x) ↔ (∃ x ∈ l, P x) ∨ P a := by
  simp only [List.mem_append, List.mem_singleton, or_and_right, exists_or, exists_eq_left]

theorem filterMap_getElem? {f : α → Option β} : ∀ {l : List α}, (∀ a ∈ l, (f a).isSome) → ∀ k : Nat,
    (l.filterMap f)[k]? = l[k]?.bind f
  | [], _, _ => by simp
  | a :: l, h, k => by
    obtain ⟨b, hb⟩ := Option.isSome_iff_exists.1 (h a List.mem_cons_self)
    have ih := filterMap_getElem? (fun a' ha' => h a' (List.mem_cons_of_mem _ ha'))
    rw [List.filterMap_cons_some hb]
    cases k with
    | zero => exact hb.symm
    | succ k => exact ih k

theorem foldl_modify_getElem? {f : α → α} (hf : ∀ a, f (f a) = f a) (k : Nat) :
    ∀ (positions : List Nat) (l : List α),
      (positions.foldl (fun l pos => l.modify pos f) l)[k]? = if k ∈ positions then l[k]?.map f else l[k]?
  | [], l => by simp
  | pos :: positions, l => by
    rw [List.foldl_cons, foldl_modify_getElem? hf k positions, List.getElem?_modify]
    by_cases hk : pos = k
    · subst hk
      by_cases hmem : pos ∈ positions
      · simp [hmem, Option.map_map, Function.comp_def, hf]
      · simp [hmem]
    · have hk' : ¬ k = pos := fun h => hk h.symm
      by_cases hmem : k ∈ positions <;> simp [hmem, hk, hk']

theorem map_filterMap_eq {γ : Type} {f : α → Option β} {g : β → γ} {k : α → γ} :
    ∀ {l : List α}, (∀ a ∈ l, ∃ b, f a = some b ∧ g b = k a) → (l.filterMap f).map g = l.map k
  | [], _ => rfl
  | a :: l, h => by
    obtain ⟨b, hb, hg⟩ := h a List.mem_cons_self
    have ih := map_filterMap_eq (fun a' ha' => h a' (List.mem_cons_of_mem _ ha'))
    rw [List.filterMap_cons_some hb, List.map_cons, List.map_cons, hg, ih]

/-! ## Repeated keys -/

/-- Cutting after `filterMap` is cutting what it keeps. -/
theorem take_filterMap (f : α → Option β) : ∀ (l : List α) (n : Nat),
    (l.filterMap f).take n = ((l.filter (fun a => (f a).isSome)).take n).filterMap f ∧
      (l.filterMap f).drop n = ((l.filter (fun a => (f a).isSome)).drop n).filterMap f
  | [], n => by simp
  | a :: l, n => by
    cases hfa : f a with
    | none =>
      rw [List.filterMap_cons_none hfa, List.filter_cons_of_neg (by simp [hfa])]
      exact take_filterMap f l n
    | some b =>
      rw [List.filterMap_cons_some hfa, List.filter_cons_of_pos (by simp [hfa])]
      cases n with
      | zero =>
        have hall := (take_filterMap f l 0).2
        rw [List.drop_zero, List.drop_zero] at hall
        simp [List.filterMap_cons_some hfa, hall]
      | succ n =>
        rw [List.take_succ_cons, List.take_succ_cons, List.drop_succ_cons, List.drop_succ_cons,
          List.filterMap_cons_some hfa, (take_filterMap f l n).1]
        exact ⟨rfl, (take_filterMap f l n).2⟩

theorem repeated_sublist {κ : Type} [DecidableEq κ] (key : α → κ) :
    ∀ (seen : List κ) (l : List α), (repeated key seen l).Sublist l
  | _, [] => List.Sublist.refl _
  | seen, a :: l => by
    rw [repeated]
    split
    · exact (repeated_sublist key seen l).cons_cons a
    · exact (repeated_sublist key (key a :: seen) l).cons a

/-- The first element is never repeated. -/
theorem mem_tail_of_mem_repeated {κ : Type} [DecidableEq κ] {key : α → κ} {a x : α} {l : List α}
    (h : x ∈ repeated key [] (a :: l)) : x ∈ l := by
  rw [repeated, if_neg (List.not_mem_nil)] at h
  exact (repeated_sublist key _ l).subset h

/-- What repeats an earlier element, and what does not. -/
theorem length_repeated {κ : Type} [DecidableEq κ] (key : α → κ) : ∀ (seen : List κ) (l : List α),
    (repeated key seen l).length + ((l.map key).toFinset \ seen.toFinset).card = l.length
  | seen, [] => by simp [repeated]
  | seen, a :: l => by
    rw [repeated, List.map_cons, List.toFinset_cons, List.length_cons]
    by_cases hmem : key a ∈ seen
    · have ih := length_repeated key seen l
      rw [if_pos hmem, List.length_cons, Finset.insert_sdiff_of_mem _ (List.mem_toFinset.2 hmem)]
      omega
    · have ih := length_repeated key (key a :: seen) l
      have hcard : (insert (key a) (l.map key).toFinset \ seen.toFinset).card =
          ((l.map key).toFinset \ (key a :: seen).toFinset).card + 1 := by
        have hnot : key a ∉ (l.map key).toFinset \ (key a :: seen).toFinset := by simp
        rw [← Finset.card_insert_of_notMem hnot]
        congr 1
        ext k
        by_cases hk : k = key a <;> simp [hk, hmem]
      rw [if_neg hmem, hcard]
      omega

theorem length_repeated_nil {κ : Type} [DecidableEq κ] (key : α → κ) (l : List α) :
    (repeated key [] l).length = l.length - (l.map key).toFinset.card := by
  have h := length_repeated key [] l
  rw [List.toFinset_nil, Finset.sdiff_empty] at h
  omega

theorem nodup_eraseDups [BEq α] [LawfulBEq α] : ∀ l : List α, l.eraseDups.Nodup
  | [] => by simp
  | a :: l => by
    have ih := nodup_eraseDups (l.filter (fun b => !b == a))
    rw [List.eraseDups_cons, List.nodup_cons]
    refine ⟨fun hmem => ?_, ih⟩
    have hne := (List.mem_filter.1 (List.mem_eraseDups.1 hmem)).2
    simp at hne
  termination_by l => l.length
  decreasing_by
    have hle := List.length_filter_le (fun b => !b == a) l
    rw [List.length_cons]
    omega

/-- The first of each value: as many as there are values. -/
theorem length_eraseDups [BEq α] [LawfulBEq α] [DecidableEq α] (l : List α) :
    l.eraseDups.length = l.toFinset.card := by
  rw [← List.toFinset_card_of_nodup (nodup_eraseDups l)]
  congr 1
  ext x
  simp

/-- A value of the list is left out exactly when the cut is shorter. -/
theorem exists_notMem_take {l : List α} (hnd : l.Nodup) (k : Nat) :
    (∃ a ∈ l, a ∉ l.take k) ↔ (l.take k).length < l.length := by
  constructor
  · rintro ⟨a, ha, hnot⟩
    by_contra hle
    rw [List.length_take, Nat.not_lt, Nat.le_min] at hle
    rw [List.take_of_length_le hle.1] at hnot
    exact hnot ha
  · intro hlt
    rw [List.length_take] at hlt
    have hk : k < l.length := by omega
    refine ⟨l[k], List.getElem_mem hk, fun hmem => ?_⟩
    obtain ⟨j, hj, heq⟩ := List.mem_take_iff_getElem.1 hmem
    have hjk := (List.Nodup.getElem_inj_iff hnd).1 heq
    omega

theorem mapM_eq_some {f : α → Option β} {g : α → β} : ∀ {l : List α}, (∀ a ∈ l, f a = some (g a)) →
    l.mapM f = some (l.map g)
  | [], _ => rfl
  | a :: l, h => by
    have ha := h a List.mem_cons_self
    have ih := mapM_eq_some (fun b hb => h b (List.mem_cons_of_mem a hb))
    rw [List.mapM_cons, ha, ih]
    rfl

theorem exists_mapM {f : α → Option β} {P : α → β → Prop} : ∀ {l : List α},
    (∀ a ∈ l, ∃ b, f a = some b ∧ P a b) → ∃ bs, l.mapM f = some bs ∧ List.Forall₂ P l bs
  | [], _ => ⟨[], rfl, .nil⟩
  | a :: l, h => by
    obtain ⟨b, hb, hP⟩ := h a List.mem_cons_self
    obtain ⟨bs, hbs, hall⟩ := exists_mapM (fun c hc => h c (List.mem_cons_of_mem a hc))
    refine ⟨b :: bs, ?_, .cons hP hall⟩
    rw [List.mapM_cons, hb, hbs]
    rfl

theorem exists_ne_of_two_le_length : ∀ {l : List α}, l.Nodup → 2 ≤ l.length → ∃ i ∈ l, ∃ j ∈ l, i ≠ j
  | x :: y :: _, hnd, _ =>
    ⟨x, List.mem_cons_self, y, List.mem_cons_of_mem _ List.mem_cons_self,
      fun h => (List.nodup_cons.1 hnd).1 (h ▸ List.mem_cons_self)⟩

theorem two_le_length_of_nontrivial : ∀ {l : List α}, (∃ i ∈ l, ∃ j ∈ l, i ≠ j) → 2 ≤ l.length
  | [x], ⟨i, hi, j, hj, hne⟩ => absurd ((List.mem_singleton.1 hi).trans (List.mem_singleton.1 hj).symm) hne
  | _ :: _ :: _, _ => by simp

theorem map_eq_of_forall₂ {γ : Type} {R : α → β → Prop} {f : α → γ} {g : β → γ}
    (hfg : ∀ a b, R a b → f a = g b) :
    ∀ {l : List α} {l' : List β}, List.Forall₂ R l l' → l.map f = l'.map g
  | _, _, .nil       => rfl
  | _, _, .cons h hl => congrArg₂ List.cons (hfg _ _ h) (map_eq_of_forall₂ hfg hl)

/-- A `mapM` that raises nothing returned what each element did. -/
theorem mapM_eq_ok_iff {ε : Type} {f : α → Except ε β} : ∀ {l : List α} {ys : List β},
    l.mapM f = .ok ys ↔ List.Forall₂ (fun a y => f a = .ok y) l ys
  | [], ys => by cases ys <;> simp [pure, Except.pure]
  | a :: l, ys => by
    rw [List.mapM_cons]
    cases hfa : f a with
    | error e =>
      constructor
      · intro h
        cases h
      · intro h
        cases h with
        | cons hab _ => rw [hfa] at hab; cases hab
    | ok b =>
      cases hl : l.mapM f with
      | error e =>
        constructor
        · intro h
          simp [bind, Except.bind] at h
        · intro h
          cases h with
          | cons _ htail => rw [mapM_eq_ok_iff.2 htail] at hl; cases hl
      | ok bs =>
        have htail := mapM_eq_ok_iff.1 hl
        constructor
        · intro h
          simp only [bind, Except.bind, pure, Except.pure, Except.ok.injEq] at h
          rw [← h]
          exact .cons hfa htail
        · intro h
          cases h with
          | cons hab htail' =>
            rw [mapM_eq_ok_iff.2 htail'] at hl
            rw [hfa] at hab
            cases hab
            cases hl
            simp [bind, Except.bind, pure, Except.pure]

theorem eq_map_of_forall₂ {r : α → β → Prop} {f : α → β} : ∀ {l : List α} {ys : List β}, List.Forall₂ r l ys →
    (∀ a ∈ l, ∀ y, r a y → y = f a) → ys = l.map f
  | [], _, .nil, _ => rfl
  | a :: l, y :: ys, .cons hay htail, h => by
    rw [h a List.mem_cons_self y hay, eq_map_of_forall₂ htail (fun a ha => h a (List.mem_cons_of_mem _ ha)),
      List.map_cons]

/-- What a `filterMap` keeps, element by element. -/
theorem forall₂_filterMap {f : α → Option β} : ∀ l : List α,
    List.Forall₂ (fun a b => f a = some b) (l.filter (fun a => (f a).isSome)) (l.filterMap f)
  | [] => .nil
  | a :: l => by
    cases hfa : f a with
    | none => simpa [hfa] using forall₂_filterMap l
    | some b => simpa [hfa] using forall₂_filterMap l

/-- The positions of a list are its indices. -/
theorem zipIdx_eq_finRange (l : List α) : l.zipIdx = (List.finRange l.length).map (fun i => (l.get i, i.val)) := by
  refine List.ext_getElem (by simp) (fun i h1 h2 => ?_)
  simp

/-! ## Sorted lists -/

/-- Two sorted lists with the same elements, each once. -/
theorem insertionSort_eq_of_mem_iff {l l' : List Nat} (hl : l.Nodup) (hl' : l'.Pairwise (· < ·))
    (h : ∀ x, x ∈ l ↔ x ∈ l') : l.insertionSort (· ≤ ·) = l' := by
  have hsorted : (l.insertionSort (· ≤ ·)).Pairwise (· ≤ ·) := List.pairwise_insertionSort _ l
  have hnd : (l.insertionSort (· ≤ ·)).Nodup := (List.perm_insertionSort _ l).nodup_iff.2 hl
  have hlt : (l.insertionSort (· ≤ ·)).Pairwise (· < ·) :=
    (hsorted.and hnd).imp (fun h => lt_of_le_of_ne h.1 h.2)
  refine List.Pairwise.eq_of_mem_iff hlt hl' (fun x => ?_)
  rw [List.mem_insertionSort, h]

theorem mem_zip_tail [LinearOrder α] : ∀ {l : List α} {p : α × α}, l.Pairwise (· < ·) → p ∈ l.zip l.tail →
    p.1 ∈ l ∧ p.2 ∈ l ∧ p.1 < p.2
  | [], p, _, hp => by cases hp
  | [x], p, _, hp => by cases hp
  | x :: y :: l, p, h, hp => by
    obtain ⟨hx, hl⟩ := List.pairwise_cons.1 h
    rcases List.mem_cons.1 hp with rfl | hp
    · exact ⟨List.mem_cons_self, List.mem_cons_of_mem _ List.mem_cons_self, hx y List.mem_cons_self⟩
    · obtain ⟨h1, h2, h3⟩ := mem_zip_tail hl hp
      exact ⟨List.mem_cons_of_mem _ h1, List.mem_cons_of_mem _ h2, h3⟩

theorem finRange_filter_sorted {n : Nat} (p : Fin n → Bool) : ((List.finRange n).filter p).Pairwise (· < ·) :=
  (List.sortedLT_finRange n).pairwise.sublist List.filter_sublist

theorem finRange_filter_insertionSort {n : Nat} (p : Fin n → Bool) :
    ((List.finRange n).filter p).insertionSort (· ≤ ·) = (List.finRange n).filter p :=
  List.Pairwise.insertionSort_eq ((finRange_filter_sorted p).imp (fun h => le_of_lt h))

end DataOps

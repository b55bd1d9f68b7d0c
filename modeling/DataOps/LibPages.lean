import DataOps.LibRelations
import DataOps.LibSortedCut
/-!
# LibPages — reading a query page by page

Every page is a query of its own, and one that orders by a key with ties may be answered from another arrangement than
the page before.  Whatever the database does, the pages make up the rows exactly when no run of tied rows lies across the
end of a page (`lossless_iff`); in rows that come in order, when no two rows next to each other there are tied
(`splitsTie_iff`).
-/
namespace DataOps
namespace Pages

open SortedCut (SplitsTie StablySorts)

variable {α κ : Type} [LinearOrder κ] {key : α → κ} {rows : List α} {limit : Nat}

/-- The first `n` pages, one after another. -/
def concatenated (pages : Nat → List α) (n : Nat) : List α := (List.range n).flatMap pages

/-- The pages of `ORDER BY key` that the database may return, at the multiples of the limit. -/
def Paged (key : α → κ) (rows : List α) (limit : Nat) (pages : Nat → List α) : Prop :=
  ∀ k, Relations.Answers (fun a b => key a ≤ key b) rows limit (k * limit) (pages k)

/-- **However the database answers, the pages hold every row exactly once.** -/
def Lossless (key : α → κ) (rows : List α) (limit : Nat) : Prop :=
  ∀ pages, Paged key rows limit pages → ∀ n, rows.length ≤ n * limit → (concatenated pages n).Perm rows

theorem Lossless.perm {rows' : List α} (h : rows.Perm rows') : Lossless key rows limit ↔ Lossless key rows' limit := by
  unfold Lossless Paged
  refine forall_congr' (fun pages => ?_)
  rw [h.length_eq]
  refine imp_congr (forall_congr' (fun k => Relations.Answers.perm h)) (forall₂_congr (fun n _ => ?_))
  exact ⟨fun hpages => hpages.trans h, fun hpages => hpages.trans h.symm⟩

/-- Rows that come in order are sorted as they are. -/
theorem stablySorts_self {s : List α} (h : s.Pairwise (fun a b => key a ≤ key b)) : StablySorts key s s :=
  ⟨h, .refl s, fun _ => rfl⟩

/-- With no tie across a cut, any two arrangements have the same rows before it. -/
theorem take_perm_take {s s' : List α} {m : Nat} (h : s.Pairwise (fun a b => key a ≤ key b)) (hperm : s.Perm rows)
    (h' : s'.Pairwise (fun a b => key a ≤ key b)) (hperm' : s'.Perm rows) (hcut : ¬ SplitsTie key rows m) :
    (s'.take m).Perm (s.take m) :=
  SortedCut.take_perm (stablySorts_self h) (stablySorts_self h') (hperm'.trans hperm.symm)
    (fun hsplit => hcut ((SortedCut.splitsTie_perm hperm).1 hsplit))

/-- With no tie across the end of a page, the first pages hold the first rows of any arrangement. -/
theorem concatenated_perm (hcut : ∀ k, ¬ SplitsTie key rows (k * limit)) {pages : Nat → List α}
    (hpages : Paged key rows limit pages) :
    ∀ (n : Nat) {s : List α}, s.Pairwise (fun a b => key a ≤ key b) → s.Perm rows →
      (concatenated pages n).Perm (s.take (n * limit))
  | 0, s, _, _ => by rw [Nat.zero_mul, List.take_zero]; exact .refl _
  | n + 1, s, hs, hperm => by
    obtain ⟨s', hperm', hs', hpage⟩ := hpages n
    have hfirst := concatenated_perm hcut hpages n hs' hperm'
    have hsplit : s'.take ((n + 1) * limit) = s'.take (n * limit) ++ pages n := by
      rw [Nat.succ_mul, List.take_add, hpage]
    have hsame := take_perm_take hs hperm hs' hperm' (hcut (n + 1))
    rw [hsplit] at hsame
    unfold concatenated at hfirst ⊢
    rw [List.range_succ, List.flatMap_append, List.flatMap_singleton]
    exact (hfirst.append_right (pages n)).trans hsame

theorem not_splitsTie_zero : ¬ SplitsTie key rows 0 := fun ⟨_, _, hlow, _⟩ => Nat.not_lt_zero _ hlow

/-- **With a tie across the end of a page, a row may come twice**: once before the end, and once after it when the later
pages take the tied rows the other way round. -/
theorem exists_repeated (hnd : rows.Nodup) {k : Nat} (hsplit : SplitsTie key rows (k * limit)) :
    ∃ pages, Paged key rows limit pages ∧ ∃ n, rows.length ≤ n * limit ∧ ¬ (concatenated pages n).Nodup := by
  have hsorts := SortedCut.stablySorts_insertionSort key rows
  have hsorts' := SortedCut.stablySorts_insertionSort key rows.reverse
  obtain ⟨a, ha, ha'⟩ := SortedCut.exists_cut_off hsorts hsorts' hnd hsplit
  generalize rows.insertionSort (fun a b => key a ≤ key b) = s at hsorts ha
  generalize rows.reverse.insertionSort (fun a b => key a ≤ key b) = s' at hsorts' ha'
  have hperm' := hsorts'.perm.trans (List.reverse_perm rows)
  have hlimit : 0 < limit := by
    refine Nat.pos_of_ne_zero (fun hzero => @not_splitsTie_zero _ _ _ key rows ?_)
    rwa [hzero, Nat.mul_zero] at hsplit
  refine ⟨fun j => if j < k then (s.drop (j * limit)).take limit else (s'.drop (j * limit)).take limit, ?_,
    k + rows.length, Nat.le_trans (Nat.le_add_left _ _) (Nat.le_mul_of_pos_right _ hlimit), ?_⟩
  · intro j
    dsimp only
    split
    · exact ⟨s, hsorts.perm, hsorts.sorted, rfl⟩
    · exact ⟨s', hperm', hsorts'.sorted, rfl⟩
  · intro hnodup
    rw [← Relations.flatMap_pages, List.mem_flatMap] at ha ha'
    obtain ⟨i, hi, hai⟩ := ha
    have hi := List.mem_range.1 hi
    -- all of `s'` is on its pages, and the row on none of the first ones
    have hall : a ∈ s'.take ((k + rows.length) * limit) := by
      rw [List.take_of_length_le (Nat.le_trans (Nat.le_of_eq hperm'.length_eq)
        (Nat.le_trans (Nat.le_add_left _ _) (Nat.le_mul_of_pos_right _ hlimit)))]
      exact hperm'.mem_iff.2 (hsorts.perm.mem_iff.1 (List.mem_of_mem_drop (List.mem_of_mem_take hai)))
    rw [← Relations.flatMap_pages, List.mem_flatMap] at hall
    obtain ⟨j, hj, haj⟩ := hall
    have hkj : k ≤ j := Nat.not_lt.1 (fun hjk => ha' ⟨j, List.mem_range.2 hjk, haj⟩)
    have hapart := (List.pairwise_iff_getElem.1 (List.nodup_flatMap.1 hnodup).2) i j (by simp; omega)
      (by simpa using hj) (by omega)
    simp only [List.getElem_range] at hapart
    refine hapart (a := a) ?_ ?_
    · dsimp only
      rw [if_pos hi]
      exact hai
    · dsimp only
      rw [if_neg (Nat.not_lt.2 hkj)]
      exact haj

/-- **Pages lose and repeat nothing exactly when no tie lies across the end of one.** -/
theorem lossless_iff (hnd : rows.Nodup) : Lossless key rows limit ↔ ∀ k, ¬ SplitsTie key rows (k * limit) := by
  constructor
  · intro h k hsplit
    obtain ⟨pages, hpages, n, hn, hrepeated⟩ := exists_repeated hnd hsplit
    exact hrepeated ((h pages hpages n hn).nodup_iff.2 hnd)
  · intro hcut pages hpages n hn
    have hsorts := SortedCut.stablySorts_insertionSort key rows
    have h := concatenated_perm hcut hpages n hsorts.sorted hsorts.perm
    rw [List.take_of_length_le (Nat.le_trans (Nat.le_of_eq hsorts.perm.length_eq) hn)] at h
    exact h.trans hsorts.perm

/-- Where the key tells the rows apart, nothing is lost. -/
theorem lossless_of_injOn (hkey : ∀ a ∈ rows, ∀ b ∈ rows, key a = key b → a = b) : Lossless key rows limit := by
  intro pages hpages n hn
  have hsorts := SortedCut.stablySorts_insertionSort key rows
  have hpage : pages = fun k => ((rows.insertionSort (fun a b => key a ≤ key b)).drop (k * limit)).take limit :=
    funext (fun k => (hpages k).unique (fun a ha b hb hab hba => hkey a ha b hb (le_antisymm hab hba))
      hsorts.perm hsorts.sorted)
  unfold concatenated
  rw [hpage, Relations.flatMap_pages, List.take_of_length_le (Nat.le_trans (Nat.le_of_eq hsorts.perm.length_eq) hn)]
  exact hsorts.perm

/-! ## Rows that come in order -/

theorem countP_le_of_lt (key : α → κ) (rows : List α) {x y : κ} (h : x < y) :
    rows.countP (fun b => key b ≤ x) ≤ rows.countP (fun b => key b < y) :=
  List.countP_mono_left (fun _ _ hb => decide_eq_true ((of_decide_eq_true hb).trans_lt h))

/-- How many rows come before one that is in order. -/
theorem counts_at (hsorted : rows.Pairwise (fun a b => key a ≤ key b)) {m : Nat} {a : α} (ha : rows[m]? = some a) :
    rows.countP (fun b => key b < key a) ≤ m ∧ m < rows.countP (fun b => key b ≤ key a) := by
  obtain ⟨hm, rfl⟩ := List.getElem?_eq_some_iff.1 ha
  have hsplit : rows = rows.take m ++ rows[m] :: rows.drop (m + 1) := by
    rw [List.getElem_cons_drop, List.take_append_drop]
  have hcounts := (stablySorts_self hsorted).count_split hsplit
  rwa [List.length_take, Nat.min_eq_left hm.le] at hcounts

/-- **A tie across a cut is between the rows on either side of it.** -/
theorem splitsTie_iff (hsorted : rows.Pairwise (fun a b => key a ≤ key b)) {m : Nat} :
    SplitsTie key rows (m + 1) ↔ ∃ a b, rows[m]? = some a ∧ rows[m + 1]? = some b ∧ key a = key b := by
  constructor
  · rintro ⟨c, -, hlow, hhigh⟩
    have hlength := Nat.lt_of_lt_of_le hhigh List.countP_le_length
    -- a row at a position between the two counts has the key of the tie
    have hkey : ∀ i x, rows[i]? = some x → rows.countP (fun b => key b < key c) ≤ i →
        i < rows.countP (fun b => key b ≤ key c) → key x = key c := by
      intro i x hx hi hi'
      obtain ⟨hless, hmore⟩ := counts_at hsorted hx
      rcases lt_trichotomy (key x) (key c) with hlt | heq | hgt
      · have := countP_le_of_lt key rows hlt
        omega
      · exact heq
      · have := countP_le_of_lt key rows hgt
        omega
    refine ⟨rows[m], rows[m + 1], List.getElem?_eq_getElem (by omega), List.getElem?_eq_getElem hlength, ?_⟩
    exact (hkey m _ (List.getElem?_eq_getElem (by omega)) (by omega) (by omega)).trans
      (hkey (m + 1) _ (List.getElem?_eq_getElem hlength) (by omega) hhigh).symm
  · rintro ⟨a, b, ha, hb, hkey⟩
    refine ⟨b, List.mem_of_getElem? hb, ?_, (counts_at hsorted hb).2⟩
    have hless := (counts_at hsorted ha).1
    rw [hkey] at hless
    omega

/-- No page ends between two tied rows. -/
def EndsBetween (key : α → κ) (rows : List α) (limit : Nat) : Prop :=
  ∀ k a b, 0 < k * limit → rows[k * limit - 1]? = some a → rows[k * limit]? = some b → key a ≠ key b

omit [LinearOrder κ] in
theorem endsBetween_map {β : Type} {f : β → α} {rows : List β} :
    EndsBetween (fun b => key (f b)) rows limit ↔ EndsBetween key (rows.map f) limit := by
  unfold EndsBetween
  simp only [List.getElem?_map, Option.map_eq_some_iff]
  constructor
  · rintro h k a b hpos ⟨x, hx, rfl⟩ ⟨y, hy, rfl⟩
    exact h k x y hpos hx hy
  · exact fun h k x y hpos hx hy => h k (f x) (f y) hpos ⟨x, hx, rfl⟩ ⟨y, hy, rfl⟩

theorem lossless_iff_endsBetween (hnd : rows.Nodup) (hsorted : rows.Pairwise (fun a b => key a ≤ key b)) :
    Lossless key rows limit ↔ EndsBetween key rows limit := by
  rw [lossless_iff hnd]
  refine forall_congr' (fun k => ?_)
  cases hm : k * limit with
  | zero => exact iff_of_true not_splitsTie_zero (fun _ _ hpos => absurd hpos (Nat.lt_irrefl 0))
  | succ m =>
    rw [splitsTie_iff hsorted, Nat.add_sub_cancel]
    exact ⟨fun h a b _ ha hb hkey => h ⟨a, b, ha, hb, hkey⟩, fun h ⟨a, b, ha, hb, hkey⟩ =>
      h a b (Nat.succ_pos m) ha hb hkey⟩

end Pages
end DataOps

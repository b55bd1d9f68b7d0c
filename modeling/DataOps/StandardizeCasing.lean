import DataOps.LibNumerals
import DataOps.LibTextWords
import DataOps.StandardizationFields
/-!
# StandardizeCasing — title case, word by word

Title-casing twice is title-casing once exactly when the capital of every word's first letter is one letter, or one letter
and marks that have no case (`titleCase_titleCase_iff`).
-/
namespace DataOps

open Str (IsWord)

/-- What `str.lower` and `str.upper` promise. -/
structure Casing (py : Python) : Prop where
  lower_lower : ∀ s, py.lower (py.lower s) = py.lower s
  -- a text without capitals is a text of characters without capitals
  lower_append : ∀ s t, py.lower (s ++ t) = s ++ t ↔ py.lower s = s ∧ py.lower t = t
  -- a letter's context does not reach across a space
  lower_space : ∀ s t, py.lower (s ++ ' ' :: t) = py.lower s ++ ' ' :: py.lower t
  lower_blank : ∀ s c, Str.isSpace c = true → (c ∈ py.lower s ↔ c ∈ s)
  lower_ne_nil : ∀ s, s ≠ [] → py.lower s ≠ []
  lower_ascii : ∀ s, (∀ c ∈ s, c.toNat < 128) → py.lower s = s.map Char.toLower
  upper_eq : ∀ s, py.upper s = s.flatMap (fun c => py.upper [c])
  upper_upper : ∀ c, ∀ u ∈ py.upper [c], py.upper [u] = [u]
  upper_blank : ∀ c x, Str.isSpace x = true → (x ∈ py.upper [c] ↔ x = c)
  upper_ne_nil : ∀ c, py.upper [c] ≠ []

namespace Standardization

section
variable (py : Python)

def titleWord (word : Str) : Str := if word = [] then word else py.upper (word.take 1) ++ py.lower (word.drop 1)

/-- The capital of the first letter, but for its first character, has no case. -/
def StableCapital (word : Str) : Prop :=
  py.lower ((py.upper (word.take 1)).drop 1) = (py.upper (word.take 1)).drop 1

theorem titleCase_eq (value : Str) : titleCase py value = [' '].intercalate ((value.splitOn ' ').map (titleWord py)) := rfl

end

section
variable {py : Python} (casing : Casing py)
include casing

theorem lower_nil : py.lower [] = [] := by simp [casing.lower_ascii]

theorem exists_capital (c : Char) (s : Str) : ∃ u us, py.upper [c] = u :: us ∧ py.upper [u] = [u] ∧
    titleWord py (c :: s) = u :: (us ++ py.lower s) := by
  obtain ⟨u, us, hupper⟩ := List.exists_cons_of_ne_nil (casing.upper_ne_nil c)
  have hu := casing.upper_upper c u (hupper ▸ List.mem_cons_self)
  exact ⟨u, us, hupper, hu, by simp [titleWord, hupper]⟩

theorem titleWord_titleWord_iff (word : Str) :
    titleWord py (titleWord py word) = titleWord py word ↔ StableCapital py word := by
  cases word with
  | nil =>
    have hupper : py.upper [] = [] := by rw [casing.upper_eq]; rfl
    simp [titleWord, StableCapital, hupper, lower_nil casing]
  | cons c s =>
    obtain ⟨u, us, hupper, hu, htitle⟩ := exists_capital casing c s
    have hagain : titleWord py (u :: (us ++ py.lower s)) = u :: py.lower (us ++ py.lower s) := by simp [titleWord, hu]
    rw [htitle, hagain]
    unfold StableCapital
    rw [List.take_one, List.head?_cons, Option.toList_some, hupper, List.drop_one, List.tail_cons, List.cons.injEq]
    have happend := casing.lower_append us (py.lower s)
    simpa [casing.lower_lower] using happend

theorem blank_mem_titleWord {word : Str} {x : Char} (hx : Str.isSpace x = true) : x ∈ titleWord py word ↔ x ∈ word := by
  cases word with
  | nil => simp [titleWord]
  | cons c s =>
    have hupper := casing.upper_blank c x hx
    have hlower := casing.lower_blank s x hx
    simp [titleWord, hupper, hlower]

theorem titleWord_eq_nil {word : Str} : titleWord py word = [] ↔ word = [] := by
  cases word with
  | nil => simp [titleWord]
  | cons c s => simp [titleWord, casing.upper_ne_nil c]

theorem isWord_titleWord {word : Str} : IsWord (titleWord py word) ↔ IsWord word := by
  unfold IsWord
  rw [ne_eq, titleWord_eq_nil casing]
  refine and_congr_right (fun _ => ⟨fun h c hc => ?_, fun h c hc => ?_⟩)
  · by_contra hblank
    rw [Bool.not_eq_false] at hblank
    have hmem := (blank_mem_titleWord casing hblank).2 hc
    rw [h c hmem] at hblank
    cases hblank
  · by_contra hblank
    rw [Bool.not_eq_false] at hblank
    have hmem := (blank_mem_titleWord casing hblank).1 hc
    rw [h c hmem] at hblank
    cases hblank

theorem splitOn_titleCase (value : Str) :
    (titleCase py value).splitOn ' ' = (value.splitOn ' ').map (titleWord py) := by
  rw [titleCase_eq, List.splitOn_intercalate]
  · intro w hw
    obtain ⟨word, hword, rfl⟩ := List.mem_map.1 hw
    rw [blank_mem_titleWord casing Str.isSpace_space]
    exact (Numerals.Numeral.notMem_of_mem_splitOn hword).1
  · simp

theorem titleCase_eq_self_iff (value : Str) :
    titleCase py value = value ↔ ∀ w ∈ value.splitOn ' ', titleWord py w = w := by
  constructor
  · intro h
    have hsplit := splitOn_titleCase casing value
    rw [h] at hsplit
    exact fun w hw => List.map_inj_left.1 (hsplit.symm.trans (List.map_id _).symm) w hw
  · intro h
    rw [titleCase_eq, List.map_congr_left h, List.map_id'', List.intercalate_splitOn]
    exact fun _ => rfl

/-- **Title case is stable exactly when every capital is.** -/
theorem titleCase_titleCase_iff (value : Str) :
    titleCase py (titleCase py value) = titleCase py value ↔ ∀ w ∈ value.splitOn ' ', StableCapital py w := by
  rw [titleCase_eq_self_iff casing, splitOn_titleCase casing, List.forall_mem_map]
  exact forall₂_congr (fun w _ => titleWord_titleWord_iff casing w)

theorem titleCase_eq_nil_iff {value : Str} : titleCase py value = [] ↔ value = [] := by
  constructor
  · intro h
    have hsplit := splitOn_titleCase casing value
    obtain ⟨w, ws, hw⟩ := Str.exists_splitOn value
    rw [h, hw, List.splitOn_nil, List.map_cons] at hsplit
    obtain ⟨hword, hrest⟩ := List.cons.inj hsplit
    have hws : ws = [] := List.map_eq_nil_iff.1 hrest.symm
    have hjoin : [' '].intercalate (value.splitOn ' ') = value := List.intercalate_splitOn ' '
    rw [hw, hws, (titleWord_eq_nil casing).1 hword.symm] at hjoin
    exact hjoin.symm
  · rintro rfl
    simp [titleCase_eq, titleWord]

theorem trim_titleCase_iff (value : Str) :
    Str.trim (titleCase py value) = titleCase py value ↔ Str.trim value = value := by
  rw [Str.trim_eq_self_iff, Str.trim_eq_self_iff, titleCase_eq_nil_iff casing,
    splitOn_titleCase casing, List.forall_mem_map]
  exact or_congr_right (forall₂_congr (fun w _ => isWord_titleWord casing))

/-! ## Lower case -/

theorem isWord_lower {word : Str} (h : IsWord word) : IsWord (py.lower word) := by
  refine ⟨casing.lower_ne_nil word h.1, fun c hc => ?_⟩
  by_contra hblank
  rw [Bool.not_eq_false] at hblank
  have hmem := (casing.lower_blank word c hblank).1 hc
  rw [h.2 c hmem] at hblank
  cases hblank

theorem lower_intercalate : ∀ words : List Str, py.lower ([' '].intercalate words) = [' '].intercalate (words.map py.lower)
  | [] => lower_nil casing
  | [w] => by simp
  | w :: w' :: words => by
    have ih := lower_intercalate (w' :: words)
    rw [List.intercalate_cons_cons, List.append_assoc, List.singleton_append, casing.lower_space, ih]
    simp [List.intercalate_cons_cons]

theorem trim_lower {value : Str} (h : Str.trim value = value) : Str.trim (py.lower value) = py.lower value := by
  rw [Str.trim_eq_self_iff] at h ⊢
  rcases h with rfl | h
  · exact .inl (lower_nil casing)
  · have hsplit : (py.lower value).splitOn ' ' = (value.splitOn ' ').map py.lower := by
      have hjoin : [' '].intercalate (value.splitOn ' ') = value := List.intercalate_splitOn ' '
      conv => lhs; rw [← hjoin]
      rw [lower_intercalate casing, List.splitOn_intercalate]
      · intro w hw
        obtain ⟨word, hword, rfl⟩ := List.mem_map.1 hw
        exact (isWord_lower casing (h word hword)).notMem_space
      · simp
    rw [hsplit]
    refine .inr (List.forall_mem_map.2 (fun w hw => isWord_lower casing (h w hw)))

end

end Standardization

/-! ## On ASCII texts -/

theorem isSpace_of_isAlphanum {c : Char} (h : (c.isAlpha || c.isDigit) = true) : Str.isSpace c = false := by
  have hrange : (65 ≤ c.toNat ∧ c.toNat ≤ 90) ∨ (97 ≤ c.toNat ∧ c.toNat ≤ 122) ∨
    (48 ≤ c.toNat ∧ c.toNat ≤ 57) := by
    simpa [Char.isAlpha, Char.isUpper, Char.isLower, Char.isDigit, UInt32.le_iff_toNat_le, or_assoc] using h
  simp [Str.isSpace]
  omega

theorem toLower_eq_blank {c x : Char} (hx : Str.isSpace x = true) : c.toLower = x ↔ c = x := by
  have hfixed : ∀ d : Char, Str.isSpace d = true → d.toLower = d := by
    intro d hd
    refine Char.toLower_eq_of_not_isUpper (fun hupper => ?_)
    rw [isSpace_of_isAlphanum (by simp [Char.isAlpha, hupper])] at hd
    cases hd
  constructor
  · rintro rfl
    by_contra hne
    have hupper : c.isUpper = true := by
      by_contra hnot
      exact hne (Char.toLower_eq_of_not_isUpper hnot).symm
    rw [isSpace_of_isAlphanum (by simp [Char.isAlpha, hupper])] at hx
    cases hx
  · rintro rfl
    exact hfixed c hx

theorem toUpper_eq_blank {c x : Char} (hx : Str.isSpace x = true) : c.toUpper = x ↔ c = x := by
  have hfixed : ∀ d : Char, Str.isSpace d = true → d.toUpper = d := by
    intro d hd
    refine Char.toUpper_eq_of_not_isLower (fun hlower => ?_)
    rw [isSpace_of_isAlphanum (by simp [Char.isAlpha, hlower])] at hd
    cases hd
  constructor
  · rintro rfl
    by_contra hne
    have hlower : c.isLower = true := by
      by_contra hnot
      exact hne (Char.toUpper_eq_of_not_isLower hnot).symm
    rw [isSpace_of_isAlphanum (by simp [Char.isAlpha, hlower])] at hx
    cases hx
  · rintro rfl
    exact hfixed c hx

theorem asciiPython_casing : Casing asciiPython where
  lower_lower := fun s => by simp [asciiPython]
  lower_append := fun s t => by
    have h : s.map Char.toLower ++ t.map Char.toLower = s ++ t ↔ s.map Char.toLower = s ∧ t.map Char.toLower = t :=
      ⟨fun h => List.append_inj h (List.length_map _), fun h => by rw [h.1, h.2]⟩
    simpa [asciiPython] using h
  lower_space := fun s t => by simp [asciiPython]
  lower_blank := fun s x hx => by simp [asciiPython, toLower_eq_blank hx]
  lower_ne_nil := fun s hs => by simpa [asciiPython] using hs
  lower_ascii := fun s _ => rfl
  upper_eq := fun s => by
    have h : s.map Char.toUpper = s.flatMap (fun c => [c.toUpper]) := by
      induction s with
      | nil => rfl
      | cons c s ih => simp [ih]
    exact h
  upper_upper := fun c u hu => by
    obtain rfl : u = c.toUpper := List.mem_singleton.1 hu
    simp [asciiPython]
  upper_blank := fun c x hx => by
    have h : c.toUpper = x ↔ c = x := toUpper_eq_blank hx
    rw [@eq_comm _ x c, ← h, @eq_comm _ c.toUpper x]
    exact List.mem_singleton
  upper_ne_nil := fun c => by simp [asciiPython]

end DataOps

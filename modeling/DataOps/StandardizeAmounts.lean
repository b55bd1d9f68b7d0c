import DataOps.StandardizeNumbers
import DataOps.StandardizeSettled
/-!
# StandardizeAmounts — when numbers and amounts keep their form

A number with both separators keeps its form unless a word of it is nothing but grouping separators, or what is left is
grouped again.  An amount keeps its form when its number does, and no currency symbol is left in it.
-/
namespace DataOps
namespace Standardization

open Detection (without groupedBy)
open Remediation (comma_notMem_ungrouped dot_mem_ungrouped)
open Numerals (Numeral)
open Str (IsWord)

/-! ## Numbers -/

/-- The separator that `standardize_numeric` takes for the grouping one, where both occur. -/
def groupingSeparator (s : Str) : Char := if rfind ',' s < rfind '.' s then ',' else '.'

/-- Where both separators occur, no word is nothing but grouping separators. -/
def KeepsWords (s : Str) : Prop := ',' ∈ s → '.' ∈ s → ∀ w ∈ s.splitOn ' ', ∃ c ∈ w, c ≠ groupingSeparator s

section
variable (py : Python) (locale : Option NumericLocale)

/-- Where both separators occur, taking one out does not group the digits by the other. -/
def NotRegrouped (s : Str) : Prop := ',' ∈ s → '.' ∈ s → ¬ (locale = some .eu ∧ groupedBy py '.' (ungrouped s) = true)

/-- What a number needs to keep its canonical form. -/
def KeepsNumeric (s : Str) : Prop := KeepsWords s ∧ NotRegrouped py locale s

end

theorem isWord_without {sep : Char} (hsep : Str.isSpace sep = false) (w : Str) :
    IsWord (without sep w) ↔ IsWord w ∧ ∃ c ∈ w, c ≠ sep := by
  unfold IsWord without
  rw [ne_eq, List.filter_eq_nil_iff]
  constructor
  · rintro ⟨hne, hblank⟩
    simp only [decide_eq_true_eq, not_forall, not_not] at hne
    obtain ⟨c, hc, hcsep⟩ := hne
    refine ⟨⟨List.ne_nil_of_mem hc, fun x hx => ?_⟩, c, hc, hcsep⟩
    by_cases hxsep : x = sep
    · rw [hxsep, hsep]
    · exact hblank x (List.mem_filter.2 ⟨hx, by simpa using hxsep⟩)
  · rintro ⟨⟨-, hblank⟩, c, hc, hcsep⟩
    exact ⟨fun hall => hall c hc (by simpa using hcsep), fun x hx => hblank x (List.mem_filter.1 hx).1⟩

theorem isWord_replaceChar {c d : Char} (hc : Str.isSpace c = false) (hd : Str.isSpace d = false) (w : Str) :
    IsWord (replaceChar c d w) ↔ IsWord w := by
  have hspace : ∀ x, Str.isSpace (if x = c then d else x) = Str.isSpace x := by
    intro x
    split
    · rename_i h
      rw [h, hc, hd]
    · rfl
  unfold IsWord replaceChar
  simp [hspace]

/-- The words of a text without its grouping separators. -/
theorem splitOn_ungrouped (s : Str) : (ungrouped s).splitOn ' ' =
    (s.splitOn ' ').map (if rfind ',' s < rfind '.' s then without ',' else replaceChar ',' '.' ∘ without '.') := by
  unfold ungrouped
  split
  · exact Str.splitOn_filter (by decide) s
  · unfold replaceChar
    rw [Str.splitOn_map (by decide) (fun c hc => by split <;> simp [hc])]
    unfold without
    rw [Str.splitOn_filter (by decide), List.map_map]

theorem isWord_ungrouped (s w : Str) :
    IsWord ((if rfind ',' s < rfind '.' s then without ',' else replaceChar ',' '.' ∘ without '.') w) ↔
      IsWord w ∧ ∃ c ∈ w, c ≠ groupingSeparator s := by
  unfold groupingSeparator
  split
  · exact isWord_without (by decide) w
  · rw [Function.comp_apply, isWord_replaceChar (by decide) (by decide)]
    exact isWord_without (by decide) w

theorem trim_ungrouped_iff {s : Str} (hcomma : ',' ∈ s) (hdot : '.' ∈ s) :
    Str.trim (ungrouped s) = ungrouped s ↔ Str.trim s = s ∧ KeepsWords s := by
  have hne : s ≠ [] := List.ne_nil_of_mem hcomma
  have hne' : ungrouped s ≠ [] := List.ne_nil_of_mem (dot_mem_ungrouped hcomma hdot)
  rw [Str.trim_eq_self_iff, Str.trim_eq_self_iff, or_iff_right hne, or_iff_right hne',
    splitOn_ungrouped, List.forall_mem_map]
  constructor
  · intro h
    exact ⟨fun w hw => ((isWord_ungrouped s w).1 (h w hw)).1, fun _ _ w hw => ((isWord_ungrouped s w).1 (h w hw)).2⟩
  · rintro ⟨hwords, hkeeps⟩ w hw
    exact (isWord_ungrouped s w).2 ⟨hwords w hw, hkeeps hcomma hdot w hw⟩

section
variable {py : Python} {locale : Option NumericLocale}

theorem isSpace_text {conv : Numerals.Convention} (n : Numeral py.isDigit) : ∀ c ∈ n.text conv, Str.isSpace c = false := by
  intro c hc
  rcases n.mem_text hc with rfl | rfl | rfl | rfl | hdigit
  · decide
  · decide
  · decide
  · decide
  · exact py.isDigit_not_space c hdigit

theorem text_ne_nil {conv : Numerals.Convention} (n : Numeral py.isDigit) : n.text conv ≠ [] := by
  unfold Numeral.text
  simp [n.whole_ne_nil]

theorem comma_notMem_plain (n : Numeral py.isDigit) : ',' ∉ n.plain := by
  rw [← n.filter_comma_text]
  simp

theorem standardizeNumeric_of_no_comma {s : Str} (hstrip : s.strip = s) (hcomma : ',' ∉ s)
    (hgrouped : ¬ (locale = some .eu ∧ groupedBy py '.' s = true)) : (standardizeNumeric py s locale).1 = s := by
  by_cases hne : s = []
  · subst hne
    rfl
  · apply standardizeNumeric_fst
    unfold standardizeNumeric
    by_cases hdot : '.' ∈ s
    · simp [hne, hstrip, hcomma, hdot, hgrouped]
    · simp [hne, hstrip, hcomma, hdot]

/-- A text that is stripped and has one separator, or none: nothing changes, or it was a numeral. -/
theorem standardizeNumeric_single_of_strip {s : Str} (hstrip : s.strip = s) (hnot : ¬ (',' ∈ s ∧ '.' ∈ s)) :
    (standardizeNumeric py s locale).1 = s ∨ ∃ conv, ∃ n : Numeral py.isDigit, s = n.text conv ∧
      (standardizeNumeric py s locale).1 = n.plain ∧ groupedBy py '.' n.plain = false := by
  have h : ((standardizeNumeric py s locale).1 = s ∨ (standardizeNumeric py s locale).1 = s.strip) ∨ _ :=
    standardizeNumeric_single locale (by rwa [hstrip])
  rw [hstrip] at h
  rcases h with (h | h) | h
  · exact .inl h
  · exact .inl h
  · exact .inr h

/-- **The canonical number is trimmed.** -/
theorem trim_standardizeNumeric_iff {s : Str} (hstrip : s.strip = s) :
    Str.trim (standardizeNumeric py s locale).1 = (standardizeNumeric py s locale).1 ↔ Str.trim s = s ∧ KeepsWords s := by
  by_cases hboth : ',' ∈ s ∧ '.' ∈ s
  · obtain ⟨hcomma, hdot⟩ := hboth
    have hout : (standardizeNumeric py s locale).1 = ungrouped s.strip :=
      standardizeNumeric_both locale (by rwa [hstrip]) (by rwa [hstrip])
    rw [hout, hstrip]
    exact trim_ungrouped_iff hcomma hdot
  · have hwords : KeepsWords s := fun hcomma hdot => absurd ⟨hcomma, hdot⟩ hboth
    rw [and_iff_left hwords]
    rcases standardizeNumeric_single_of_strip hstrip hboth with h | ⟨conv, n, htext, hplain, -⟩
    · rw [h]
    · rw [hplain, htext]
      exact iff_of_true (Str.trim_eq_self (isSpace_text n.ungroup)) (Str.trim_eq_self (isSpace_text n))

/-- **The canonical number is standardized to itself.** -/
theorem standardizeNumeric_again_iff {s : Str} (hstrip : s.strip = s)
    (htrim : Str.trim (standardizeNumeric py s locale).1 = (standardizeNumeric py s locale).1) :
    (standardizeNumeric py (standardizeNumeric py s locale).1 locale).1 = (standardizeNumeric py s locale).1 ↔
      NotRegrouped py locale s := by
  by_cases hboth : ',' ∈ s ∧ '.' ∈ s
  · obtain ⟨hcomma, hdot⟩ := hboth
    have hout : (standardizeNumeric py s locale).1 = ungrouped s.strip :=
      standardizeNumeric_both locale (by rwa [hstrip]) (by rwa [hstrip])
    rw [hstrip] at hout
    rw [hout] at htrim ⊢
    have hstrip' := strip_of_trim htrim
    have hdot' := dot_mem_ungrouped hcomma hdot
    have hcomma' := comma_notMem_ungrouped s
    unfold NotRegrouped
    constructor
    · intro hself _ _ hgrouped
      have hagain : (standardizeNumeric py (ungrouped s) locale).1 = without '.' (ungrouped s) :=
        standardizeNumeric_fst (by
          unfold standardizeNumeric; simp [List.ne_nil_of_mem hdot', hstrip', hcomma', hdot', hgrouped])
      rw [hagain] at hself
      rw [← hself] at hdot'
      exact absurd hdot' (by simp [without])
    · intro h
      exact standardizeNumeric_of_no_comma hstrip' hcomma' (h hcomma hdot)
  · have hnot : NotRegrouped py locale s := fun hcomma hdot => absurd ⟨hcomma, hdot⟩ hboth
    refine iff_of_true ?_ hnot
    rcases standardizeNumeric_single_of_strip hstrip hboth with h | ⟨conv, n, -, hplain, hgrouped⟩
    · rw [h, h]
    · rw [hplain]
      refine standardizeNumeric_of_no_comma (Str.strip_eq_self (isSpace_text n.ungroup)) (comma_notMem_plain n) ?_
      simp [hgrouped]

/-- **Numbers.** -/
theorem settles_standardizeNumeric {s : Str} (hs : Str.trim s = s) :
    Settles (fun s => standardizeNumeric py s locale) (standardizeNumeric py s locale).1 ↔ KeepsNumeric py locale s := by
  have hstrip := strip_of_trim hs
  have htrim : Str.trim (standardizeNumeric py s locale).1 = (standardizeNumeric py s locale).1 ↔ KeepsWords s := by
    rw [trim_standardizeNumeric_iff hstrip, and_iff_right hs]
  constructor
  · rintro ⟨htrimmed, hruled⟩
    exact ⟨htrim.1 htrimmed, (standardizeNumeric_again_iff hstrip htrimmed).1 hruled⟩
  · rintro ⟨hwords, hnot⟩
    exact ⟨htrim.2 hwords, (standardizeNumeric_again_iff hstrip (htrim.2 hwords)).2 hnot⟩

/-! ## What a number keeps -/

theorem count_without {sep x : Char} (hx : x ≠ sep) (s : Str) : (without sep s).count x = s.count x :=
  List.count_filter (by simpa using hx)

theorem count_replaceChar {c d x : Char} (hc : x ≠ c) (hd : x ≠ d) (s : Str) :
    (replaceChar c d s).count x = s.count x := by
  induction s with
  | nil => rfl
  | cons y s ih =>
    have hreplace : replaceChar c d (y :: s) = (if y = c then d else y) :: replaceChar c d s := rfl
    rw [hreplace, List.count_cons, List.count_cons, ih]
    by_cases hy : y = c
    · simp [hy, Ne.symm hc, Ne.symm hd]
    · simp [hy]

/-- Only separators come and go. -/
theorem count_standardizeNumeric {x : Char} (hcomma : x ≠ ',') (hdot : x ≠ '.') {s : Str} (hstrip : s.strip = s) :
    (standardizeNumeric py s locale).1.count x = s.count x := by
  by_cases hboth : ',' ∈ s ∧ '.' ∈ s
  · have hout : (standardizeNumeric py s locale).1 = ungrouped s.strip :=
      standardizeNumeric_both locale (by rw [hstrip]; exact hboth.1) (by rw [hstrip]; exact hboth.2)
    rw [hout, hstrip]
    unfold ungrouped
    split
    · exact count_without hcomma s
    · rw [count_replaceChar hcomma hdot, count_without hdot]
  · rcases standardizeNumeric_single_of_strip hstrip hboth with h | ⟨conv, n, htext, hplain, -⟩
    · rw [h]
    · rw [hplain, htext]
      cases conv with
      | us => rw [← n.filter_comma_text]; exact count_without hcomma _
      | eu =>
        rw [← n.map_comma_filter_text]
        exact (count_replaceChar hcomma hdot _).trans (count_without hdot _)

theorem mem_standardizeNumeric {x : Char} (hcomma : x ≠ ',') (hdot : x ≠ '.') {s : Str} (hstrip : s.strip = s) :
    x ∈ (standardizeNumeric py s locale).1 ↔ x ∈ s := by
  rw [← List.count_pos_iff, count_standardizeNumeric hcomma hdot hstrip, List.count_pos_iff]

theorem standardizeNumeric_eq_nil_iff {s : Str} (hstrip : s.strip = s) :
    (standardizeNumeric py s locale).1 = [] ↔ s = [] := by
  by_cases hboth : ',' ∈ s ∧ '.' ∈ s
  · have hout : (standardizeNumeric py s locale).1 = ungrouped s.strip :=
      standardizeNumeric_both locale (by rw [hstrip]; exact hboth.1) (by rw [hstrip]; exact hboth.2)
    rw [hout, hstrip]
    exact iff_of_false (List.ne_nil_of_mem (dot_mem_ungrouped hboth.1 hboth.2)) (List.ne_nil_of_mem hboth.1)
  · rcases standardizeNumeric_single_of_strip hstrip hboth with h | ⟨conv, n, htext, hplain, -⟩
    · rw [h]
    · rw [hplain, htext]
      exact iff_of_false (text_ne_nil n.ungroup) (text_ne_nil n)

end

end Standardization
end DataOps

import DataOps.LibPython
import DataOps.LibRegex
/-!
# Slugs — what an organization is known by at login

`generate_slug` makes slugs only (`generateSlug_slug`) and keeps every slug as it is (`IsSlug.generateSlug`).
`is_valid_slug` takes the slugs, and every slug with a line feed behind it, because `$` also matches there
(`isValidSlug_iff`).
-/
namespace DataOps
namespace Slugs

open Str (Single)

/-- `[a-z0-9]` -/
def slugChars : Str := "abcdefghijklmnopqrstuvwxyz0123456789".toList

/-- `_SLUG_VALID_PATTERN`, between its anchors. -/
def slugValidPattern : RegularExpression Char :=
  Str.oneOf slugChars * (1 + (Str.oneOf ('-' :: slugChars)).star * Str.oneOf slugChars)

/-- What `_SLUG_INVALID_CHARS` runs over: `[^a-z0-9]`. -/
def isInvalidChar (c : Char) : Bool := !slugChars.contains c

def generateSlug (py : Python) (name : Str) : Str :=
  let slug := py.lower (Str.strip name)
  let slug := Str.subRuns isInvalidChar '-' false slug
  let slug := Str.subRepeats '-' 0 slug
  Str.stripOf '-' slug

def isValidSlug (slug : Str) : Bool :=
  !slug.isEmpty && Str.matchToEnd slugValidPattern slug && !decide (['-', '-'] <:+: slug)

/-- Letters and digits, joined by single hyphens. -/
structure IsSlug (s : Str) : Prop where
  ne_nil : s ≠ []
  chars : ∀ c ∈ s, c ∈ '-' :: slugChars
  single : Single '-' s
  head : s.head? ≠ some '-'
  last : s.getLast? ≠ some '-'

/-! ## The pattern -/

theorem mem_slugChars_of_ne {c : Char} (h : c ∈ '-' :: slugChars) (hne : c ≠ '-') : c ∈ slugChars :=
  (List.mem_cons.1 h).resolve_left hne

theorem hyphen_notMem : '-' ∉ slugChars := by decide

theorem slugValidPattern_rmatch {s : Str} : slugValidPattern.rmatch s ↔
    s ≠ [] ∧ (∀ c ∈ s, c ∈ '-' :: slugChars) ∧ s.head? ≠ some '-' ∧ s.getLast? ≠ some '-' := by
  unfold slugValidPattern
  rw [RegularExpression.mul_rmatch_iff]
  constructor
  · rintro ⟨first, rest, rfl, hfirst, hrest⟩
    obtain ⟨c, hc, rfl⟩ := Str.oneOf_rmatch.1 hfirst
    have hcHyphen : c ≠ '-' := ne_of_mem_of_not_mem hc hyphen_notMem
    rcases (RegularExpression.add_rmatch_iff _ _ _).1 hrest with hempty | hrest
    · rw [RegularExpression.one_rmatch_iff] at hempty
      subst hempty
      simp [hc, hcHyphen]
    · obtain ⟨middle, last, rfl, hmiddle, hlast⟩ := (RegularExpression.mul_rmatch_iff _ _ _).1 hrest
      obtain ⟨d, hd, rfl⟩ := Str.oneOf_rmatch.1 hlast
      have hdHyphen : d ≠ '-' := ne_of_mem_of_not_mem hd hyphen_notMem
      have hmiddle' := Str.star_oneOf_rmatch.1 hmiddle
      refine ⟨by simp, fun x hx => ?_, by simp [hcHyphen], by simp [hdHyphen, List.getLast?_cons]⟩
      rcases List.mem_append.1 hx with hx | hx
      · rw [List.mem_singleton.1 hx]
        exact List.mem_cons_of_mem _ hc
      · rcases List.mem_append.1 hx with hx | hx
        · exact hmiddle' x hx
        · rw [List.mem_singleton.1 hx]
          exact List.mem_cons_of_mem _ hd
  · rintro ⟨hne, hchars, hhead, hlast⟩
    obtain ⟨c, rest, rfl⟩ := List.exists_cons_of_ne_nil hne
    have hc : c ∈ slugChars := mem_slugChars_of_ne (hchars c List.mem_cons_self) (by simpa using hhead)
    refine ⟨[c], rest, rfl, Str.oneOf_rmatch.2 ⟨c, hc, rfl⟩, (RegularExpression.add_rmatch_iff _ _ _).2 ?_⟩
    rcases List.eq_nil_or_concat rest with rfl | ⟨middle, d, rfl⟩
    · exact Or.inl ((RegularExpression.one_rmatch_iff _).2 rfl)
    · have hd : d ∈ slugChars := mem_slugChars_of_ne (hchars d (by simp)) (by simpa [List.getLast?_cons] using hlast)
      have hmiddle : ∀ x ∈ middle, x ∈ '-' :: slugChars := fun x hx => hchars x (by simp [hx])
      refine Or.inr ((RegularExpression.mul_rmatch_iff _ _ _).2 ?_)
      exact ⟨middle, [d], by simp, Str.star_oneOf_rmatch.2 hmiddle, Str.oneOf_rmatch.2 ⟨d, hd, rfl⟩⟩

theorem isSlug_iff {s : Str} : IsSlug s ↔ slugValidPattern.rmatch s ∧ ¬ ['-', '-'] <:+: s := by
  rw [slugValidPattern_rmatch, ← Str.single_iff]
  constructor
  · intro h
    exact ⟨⟨h.ne_nil, h.chars, h.head, h.last⟩, h.single⟩
  · rintro ⟨⟨hne, hchars, hhead, hlast⟩, hsingle⟩
    exact ⟨hne, hchars, hsingle, hhead, hlast⟩

instance (s : Str) : Decidable (IsSlug s) := decidable_of_iff _ isSlug_iff.symm

/-- A line feed at the end is no part of a doubled hyphen. -/
theorem doubled_lineFeed {t : Str} : ['-', '-'] <:+: t ++ ['\n'] ↔ ['-', '-'] <:+: t := by
  constructor
  · rintro ⟨before, after, happ⟩
    rcases List.eq_nil_or_concat after with rfl | ⟨after, c, rfl⟩
    · have hlast := congrArg List.getLast? happ
      simp at hlast
    · have hinit := congrArg List.dropLast happ
      rw [List.concat_eq_append, ← List.append_assoc, List.dropLast_concat, List.dropLast_concat] at hinit
      exact ⟨before, after, hinit⟩
  · rintro ⟨before, after, rfl⟩
    exact ⟨before, after ++ ['\n'], by simp⟩

/-- **`is_valid_slug` takes a slug, alone or before a line feed.** -/
theorem isValidSlug_iff {s : Str} : isValidSlug s = true ↔ IsSlug s ∨ ∃ t, s = t ++ ['\n'] ∧ IsSlug t := by
  unfold isValidSlug Str.matchToEnd
  simp only [Bool.and_eq_true, Bool.or_eq_true, Bool.not_eq_true', decide_eq_false_iff_not, beq_iff_eq,
    List.isEmpty_eq_false_iff]
  constructor
  · rintro ⟨⟨hne, hmatch | ⟨hlast, hmatch⟩⟩, hdoubled⟩
    · exact Or.inl (isSlug_iff.2 ⟨hmatch, hdoubled⟩)
    · have happ : s.dropLast ++ ['\n'] = s := List.dropLast_append_getLast? _ hlast
      refine Or.inr ⟨s.dropLast, happ.symm, isSlug_iff.2 ⟨hmatch, fun h => hdoubled ?_⟩⟩
      rw [← happ]
      exact doubled_lineFeed.2 h
  · rintro (h | ⟨t, rfl, h⟩)
    · obtain ⟨hmatch, hdoubled⟩ := isSlug_iff.1 h
      exact ⟨⟨h.ne_nil, Or.inl hmatch⟩, hdoubled⟩
    · obtain ⟨hmatch, hdoubled⟩ := isSlug_iff.1 h
      exact ⟨⟨by simp, Or.inr ⟨by simp, by simpa using hmatch⟩⟩, fun h => hdoubled (doubled_lineFeed.1 h)⟩

/-! ## The generator -/

section
variable {py : Python}

/-- **What `generate_slug` makes is a slug or nothing**, whatever `lower` does. -/
theorem generateSlug_slug (name : Str) : generateSlug py name = [] ∨ IsSlug (generateSlug py name) := by
  have hclass : isInvalidChar '-' = true := by decide
  have hruns := Str.single_subRuns hclass (py.lower (Str.strip name)) false
  have hrepeats := Str.subRepeats_eq_self hruns.1 (Nat.zero_le 1) (by simp)
  have hmem : ∀ c ∈ Str.subRuns isInvalidChar '-' false (py.lower (Str.strip name)),
      c ∈ '-' :: slugChars := by
    intro c hc
    rcases Str.mem_subRuns hc with rfl | hc
    · exact List.mem_cons_self
    · exact List.mem_cons_of_mem _ (by simpa [isInvalidChar] using hc)
  have heq : generateSlug py name =
      Str.stripOf '-' (Str.subRuns isInvalidChar '-' false (py.lower (Str.strip name))) := by
    simp only [generateSlug, hrepeats, List.replicate_zero, List.nil_append]
  rw [heq, or_iff_not_imp_left]
  intro hne
  have hwithin := Str.stripOf_infix '-' (Str.subRuns isInvalidChar '-' false (py.lower (Str.strip name)))
  have hends := Str.stripOf_ends '-' (Str.subRuns isInvalidChar '-' false (py.lower (Str.strip name)))
  exact ⟨hne, fun c hc => hmem c (hwithin.subset hc), List.IsChain.infix hruns.1 hwithin, hends.1, hends.2⟩

theorem IsSlug.ascii {s : Str} (h : IsSlug s) : ∀ c ∈ s, c.toNat < 128 ∧ Str.isSpace c = false ∧ c.toLower = c := by
  have hall : ('-' :: slugChars).all (fun c => c.toNat < 128 && !Str.isSpace c && c.toLower == c) = true := by decide
  intro c hc
  have hc' := List.all_eq_true.1 hall c (h.chars c hc)
  simpa [and_assoc] using hc'

variable (lower_ascii : ∀ s, (∀ c ∈ s, c.toNat < 128) → py.lower s = s.map Char.toLower)
include lower_ascii

/-- A slug is already what its generation would give. -/
theorem IsSlug.generateSlug {s : Str} (h : IsSlug s) : generateSlug py s = s := by
  have hascii := h.ascii
  have hstrip : Str.strip s = s := Str.strip_eq_self (fun c hc => (hascii c hc).2.1)
  have hlower : py.lower s = s := by
    rw [lower_ascii s (fun c hc => (hascii c hc).1)]
    exact (List.map_congr_left (fun c hc => (hascii c hc).2.2)).trans (List.map_id' s)
  have hclass : ∀ c ∈ s, isInvalidChar c = true → c = '-' := by
    intro c hc hnot
    by_contra hne
    simp [isInvalidChar, mem_slugChars_of_ne (h.chars c hc) hne] at hnot
  have hruns : Str.subRuns isInvalidChar '-' false s = s := Str.subRuns_eq_self h.single hclass (by simp)
  have hrepeats := Str.subRepeats_eq_self h.single (Nat.zero_le 1) (by simp)
  unfold Slugs.generateSlug
  simp only [hstrip, hlower, hruns, hrepeats, List.replicate_zero, List.nil_append]
  exact Str.stripOf_eq_self h.head h.last

theorem isSlug_iff_generateSlug {s : Str} : IsSlug s ↔ s ≠ [] ∧ generateSlug py s = s := by
  constructor
  · exact fun h => ⟨h.ne_nil, h.generateSlug lower_ascii⟩
  · rintro ⟨hne, hfixed⟩
    have hslug : generateSlug py s = [] ∨ IsSlug (generateSlug py s) := generateSlug_slug s
    rw [hfixed] at hslug
    exact hslug.resolve_left hne

/-- **A text is valid exactly when it is its own slug and not empty, and every text's slug is valid or empty, unless the
text is a slug with a line feed behind it.** -/
theorem valid_iff_generated_iff (s : Str) :
    ((isValidSlug s = true ↔ s ≠ [] ∧ generateSlug py s = s) ∧
      (generateSlug py s = [] ∨ isValidSlug (generateSlug py s) = true)) ↔
    ¬ ∃ t, s = t ++ ['\n'] ∧ IsSlug t := by
  have hgenerated : generateSlug py s = [] ∨ isValidSlug (generateSlug py s) = true :=
    (generateSlug_slug s).imp_right (fun h => isValidSlug_iff.2 (Or.inl h))
  rw [and_iff_left hgenerated, ← isSlug_iff_generateSlug lower_ascii, isValidSlug_iff]
  constructor
  · rintro h ⟨t, rfl, ht⟩
    have hslug := h.1 (Or.inr ⟨t, rfl, ht⟩)
    have hfeed := hslug.chars '\n' (by simp)
    exact absurd hfeed (by decide)
  · intro h
    exact or_iff_left h

end

theorem valid_iff_generated_iff_acmeCorp : ((isValidSlug "acme-corp".toList = true ↔
      "acme-corp".toList ≠ [] ∧ generateSlug asciiPython "acme-corp".toList = "acme-corp".toList) ∧
      (generateSlug asciiPython "acme-corp".toList = [] ∨
        isValidSlug (generateSlug asciiPython "acme-corp".toList) = true)) ↔
    ¬ ∃ t, "acme-corp".toList = t ++ ['\n'] ∧ IsSlug t :=
  valid_iff_generated_iff (fun _ _ => rfl) "acme-corp".toList

/-- With a line feed behind it `acme` is valid, and not its own slug. -/
theorem valid_not_generated : ¬ (isValidSlug "acme\n".toList = true ↔
    "acme\n".toList ≠ [] ∧ generateSlug asciiPython "acme\n".toList = "acme\n".toList) := by
  have hvalid : isValidSlug "acme\n".toList = true := isValidSlug_iff.2 (Or.inr ⟨"acme".toList, rfl, by decide⟩)
  have hgenerated : generateSlug asciiPython "acme\n".toList ≠ "acme\n".toList := by decide
  exact fun h => hgenerated (h.1 hvalid).2

end Slugs
end DataOps

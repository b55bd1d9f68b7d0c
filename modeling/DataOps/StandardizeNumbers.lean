import DataOps.LibNumerals
import DataOps.RemediateClears
/-!
# StandardizeNumbers — when `standardize_numeric` guesses

Where one kind of separator occurs, a regular expression decides what the text is.  Where both occur none is asked: the
one that occurs last is taken for the decimal separator of whatever the text may be.
-/
namespace DataOps
namespace Standardization

open Numerals (Numeral Convention)
open Detection (without groupedBy)
open Remediation (comma_notMem_ungrouped)

variable (py : Python)

/-- **Nothing is guessed**: the result is the text given up to surrounding blanks, or the plain numeral of the number the
text denotes under one of the two conventions. -/
def NeverGuesses (value : Str) (locale : Option NumericLocale) : Prop :=
  (standardizeNumeric py value locale).1.strip = value.strip ∨
    ∃ conv, ∃ n : Numeral py.isDigit, value.strip = n.text conv ∧ (standardizeNumeric py value locale).1 = n.plain

/-- The text is a numeral under one of the two conventions. -/
def IsNumeral (s : Str) : Prop := ∃ conv, ∃ n : Numeral py.isDigit, s = n.text conv

variable {py}

/-! ## The last separator -/

theorem idxOf?_append_of_notMem {c : Char} {l : Str} (h : c ∉ l) (m : Str) :
    (l ++ m).idxOf? c = (m.idxOf? c).map (fun k => k + l.length) := by
  induction l with
  | nil => simp
  | cons x l ih =>
    rw [List.mem_cons, not_or] at h
    rw [List.cons_append, List.idxOf?_cons, if_neg (by simpa using Ne.symm h.1), ih h.2, Option.map_map]
    rfl

/-- The last separator is found behind every other one. -/
theorem rfind_lt_rfind {c d : Char} (hne : c ≠ d) (pre : Str) {post : Str} (hc : c ∉ post) (hd : d ∉ post) :
    rfind c (pre ++ d :: post) < rfind d (pre ++ d :: post) := by
  have hreverse : (pre ++ d :: post).reverse = post.reverse ++ d :: pre.reverse := by simp
  have hlast : rfind d (pre ++ d :: post) = pre.length := by
    unfold rfind
    rw [hreverse, idxOf?_append_of_notMem (by simpa using hd), List.idxOf?_cons]
    simp
    omega
  rw [hlast]
  unfold rfind
  rw [hreverse, idxOf?_append_of_notMem (by simpa using hc), List.idxOf?_cons, if_neg (by simpa using Ne.symm hne)]
  cases pre.reverse.idxOf? c with
  | none =>
    simp only [Option.map_none]
    omega
  | some k =>
    simp only [Option.map_some, List.length_append, List.length_cons, List.length_reverse]
    omega

/-! ## Numerals in the source's eyes -/

/-- The decimal separator of a numeral that has one stands behind its grouping separators. -/
theorem ungrouped_text {conv : Convention} (n : Numeral py.isDigit) {d : Str} (hd : n.decimals = some d) :
    ungrouped (n.text conv) = n.plain := by
  have hdigits := (n.decimals_digits d hd).2
  have hcomma : ',' ∉ d := fun hmem => (hdigits _ hmem).2.1 rfl
  have hdot : '.' ∉ d := fun hmem => (hdigits _ hmem).2.2 rfl
  have htext : n.text conv = (n.sign.toList ++ (n.whole ++ n.groups.flatMap (fun g => conv.group :: g))) ++
      conv.decimal :: d := by
    unfold Numeral.text
    rw [hd]
    rfl
  unfold ungrouped
  cases conv with
  | us =>
    have hlt : rfind ',' (n.text .us) < rfind '.' (n.text .us) := by
      rw [htext]
      exact rfind_lt_rfind (by decide) _ hcomma hdot
    rw [if_pos hlt]
    exact n.filter_comma_text
  | eu =>
    have hlt : rfind '.' (n.text .eu) < rfind ',' (n.text .eu) := by
      rw [htext]
      exact rfind_lt_rfind (by decide) _ hdot hcomma
    rw [if_neg (by omega)]
    exact n.map_comma_filter_text

/-- A numeral in which both separators occur has decimals. -/
theorem decimals_of_both {conv : Convention} (n : Numeral py.isDigit) (hcomma : ',' ∈ n.text conv)
    (hdot : '.' ∈ n.text conv) : ∃ d, n.decimals = some d := by
  cases hd : n.decimals with
  | some d => exact ⟨d, rfl⟩
  | none =>
    have hin : conv.decimal ∈ n.text conv := by
      cases conv
      · exact hdot
      · exact hcomma
    exfalso
    unfold Numeral.text at hin
    rw [hd] at hin
    have hsep : ∀ c, c ≠ ',' ∧ c ≠ '.' → conv.decimal ≠ c := fun c hc heq => by
      cases conv
      · exact hc.2 heq.symm
      · exact hc.1 heq.symm
    simp only [Option.map_none, Option.getD_none, List.append_nil, List.mem_append, List.mem_flatMap, List.mem_cons] at hin
    rcases hin with hin | hin | ⟨g, hg, hin | hin⟩
    · exact hsep _ (n.sign_ne_separator hin) rfl
    · exact hsep _ (n.whole_digits _ hin).2 rfl
    · exact conv.group_ne_decimal hin.symm
    · exact hsep _ ((n.groups_digits g hg).2 _ hin).2 rfl

/-- **A text that a grouping expression accepts is a numeral without decimals.** -/
theorem exists_numeral_of_groupedBy (conv : Convention) {s : Str} (h : groupedBy py conv.group s = true)
    (hno : conv.decimal ∉ s) : ∃ n : Numeral py.isDigit, s = n.text conv ∧ n.decimals = none := by
  obtain ⟨unsigned, hs, g, gs, hsplit, hg, hdigits, hshort, hlength⟩ := Remediation.exists_groups h
  have hmem : ∀ c ∈ unsigned, c ∈ s := by
    rintro c hc
    rcases hs with rfl | rfl
    · exact hc
    · exact List.mem_cons_of_mem _ hc
  have hdigit : ∀ g' ∈ g :: gs, ∀ c ∈ g', Numerals.Digit py.isDigit c := by
    intro g' hg' c hc
    have hpart := Numeral.notMem_of_mem_splitOn (hsplit ▸ hg')
    have hgroup : c ≠ conv.group := ne_of_mem_of_not_mem hc hpart.1
    have hdecimal : c ≠ conv.decimal := fun heq => hno (heq ▸ hmem c (hpart.2 c hc))
    refine ⟨hdigits g' hg' c hc, ?_⟩
    cases conv
    · exact ⟨hgroup, hdecimal⟩
    · exact ⟨hdecimal, hgroup⟩
  have hjoin : unsigned = g ++ gs.flatMap (fun g => conv.group :: g) := by
    rw [← Numeral.intercalate_groups, ← hsplit, List.intercalate_splitOn]
  have hbuild : ∀ sign : Option Char, (∀ c ∈ sign, c = '-' ∨ c = '+') → s = sign.toList ++ unsigned →
      ∃ n : Numeral py.isDigit, s = n.text conv ∧ n.decimals = none := by
    intro sign hsign htext
    refine ⟨⟨sign, g, gs, none, hsign, hdigit g List.mem_cons_self, hg, fun _ => hshort,
      fun g' hg' => ⟨hlength g' hg', hdigit g' (List.mem_cons_of_mem _ hg')⟩, fun d hd => by cases hd⟩, ?_, rfl⟩
    unfold Numeral.text
    rw [htext, hjoin]
    simp
  rcases hs with rfl | rfl
  · exact hbuild none (fun c hc => by cases hc) rfl
  · exact hbuild (some '-') (fun c hc => .inl (Option.some.inj hc).symm) rfl

/-- **A text that the decimal-comma expression accepts is a numeral without groups.** -/
theorem exists_numeral_of_trailingCommaDecimal {s : Str} (h : trailingCommaDecimal py s = true) (hno : '.' ∉ s) :
    ∃ n : Numeral py.isDigit, s = n.text .eu ∧ replaceChar ',' '.' s = n.plain := by
  unfold trailingCommaDecimal at h
  dsimp only at h
  generalize hparts : List.splitOn ',' _ = parts at h
  obtain ⟨sign, unsigned, hs, hsign, hunsigned⟩ : ∃ (sign : Option Char) (unsigned : Str), s = sign.toList ++ unsigned ∧
      (∀ c ∈ sign, c = '-' ∨ c = '+') ∧ unsigned.splitOn ',' = parts := by
    split at hparts
    · rename_i unsigned
      exact ⟨some '-', unsigned, rfl, fun c hc => .inl (Option.some.inj hc).symm, hparts⟩
    · exact ⟨none, s, rfl, fun _ hc => by simp at hc, hparts⟩
  split at h
  · rename_i whole decimals
    obtain ⟨hwhole, hall, hlen, -, halldec⟩ := of_decide_eq_true h
    have hdigit : ∀ g ∈ [whole, decimals], g.all py.isDigit = true → ∀ c ∈ g, Numerals.Digit py.isDigit c := by
      intro g hg hgdigits c hc
      have hpart := Numeral.notMem_of_mem_splitOn (hunsigned ▸ hg)
      refine ⟨List.all_eq_true.1 hgdigits c hc, ne_of_mem_of_not_mem hc hpart.1, fun heq => hno ?_⟩
      rw [hs, ← heq]
      exact List.mem_append_right _ (hpart.2 c hc)
    have hdecimals : ∀ d ∈ some decimals, d ≠ [] ∧ ∀ c ∈ d, Numerals.Digit py.isDigit c := by
      rintro d hd
      cases hd
      exact ⟨List.ne_nil_of_length_pos hlen, hdigit decimals (by simp) halldec⟩
    let n : Numeral py.isDigit := ⟨sign, whole, [], some decimals, hsign, hdigit whole (by simp) hall, hwhole,
      fun hne => absurd rfl hne, fun _ hg => absurd hg List.not_mem_nil, hdecimals⟩
    have htext : s = n.text .eu := by
      have hjoin : unsigned = whole ++ ',' :: decimals := by
        have hself : [','].intercalate (unsigned.splitOn ',') = unsigned := List.intercalate_splitOn ','
        rw [← hself, hunsigned]
        simp
      rw [hs, hjoin]
      simp [n, Numeral.text, Convention.decimal]
    refine ⟨n, htext, ?_⟩
    have hplain := n.map_comma_filter_text
    rw [← htext, List.filter_eq_self.2 (fun c hc => by simpa using ne_of_mem_of_not_mem hc hno)] at hplain
    exact hplain
  · cases h

/-! ## Groups and decimals apart -/

/-- A text without a separator has no groups. -/
theorem groupedBy_of_notMem {sep : Char} {s : Str} (h : sep ∉ s) : groupedBy py sep s = false := by
  unfold groupedBy
  dsimp only
  generalize hparts : List.splitOn sep _ = parts
  have hone : ∃ unsigned, parts = [unsigned] := by
    rw [← hparts]
    split
    · rename_i t
      exact ⟨t, List.splitOn_eq_singleton (fun hmem => h (List.mem_cons_of_mem _ hmem))⟩
    · exact ⟨s, List.splitOn_eq_singleton h⟩
  obtain ⟨unsigned, rfl⟩ := hone
  simp

theorem splitOn_replaceChar {c d : Char} {s : Str} (h : d ∉ s) : (replaceChar c d s).splitOn d = s.splitOn c := by
  induction s with
  | nil => rfl
  | cons x s ih =>
    rw [List.mem_cons, not_or] at h
    have hreplace : replaceChar c d (x :: s) = (if x = c then d else x) :: replaceChar c d s := rfl
    rw [hreplace, List.splitOn_cons_eq_if_modifyHead, List.splitOn_cons_eq_if_modifyHead, ih h.2]
    by_cases hx : x = c
    · simp [hx]
    · simp [hx, Ne.symm h.1]

/-- The sign is part of the first part only. -/
theorem splitOn_signed {sep : Char} (hsep : '-' ≠ sep) {s unsigned g : Str} {gs : List Str}
    (hs : s = unsigned ∨ s = '-' :: unsigned) (hsplit : unsigned.splitOn sep = g :: gs) :
    ∃ g', s.splitOn sep = g' :: gs := by
  rcases hs with rfl | rfl
  · exact ⟨g, hsplit⟩
  · rw [List.splitOn_cons_eq_if_modifyHead, if_neg (by simpa using hsep), hsplit]
    exact ⟨'-' :: g, rfl⟩

theorem exists_decimals {s : Str} (h : trailingCommaDecimal py s = true) :
    ∃ whole decimals, s.splitOn ',' = [whole, decimals] ∧ decimals.length ≤ 2 := by
  unfold trailingCommaDecimal at h
  dsimp only at h
  generalize hparts : List.splitOn ',' _ = parts at h
  obtain ⟨unsigned, hs, hunsigned⟩ : ∃ unsigned, (s = unsigned ∨ s = '-' :: unsigned) ∧
    unsigned.splitOn ',' = parts := by
    split at hparts
    · rename_i unsigned
      exact ⟨unsigned, .inr rfl, hparts⟩
    · exact ⟨s, .inl rfl, hparts⟩
  split at h
  · rename_i whole decimals
    obtain ⟨-, -, -, hlen, -⟩ := of_decide_eq_true h
    obtain ⟨whole', hsplit⟩ := splitOn_signed (by decide) hs hunsigned
    exact ⟨whole', decimals, hsplit, hlen⟩
  · cases h

/-- One or two decimals are no group of three. -/
theorem groupedBy_replaceChar {s : Str} (h : trailingCommaDecimal py s = true) (hno : '.' ∉ s) :
    groupedBy py '.' (replaceChar ',' '.' s) = false := by
  obtain ⟨whole, decimals, hsplit, hlen⟩ := exists_decimals h
  rw [← splitOn_replaceChar hno] at hsplit
  by_contra hgrouped
  rw [Bool.not_eq_false] at hgrouped
  obtain ⟨unsigned, hs, g, gs, hgroups, -, -, -, hthree⟩ := Remediation.exists_groups hgrouped
  obtain ⟨g', hsigned⟩ := splitOn_signed (by decide) hs hgroups
  rw [hsplit] at hsigned
  have hgs : [decimals] = gs := (List.cons.inj hsigned).2
  have hlength := hthree decimals (hgs ▸ List.mem_singleton_self decimals)
  omega

/-! ## The rule -/

theorem standardizeNumeric_fst {value canonical : Str} {locale : Option NumericLocale}
    (h : standardizeNumeric py value locale =
      (if canonical = value then (value, none) else (canonical, some .numericFormatNormalize))) :
    (standardizeNumeric py value locale).1 = canonical := by
  rw [h]
  split
  · rename_i heq
    exact heq.symm
  · rfl

/-- Both separators: nothing is asked of the text. -/
theorem standardizeNumeric_both {value : Str} (locale : Option NumericLocale) (hcomma : ',' ∈ value.strip)
    (hdot : '.' ∈ value.strip) : (standardizeNumeric py value locale).1 = ungrouped value.strip := by
  have hne : value ≠ [] := List.ne_nil_of_mem (Str.mem_of_mem_strip hcomma)
  exact standardizeNumeric_fst (by unfold standardizeNumeric; simp [hne, hcomma, hdot])

/-- One separator, or none: the text up to surrounding blanks, or the plain numeral of the number it denotes, which is no
grouped one. -/
theorem standardizeNumeric_single {value : Str} (locale : Option NumericLocale)
    (hnot : ¬ (',' ∈ value.strip ∧ '.' ∈ value.strip)) :
    ((standardizeNumeric py value locale).1 = value ∨ (standardizeNumeric py value locale).1 = value.strip) ∨
      ∃ conv, ∃ n : Numeral py.isDigit, value.strip = n.text conv ∧ (standardizeNumeric py value locale).1 = n.plain ∧
        groupedBy py '.' n.plain = false := by
  by_cases hne : value = []
  · subst hne
    exact .inl (.inl rfl)
  by_cases hcomma : ',' ∈ value.strip
  · have hdot : '.' ∉ value.strip := fun h => hnot ⟨hcomma, h⟩
    by_cases hgrouped : groupedBy py ',' value.strip = true
    · have hcanonical : (standardizeNumeric py value locale).1 = without ',' value.strip :=
        standardizeNumeric_fst (by unfold standardizeNumeric; simp [hne, hcomma, hdot, hgrouped])
      obtain ⟨n, htext, -⟩ := exists_numeral_of_groupedBy .us hgrouped hdot
      have hplain : without ',' value.strip = n.plain := by
        rw [htext]
        exact n.filter_comma_text
      refine .inr ⟨.us, n, htext, hcanonical.trans hplain, ?_⟩
      rw [← hplain]
      exact groupedBy_of_notMem (fun hmem => hdot (List.mem_filter.1 hmem).1)
    · by_cases hdecimal : locale = some .eu ∧ trailingCommaDecimal py value.strip = true
      · have hcanonical : (standardizeNumeric py value locale).1 = replaceChar ',' '.' value.strip :=
          standardizeNumeric_fst (by unfold standardizeNumeric; simp [hne, hcomma, hdot, hgrouped, hdecimal])
        obtain ⟨n, htext, hplain⟩ := exists_numeral_of_trailingCommaDecimal hdecimal.2 hdot
        refine .inr ⟨.eu, n, htext, hcanonical.trans hplain, ?_⟩
        rw [← hplain]
        exact groupedBy_replaceChar hdecimal.2 hdot
      · refine .inl (.inl ?_)
        unfold standardizeNumeric
        simp [hne, hcomma, hdot, hgrouped, hdecimal]
  · by_cases hgrouped : '.' ∈ value.strip ∧ locale = some .eu ∧ groupedBy py '.' value.strip = true
    · have hcanonical : (standardizeNumeric py value locale).1 = without '.' value.strip :=
        standardizeNumeric_fst (by unfold standardizeNumeric; simp [hne, hcomma, hgrouped])
      obtain ⟨n, htext, hnone⟩ := exists_numeral_of_groupedBy .eu hgrouped.2.2 hcomma
      have hplain : without '.' value.strip = n.plain := by
        rw [htext]
        refine (n.filter_group_text .eu).trans ?_
        unfold Numeral.plain Numeral.text
        have hdecimals : n.ungroup.decimals = none := hnone
        rw [hdecimals]
        rfl
      refine .inr ⟨.eu, n, htext, hcanonical.trans hplain, ?_⟩
      rw [← hplain]
      exact groupedBy_of_notMem (by simp [without])
    · refine .inl (.inr (standardizeNumeric_fst ?_))
      by_cases hdot : '.' ∈ value.strip
      · have hnone : ¬ (locale = some .eu ∧ groupedBy py '.' value.strip = true) := fun h => hgrouped ⟨hdot, h⟩
        unfold standardizeNumeric
        simp [hne, hcomma, hdot, hnone]
      · unfold standardizeNumeric
        simp [hne, hcomma, hdot]

/-- **`standardize_numeric` never guesses exactly where a text with both separators is a numeral.** -/
theorem standardizeNumeric_neverGuesses_iff (py : Python) (value : Str) (locale : Option NumericLocale) :
    NeverGuesses py value locale ↔ (',' ∈ value.strip → '.' ∈ value.strip → IsNumeral py value.strip) := by
  by_cases hboth : ',' ∈ value.strip ∧ '.' ∈ value.strip
  · obtain ⟨hcomma, hdot⟩ := hboth
    have hcanonical : (standardizeNumeric py value locale).1 = ungrouped value.strip :=
      standardizeNumeric_both locale hcomma hdot
    constructor
    · rintro (hsame | ⟨conv, n, htext, -⟩) - -
      · -- the commas are gone, so the text is not the one given
        rw [hcanonical] at hsame
        exact absurd (Str.mem_of_mem_strip (hsame ▸ hcomma)) (comma_notMem_ungrouped _)
      · exact ⟨conv, n, htext⟩
    · intro h
      obtain ⟨conv, n, htext⟩ := h hcomma hdot
      obtain ⟨d, hd⟩ := decimals_of_both n (htext ▸ hcomma) (htext ▸ hdot)
      refine .inr ⟨conv, n, htext, ?_⟩
      rw [hcanonical, htext, ungrouped_text n hd]
  · refine iff_of_true ?_ (fun hcomma hdot => absurd ⟨hcomma, hdot⟩ hboth)
    rcases standardizeNumeric_single locale hboth with (hself | hstrip) | ⟨conv, n, htext, hplain, -⟩
    · exact .inl (by rw [hself])
    · exact .inl (by rw [hstrip, Str.strip_strip])
    · exact .inr ⟨conv, n, htext, hplain⟩

/-- **A name with a comma and a full stop loses its comma.** -/
theorem standardizeNumeric_guesses :
    standardizeNumeric asciiPython "Smith, J.".toList none = ("Smith J.".toList, some .numericFormatNormalize) ∧
      ¬ ∀ (py : Python) (value : Str) (locale : Option NumericLocale), NeverGuesses py value locale := by
  refine ⟨by decide, fun hall => ?_⟩
  rcases hall asciiPython "Smith, J.".toList none with hsame | ⟨conv, n, htext, -⟩
  · revert hsame
    decide
  · have hmem : 'S' ∈ n.text conv := htext ▸ (by decide : 'S' ∈ Str.strip "Smith, J.".toList)
    have hchars := n.mem_text hmem
    revert hchars
    decide

end Standardization
end DataOps

import DataOps.StandardizeSettled
/-!
# StandardizeForms — the rules with one canonical form

Phone numbers, postal codes and times settle always; dates and booleans when the configured output form does.
-/
namespace DataOps
namespace Standardization

variable {py : PythonValues}

/-! ## Phone numbers -/

theorem settles_standardizePhone (phones : PhoneTexts py.toPython) (country : Option Str) {value : Str}
    (hvalue : Str.trim value = value) :
    Settles (fun value => standardizePhone py.toPython value country) (standardizePhone py.toPython value country).1 := by
  have hcases : ∀ v : Str, (standardizePhone py.toPython v country).1 = v ∨
      ∃ number, py.parsePhone v country = some number ∧
        (standardizePhone py.toPython v country).1 = py.formatE164 number := by
    intro v
    unfold standardizePhone
    split
    · exact .inl rfl
    · exact .inl rfl
    · split
      · exact .inl rfl
      · split
        · exact .inl rfl
        · rename_i number hparse
          split
          · exact .inl rfl
          · exact .inr ⟨number, hparse, changedTo_fst _ _ _⟩
  rcases hcases value with h | ⟨number, -, h⟩
  · exact settles_of_eq hvalue h
  · rw [h]
    refine ⟨Str.trim_eq_self (phones.e164_chars number), ?_⟩
    rcases hcases (py.formatE164 number) with hagain | ⟨again, hparse, hagain⟩
    · exact hagain
    · exact hagain.trans (phones.e164_again number country again hparse)

/-! ## Postal codes -/

theorem alphanumerics_of_isDigit {s : Str} (h : ∀ c ∈ s, c.isDigit = true) : alphanumerics s = s :=
  List.filter_eq_self.2 (fun c hc => by simp [h c hc])

theorem alphanumerics_of_isAlphanum {s : Str} (h : ∀ c ∈ s, (c.isAlpha || c.isDigit) = true) : alphanumerics s = s :=
  List.filter_eq_self.2 h

theorem alphanumerics_hyphen (s t : Str) : alphanumerics (s ++ '-' :: t) = alphanumerics s ++ alphanumerics t := by
  simp [alphanumerics]

theorem alphanumerics_space (s t : Str) : alphanumerics (s ++ ' ' :: t) = alphanumerics s ++ alphanumerics t := by
  simp [alphanumerics]

theorem upper_upper_text (casing : Casing py.toPython) (s : Str) : py.upper (py.upper s) = py.upper s := by
  have hfixed : ∀ t : Str, (∀ c ∈ t, py.upper [c] = [c]) → t.flatMap (fun c => py.upper [c]) = t := by
    intro t ht
    induction t with
    | nil => rfl
    | cons c t ih =>
      rw [List.flatMap_cons, ht c List.mem_cons_self, ih (fun x hx => ht x (List.mem_cons_of_mem _ hx))]
      rfl
  rw [casing.upper_eq (py.upper s)]
  apply hfixed
  intro u hu
  rw [casing.upper_eq s] at hu
  obtain ⟨c, -, hc⟩ := List.mem_flatMap.1 hu
  exact casing.upper_upper c u hc

/-- A ZIP code, of the digits of a text. -/
theorem settles_usPostalCode {value : Str} (hvalue : Str.trim value = value) :
    Settles (fun value => standardizePostalCode py value (some "US".toList))
      (standardizePostalCode py value (some "US".toList)).1 := by
  have hfst : ∀ v : Str, v ≠ [] → (standardizePostalCode py v (some "US".toList)).1 =
      if alphanumerics v = [] ∨ ¬ (alphanumerics v).all Char.isDigit ∨
          ((alphanumerics v).length ≠ 5 ∧ (alphanumerics v).length ≠ 9) then v
      else if (alphanumerics v).length = 5 then alphanumerics v
      else (alphanumerics v).take 5 ++ '-' :: (alphanumerics v).drop 5 := by
    intro v hv
    unfold standardizePostalCode
    rw [if_neg (by simp [hv]), if_pos rfl]
    dsimp only
    split
    · rfl
    · exact changedTo_fst _ _ _
  by_cases hne : value = []
  · exact settles_of_eq hvalue (by simp [standardizePostalCode, hne])
  · have hout := hfst value hne
    by_cases hguard : alphanumerics value = [] ∨ ¬ (alphanumerics value).all Char.isDigit ∨
        ((alphanumerics value).length ≠ 5 ∧ (alphanumerics value).length ≠ 9)
    · rw [if_pos hguard] at hout
      exact settles_of_eq hvalue hout
    · rw [if_neg hguard] at hout
      rw [hout]
      have hdigits : ∀ c ∈ alphanumerics value, c.isDigit = true := by
        simp only [not_or, not_not, List.all_eq_true] at hguard
        exact hguard.2.1
      have htake : ∀ c ∈ (alphanumerics value).take 5, c.isDigit = true := fun c hc => hdigits c (List.mem_of_mem_take hc)
      have hdrop : ∀ c ∈ (alphanumerics value).drop 5, c.isDigit = true := fun c hc => hdigits c (List.mem_of_mem_drop hc)
      generalize hform : (if (alphanumerics value).length = 5 then alphanumerics value
        else (alphanumerics value).take 5 ++ '-' :: (alphanumerics value).drop 5) = form
      -- the form has the digits of the text, and no blank
      have hagain : alphanumerics form = alphanumerics value := by
        rw [← hform]
        split
        · exact alphanumerics_of_isDigit hdigits
        · rw [alphanumerics_hyphen, alphanumerics_of_isDigit htake, alphanumerics_of_isDigit hdrop, List.take_append_drop]
      have hchars : ∀ c ∈ form, Str.isSpace c = false := by
        have hspace : ∀ c : Char, c.isDigit = true → Str.isSpace c = false :=
          fun c hc => isSpace_of_isAlphanum (by simp [hc])
        rw [← hform]
        split
        · exact fun c hc => hspace c (hdigits c hc)
        · intro c hc
          rcases List.mem_append.1 hc with hc | hc
          · exact hspace c (htake c hc)
          · rcases List.mem_cons.1 hc with rfl | hc
            · decide
            · exact hspace c (hdrop c hc)
      have hformNe : form ≠ [] := by
        rintro rfl
        exact hguard (.inl hagain.symm)
      refine ⟨Str.trim_eq_self hchars, ?_⟩
      rw [hfst form hformNe, hagain, if_neg hguard, hform]

theorem exists_of_isCaPostal {s : Str} (h : isCaPostal s = true) :
    ∃ a b c d e f, s = [a, b, c, d, e, f] ∧ ∀ x ∈ s, (x.isAlpha || x.isDigit) = true := by
  unfold isCaPostal at h
  split at h
  · rename_i a b c d e f
    refine ⟨a, b, c, d, e, f, rfl, ?_⟩
    simp only [Bool.and_eq_true] at h
    simp [h]
  · cases h

/-- A Canadian postal code, of the letters and digits of a text. -/
theorem settles_caPostalCode (casing : Casing py.toPython) {value : Str} (hvalue : Str.trim value = value) :
    Settles (fun value => standardizePostalCode py value (some "CA".toList))
      (standardizePostalCode py value (some "CA".toList)).1 := by
  have hfst : ∀ v : Str, v ≠ [] → (standardizePostalCode py v (some "CA".toList)).1 =
      if ¬ isCaPostal (py.upper (alphanumerics v)) then v
      else (py.upper (alphanumerics v)).take 3 ++ ' ' :: (py.upper (alphanumerics v)).drop 3 := by
    intro v hv
    unfold standardizePostalCode
    rw [if_neg (by simp [hv]), if_neg (by decide)]
    dsimp only
    split
    · rfl
    · exact changedTo_fst _ _ _
  by_cases hne : value = []
  · exact settles_of_eq hvalue (by simp [standardizePostalCode, hne])
  · have hout := hfst value hne
    by_cases hguard : isCaPostal (py.upper (alphanumerics value)) = true
    · rw [if_neg (not_not.2 hguard)] at hout
      rw [hout]
      have hupper := upper_upper_text casing (alphanumerics value)
      generalize py.upper (alphanumerics value) = compact at hguard hupper
      obtain ⟨a, b, c, d, e, f, rfl, hchars⟩ := exists_of_isCaPostal hguard
      have hagain : alphanumerics ([a, b, c] ++ ' ' :: [d, e, f]) = [a, b, c, d, e, f] := by
        rw [alphanumerics_space, alphanumerics_of_isAlphanum, alphanumerics_of_isAlphanum]
        · rfl
        · exact fun x hx => hchars x (List.mem_append_right [a, b, c] hx)
        · exact fun x hx => hchars x (List.mem_append_left [d, e, f] hx)
      have hspaced : Str.Spaced ([a, b, c] ++ ' ' :: [d, e, f]) := by
        have hspace : ∀ x ∈ [a, b, c, d, e, f], Str.isSpace x = false := fun x hx => isSpace_of_isAlphanum (hchars x hx)
        exact .inner (hspace a (by simp)) (.inner (hspace b (by simp)) (.space (hspace c (by simp))
          (.inner (hspace d (by simp)) (.inner (hspace e (by simp)) (.last (hspace f (by simp)))))))
      refine ⟨hspaced.trim, ?_⟩
      have hform := hfst ([a, b, c] ++ ' ' :: [d, e, f]) (by simp)
      rw [hagain, hupper, if_neg (not_not.2 hguard)] at hform
      exact hform
    · rw [if_pos hguard] at hout
      exact settles_of_eq hvalue hout

/-- **Postal codes.** -/
theorem settles_standardizePostalCode (casing : Casing py.toPython) (country : Option Str) {value : Str}
    (hvalue : Str.trim value = value) :
    Settles (fun value => standardizePostalCode py value country) (standardizePostalCode py value country).1 := by
  by_cases hus : country = some "US".toList
  · rw [hus]
    exact settles_usPostalCode hvalue
  · by_cases hca : country = some "CA".toList
    · rw [hca]
      exact settles_caPostalCode casing hvalue
    · refine settles_of_eq hvalue ?_
      unfold standardizePostalCode
      rw [if_pos (.inr ⟨hus, hca⟩)]

/-! ## Dates and times -/

/-- What a date needs to keep its canonical form. -/
def KeepsDate (py : PythonValues) (outputFormat : Option Str) (value : Str) : Prop :=
  value ≠ [] → ∀ format ∈ Str.given outputFormat, ∀ parsed ∈ Cleaning.fromIso py value,
    Settles (fun value => standardizeDate py value outputFormat) (py.strftime parsed format)

theorem settles_standardizeDate (hiso : IsoTexts py) (outputFormat : Option Str) {value : Str}
    (hvalue : Str.trim value = value) :
    Settles (fun value => standardizeDate py value outputFormat) (standardizeDate py value outputFormat).1 ↔
      KeepsDate py outputFormat value := by
  have hself : (standardizeDate py value outputFormat).1 = value →
      Settles (fun value => standardizeDate py value outputFormat) (standardizeDate py value outputFormat).1 :=
    fun h => settles_of_eq hvalue h
  unfold KeepsDate
  by_cases hne : value = []
  · have hnil : (standardizeDate py value outputFormat).1 = value := by simp [standardizeDate, hne]
    exact ⟨fun _ h => absurd hne h, fun _ => hself hnil⟩
  · have hfst : ∀ v : Str, v ≠ [] → v.strip = v → (standardizeDate py v outputFormat).1 =
        ((Cleaning.fromIso py v).map (fun parsed =>
          ((Str.given outputFormat).map (py.strftime parsed)).getD (py.isoformat parsed))).getD v := by
      intro v hv hstrip
      unfold standardizeDate
      rw [if_neg hv, hstrip]
      cases Cleaning.fromIso py v with
      | none => rfl
      | some parsed =>
        rw [changedTo_fst]
        cases Str.given outputFormat <;> rfl
    have hvalueFst := hfst value hne (strip_of_trim hvalue)
    cases hparsed : Cleaning.fromIso py value with
    | none =>
      rw [hparsed] at hvalueFst
      exact ⟨fun _ _ _ _ _ hp => absurd hp (by simp), fun _ => hself hvalueFst⟩
    | some parsed =>
      rw [hparsed] at hvalueFst
      cases hformat : Str.given outputFormat with
      | some format =>
        have hout : (standardizeDate py value outputFormat).1 = py.strftime parsed format := by
          rw [hvalueFst, hformat]
          rfl
        rw [hout]
        refine ⟨fun h _ f hf p hp => ?_, fun h => h hne format rfl parsed rfl⟩
        cases hf
        cases hp
        exact h
      | none =>
        have hout : (standardizeDate py value outputFormat).1 = py.isoformat parsed := by
          rw [hvalueFst, hformat]
          rfl
        obtain ⟨hagain, hchars, c, hc, -⟩ := Cleaning.fromIso_isoformat hiso hparsed
        have hagainFst := hfst (py.isoformat parsed) (List.ne_nil_of_mem hc) (Str.strip_eq_self hchars)
        rw [hagain, hformat] at hagainFst
        refine ⟨fun _ _ f hf => absurd hf (by simp), fun _ => ?_⟩
        rw [hout]
        exact ⟨Str.trim_eq_self hchars, hagainFst⟩

theorem settles_standardizeTime (times : TimeTexts py) {value : Str} (hvalue : Str.trim value = value) :
    Settles (standardizeTime py) (standardizeTime py value).1 := by
  have hcases : (standardizeTime py value).1 = value ∨ ∃ s parsed, py.timeFromIso s = some parsed ∧
      (standardizeTime py value).1 = py.timeIsoformat parsed := by
    unfold standardizeTime
    split
    · exact .inl rfl
    · dsimp only
      split
      · exact .inl rfl
      · rename_i parsed hparsed
        obtain ⟨s, -, hs⟩ := List.exists_of_findSome?_eq_some hparsed
        exact .inr ⟨s, parsed, hs, changedTo_fst _ _ _⟩
  rcases hcases with h | ⟨s, parsed, hs, h⟩
  · exact settles_of_eq hvalue h
  · have hchars := times.isoformat_chars s parsed hs
    rw [h]
    refine ⟨Str.trim_eq_self hchars, ?_⟩
    unfold standardizeTime
    split
    · rfl
    · dsimp only
      rw [Str.strip_eq_self hchars, List.findSome?_cons, times.round_trip s parsed hs]
      exact changedTo_fst _ _ _

/-! ## Booleans -/

/-- What `standardize_boolean` reads. -/
def booleanValue (py : PythonValues) (value : Str) : Option Bool :=
  if value = [] then none
  else if py.casefold value.strip ∈ booleanTrue then some true
  else if py.casefold value.strip ∈ booleanFalse then some false
  else none

/-- What `standardize_boolean` writes. -/
def booleanForm (outputForm : Option (Str × Str)) (b : Bool) : Str :=
  let (trueForm, falseForm) := outputForm.getD ("true".toList, "false".toList)
  if b then trueForm else falseForm

theorem standardizeBoolean_fst (outputForm : Option (Str × Str)) (value : Str) :
    (standardizeBoolean py.toPython value outputForm).1 =
      ((booleanValue py value).map (booleanForm outputForm)).getD value := by
  unfold standardizeBoolean booleanValue
  by_cases hvalue : value = []
  · simp [hvalue]
  · rw [if_neg hvalue, if_neg hvalue]
    dsimp only
    by_cases htrue : py.casefold value.strip ∈ booleanTrue
    · rw [if_pos htrue, if_pos htrue]
      exact changedTo_fst _ _ .booleanFormatNormalize
    · rw [if_neg htrue, if_neg htrue]
      by_cases hfalse : py.casefold value.strip ∈ booleanFalse
      · rw [if_pos hfalse, if_pos hfalse]
        exact changedTo_fst _ _ .booleanFormatNormalize
      · rw [if_neg hfalse, if_neg hfalse]
        rfl

/-- What a boolean needs to keep its output form. -/
def KeepsBoolean (py : PythonValues) (outputForm : Option (Str × Str)) (value : Str) : Prop :=
  ∀ b ∈ booleanValue py value, Str.trim (booleanForm outputForm b) = booleanForm outputForm b ∧
    ∀ b' ∈ booleanValue py (booleanForm outputForm b), booleanForm outputForm b' = booleanForm outputForm b

theorem settles_standardizeBoolean (outputForm : Option (Str × Str)) {value : Str} (hvalue : Str.trim value = value) :
    Settles (fun value => standardizeBoolean py.toPython value outputForm)
      (standardizeBoolean py.toPython value outputForm).1 ↔ KeepsBoolean py outputForm value := by
  have hfst : ∀ v : Str, (standardizeBoolean py.toPython v outputForm).1 =
      ((booleanValue py v).map (booleanForm outputForm)).getD v := standardizeBoolean_fst outputForm
  unfold Settles KeepsBoolean
  dsimp only
  rw [hfst (standardizeBoolean py.toPython value outputForm).1, hfst value]
  cases hb : booleanValue py value with
  | none => simp [hb, hvalue]
  | some b =>
    rw [Option.map_some, Option.getD_some]
    constructor
    · rintro ⟨htrim, hform⟩ x hx
      cases hx
      refine ⟨htrim, fun b' hb' => ?_⟩
      rw [hb'] at hform
      exact hform
    · intro h
      obtain ⟨htrim, hform⟩ := h b rfl
      refine ⟨htrim, ?_⟩
      cases hb' : booleanValue py (booleanForm outputForm b) with
      | none => rfl
      | some b' => exact hform b' hb'

end Standardization
end DataOps

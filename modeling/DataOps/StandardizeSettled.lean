import DataOps.CleaningIdempotent
import DataOps.StandardizationEngine
import DataOps.StandardizeCasing
/-!
# StandardizeSettled — when a rule leaves what it made

`Settles rule value`: the text is trimmed and the rule leaves it.  The casing, lookup, phone, date, boolean and
postal-code rules settle on their own results, or exactly when what is configured for them does.
-/
namespace DataOps

open Str (IsWord)

/-- What the phone-number library promises of E.164. -/
structure PhoneTexts (py : Python) : Prop where
  e164_chars : ∀ number, ∀ c ∈ py.formatE164 number, Str.isSpace c = false
  -- the international form says which number it is, whatever the region
  e164_again : ∀ number country again, py.parsePhone (py.formatE164 number) country = some again →
    py.formatE164 again = py.formatE164 number

/-- What `time.fromisoformat` and `isoformat` promise of each other. -/
structure TimeTexts (py : PythonValues) : Prop where
  round_trip : ∀ s t, py.timeFromIso s = some t → py.timeFromIso (py.timeIsoformat t) = some t
  isoformat_chars : ∀ s t, py.timeFromIso s = some t → ∀ c ∈ py.timeIsoformat t, Str.isSpace c = false

namespace Standardization

/-- A rule leaves a trimmed text. -/
def Settles (rule : Str → Str × Option RuleName) (value : Str) : Prop := Str.trim value = value ∧ (rule value).1 = value

@[simp] theorem changedTo_fst (canonical value : Str) (ruleName : RuleName) :
    (changedTo canonical value ruleName).1 = canonical := by
  unfold changedTo
  split
  · rename_i h
    exact h.symm
  · rfl

/-- A rule that leaves a trimmed text is settled there. -/
theorem settles_of_eq {rule : Str → Str × Option RuleName} {value : Str} (hvalue : Str.trim value = value)
    (h : (rule value).1 = value) : Settles rule (rule value).1 := by
  rw [h]
  exact ⟨hvalue, h⟩

theorem strip_of_trim {value : Str} (h : Str.trim value = value) : value.strip = value := by
  rw [← h, Str.strip_trim]

section
variable (py : PythonValues)

/-! ## Lookups -/

/-- The form a table has for a value. -/
def lookedUp (lookup : Dict Str Str) (value : Str) : Option Str :=
  if value = [] then none else lookup.get? (py.lower value.strip)

/-- A table has no other form for a value. -/
def ListedAsIs (lookup : Dict Str Str) (value : Str) : Prop := ∀ canonical ∈ lookedUp py lookup value, canonical = value

/-- The table of the two countries that have one. -/
def stateTable (country : Option Str) : Dict Str Str :=
  if country = some "US".toList then defaultUsStateAbbreviations
  else if country = some "CA".toList then defaultCaProvinceAbbreviations
  else []

theorem titleCaseStep_fst (value : Str) : (titleCaseStep py value).1 = titleCase py.toPython value := by
  unfold titleCaseStep
  split
  · rename_i h
    subst h
    rfl
  · exact changedTo_fst _ _ _

theorem applyGenericAbbreviationLookup_fst (value : Str) (lookup : Dict Str Str) :
    (applyGenericAbbreviationLookup py value lookup).1 = (lookedUp py lookup value).getD value := by
  unfold applyGenericAbbreviationLookup lookedUp
  split
  · rfl
  · split
    · rename_i h
      simp [h]
    · rename_i h
      simp [h]

theorem standardizeCountry_fst (value : Str) (lookup : Dict Str Str) :
    (standardizeCountry py value lookup).1 =
      (lookedUp py (mergedLookup defaultCountryNameVariants lookup) value).getD value := by
  unfold standardizeCountry lookedUp
  split
  · rfl
  · split
    · rename_i h
      simp [h]
    · rename_i h
      simp [h]

theorem standardizeCompanyName_fst (value : Str) (lookup : Dict Str Str) :
    (standardizeCompanyName py value lookup).1 = (lookedUp py lookup value).getD (titleCase py.toPython value) := by
  unfold standardizeCompanyName lookedUp
  split
  · rename_i h
    subst h
    rfl
  · split
    · rename_i h
      simp [h]
    · rename_i h
      simp [h, titleCaseStep_fst]

theorem standardizeStateProvince_fst (value : Str) (country : Option Str) :
    (standardizeStateProvince py value country).1 = (lookedUp py (stateTable country) value).getD value := by
  unfold standardizeStateProvince lookedUp
  by_cases hvalue : value = []
  · simp [hvalue]
  · by_cases hcountry : country ≠ some "US".toList ∧ country ≠ some "CA".toList
    · have hnone : (stateTable country).get? (py.lower value.strip) = none := by
        unfold stateTable
        rw [if_neg hcountry.1, if_neg hcountry.2]
        rfl
      rw [if_pos (.inr hcountry), if_neg hvalue, hnone]
      rfl
    · have htable : (if country = some "US".toList then defaultUsStateAbbreviations else defaultCaProvinceAbbreviations) =
          stateTable country := by
        unfold stateTable
        by_cases hus : country = some "US".toList
        · rw [if_pos hus, if_pos hus]
        · have hca : country = some "CA".toList := by
            by_contra hca
            exact hcountry ⟨hus, hca⟩
          rw [if_neg hus, if_neg hus, if_pos hca]
      rw [if_neg (not_or.2 ⟨hvalue, hcountry⟩), if_neg hvalue]
      dsimp only
      rw [htable]
      split
      · rename_i h
        simp [h]
      · rename_i h
        simp [h]

variable {py}

theorem getD_lookedUp_eq_self_iff {lookup : Dict Str Str} {value : Str} :
    (lookedUp py lookup value).getD value = value ↔ ListedAsIs py lookup value := by
  unfold ListedAsIs
  cases lookedUp py lookup value <;> simp

/-- **A lookup is settled when its table has nothing else to say of the form it gave.** -/
theorem listedAsIs_getD_iff {lookup : Dict Str Str} {value : Str} :
    ListedAsIs py lookup ((lookedUp py lookup value).getD value) ↔
      ∀ canonical ∈ lookedUp py lookup value, ListedAsIs py lookup canonical := by
  cases h : lookedUp py lookup value with
  | none => simp [ListedAsIs, h]
  | some canonical => simp

/-! ## Names -/

section
variable (casing : Casing py.toPython)
include casing

/-- **Title case.** -/
theorem settles_titleCaseStep {value : Str} (hvalue : Str.trim value = value) :
    Settles (titleCaseStep py) (titleCaseStep py value).1 ↔ ∀ w ∈ value.splitOn ' ', StableCapital py.toPython w := by
  unfold Settles
  rw [titleCaseStep_fst, titleCaseStep_fst, trim_titleCase_iff casing, titleCase_titleCase_iff casing]
  exact and_iff_right hvalue

/-- What a company name needs to keep its canonical form. -/
def KeepsCompanyName (py : PythonValues) (lookup : Dict Str Str) (value : Str) : Prop :=
  match lookedUp py lookup value with
  | some canonical => Settles (fun value => standardizeCompanyName py value lookup) canonical
  | none           =>
    match lookedUp py lookup (titleCase py.toPython value) with
    | some canonical => canonical = titleCase py.toPython value
    | none           => ∀ w ∈ value.splitOn ' ', StableCapital py.toPython w

theorem settles_standardizeCompanyName (lookup : Dict Str Str) {value : Str} (hvalue : Str.trim value = value) :
    Settles (fun value => standardizeCompanyName py value lookup) (standardizeCompanyName py value lookup).1 ↔
      KeepsCompanyName py lookup value := by
  have hfst := standardizeCompanyName_fst py value lookup
  unfold KeepsCompanyName
  cases hlookup : lookedUp py lookup value with
  | some canonical =>
    rw [hlookup, Option.getD_some] at hfst
    rw [hfst]
  | none =>
    rw [hlookup, Option.getD_none] at hfst
    rw [hfst]
    have htrim := (trim_titleCase_iff casing value).2 hvalue
    have hagain := standardizeCompanyName_fst py (titleCase py.toPython value) lookup
    dsimp only
    cases hcased : lookedUp py lookup (titleCase py.toPython value) with
    | some canonical =>
      rw [hcased, Option.getD_some] at hagain
      unfold Settles
      rw [hagain]
      exact and_iff_right htrim
    | none =>
      rw [hcased, Option.getD_none] at hagain
      unfold Settles
      rw [hagain, titleCase_titleCase_iff casing]
      exact and_iff_right htrim

/-! ## Places -/

/-- The abbreviations of the two tables are trimmed, and are no names of states or provinces. -/
theorem stateTable_canonical {country : Option Str} {key canonical : Str}
    (h : (stateTable country).get? key = some canonical) :
    Str.trim canonical = canonical ∧ lookedUp py (stateTable country) canonical = none := by
  have hall : ∀ table ∈ [defaultUsStateAbbreviations, defaultCaProvinceAbbreviations],
      table.all (fun p => decide (Str.trim p.2 = p.2 ∧ table.get? (p.2.map Char.toLower) = none) &&
        p.2.all (fun c => decide (c.toNat < 128))) = true := by decide +kernel
  have htable : stateTable country ∈ [defaultUsStateAbbreviations, defaultCaProvinceAbbreviations] := by
    unfold stateTable at h ⊢
    split
    · simp
    · split
      · simp
      · rename_i hus hca
        rw [if_neg hus, if_neg hca] at h
        cases h
  have hentry := List.all_eq_true.1 (hall _ htable) _ (Dict.mem_of_get?_eq_some h)
  rw [Bool.and_eq_true, decide_eq_true_eq] at hentry
  obtain ⟨⟨htrim, hnone⟩, hascii⟩ := hentry
  have hlower := casing.lower_ascii canonical (fun c hc => by simpa using List.all_eq_true.1 hascii c hc)
  refine ⟨htrim, ?_⟩
  unfold lookedUp
  rw [strip_of_trim htrim, hlower, hnone]
  exact ite_self none

/-- **States and provinces.** -/
theorem settles_standardizeStateProvince (country : Option Str) {value : Str} (hvalue : Str.trim value = value) :
    Settles (fun value => standardizeStateProvince py value country) (standardizeStateProvince py value country).1 := by
  unfold Settles
  dsimp only
  rw [standardizeStateProvince_fst, standardizeStateProvince_fst, getD_lookedUp_eq_self_iff, listedAsIs_getD_iff]
  cases hlookup : lookedUp py (stateTable country) value with
  | none => simpa using hvalue
  | some canonical =>
    have hget : (stateTable country).get? (py.lower value.strip) = some canonical := by
      unfold lookedUp at hlookup
      split at hlookup
      · cases hlookup
      · exact hlookup
    obtain ⟨htrim, hnone⟩ := stateTable_canonical casing hget
    simpa [ListedAsIs, hnone] using htrim

theorem settles_standardizeEmail {value : Str} (hvalue : Str.trim value = value) :
    Settles (standardizeEmail py) (standardizeEmail py value).1 := by
  have hcases : ∀ v : Str, (standardizeEmail py v).1 = v ∨ (standardizeEmail py v).1 = py.lower v := by
    intro v
    unfold standardizeEmail
    split
    · exact .inl rfl
    · split
      · split
        · exact .inl rfl
        · exact .inr (changedTo_fst _ _ _)
      · exact .inl rfl
  rcases hcases value with h | h
  · exact settles_of_eq hvalue h
  · rw [h]
    refine ⟨trim_lower casing hvalue, ?_⟩
    rcases hcases (py.lower value) with h | h
    · exact h
    · rw [h, casing.lower_lower]

end

end

end Standardization
end DataOps

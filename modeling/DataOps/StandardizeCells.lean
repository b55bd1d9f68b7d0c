import DataOps.ChangeReplay
import DataOps.StandardizeAddresses
import DataOps.StandardizeCurrency
import DataOps.StandardizeForms
/-!
# StandardizeCells — when a cell keeps what was made of it

A cell's rules run one after the other: the trim pass, the rules of the field type, the generic lookup.  A cell is settled
when each of them leaves it, and what a cell becomes is settled exactly when `KeepsCell` holds of it (`cellSettled_iff`).
-/
namespace DataOps
namespace Standardization

/-! ## What is recorded -/

theorem Log.record_self (log : Log) (rowIndex : Nat) (columnName : Str) (fieldType : FieldType) (value : Str)
    (ruleName : Option RuleName) : log.record rowIndex columnName fieldType value value ruleName = log := by
  unfold Log.record
  split
  · rfl
  · rw [if_pos rfl]

theorem Log.length_record (log : Log) (rowIndex : Nat) (columnName : Str) (fieldType : FieldType) (before : Str)
    (after : Str × Option RuleName) (hquiet : Quiet before after) :
    (log.record rowIndex columnName fieldType before after.1 after.2).changes.length =
      log.changes.length + if after.1 = before then 0 else 1 := by
  unfold Log.record
  cases hname : after.2 with
  | none => rw [if_pos (hquiet hname), Nat.add_zero]
  | some ruleName =>
    dsimp only
    by_cases heq : before = after.1
    · rw [if_pos heq, if_pos heq.symm, Nat.add_zero]
    · rw [if_neg heq, if_neg (Ne.symm heq)]
      simp

section
variable (py : PythonValues) (lookupTables : LookupTables) (config : StandardizationConfig) (rowCountry : Option Str)

/-- What a cell becomes. -/
def cellValue (fieldType : FieldType) (rawValue : Str) : Str :=
  if fieldType = .postalAddress then standardizeAddress py (addressLookup lookupTables) (Str.trim rawValue)
  else
    let ruled := (fieldRule py lookupTables config rowCountry fieldType (Str.trim rawValue)).1
    if fieldType ∈ genericAbbreviationFieldTypes then
      (applyGenericAbbreviationLookup py ruled lookupTables.globalLookup).1
    else ruled

/-- A cell that every rule of its field type leaves. -/
def CellSettled (fieldType : FieldType) (value : Str) : Prop :=
  if fieldType = .postalAddress then AddressSettled py (addressLookup lookupTables) value
  else Settles (fieldRule py lookupTables config rowCountry fieldType) value ∧
    (fieldType ∈ genericAbbreviationFieldTypes → ListedAsIs py lookupTables.globalLookup value)

/-- What the rule of a field type needs, to leave what it made of a trimmed text. -/
def KeepsRule (fieldType : FieldType) (value : Str) : Prop :=
  match fieldType with
  | .personName | .city => ∀ w ∈ value.splitOn ' ', StableCapital py.toPython w
  | .companyName        => KeepsCompanyName py (lookupTables.forFieldType .companyName) value
  | .date               => KeepsDate py config.dateOutputFormat value
  | .boolean            => KeepsBoolean py config.booleanOutputForm value
  | .numeric            => KeepsNumeric py.toPython config.numericLocale value
  | .currency           => KeepsCurrency py config.numericLocale config.defaultCurrency value
  | .email | .phone | .postalAddress | .stateProvince | .country | .postalCode | .time => True

/-- What a trimmed cell needs, to keep what is made of it. -/
def KeepsCell (fieldType : FieldType) (value : Str) : Prop :=
  if fieldType = .postalAddress then KeepsAddress py (addressLookup lookupTables) value
  else if fieldType ∈ genericAbbreviationFieldTypes then
    match lookedUp py lookupTables.globalLookup (fieldRule py lookupTables config rowCountry fieldType value).1 with
    | none           => KeepsRule py lookupTables config fieldType value
    | some canonical => Settles (fieldRule py lookupTables config rowCountry fieldType) canonical ∧
        ListedAsIs py lookupTables.globalLookup canonical
  else KeepsRule py lookupTables config fieldType value

theorem trimStep_fst (value : Str) : (trimStep value).1 = Str.trim value := by
  unfold trimStep Cleaning.trimWhitespace Str.trim
  dsimp only
  split
  · rename_i h
    exact h.symm
  · rfl

/-! ## A cell's run -/

theorem standardizeCell_snd (rowIndex : Nat) (columnName : Str) (fieldType : FieldType) (log : Log) (rawValue : Str) :
    (standardizeCell py lookupTables config rowCountry rowIndex columnName fieldType log rawValue).2 =
      cellValue py lookupTables config rowCountry fieldType rawValue := by
  unfold standardizeCell cellValue standardizeAddress
  dsimp only
  rw [trimStep_fst]
  split
  · rfl
  · split <;> rfl

variable {py lookupTables config rowCountry}

/-- A settled cell is left as it is. -/
theorem CellSettled.standardizeCell {fieldType : FieldType} {value : Str}
    (h : CellSettled py lookupTables config rowCountry fieldType value) (rowIndex : Nat) (columnName : Str) (log : Log) :
    standardizeCell py lookupTables config rowCountry rowIndex columnName fieldType log value = (log, value) := by
  unfold CellSettled at h
  unfold Standardization.standardizeCell
  dsimp only
  split
  · rename_i haddress
    rw [if_pos haddress] at h
    rw [trimStep_fst, h.trimmed, h.expanded, h.cased]
    simp only [Log.record_self]
  · rename_i haddress
    rw [if_neg haddress] at h
    obtain ⟨⟨htrim, hruled⟩, hgeneric⟩ := h
    rw [trimStep_fst, htrim, hruled]
    split
    · rename_i hin
      have hlisted := (applyGenericAbbreviationLookup_fst py value lookupTables.globalLookup).trans
        (getD_lookedUp_eq_self_iff.2 (hgeneric hin))
      rw [hlisted]
      simp only [Log.record_self]
    · simp only [Log.record_self]

/-- A step that counts for nothing left its value. -/
theorem eq_of_count_lt {value value' : Str} (h : (if value' = value then 0 else 1) < 1) : value' = value := by
  by_contra hne
  rw [if_neg hne] at h
  exact Nat.lt_irrefl 1 h

variable (py lookupTables config rowCountry) in
/-- A cell whose run records nothing is settled. -/
theorem length_standardizeCell (rowIndex : Nat) (columnName : Str) (fieldType : FieldType) (log : Log) (rawValue : Str) :
    log.changes.length ≤
        (standardizeCell py lookupTables config rowCountry rowIndex columnName fieldType log rawValue).1.changes.length ∧
      ((standardizeCell py lookupTables config rowCountry rowIndex columnName fieldType log rawValue).1.changes.length ≤
        log.changes.length → CellSettled py lookupTables config rowCountry fieldType rawValue) := by
  have htrim := fun log : Log => log.length_record rowIndex columnName fieldType rawValue
    (trimStep rawValue) (trimStep_quiet rawValue)
  unfold CellSettled standardizeCell
  dsimp only
  by_cases haddress : fieldType = .postalAddress
  · rw [if_pos haddress, if_pos haddress]
    have hexpanded := fun log : Log => log.length_record rowIndex columnName fieldType (trimStep rawValue).1 _
      (expandAddressAbbreviations_quiet py (trimStep rawValue).1 (addressLookup lookupTables))
    have hcased := fun log : Log => log.length_record rowIndex columnName fieldType
      (expandAddressAbbreviations py (trimStep rawValue).1 (addressLookup lookupTables)).1 _ (titleCaseStep_quiet py _)
    rw [hcased, hexpanded, htrim]
    refine ⟨by omega, fun h => ?_⟩
    have h₁ : (trimStep rawValue).1 = rawValue := eq_of_count_lt (by omega)
    rw [h₁] at h
    have h₂ : (expandAddressAbbreviations py rawValue (addressLookup lookupTables)).1 = rawValue :=
      eq_of_count_lt (by omega)
    rw [h₂] at h
    have h₃ : (titleCaseStep py rawValue).1 = rawValue := eq_of_count_lt (by omega)
    exact ⟨(trimStep_fst rawValue).symm.trans h₁, h₂, h₃⟩
  · rw [if_neg haddress, if_neg haddress]
    have hruled := fun log : Log => log.length_record rowIndex columnName fieldType (trimStep rawValue).1 _
      (fieldRule_quiet py lookupTables config rowCountry fieldType (trimStep rawValue).1)
    have hsettles : (trimStep rawValue).1 = rawValue →
      (fieldRule py lookupTables config rowCountry fieldType rawValue).1 = rawValue →
        Settles (fieldRule py lookupTables config rowCountry fieldType) rawValue :=
      fun h₁ h₂ => ⟨(trimStep_fst rawValue).symm.trans h₁, h₂⟩
    by_cases hin : fieldType ∈ genericAbbreviationFieldTypes
    · rw [if_pos hin]
      have hgeneric := fun log : Log => log.length_record rowIndex columnName fieldType
        (fieldRule py lookupTables config rowCountry fieldType (trimStep rawValue).1).1 _
        (applyGenericAbbreviationLookup_quiet py _ lookupTables.globalLookup)
      rw [hgeneric, hruled, htrim]
      refine ⟨by omega, fun h => ?_⟩
      have h₁ : (trimStep rawValue).1 = rawValue := eq_of_count_lt (by omega)
      rw [h₁] at h
      have h₂ : (fieldRule py lookupTables config rowCountry fieldType rawValue).1 = rawValue := eq_of_count_lt (by omega)
      rw [h₂] at h
      have h₃ : (applyGenericAbbreviationLookup py rawValue lookupTables.globalLookup).1 = rawValue :=
        eq_of_count_lt (by omega)
      refine ⟨hsettles h₁ h₂, fun _ => getD_lookedUp_eq_self_iff.1 ?_⟩
      rw [← applyGenericAbbreviationLookup_fst, h₃]
    · rw [if_neg hin, hruled, htrim]
      refine ⟨by omega, fun h => ?_⟩
      have h₁ : (trimStep rawValue).1 = rawValue := eq_of_count_lt (by omega)
      rw [h₁] at h
      have h₂ : (fieldRule py lookupTables config rowCountry fieldType rawValue).1 = rawValue := eq_of_count_lt (by omega)
      exact ⟨hsettles h₁ h₂, fun h => absurd h hin⟩

/-! ## What a cell becomes -/

theorem settles_fieldRule (casing : Casing py.toPython) (hiso : IsoTexts py) (times : TimeTexts py)
    (phones : PhoneTexts py.toPython) {fieldType : FieldType} {value : Str} (hvalue : Str.trim value = value) :
    Settles (fieldRule py lookupTables config rowCountry fieldType)
      (fieldRule py lookupTables config rowCountry fieldType value).1 ↔
        KeepsRule py lookupTables config fieldType value := by
  cases fieldType with
  | personName => exact settles_titleCaseStep casing hvalue
  | companyName => exact settles_standardizeCompanyName casing _ hvalue
  | email => exact iff_true_intro (settles_standardizeEmail casing hvalue)
  | phone => exact iff_true_intro (settles_standardizePhone phones _ hvalue)
  | postalAddress => exact iff_true_intro ⟨hvalue, rfl⟩
  | city => exact settles_titleCaseStep casing hvalue
  | stateProvince => exact iff_true_intro (settles_standardizeStateProvince casing _ hvalue)
  | country => exact iff_true_intro ⟨hvalue, rfl⟩
  | postalCode => exact iff_true_intro (settles_standardizePostalCode casing _ hvalue)
  | date => exact settles_standardizeDate hiso _ hvalue
  | time => exact iff_true_intro (settles_standardizeTime times hvalue)
  | boolean => exact settles_standardizeBoolean _ hvalue
  | numeric => exact settles_standardizeNumeric hvalue
  | currency => exact settles_standardizeCurrency hvalue

/-- **What a cell becomes is settled exactly when the cell keeps it.** -/
theorem cellSettled_iff (casing : Casing py.toPython) (hiso : IsoTexts py) (times : TimeTexts py)
    (phones : PhoneTexts py.toPython) (fieldType : FieldType) (rawValue : Str) :
    CellSettled py lookupTables config rowCountry fieldType
      (cellValue py lookupTables config rowCountry fieldType rawValue) ↔
      KeepsCell py lookupTables config rowCountry fieldType (Str.trim rawValue) := by
  have htrim := Str.trim_trim rawValue
  unfold CellSettled cellValue KeepsCell
  by_cases haddress : fieldType = .postalAddress
  · rw [if_pos haddress, if_pos haddress, if_pos haddress]
    exact addressSettled_iff casing
  · rw [if_neg haddress, if_neg haddress, if_neg haddress]
    have hrule : Settles (fieldRule py lookupTables config rowCountry fieldType) _ ↔ _ :=
      settles_fieldRule casing hiso times phones htrim
    dsimp only
    by_cases hin : fieldType ∈ genericAbbreviationFieldTypes
    · rw [if_pos hin, if_pos hin, imp_iff_right hin, applyGenericAbbreviationLookup_fst, listedAsIs_getD_iff]
      split
      · rename_i hnone
        rw [hnone]
        simpa using hrule
      · rename_i canonical hsome
        rw [hsome]
        simp
    · rw [if_neg hin, if_neg hin, hrule]
      simp [hin]

end

end Standardization
end DataOps

import DataOps.CleaningDecimals
/-!
# CleaningValues — numeric cleaning and the number

Integers keep their number; a decimal keeps it exactly when the default context's 28 digits represent it
(`coerceType_number_iff`).
-/
namespace DataOps
namespace Cleaning

open Decimals (Dec Number Denotes parse)

section
variable {py : PythonValues} (digits : DigitTexts py.toPython)

theorem coerceInteger_number {value out : Str} {rule : Option RuleName} {q : Rat} (hq : Denotes digits.toDigits value q)
    (hout : coerceInteger (withDecimals py digits) value = some (out, rule)) : Denotes digits.toDigits out q := by
  have hstrip := (denotes_strip digits.toDigits value q).2 hq
  unfold coerceInteger at hout
  dsimp only at hout
  split at hout
  · split at hout
    · cases hout
      exact hq
    · cases hout
      exact hstrip
  · obtain ⟨d, hparse, rfl⟩ := hstrip
    have hdecimal : (withDecimals py digits).decimal value.strip = some (.finite d) := hparse
    rw [hdecimal] at hout
    dsimp only at hout
    split at hout
    · rename_i hintegral
      have htext : (withDecimals py digits).intText (.finite d) = d.intText intMaxStrDigits := rfl
      rw [htext] at hout
      cases hint : d.intText intMaxStrDigits with
      | none =>
        rw [hint] at hout
        cases hout
      | some t =>
        rw [hint] at hout
        cases hout
        obtain ⟨r, rfl, hvalue, -, hexact⟩ := exists_intText hint hintegral.2
        exact (denotes_fixedText digits.toDigits hexact _).2 hvalue
    · cases hout
      exact hq

theorem coerceDecimal_number_iff {value out : Str} {rule : Option RuleName} {q : Rat}
    (hq : Denotes digits.toDigits value q) (hout : coerceDecimal (withDecimals py digits) value = some (out, rule)) :
    Denotes digits.toDigits out q ↔ defaultContext.Represents q := by
  obtain ⟨d, hparse, rfl⟩ := (denotes_strip digits.toDigits value q).2 hq
  have hdecimal : (withDecimals py digits).decimal value.strip = some (.finite d) := hparse
  have hfinite : (withDecimals py digits).isFinite (.finite d) = true := rfl
  have htext : (withDecimals py digits).plainText (.finite d) = (defaultContext.normalize d).map Dec.fixedText := rfl
  unfold coerceDecimal at hout
  rw [hdecimal] at hout
  simp only [hfinite, not_true_eq_false, if_false, htext] at hout
  cases hnormal : defaultContext.normalize d with
  | none =>
    rw [hnormal] at hout
    cases hout
  | some r =>
    rw [hnormal] at hout
    have hr : out = r.fixedText := by
      simp only [Option.map_some, Option.some.injEq] at hout
      split at hout
      · rename_i hsame
        cases hout
        exact hsame.symm
      · cases hout
        rfl
    have hexact := isExact_of_canonical (Decimals.normalize_canonical (by decide) hnormal)
    rw [hr, denotes_fixedText digits.toDigits hexact, Decimals.value_normalize_iff (by decide) hnormal]

/-- **A coerced number is the same number if and only if** the column is an integer column or 28 digits represent it. -/
theorem coerceType_number_iff (value : Str) (inferredType : InferredType)
    (htype : inferredType = .integer ∨ inferredType = .decimal) (q : Rat)
    (hq : Denotes digits.toDigits value q) (out : Str) (rule : Option RuleName)
    (hout : coerceType (withDecimals py digits) value inferredType = some (out, rule)) :
    Denotes digits.toDigits out q ↔ inferredType = .integer ∨ defaultContext.Represents q := by
  have hempty : value ≠ [] := by
    rintro rfl
    obtain ⟨d, hparse, -⟩ := hq
    rw [parse_nil] at hparse
    cases hparse
  unfold coerceType at hout
  rw [if_neg hempty] at hout
  rcases htype with rfl | rfl
  · exact ⟨fun _ => .inl rfl, fun _ => coerceInteger_number digits hq hout⟩
  · rw [coerceDecimal_number_iff digits hq hout]
    simp

end

/-! ## A long amount -/

/-- An amount of twenty-nine digits. -/
def longAmount : Str := "12345678901234567890123456789".toList

theorem coerceType_rounds : Denotes asciiDigitTexts.toDigits longAmount 12345678901234567890123456789 ∧
    coerceType (withDecimals asciiValues asciiDigitTexts) longAmount .decimal =
      some ("12345678901234567890123456790".toList, some .coerceDecimal) ∧
    ¬ Denotes asciiDigitTexts.toDigits "12345678901234567890123456790".toList 12345678901234567890123456789 := by
  have hparse : parse asciiDigitTexts.toDigits "12345678901234567890123456790".toList =
    some (.finite ⟨false, 12345678901234567890123456790, 0⟩) := by decide +kernel
  refine ⟨⟨⟨false, 12345678901234567890123456789, 0⟩, by decide +kernel, by norm_num [Dec.value]⟩,
    by decide +kernel, ?_⟩
  rintro ⟨d, hd, hvalue⟩
  rw [hparse] at hd
  cases hd
  norm_num [Dec.value] at hvalue

theorem coerceType_number_iff_half : Denotes asciiDigitTexts.toDigits "1.5".toList (3 / 2) ↔
    InferredType.decimal = .integer ∨ defaultContext.Represents (3 / 2) :=
  @coerceType_number_iff asciiValues asciiDigitTexts "1.50".toList .decimal (.inr rfl) (3 / 2)
    ⟨⟨false, 150, -2⟩, by decide +kernel, by norm_num [Dec.value]⟩ "1.5".toList (some .coerceDecimal) (by decide +kernel)

end Cleaning
end DataOps

import DataOps.CleaningEngine
import DataOps.LibDecimalRounding
import DataOps.LibTextTrim
/-!
# CleaningDecimals — the cell rules over `decimal`

The rules with `decimal` as it computes: `Decimal(s)` exact, `normalize` in the default context, `str` of an integer up
to its digit limit.
-/
namespace DataOps

/-- The values of what `\d` matches; case folding leaves them alone. -/
structure DigitTexts (py : Python) extends Decimals.Digits where
  isDigit_eq   : isDigit = py.isDigit
  mem_casefold : ∀ s c, py.isDigit c = true → c ∈ s → c ∈ py.casefold s

namespace Cleaning

open Decimals (Dec Number Denotes parse numDigits signText)

/-- `decimal.DefaultContext`. -/
def defaultContext : Decimals.Context := ⟨28, -999999, 999999⟩

/-- `sys.get_int_max_str_digits()`. -/
def intMaxStrDigits : Nat := 4300

def isFiniteNumber : Number → Bool
  | .special  => false
  | .finite _ => true

def isIntegralNumber : Number → Bool
  | .special  => false
  | .finite d => d.isIntegral

/-- `str(int(d))`: too many digits are a `ValueError`. -/
def intTextOf : Number → Option Str
  | .special  => none
  | .finite d => d.intText intMaxStrDigits

/-- `format(d.normalize(), "f")`: `Overflow` is raised.  Nothing asks it of a special number. -/
def plainTextOf : Number → Option Str
  | .special  => none
  | .finite d => (defaultContext.normalize d).map Dec.fixedText

/-- The values with `decimal` as it computes. -/
def withDecimals (py : PythonValues) (digits : DigitTexts py.toPython) : PythonValues :=
  { py with
    Decimal := Number
    decimal := parse digits.toDigits
    isFinite := isFiniteNumber
    isIntegral := isIntegralNumber
    intText := intTextOf
    plainText := plainTextOf }

/-! ## Reading back what was written -/

section
variable (digits : Decimals.Digits)

theorem parse_strip (s : Str) : parse digits s.strip = parse digits s := by
  unfold parse
  rw [Str.strip_strip]

theorem denotes_strip (s : Str) (q : Rat) : Denotes digits s.strip q ↔ Denotes digits s q := by
  unfold Denotes
  rw [parse_strip]

theorem parse_nil : parse digits [] = none := by
  unfold parse
  simp [Str.strip, Decimals.isSpecial, Decimals.scanSign, Decimals.scanFinite, Decimals.cut]

theorem isSpace_of_plain {c : Char} (h : c.isDigit = true ∨ c = '-' ∨ c = '.') : Str.isSpace c = false ∧ c ≠ '_' := by
  rcases h with h | rfl | rfl
  · have hrange : 48 ≤ c.toNat ∧ c.toNat ≤ 57 := Char.isDigit_iff_toNat.1 h
    refine ⟨?_, Decimals.ne_of_isDigit h '_' (by decide)⟩
    unfold Str.isSpace
    grind
  · decide
  · decide

theorem exists_digit_fixedText (d : Dec) : ∃ (negative : Bool) (c : Char) (rest : Str), c.isDigit = true ∧
    d.fixedText = signText negative ++ c :: rest := by
  obtain ⟨whole, decimals, hwhole, hne, -, ⟨-, htext, -⟩ | ⟨-, htext, -⟩⟩ := Decimals.exists_fixedText d
  · obtain ⟨c, rest, rfl⟩ := List.exists_cons_of_ne_nil hne
    exact ⟨d.negative, c, rest, hwhole c List.mem_cons_self, htext⟩
  · obtain ⟨c, rest, rfl⟩ := List.exists_cons_of_ne_nil hne
    exact ⟨d.negative, c, rest ++ '.' :: decimals, hwhole c List.mem_cons_self, htext⟩

/-- A fixed-point text is stripped. -/
theorem strip_fixedText (d : Dec) : Str.strip d.fixedText = d.fixedText :=
  Str.strip_eq_self (fun _ hc => (isSpace_of_plain (Decimals.mem_fixedText hc)).1)

/-- **`Decimal` reads a fixed-point text back.** -/
theorem parse_fixedText {d : Dec} (hexact : d.expand.isExact = true) :
    parse digits d.fixedText = some (.finite d.expand) := by
  obtain ⟨negative, c, rest, hc, htext⟩ := exists_digit_fixedText d
  have hspecial := Decimals.isSpecial_signText digits negative (s := rest) hc
  rw [← htext] at hspecial
  have hfilter : d.fixedText.filter (fun c => c ≠ '_') = d.fixedText :=
    List.filter_eq_self.2 (fun c hc => decide_eq_true (isSpace_of_plain (Decimals.mem_fixedText hc)).2)
  unfold parse
  rw [strip_fixedText]
  simp only [hfilter, hspecial, Bool.false_eq_true, if_false, Decimals.scanFinite_fixedText, hexact, if_true]

theorem denotes_fixedText {d : Dec} (hexact : d.expand.isExact = true) (q : Rat) :
    Denotes digits d.fixedText q ↔ d.value = q := by
  unfold Denotes
  rw [parse_fixedText digits hexact]
  constructor
  · rintro ⟨d', hd', rfl⟩
    cases hd'
    exact (Decimals.value_expand d).symm
  · rintro rfl
    exact ⟨_, rfl, Decimals.value_expand d⟩

end

/-- What the default context holds is exact for `Decimal`. -/
theorem isExact_of_canonical {d : Dec} (h : defaultContext.Canonical d) : d.expand.isExact = true := by
  unfold Dec.isExact
  rw [decide_eq_true_eq]
  rcases h with ⟨hzero, hexp⟩ | ⟨hc, hlt, hetiny, hadjusted⟩
  · have hexpand : d.expand = ⟨d.negative, 0, 0⟩ := by
      unfold Dec.expand
      rw [if_pos hexp.ge, hzero, hexp, Nat.zero_mul]
    rw [hexpand]
    cases d.negative <;> decide
  · have hne : d.coefficient ≠ 0 := fun h => hc (h ▸ dvd_zero 10)
    have hdigits : numDigits d.coefficient ≤ 28 := (Decimals.numDigits_le_iff (by decide)).2 hlt
    have hetiny' : (-1000026 : Int) ≤ d.exponent := hetiny
    have hadjusted' : d.exponent + numDigits d.coefficient - 1 ≤ 999999 := hadjusted
    unfold Dec.expand
    split
    · rename_i hexp
      unfold Dec.adjusted
      dsimp only
      rw [Decimals.numDigits_mul_pow hne]
      omega
    · unfold Dec.adjusted
      omega

/-- An integral number other than zero has no decimals when reduced. -/
theorem reduce_exponent_nonneg {d : Dec} (hintegral : d.isIntegral = true) (hzero : d.coefficient ≠ 0) :
    0 ≤ d.reduce.exponent := by
  unfold Dec.isIntegral at hintegral
  rw [decide_eq_true_eq] at hintegral
  exact hintegral.resolve_left hzero

/-- **The text of an integral decimal** is that of its integer. -/
theorem exists_intText {d : Dec} {t : Str} (h : d.intText intMaxStrDigits = some t) (hintegral : d.isIntegral = true) :
    ∃ r : Dec, t = r.fixedText ∧ r.value = d.value ∧ r.exponent = 0 ∧ r.expand.isExact = true := by
  unfold Dec.intText at h
  dsimp only at h
  split at h
  · cases h
  · rename_i hlimit
    cases h
    have hlimit' : numDigits d.reduce.coefficient + d.reduce.exponent.toNat ≤ 4300 := Nat.not_lt.1 hlimit
    by_cases hzero : d.coefficient = 0
    · have hreduce : d.reduce = ⟨d.negative, 0, 0⟩ := if_pos hzero
      refine ⟨⟨false, 0, 0⟩, ?_, ?_, rfl, by decide⟩
      · simp [hreduce, hzero, Dec.fixedText]
      · rw [Decimals.value_zero, ← Decimals.value_reduce, hreduce, Decimals.value_zero]
    · have hexp := reduce_exponent_nonneg hintegral hzero
      obtain ⟨c, k, -, hc, hreduce⟩ := Decimals.exists_reduce hzero
      have hne : c ≠ 0 := fun h => hc (h ▸ dvd_zero 10)
      rw [hreduce] at hlimit' hexp
      dsimp only at hlimit' hexp
      refine ⟨⟨d.negative, c * 10 ^ (d.exponent + k).toNat, 0⟩, ?_, ?_, rfl, ?_⟩
      · simp [hreduce, hzero, Dec.fixedText]
      · rw [Decimals.value_mul_pow, zero_add, Int.toNat_of_nonneg hexp, ← hreduce, Decimals.value_reduce]
      · have hexpand : Dec.expand ⟨d.negative, c * 10 ^ (d.exponent + k).toNat, 0⟩ =
          ⟨d.negative, c * 10 ^ (d.exponent + k).toNat, 0⟩ := by simp [Dec.expand]
        rw [hexpand]
        unfold Dec.isExact Dec.adjusted
        dsimp only
        rw [decide_eq_true_eq, Decimals.numDigits_mul_pow hne]
        omega

/-- `str(int(d))` fails for integers with too many digits. -/
theorem intText_eq_none_iff {d : Dec} (hintegral : d.isIntegral = true) :
    d.intText intMaxStrDigits = none ↔ (10 : Rat) ^ intMaxStrDigits ≤ |d.value| := by
  have hnone : d.intText intMaxStrDigits = none ↔
      intMaxStrDigits < numDigits d.reduce.coefficient + d.reduce.exponent.toNat := by
    unfold Dec.intText
    dsimp only
    split
    · rename_i h
      exact ⟨fun _ => h, fun _ => rfl⟩
    · rename_i h
      exact ⟨fun h' => absurd h' (by simp), fun h' => absurd h' h⟩
  rw [hnone, ← Decimals.value_reduce]
  by_cases hzero : d.coefficient = 0
  · have hreduce : d.reduce = ⟨d.negative, 0, 0⟩ := if_pos hzero
    have hone : numDigits 0 = 1 := rfl
    rw [hreduce, Decimals.value_zero, abs_zero]
    dsimp only
    rw [hone]
    constructor
    · exact fun h => absurd h (by decide)
    · exact fun h => absurd h (not_le.2 (by positivity))
  · have hexp := reduce_exponent_nonneg hintegral hzero
    obtain ⟨c, k, -, hc, hreduce⟩ := Decimals.exists_reduce hzero
    have hne : c ≠ 0 := fun h => hc (h ▸ dvd_zero 10)
    rw [hreduce] at hexp ⊢
    dsimp only at hexp ⊢
    rw [← Decimals.numDigits_mul_pow hne, Decimals.lt_numDigits_iff (by decide), Decimals.abs_value]
    dsimp only
    conv_rhs => rw [← Int.toNat_of_nonneg hexp]
    rw [zpow_natCast]
    constructor <;> intro h <;> exact_mod_cast h

/-! ## Trimming and blanks -/

section
variable {py : PythonValues} (digits : DigitTexts py.toPython)

theorem trimWhitespace_eq (value : Str) : (trimWhitespace value).1 = Str.trim value := by
  unfold trimWhitespace
  dsimp only
  split
  · rename_i heq
    exact heq.symm
  · rfl

/-- Trimming leaves a number alone. -/
theorem parse_trim (s : Str) (d : Dec) : parse digits.toDigits (Str.trim s) = some (.finite d) ↔
    parse digits.toDigits s = some (.finite d) := by
  have hsame : (∀ c ∈ Str.strip s, Str.isSpace c = false) → Str.trim s = Str.strip s :=
    fun h => Str.subWhitespace_eq_self false h
  constructor
  · intro h
    have hchars := (Decimals.chars_of_parse digits.toDigits h).1
    rw [Str.strip_trim] at hchars
    rwa [hsame (Str.no_space_of_subWhitespace hchars), parse_strip] at h
  · intro h
    rwa [hsame (Decimals.chars_of_parse digits.toDigits h).1, parse_strip]

theorem denotes_trim (s : Str) (q : Rat) : Denotes digits.toDigits (Str.trim s) q ↔ Denotes digits.toDigits s q := by
  unfold Denotes
  simp only [parse_trim]

theorem trim_of_denotes {s : Str} {q : Rat} (h : Denotes digits.toDigits s q) : Str.trim s = Str.strip s := by
  obtain ⟨d, hparse, -⟩ := h
  exact Str.subWhitespace_eq_self false (Decimals.chars_of_parse digits.toDigits hparse).1

/-- No blank equivalent has a digit. -/
theorem ascii_of_blankEquivalent {t : Str} (ht : t ∈ blankEquivalents) : ∀ x ∈ t, x.toNat < 128 ∧ x.isDigit = false := by
  have hall : blankEquivalents.all (fun t => t.all (fun x => decide (x.toNat < 128 ∧ x.isDigit = false))) =
    true := by decide
  intro x hx
  simpa using List.all_eq_true.1 (List.all_eq_true.1 hall t ht) x hx

/-- A cell with a digit is not blank. -/
theorem normalizeBlank_of_digit {cell : Str} {c : Char} (hc : c ∈ cell) (hdigit : py.isDigit c = true) :
    normalizeBlank (withDecimals py digits) cell = (cell, none) := by
  have hfold : c ∈ py.casefold cell := digits.mem_casefold cell c hdigit hc
  have hcasefold : (withDecimals py digits).casefold cell = py.casefold cell := rfl
  have hblank : py.casefold cell ∉ blankEquivalents := by
    intro hin
    obtain ⟨hlow, hnot⟩ := ascii_of_blankEquivalent hin c hfold
    rw [← digits.isDigit_eq, Decimals.isDigit_false_of_ascii digits.toDigits hlow hnot] at hdigit
    cases hdigit
  unfold normalizeBlank
  rw [if_neg (List.ne_nil_of_mem hc), hcasefold, if_neg hblank]

theorem normalizeBlank_of_denotes {s : Str} {q : Rat} (h : Denotes digits.toDigits s q) :
    normalizeBlank (withDecimals py digits) s = (s, none) := by
  obtain ⟨d, hparse, -⟩ := h
  obtain ⟨-, c, hc, hdigit⟩ := Decimals.chars_of_parse digits.toDigits hparse
  exact normalizeBlank_of_digit digits (Str.mem_of_mem_strip hc) (digits.isDigit_eq ▸ hdigit)

end

/-- ASCII digits, for what they are worth. -/
def asciiDigitTexts : DigitTexts asciiPython where
  isDigit := Char.isDigit
  value := fun c => c.toNat - 48
  isDigit_ascii := fun _ _ => rfl
  value_ascii := fun _ _ => rfl
  isDigit_not_space := fun _ h => (isSpace_of_plain (.inl h)).1
  isDigit_eq := rfl
  mem_casefold := fun _ _ hc hmem => List.mem_map.2 ⟨_, hmem, Decimals.toLower_of_isDigit hc⟩

end Cleaning
end DataOps

import Mathlib
import DataOps.LibPython
/-!
# LibBinaryPython — Python's library with rounded quotients

As on ASCII texts, but a quotient and a literal are the nearest multiple of `2 ^ -53`, which between a half and one is the
nearest double.
-/
namespace DataOps

def nearest53 (x : Rat) : Rat := (⌊x * 2 ^ 53 + 1 / 2⌋ : Int) / 2 ^ 53

theorem nearest53_intCast (n : Int) : nearest53 n = n := by
  have hfloor : ⌊(n : Rat) * 2 ^ 53 + 1 / 2⌋ = n * 2 ^ 53 := by
    rw [Int.floor_eq_iff]
    push_cast
    constructor <;> linarith
  unfold nearest53
  rw [hfloor]
  push_cast
  norm_num

theorem nearest53_natCast (n : Nat) : nearest53 n = n := by
  have h := nearest53_intCast n
  push_cast at h
  exact h

theorem nearest53_mono {x y : Rat} (h : x ≤ y) : nearest53 x ≤ nearest53 y := by
  unfold nearest53
  have hfloor : ⌊x * 2 ^ 53 + 1 / 2⌋ ≤ ⌊y * 2 ^ 53 + 1 / 2⌋ := Int.floor_le_floor (by linarith)
  have hcast : (⌊x * 2 ^ 53 + 1 / 2⌋ : Rat) ≤ ⌊y * 2 ^ 53 + 1 / 2⌋ := by exact_mod_cast hfloor
  linarith

theorem nearest53_zero : nearest53 (((0 : Nat) : Rat) / ((1 : Nat) : Rat)) = 0 := by
  have h := nearest53_natCast 0
  simpa using h

def binaryPython : Python :=
  { asciiPython with
    float := fun s => nearest53 (asciiFloat s)
    ratio := fun n m => nearest53 ((n : Rat) / m)
    lt_small := fun n m _ _ => by
      have hn := nearest53_natCast n
      have hm := nearest53_natCast m
      simp [asciiPython, hn, hm]
    eq_small := fun n m _ _ => by
      have hn := nearest53_natCast n
      have hm := nearest53_natCast m
      simp [asciiPython, hn, hm]
    ratio_le_one := fun n m h hm => by
      have hle : (n : Rat) / m ≤ 1 := (div_le_one (by exact_mod_cast hm)).2 (by exact_mod_cast h)
      have hmono := nearest53_mono hle
      simpa [asciiPython] using hmono
    ratio_nonneg := fun n m => by
      have hle : (0 : Rat) ≤ (n : Rat) / m := div_nonneg (Nat.cast_nonneg n) (Nat.cast_nonneg m)
      have hmono := nearest53_mono hle
      simpa [asciiPython] using hmono
    add_nonneg := fun x y hx hy => by
      simp only [asciiPython, nearest53_zero, decide_eq_false_iff_not, not_lt] at hx hy ⊢
      exact add_nonneg (Rat.not_lt.1 hx) (Rat.not_lt.1 hy)
    mul_nonneg := fun x y hx hy => by
      simp only [asciiPython, nearest53_zero, decide_eq_false_iff_not, not_lt] at hx hy ⊢
      exact mul_nonneg (Rat.not_lt.1 hx) (Rat.not_lt.1 hy)
    div_nonneg := fun x y hx hy => by
      simp only [asciiPython, nearest53_zero, decide_eq_false_iff_not, not_lt] at hx hy ⊢
      exact div_nonneg (Rat.not_lt.1 hx) (Rat.not_lt.1 hy) }

/-- The library of `asciiValues`, with rounded quotients. -/
def binaryValues : PythonValues where
  toPython := binaryPython
  Decimal := Int × Nat
  decimal := asciiDecimal
  isFinite := fun _ => true
  isIntegral := fun d => d.1 % (10 ^ d.2 : Nat) = 0
  intText := fun d => some (toString (d.1.tdiv (10 ^ d.2 : Nat))).toList
  plainText := fun d => some (asciiPlainText d)
  datetimeFromIso := fun _ => none
  dateFromIso := fun _ => none
  Time := Unit
  timeFromIso := fun _ => none
  isoformat := fun _ => []
  timeIsoformat := fun _ => []

theorem nearest53_fourFifths : nearest53 (asciiFloat "0.8".toList) = 7205759403792794 / 2 ^ 53 := by
  have hfloat : asciiFloat "0.8".toList = 4 / 5 := by decide +kernel
  have hfloor : ⌊(4 / 5 : Rat) * 2 ^ 53 + 1 / 2⌋ = 7205759403792794 := by
    rw [Int.floor_eq_iff]
    norm_num
  unfold nearest53
  rw [hfloat, hfloor]
  norm_num

/-- A quotient is below `0.8` when it is nearer to the double before. -/
theorem binary_lt_iff {n m : Nat} (hm : 0 < m) :
    binaryValues.lt (binaryValues.ratio n m) (binaryValues.float "0.8".toList) = true ↔
      n * 2 ^ 54 < 14411518807585587 * m := by
  have hm' : (0 : Rat) < m := by exact_mod_cast hm
  have hlt : binaryValues.lt (binaryValues.ratio n m) (binaryValues.float "0.8".toList) = true ↔
      nearest53 ((n : Rat) / m) < nearest53 (asciiFloat "0.8".toList) := by
    show decide (nearest53 ((n : Rat) / m) < nearest53 (asciiFloat "0.8".toList)) = true ↔ _
    exact decide_eq_true_iff
  rw [hlt, nearest53_fourFifths]
  unfold nearest53
  rw [div_lt_div_iff_of_pos_right (by norm_num)]
  have hcast : ((⌊(n : Rat) / m * 2 ^ 53 + 1 / 2⌋ : Int) : Rat) < 7205759403792794 ↔
      ⌊(n : Rat) / m * 2 ^ 53 + 1 / 2⌋ < 7205759403792794 := by exact_mod_cast Iff.rfl
  rw [hcast, Int.floor_lt]
  have hquot : (n : Rat) / m * m = n := div_mul_cancel₀ _ hm'.ne'
  constructor
  · intro h
    have hmul := mul_lt_mul_of_pos_right h hm'
    have hscaled : (n : Rat) * 2 ^ 54 < 14411518807585587 * m := by
      push_cast at hmul
      nlinarith
    exact_mod_cast hscaled
  · intro h
    have hscaled : (n : Rat) * 2 ^ 54 < 14411518807585587 * m := by exact_mod_cast h
    have hmul : ((n : Rat) / m * 2 ^ 53 + 1 / 2) * m < 7205759403792794 * m := by nlinarith
    have hdiv := lt_of_mul_lt_mul_right hmul hm'.le
    exact_mod_cast hdiv

end DataOps

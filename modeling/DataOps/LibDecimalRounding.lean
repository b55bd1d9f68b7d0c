import Mathlib.Data.Nat.Multiplicity
import DataOps.LibDecimals
/-!
# LibDecimalRounding — what a context does to a number

Reducing keeps the number; rounding keeps it exactly where the digits that go are zeros (`round_value_iff`); a canonical
decimal normalizes to itself however it is written (`normalize_of_canonical`).
-/
namespace DataOps
namespace Decimals

/-! ## Values -/

theorem ten_zpow_pos (e : Int) : (0 : Rat) < (10 : Rat) ^ e := zpow_pos (by norm_num) e

theorem value_mul_pow (negative : Bool) (c k : Nat) (e : Int) :
    (⟨negative, c * 10 ^ k, e⟩ : Dec).value = (⟨negative, c, e + k⟩ : Dec).value := by
  unfold Dec.value
  rw [zpow_add₀ (by norm_num), zpow_natCast]
  push_cast
  ring

theorem value_zero (negative : Bool) (e : Int) : (⟨negative, 0, e⟩ : Dec).value = 0 := by
  simp [Dec.value]

theorem value_expand (d : Dec) : d.expand.value = d.value := by
  unfold Dec.expand
  split
  · rename_i hexp
    rw [value_mul_pow, zero_add, Int.toNat_of_nonneg hexp]
  · rfl

theorem abs_value (d : Dec) : |d.value| = d.coefficient * (10 : Rat) ^ d.exponent := by
  unfold Dec.value
  rw [mul_assoc, abs_mul, abs_mul, abs_of_pos (ten_zpow_pos d.exponent), Nat.abs_cast]
  split <;> simp

/-! ## Reducing -/

theorem trailingZeros_mul_pow {c : Nat} (hc : ¬ 10 ∣ c) :
    ∀ {k fuel : Nat}, k ≤ fuel → trailingZeros fuel (c * 10 ^ k) = k
  | 0, 0, _ => rfl
  | 0, fuel + 1, _ => by
    rw [trailingZeros, pow_zero, mul_one, if_neg (fun h => hc (Nat.dvd_of_mod_eq_zero h))]
  | k + 1, 0, h => by omega
  | k + 1, fuel + 1, h => by
    have hmul : c * 10 ^ (k + 1) = c * 10 ^ k * 10 := by rw [pow_succ, mul_assoc]
    rw [trailingZeros, hmul, if_pos (Nat.mul_mod_left _ _), Nat.mul_div_cancel _ (by decide),
      trailingZeros_mul_pow hc (Nat.le_of_succ_le_succ h)]

theorem exists_trailing {n : Nat} (hn : n ≠ 0) : ∃ c k, n = c * 10 ^ k ∧ ¬ 10 ∣ c := by
  obtain ⟨k, c, hc, heq⟩ := Nat.exists_eq_pow_mul_and_not_dvd hn 10 (by decide)
  exact ⟨c, k, heq.trans (Nat.mul_comm _ _), hc⟩

/-- Reducing takes the zeros off. -/
theorem reduce_mul_pow {c : Nat} (hc : ¬ 10 ∣ c) (negative : Bool) (k : Nat) (e : Int) :
    (⟨negative, c * 10 ^ k, e⟩ : Dec).reduce = ⟨negative, c, e + k⟩ := by
  have hne : c ≠ 0 := fun h => hc (h ▸ dvd_zero 10)
  have hfuel : k ≤ numDigits (c * 10 ^ k) := by
    rw [numDigits_mul_pow hne]
    omega
  unfold Dec.reduce
  dsimp only
  rw [if_neg (Nat.mul_ne_zero hne (Nat.pos_iff_ne_zero.1 (Nat.pow_pos (by decide)))), trailingZeros_mul_pow hc hfuel,
    Nat.mul_div_cancel _ (Nat.pow_pos (by decide))]

theorem exists_reduce {d : Dec} (hd : d.coefficient ≠ 0) : ∃ (c k : Nat), d.coefficient = c * 10 ^ k ∧ ¬ 10 ∣ c ∧
    d.reduce = ⟨d.negative, c, d.exponent + k⟩ := by
  obtain ⟨c, k, heq, hc⟩ := exists_trailing hd
  have hreduce := reduce_mul_pow hc d.negative k d.exponent
  rw [← heq] at hreduce
  exact ⟨c, k, heq, hc, hreduce⟩

theorem value_reduce (d : Dec) : d.reduce.value = d.value := by
  by_cases hd : d.coefficient = 0
  · have hreduce : d.reduce = ⟨d.negative, 0, 0⟩ := if_pos hd
    rw [hreduce, value_zero]
    simp [Dec.value, hd]
  · obtain ⟨c, k, heq, -, hreduce⟩ := exists_reduce hd
    rw [hreduce, ← value_mul_pow, ← heq]

/-- **A decimal is integral where its number is an integer.** -/
theorem isIntegral_iff (d : Dec) : d.isIntegral = true ↔ ∃ n : Int, d.value = n := by
  unfold Dec.isIntegral
  rw [decide_eq_true_eq]
  by_cases hd : d.coefficient = 0
  · simp only [hd, true_or, true_iff]
    exact ⟨0, by simp [Dec.value, hd]⟩
  · obtain ⟨c, k, heq, hc, hreduce⟩ := exists_reduce hd
    have hvalue := value_reduce d
    rw [hreduce] at hvalue ⊢
    simp only [hd, false_or]
    constructor
    · intro hexp
      refine ⟨(if d.negative then -1 else 1) * (c * 10 ^ (d.exponent + k).toNat : Nat), ?_⟩
      rw [← hvalue]
      unfold Dec.value
      dsimp only
      conv_lhs => rw [← Int.toNat_of_nonneg hexp]
      rw [zpow_natCast]
      split <;> push_cast <;> ring
    · rintro ⟨n, hn⟩
      by_contra hneg
      obtain ⟨m, hm⟩ : ∃ m : Nat, d.exponent + k = -((m : Int) + 1) := ⟨(-(d.exponent + k) - 1).toNat, by omega⟩
      have habs := abs_value ⟨d.negative, c, d.exponent + k⟩
      rw [hvalue, hn] at habs
      dsimp only at habs
      rw [hm, zpow_neg, ← div_eq_mul_inv, eq_div_iff (ten_zpow_pos _).ne'] at habs
      have hcast : n.natAbs * 10 ^ (m + 1) = c := by
        have hpow : (10 : Rat) ^ ((m : Int) + 1) = ((10 ^ (m + 1) : Nat) : Rat) := by
          rw [← Int.natCast_succ, zpow_natCast]
          push_cast
          rfl
        rw [hpow, ← Int.cast_abs, Int.abs_eq_natAbs] at habs
        exact_mod_cast habs
      exact hc ⟨n.natAbs * 10 ^ m, by rw [← hcast]; ring⟩

/-! ## Rounding -/

theorem roundHalfEven_of_dvd {n shift : Nat} (h : 10 ^ shift ∣ n) : roundHalfEven n shift = n / 10 ^ shift := by
  unfold roundHalfEven
  split
  · rename_i hlt
    have hshift : n < 10 ^ shift := Nat.lt_of_lt_of_le (lt_pow_numDigits n) (Nat.pow_le_pow_right (by decide) hlt.le)
    rw [Nat.div_eq_of_lt hshift]
  · dsimp only
    rw [Nat.mod_eq_zero_of_dvd h, if_pos (by simp)]

theorem roundHalfEven_le (n shift : Nat) : roundHalfEven n shift ≤ n / 10 ^ shift + 1 := by
  unfold roundHalfEven
  split
  · exact Nat.zero_le _
  · dsimp only
    split_ifs <;> omega

variable {ctx : Context}

theorem precision_le_excess (ctx : Context) (d : Dec) :
    (numDigits d.coefficient : Int) - ctx.precision ≤ ctx.excess d := by
  unfold Context.excess
  omega

theorem etiny_le_excess (d : Dec) : ctx.etiny ≤ d.exponent + ctx.excess d := by
  unfold Context.excess
  omega

/-- What is left has no more digits than the precision, or is the next power of ten. -/
theorem div_excess_lt (ctx : Context) (d : Dec) : d.coefficient / 10 ^ ctx.excess d < 10 ^ ctx.precision := by
  have hle := precision_le_excess ctx d
  rw [Nat.div_lt_iff_lt_mul (Nat.pow_pos (by decide)), ← Nat.pow_add]
  exact Nat.lt_of_lt_of_le (lt_pow_numDigits _) (Nat.pow_le_pow_right (by decide) (by omega))

theorem rounded_le (ctx : Context) (d : Dec) : roundHalfEven d.coefficient (ctx.excess d) ≤ 10 ^ ctx.precision :=
  (roundHalfEven_le _ _).trans (div_excess_lt ctx d)

/-- The decimal that rounding makes. -/
def Context.rounded (ctx : Context) (d : Dec) : Dec :=
  ⟨d.negative, roundHalfEven d.coefficient (ctx.excess d), d.exponent + ctx.excess d⟩

theorem round_eq (d : Dec) : ctx.round d =
    if (ctx.rounded d).coefficient ≠ 0 ∧ ctx.eMax < (ctx.rounded d).adjusted then none else some (ctx.rounded d) := rfl

/-- **Rounding keeps the number exactly where the digits that go are zeros.** -/
theorem value_rounded_iff (ctx : Context) (d : Dec) :
    (ctx.rounded d).value = d.value ↔ 10 ^ ctx.excess d ∣ d.coefficient := by
  have hrounded : (ctx.rounded d).value =
      (⟨d.negative, roundHalfEven d.coefficient (ctx.excess d) * 10 ^ ctx.excess d, d.exponent⟩ : Dec).value :=
    (value_mul_pow _ _ _ _).symm
  constructor
  · intro h
    have habs := congrArg abs (hrounded.symm.trans h)
    rw [abs_value, abs_value] at habs
    have hcast := mul_right_cancel₀ (ten_zpow_pos d.exponent).ne' habs
    exact ⟨roundHalfEven d.coefficient (ctx.excess d), by rw [mul_comm]; exact_mod_cast hcast.symm⟩
  · intro h
    rw [hrounded, roundHalfEven_of_dvd h, Nat.div_mul_cancel h]

/-- A number with as many digits as the context has, and none too small. -/
def Context.Represents (ctx : Context) (q : Rat) : Prop :=
  ∃ (m k : Int), |m| < 10 ^ ctx.precision ∧ ctx.etiny ≤ k ∧ q = m * (10 : Rat) ^ k

theorem pow_excess_dvd_of_mul {d : Dec} {c k : Nat} (hd : d.coefficient = c * 10 ^ k) (hc : c < 10 ^ ctx.precision)
    (hprec : 0 < ctx.precision) (hetiny : ctx.etiny ≤ d.exponent + k) : 10 ^ ctx.excess d ∣ d.coefficient := by
  by_cases hzero : c = 0
  · rw [hd, hzero, zero_mul]
    exact dvd_zero _
  · have hdigits := (numDigits_le_iff hprec).2 hc
    have hmul := numDigits_mul_pow hzero k
    rw [← hd] at hmul
    have hle : ctx.excess d ≤ k := by
      unfold Context.excess
      omega
    rw [hd]
    exact dvd_mul_of_dvd_right (pow_dvd_pow 10 hle) c

/-- **Rounding keeps the numbers that the context represents, and no others.** -/
theorem pow_excess_dvd_iff (hprec : 0 < ctx.precision) (d : Dec) :
    10 ^ ctx.excess d ∣ d.coefficient ↔ ctx.Represents d.value := by
  constructor
  · intro h
    have hvalue := (value_rounded_iff ctx d).2 h
    have hlt := div_excess_lt ctx d
    rw [← roundHalfEven_of_dvd h] at hlt
    refine ⟨(if d.negative then -1 else 1) * roundHalfEven d.coefficient (ctx.excess d), d.exponent + ctx.excess d, ?_,
      etiny_le_excess d, ?_⟩
    · have habs : |(if d.negative then -1 else 1) * (roundHalfEven d.coefficient (ctx.excess d) : Int)| =
          roundHalfEven d.coefficient (ctx.excess d) := by
        split <;> simp
      rw [habs]
      exact_mod_cast hlt
    · rw [← hvalue]
      unfold Dec.value Context.rounded
      dsimp only
      split <;> push_cast <;> ring
  · rintro ⟨m, k, hm, hk, hq⟩
    have habs := abs_value d
    rw [hq, abs_mul, abs_of_pos (ten_zpow_pos k)] at habs
    have hnat : m.natAbs < 10 ^ ctx.precision := by
      rw [Int.abs_eq_natAbs] at hm
      exact_mod_cast hm
    rw [← Int.cast_abs, Int.abs_eq_natAbs, Int.cast_natCast] at habs
    by_cases hexp : d.exponent ≤ k
    · obtain ⟨j, hj⟩ : ∃ j : Nat, k = d.exponent + j := ⟨(k - d.exponent).toNat, by omega⟩
      have hcoefficient : d.coefficient = m.natAbs * 10 ^ j := by
        rw [hj, zpow_add₀ (by norm_num), zpow_natCast, mul_comm ((10 : Rat) ^ d.exponent), ← mul_assoc] at habs
        have hcast := mul_right_cancel₀ (ten_zpow_pos d.exponent).ne' habs
        exact_mod_cast hcast.symm
      exact pow_excess_dvd_of_mul hcoefficient hnat hprec (by omega)
    · obtain ⟨j, hj⟩ : ∃ j : Nat, d.exponent = k + j := ⟨(d.exponent - k).toNat, by omega⟩
      have hcoefficient : m.natAbs = d.coefficient * 10 ^ j := by
        rw [hj, zpow_add₀ (by norm_num), zpow_natCast, mul_comm ((10 : Rat) ^ k), ← mul_assoc] at habs
        have hcast := mul_right_cancel₀ (ten_zpow_pos k).ne' habs
        exact_mod_cast hcast
      have hsmall : d.coefficient * 10 ^ 0 < 10 ^ ctx.precision := by
        have hle : d.coefficient ≤ d.coefficient * 10 ^ j := Nat.le_mul_of_pos_right _ (Nat.pow_pos (by decide))
        omega
      have hself : d.coefficient = d.coefficient * 10 ^ 0 := by rw [pow_zero, mul_one]
      exact pow_excess_dvd_of_mul hself (by simpa using hsmall) hprec (by omega)

/-! ## Canonical decimals -/

/-- A decimal without trailing zeros that the context holds. -/
def Context.Canonical (ctx : Context) (d : Dec) : Prop :=
  (d.coefficient = 0 ∧ d.exponent = 0) ∨
    (¬ 10 ∣ d.coefficient ∧ d.coefficient < 10 ^ ctx.precision ∧ ctx.etiny ≤ d.exponent ∧ d.adjusted ≤ ctx.eMax)

theorem adjusted_mul_pow {c : Nat} (hc : c ≠ 0) (negative negative' : Bool) (k : Nat) (e : Int) :
    (⟨negative, c * 10 ^ k, e⟩ : Dec).adjusted = (⟨negative', c, e + k⟩ : Dec).adjusted := by
  unfold Dec.adjusted
  dsimp only
  rw [numDigits_mul_pow hc]
  push_cast
  ring

/-- **What `normalize` gives is canonical.** -/
theorem normalize_canonical (hprec : 0 < ctx.precision) {d r : Dec} (h : ctx.normalize d = some r) : ctx.Canonical r := by
  unfold Context.normalize at h
  rw [round_eq] at h
  split at h
  · cases h
  · rename_i hoverflow
    rw [Option.map_some] at h
    cases h
    by_cases hzero : (ctx.rounded d).coefficient = 0
    · exact .inl (by
        unfold Dec.reduce
        rw [if_pos hzero]
        exact ⟨rfl, rfl⟩)
    · obtain ⟨c, k, heq, hc, hreduce⟩ := exists_reduce hzero
      have hne : c ≠ 0 := fun h => hc (h ▸ dvd_zero 10)
      have hle : c * 10 ^ k ≤ 10 ^ ctx.precision := heq ▸ rounded_le ctx d
      have hlt : c < 10 ^ ctx.precision := by
        refine Nat.lt_of_le_of_ne ((Nat.le_mul_of_pos_right _ (Nat.pow_pos (by decide))).trans hle) (fun h => hc ?_)
        rw [h]
        exact dvd_pow_self 10 hprec.ne'
      have hadjusted := adjusted_mul_pow hne (ctx.rounded d).negative (ctx.rounded d).negative k (ctx.rounded d).exponent
      have hself : (⟨(ctx.rounded d).negative, c * 10 ^ k, (ctx.rounded d).exponent⟩ : Dec) =
        ctx.rounded d := by rw [← heq]
      rw [hself] at hadjusted
      have hetiny : ctx.etiny ≤ (ctx.rounded d).exponent := etiny_le_excess d
      rw [hreduce]
      exact .inr ⟨hc, hlt, by dsimp only; omega, by
        by_contra hhigh
        exact hoverflow ⟨hzero, by omega⟩⟩

theorem normalize_zero (negative : Bool) (e : Int) : ctx.normalize ⟨negative, 0, e⟩ = some ⟨negative, 0, 0⟩ := by
  have hzero : (ctx.rounded ⟨negative, 0, e⟩).coefficient = 0 := by
    unfold Context.rounded
    dsimp only
    rw [roundHalfEven_of_dvd (dvd_zero _), Nat.zero_div]
  unfold Context.normalize
  rw [round_eq, if_neg (fun h => h.1 hzero), Option.map_some]
  unfold Dec.reduce
  rw [if_pos hzero]
  rfl

/-- **A canonical decimal normalizes to itself, with whatever zeros it is written.** -/
theorem normalize_of_canonical (hprec : 0 < ctx.precision) {r : Dec} (hr : ctx.Canonical r) (k : Nat) :
    ctx.normalize ⟨r.negative, r.coefficient * 10 ^ k, r.exponent - k⟩ = some r := by
  rcases hr with ⟨hzero, hexp⟩ | ⟨hc, hlt, hetiny, hadjusted⟩
  · obtain ⟨negative, c, e⟩ := r
    cases hzero
    cases hexp
    rw [Nat.zero_mul, normalize_zero]
    rfl
  · have hne : r.coefficient ≠ 0 := fun h => hc (h ▸ dvd_zero 10)
    have hdigits := (numDigits_le_iff hprec).2 hlt
    obtain ⟨d, hd⟩ : ∃ d : Dec, d = ⟨r.negative, r.coefficient * 10 ^ k, r.exponent - k⟩ := ⟨_, rfl⟩
    have hexcess : ctx.excess d ≤ k := by
      unfold Context.excess
      rw [hd]
      dsimp only
      rw [numDigits_mul_pow hne]
      push_cast
      omega
    obtain ⟨j, hj⟩ : ∃ j, k = j + ctx.excess d := ⟨k - ctx.excess d, by omega⟩
    have hsplit : d.coefficient = r.coefficient * 10 ^ j * 10 ^ ctx.excess d := by
      rw [mul_assoc, ← Nat.pow_add, ← hj, hd]
    have hrounded : ctx.rounded d = ⟨r.negative, r.coefficient * 10 ^ j, r.exponent - j⟩ := by
      unfold Context.rounded
      rw [roundHalfEven_of_dvd ⟨_, hsplit.trans (mul_comm _ _)⟩, hsplit, Nat.mul_div_cancel _ (Nat.pow_pos (by decide))]
      have hexponent : d.exponent + ctx.excess d = r.exponent - j := by
        rw [hd] at hj ⊢
        dsimp only at hj ⊢
        omega
      rw [hexponent, hd]
    have hsame : (ctx.rounded d).adjusted = r.adjusted := by
      rw [hrounded, adjusted_mul_pow hne r.negative r.negative, sub_add_cancel]
    have hnormal : ctx.normalize d = some r := by
      unfold Context.normalize
      rw [round_eq, if_neg (by rw [hsame]; omega), Option.map_some, hrounded, reduce_mul_pow hc, sub_add_cancel]
    rwa [hd] at hnormal

/-- **Normalizing the text of what was normalized changes nothing.** -/
theorem normalize_expand (hprec : 0 < ctx.precision) {r : Dec} (hr : ctx.Canonical r) :
    ctx.normalize r.expand = some r := by
  unfold Dec.expand
  split
  · rename_i hexp
    have hzero : r.exponent - (r.exponent.toNat : Int) = 0 := by omega
    have hnormal := normalize_of_canonical hprec hr r.exponent.toNat
    rwa [hzero] at hnormal
  · have hnormal := normalize_of_canonical hprec hr 0
    rwa [pow_zero, mul_one, Nat.cast_zero, sub_zero] at hnormal

/-- **Normalizing keeps the number exactly where the context represents it.** -/
theorem value_normalize_iff (hprec : 0 < ctx.precision) {d r : Dec} (h : ctx.normalize d = some r) :
    r.value = d.value ↔ ctx.Represents d.value := by
  unfold Context.normalize at h
  rw [round_eq] at h
  split at h
  · cases h
  · rw [Option.map_some] at h
    cases h
    rw [value_reduce, value_rounded_iff, pow_excess_dvd_iff hprec]

/-! ## Overflow -/

theorem quotient_le_roundHalfEven {n shift : Nat} (h : shift ≤ numDigits n) : n / 10 ^ shift ≤ roundHalfEven n shift := by
  unfold roundHalfEven
  rw [if_neg (by omega)]
  dsimp only
  split_ifs <;> omega

/-- What rounds up to a power of ten. -/
theorem roundHalfEven_eq_pow_iff {n shift p : Nat} (hp : 0 < p) (hlt : n / 10 ^ shift < 10 ^ p) :
    roundHalfEven n shift = 10 ^ p ↔ (2 * 10 ^ p - 1) * 10 ^ shift ≤ 2 * n := by
  obtain ⟨unit, hunit⟩ : ∃ unit, unit = 10 ^ shift := ⟨_, rfl⟩
  obtain ⟨half, hhalf⟩ : ∃ half, 10 ^ p = 2 * half := by
    obtain ⟨j, rfl⟩ : ∃ j, p = j + 1 := ⟨p - 1, by omega⟩
    exact ⟨5 * 10 ^ j, by rw [pow_succ]; ring⟩
  have hpos : 0 < unit := hunit ▸ Nat.pow_pos (by decide)
  have hten : 0 < 10 ^ p := Nat.pow_pos (by decide)
  have hdivMod := Nat.div_add_mod n unit
  have hmod := Nat.mod_lt n hpos
  by_cases hshort : numDigits n < shift
  · have hsmall : n < unit := hunit ▸ Nat.lt_of_lt_of_le (lt_pow_numDigits n) (Nat.pow_le_pow_right (by decide) hshort.le)
    have hlarge : 3 * unit ≤ (2 * 10 ^ p - 1) * unit := Nat.mul_le_mul_right _ (by omega)
    unfold roundHalfEven
    rw [if_pos hshort, ← hunit]
    omega
  · unfold roundHalfEven
    rw [if_neg hshort, ← hunit]
    rw [← hunit] at hlt
    dsimp only
    by_cases hlast : n / unit + 1 = 10 ^ p
    -- the quotient is odd, so that the tie goes up as well
    · have hodd : n / unit % 2 ≠ 0 := by omega
      have hproduct : (2 * 10 ^ p - 1) * unit = 2 * (unit * (n / unit)) + unit := by
        have hquotient : 2 * 10 ^ p - 1 = 2 * (n / unit) + 1 := by omega
        rw [hquotient]
        ring
      rw [hproduct]
      split_ifs <;> omega
    · have hproduct : 2 * (unit * (n / unit)) + 3 * unit ≤ (2 * 10 ^ p - 1) * unit := by
        have hquotient : 2 * (n / unit) + 3 ≤ 2 * 10 ^ p - 1 := by omega
        calc 2 * (unit * (n / unit)) + 3 * unit = (2 * (n / unit) + 3) * unit := by ring
          _ ≤ (2 * 10 ^ p - 1) * unit := Nat.mul_le_mul_right _ hquotient
      split_ifs <;> omega

/-- The least magnitude that rounds out of the context. -/
def Context.overflowBound (ctx : Context) : Rat := (10 ^ ctx.precision - 1 / 2) * 10 ^ (ctx.eMax - ctx.precision + 1)

theorem abs_value_lt {d : Dec} {n : Nat} (h : d.coefficient < 10 ^ n) : |d.value| < (10 : Rat) ^ (n + d.exponent) := by
  rw [abs_value, zpow_add₀ (by norm_num), zpow_natCast]
  exact mul_lt_mul_of_pos_right (by exact_mod_cast h) (ten_zpow_pos _)

theorem le_abs_value {d : Dec} {n : Nat} (h : 10 ^ n ≤ d.coefficient) : (10 : Rat) ^ (n + d.exponent) ≤ |d.value| := by
  rw [abs_value, zpow_add₀ (by norm_num), zpow_natCast]
  exact mul_le_mul_of_nonneg_right (by exact_mod_cast h) (ten_zpow_pos _).le

theorem ten_zpow_le {e e' : Int} (h : e ≤ e') : (10 : Rat) ^ e ≤ 10 ^ e' := zpow_le_zpow_right₀ (by norm_num) h

/-- The unit of the context's last digit at its largest exponent. -/
def Context.lastUnit (ctx : Context) : Rat := 10 ^ (ctx.eMax - ctx.precision + 1)

theorem lastUnit_pos (ctx : Context) : 0 < ctx.lastUnit := ten_zpow_pos _

theorem overflowBound_eq (ctx : Context) : ctx.overflowBound = (10 ^ ctx.precision - 1 / 2) * ctx.lastUnit := rfl

theorem ten_zpow_top (ctx : Context) : (10 : Rat) ^ (ctx.eMax + 1) = 10 ^ ctx.precision * ctx.lastUnit := by
  unfold Context.lastUnit
  rw [← zpow_natCast, ← zpow_add₀ (by norm_num)]
  congr 1
  ring

theorem ten_zpow_le_overflowBound (hprec : 0 < ctx.precision) : (10 : Rat) ^ ctx.eMax ≤ ctx.overflowBound := by
  have htop := ten_zpow_top ctx
  have hshift : (10 : Rat) ^ (ctx.eMax + 1) = 10 ^ ctx.eMax * 10 := zpow_add_one₀ (by norm_num) _
  have hten : (10 : Rat) ≤ 10 ^ ctx.precision := by
    calc (10 : Rat) = 10 ^ 1 := (pow_one _).symm
      _ ≤ 10 ^ ctx.precision := pow_le_pow_right₀ (by norm_num) hprec
  have hpos := lastUnit_pos ctx
  rw [overflowBound_eq]
  nlinarith

theorem overflowBound_lt (ctx : Context) : ctx.overflowBound < 10 ^ (ctx.eMax + 1) := by
  have hpos := lastUnit_pos ctx
  rw [overflowBound_eq, ten_zpow_top]
  linarith

/-- The rounded decimal lies above the context. -/
def Context.Overflows (ctx : Context) (d : Dec) : Prop :=
  (ctx.rounded d).coefficient ≠ 0 ∧ ctx.eMax < (ctx.rounded d).adjusted

theorem round_eq_none (d : Dec) : ctx.round d = none ↔ ctx.Overflows d := by
  rw [round_eq]
  split
  · rename_i h
    exact ⟨fun _ => h, fun _ => rfl⟩
  · rename_i h
    exact ⟨fun h' => absurd h' (by simp), fun h' => absurd h' h⟩

/-- Rounding gains one digit at most. -/
theorem numDigits_rounded_le (ctx : Context) (d : Dec) : numDigits (ctx.rounded d).coefficient ≤ ctx.precision + 1 := by
  rw [numDigits_le_iff (Nat.succ_pos _)]
  exact Nat.lt_of_le_of_lt (rounded_le ctx d) (Nat.pow_lt_pow_right (by decide) (Nat.lt_succ_self _))

theorem coefficient_lt (ctx : Context) (d : Dec) : d.coefficient < 10 ^ (ctx.precision + ctx.excess d) := by
  have hlt := div_excess_lt ctx d
  rwa [Nat.div_lt_iff_lt_mul (Nat.pow_pos (by decide)), ← Nat.pow_add] at hlt

/-- The exponent that overflows is that of the first digit. -/
theorem adjusted_rounded (ctx : Context) (d : Dec) :
    (ctx.rounded d).adjusted = d.exponent + ctx.excess d + numDigits (ctx.rounded d).coefficient - 1 := rfl

theorem overflows_iff_of_zero (hprec : 0 < ctx.precision) {d : Dec} (hzero : d.coefficient = 0) :
    ctx.Overflows d ↔ ctx.overflowBound ≤ |d.value| := by
  have hvalue : |d.value| = 0 := by rw [abs_value, hzero, Nat.cast_zero, zero_mul]
  have hrounded : (ctx.rounded d).coefficient = 0 := by
    rw [Context.rounded, hzero, roundHalfEven_of_dvd (dvd_zero _), Nat.zero_div]
  rw [hvalue]
  constructor
  · exact fun h => absurd hrounded h.1
  · exact fun h => absurd (ten_zpow_pos ctx.eMax) (not_lt.2 ((ten_zpow_le_overflowBound hprec).trans h))

/-! The last digit that is kept lies above the last digit of the context, at it, or below. -/

section
variable {d : Dec}

/-- A coefficient that fills the context overflows. -/
theorem overflows_iff_of_long (hprec : 0 < ctx.precision) (hrange : ctx.eMin ≤ ctx.eMax) (hzero : d.coefficient ≠ 0)
    (habove : ctx.eMax - ctx.precision + 1 < d.exponent + ctx.excess d) (hlong : ctx.precision ≤ numDigits d.coefficient) :
    ctx.Overflows d ↔ ctx.overflowBound ≤ |d.value| := by
  have hexcess : (ctx.excess d : Int) = max ((numDigits d.coefficient : Int) - ctx.precision) 0 := by
    unfold Context.excess Context.etiny at habove ⊢
    omega
  have hfirst := pow_le_of_numDigits hzero
  have hquotient : 10 ^ (ctx.precision - 1) ≤ (ctx.rounded d).coefficient := by
    refine Nat.le_trans ?_ (quotient_le_roundHalfEven (by omega))
    rw [Nat.le_div_iff_mul_le (Nat.pow_pos (by decide)), ← Nat.pow_add]
    exact Nat.le_trans (Nat.pow_le_pow_right (by decide) (by omega)) hfirst
  have hkept : ctx.precision ≤ numDigits (ctx.rounded d).coefficient := by
    have hmono := numDigits_mono hquotient
    have hpow := numDigits_mul_pow (n := 1) (by decide) (ctx.precision - 1)
    have hone : numDigits 1 = 1 := rfl
    rw [one_mul, hone] at hpow
    omega
  have hpow : 0 < 10 ^ (ctx.precision - 1) := Nat.pow_pos (by decide)
  have hadjusted := adjusted_rounded ctx d
  refine ⟨fun _ => (overflowBound_lt ctx).le.trans ((ten_zpow_le ?_).trans (le_abs_value hfirst)), fun _ => ⟨?_, ?_⟩⟩ <;>
    omega

/-- A short one is kept as it is. -/
theorem overflows_iff_of_short (hrange : ctx.eMin ≤ ctx.eMax) (hzero : d.coefficient ≠ 0)
    (habove : ctx.eMax - ctx.precision + 1 < d.exponent + ctx.excess d)
    (hshort : numDigits d.coefficient < ctx.precision) :
    ctx.Overflows d ↔ ctx.overflowBound ≤ |d.value| := by
  have hexcess : ctx.excess d = 0 := by
    unfold Context.excess Context.etiny at habove ⊢
    omega
  have hsame : (ctx.rounded d).coefficient = d.coefficient := by
    rw [Context.rounded, hexcess, roundHalfEven_of_dvd (by simp), pow_zero, Nat.div_one]
  have hadjusted := adjusted_rounded ctx d
  rw [hsame] at hadjusted
  rw [Context.Overflows, hsame]
  constructor
  · rintro ⟨-, hover⟩
    have hfirst := pow_le_of_numDigits hzero
    exact (overflowBound_lt ctx).le.trans ((ten_zpow_le (by omega)).trans (le_abs_value hfirst))
  · intro hle
    refine ⟨hzero, ?_⟩
    by_contra hunder
    have hlast : |d.value| + 10 ^ d.exponent ≤ (10 : Rat) ^ (ctx.eMax + 1) := by
      have hsucc : ((d.coefficient : Rat) + 1) ≤ 10 ^ numDigits d.coefficient := by
        exact_mod_cast lt_pow_numDigits d.coefficient
      calc |d.value| + 10 ^ d.exponent = (d.coefficient + 1) * 10 ^ d.exponent := by rw [abs_value]; ring
        _ ≤ 10 ^ numDigits d.coefficient * 10 ^ d.exponent := mul_le_mul_of_nonneg_right hsucc (ten_zpow_pos _).le
        _ = 10 ^ ((numDigits d.coefficient : Int) + d.exponent) := by rw [zpow_add₀ (by norm_num), zpow_natCast]
        _ ≤ 10 ^ (ctx.eMax + 1) := ten_zpow_le (by omega)
    have hunit : ctx.lastUnit ≤ 10 ^ d.exponent := ten_zpow_le (by omega)
    have hpos := lastUnit_pos ctx
    rw [overflowBound_eq] at hle
    rw [ten_zpow_top] at hlast
    linarith

/-- Only what rounds up to a power of ten overflows. -/
theorem overflows_iff_of_same (hprec : 0 < ctx.precision)
    (hsame : ctx.eMax - ctx.precision + 1 = d.exponent + ctx.excess d) :
    ctx.Overflows d ↔ ctx.overflowBound ≤ |d.value| := by
  have hle := rounded_le ctx d
  have hadjusted := adjusted_rounded ctx d
  have hdigits := numDigits_rounded_le ctx d
  have hpow : ctx.Overflows d ↔ (ctx.rounded d).coefficient = 10 ^ ctx.precision := by
    constructor
    · rintro ⟨-, hover⟩
      exact Nat.le_antisymm hle ((lt_numDigits_iff hprec).1 (by omega))
    · intro heq
      have hlong := (lt_numDigits_iff hprec).2 heq.ge
      have hten : 0 < 10 ^ ctx.precision := Nat.pow_pos (by decide)
      exact ⟨by omega, by omega⟩
  have hscale : ctx.lastUnit = 10 ^ ctx.excess d * (10 : Rat) ^ d.exponent := by
    rw [Context.lastUnit, hsame, zpow_add₀ (by norm_num), zpow_natCast, mul_comm]
  have hcast : ((2 * 10 ^ ctx.precision - 1 : Nat) : Rat) = 2 * 10 ^ ctx.precision - 1 := by
    rw [Nat.cast_sub (Nat.succ_le_of_lt (by positivity))]
    push_cast
    rfl
  have hnat : (2 * 10 ^ ctx.precision - 1) * 10 ^ ctx.excess d ≤ 2 * d.coefficient ↔
      (((2 * 10 ^ ctx.precision - 1 : Nat) : Rat)) * 10 ^ ctx.excess d ≤ 2 * d.coefficient := by exact_mod_cast Iff.rfl
  rw [hpow, Context.rounded, roundHalfEven_eq_pow_iff hprec (div_excess_lt ctx d), hnat,
    hcast, overflowBound_eq, abs_value,
    hscale, ← mul_assoc, mul_le_mul_iff_left₀ (ten_zpow_pos d.exponent)]
  constructor <;> intro h <;> linarith

/-- Nothing does. -/
theorem overflows_iff_of_below (hprec : 0 < ctx.precision)
    (hbelow : d.exponent + ctx.excess d < ctx.eMax - ctx.precision + 1) :
    ctx.Overflows d ↔ ctx.overflowBound ≤ |d.value| := by
  have hadjusted := adjusted_rounded ctx d
  have hdigits := numDigits_rounded_le ctx d
  constructor
  · rintro ⟨-, hover⟩
    omega
  · intro hle
    have hless := abs_value_lt (coefficient_lt ctx d)
    have hpow : (10 : Rat) ^ (((ctx.precision + ctx.excess d : Nat) : Int) + d.exponent) ≤ 10 ^ ctx.eMax :=
      ten_zpow_le (by push_cast; omega)
    exact absurd hle (not_le.2 (hless.trans_le (hpow.trans (ten_zpow_le_overflowBound hprec))))

end

/-- **What overflows.** -/
theorem round_eq_none_iff (hprec : 0 < ctx.precision) (hrange : ctx.eMin ≤ ctx.eMax) (d : Dec) :
    ctx.round d = none ↔ ctx.overflowBound ≤ |d.value| := by
  rw [round_eq_none]
  rcases lt_trichotomy (ctx.eMax - ctx.precision + 1) (d.exponent + ctx.excess d) with habove | hsame | hbelow
  · by_cases hzero : d.coefficient = 0
    · exact overflows_iff_of_zero hprec hzero
    · rcases Nat.lt_or_ge (numDigits d.coefficient) ctx.precision with hshort | hlong
      · exact overflows_iff_of_short hrange hzero habove hshort
      · exact overflows_iff_of_long hprec hrange hzero habove hlong
  · exact overflows_iff_of_same hprec hsame
  · exact overflows_iff_of_below hprec hbelow

end Decimals
end DataOps

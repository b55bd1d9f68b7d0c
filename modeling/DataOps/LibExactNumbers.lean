import DataOps.LibPython
/-!
# LibExactNumbers — exact numbers for floats

What an order of numbers keeps under arithmetic (`Python.OrderedArithmetic`), and the library with exact numbers for its
floats, where a division by zero is no number (`exactPython`).
-/
namespace DataOps

/-- What arithmetic keeps of an order; a comparison with what is no number is false. -/
structure Python.OrderedArithmetic (py : Python) : Prop where
  le_trans      : ∀ a b c, py.le a b = true → py.le b c = true → py.le a c = true
  lt_of_le_lt   : ∀ a b c, py.le a b = true → py.lt b c = true → py.lt a c = true
  lt_of_lt_le   : ∀ a b c, py.lt a b = true → py.le b c = true → py.lt a c = true
  le_antisymm   : ∀ a b, py.le a b = true → py.le b a = true → py.eq a b = true
  ratio_le      : ∀ n n' m, n ≤ n' → 0 < m → py.le (py.ratio n m) (py.ratio n' m) = true
  zero_le_ratio : ∀ n m, 0 < m → py.le (py.ofNat 0) (py.ratio n m) = true
  one_le_ratio  : ∀ n m, m ≤ n → 0 < m → py.le (py.ofNat 1) (py.ratio n m) = true
  sub_le        : ∀ n a b, py.le a b = true → py.le (py.sub (py.ofNat n) b) (py.sub (py.ofNat n) a) = true
  ofNat_mul_le  : ∀ n a b, 0 < n → py.le a b = true → py.le (py.mul (py.ofNat n) a) (py.mul (py.ofNat n) b) = true
  le_mul        : ∀ n a, 0 < n → py.le (py.ofNat 1) a = true → py.le (py.ofNat n) (py.mul (py.ofNat n) a) = true
  mul_ofNat_le  : ∀ a b n, 0 < n → py.le (py.ofNat 0) a = true → py.le a b = true →
    py.le (py.mul a (py.ofNat n)) (py.mul b (py.ofNat n)) = true
  le_mul_ofNat  : ∀ a n, 0 < n → py.le (py.ofNat 0) a = true → py.le (py.ofNat 0) (py.mul a (py.ofNat n)) = true
  add_le        : ∀ a b c d, py.le (py.ofNat 0) a = true → py.le (py.ofNat 0) c = true → py.le a b = true →
    py.le c d = true → py.le (py.add a c) (py.add b d) = true
  le_add        : ∀ a b, py.le (py.ofNat 0) a = true → py.le (py.ofNat 0) b = true →
    py.le (py.ofNat 0) (py.add a b) = true
  div_le        : ∀ a b n, py.le (py.ofNat 0) a = true → py.le a b = true → 0 < n →
    py.le (py.div a (py.ofNat n)) (py.div b (py.ofNat n)) = true

namespace Exact

/-- The quotient; `none` is a division by zero. -/
def quotient (x y : Rat) : Option Rat := if y = 0 then none else some (x / y)

def lt : Option Rat → Option Rat → Bool
  | some x, some y => x < y
  | _, _           => false

def eq : Option Rat → Option Rat → Bool
  | some x, some y => x = y
  | _, _           => false

def lift (f : Rat → Rat → Rat) : Option Rat → Option Rat → Option Rat
  | some x, some y => some (f x y)
  | _, _           => none

def div : Option Rat → Option Rat → Option Rat
  | some x, some y => quotient x y
  | _, _           => none

theorem lt_eq_true_iff {a b : Option Rat} : lt a b = true ↔ ∃ x y, a = some x ∧ b = some y ∧ x < y := by
  cases a <;> cases b <;> simp [lt]

theorem quotient_of_ne {x y : Rat} (hy : y ≠ 0) : quotient x y = some (x / y) := if_neg hy

theorem quotient_natCast (n : Nat) : quotient n (1 : Nat) = some (n : Rat) := by
  simp [quotient]

theorem nonneg_of_lift {f : Rat → Rat → Rat} (hf : ∀ x y, 0 ≤ x → 0 ≤ y → 0 ≤ f x y) {a b : Option Rat}
    (ha : ∀ x, a = some x → 0 ≤ x) (hb : ∀ y, b = some y → 0 ≤ y) : ∀ z, lift f a b = some z → 0 ≤ z := by
  intro z hz
  cases a with
  | none => cases hz
  | some x =>
    cases b with
    | none => cases hz
    | some y =>
      cases hz
      exact hf x y (ha x rfl) (hb y rfl)

theorem nonneg_of_div {a b : Option Rat} (ha : ∀ x, a = some x → 0 ≤ x) (hb : ∀ y, b = some y → 0 ≤ y) :
    ∀ z, div a b = some z → 0 ≤ z := by
  intro z hz
  cases a with
  | none => cases hz
  | some x =>
    cases b with
    | none => cases hz
    | some y =>
      have hdiv : quotient x y = some z := hz
      by_cases hy : y = 0
      · rw [quotient, if_pos hy] at hdiv
        cases hdiv
      · rw [quotient_of_ne hy] at hdiv
        rw [← Option.some.inj hdiv]
        exact div_nonneg (ha x rfl) (hb y rfl)

theorem lt_irrefl (a : Option Rat) : lt a a = false := by
  cases a <;> simp [lt]

theorem lt_asymm (a b : Option Rat) (h : lt a b = true) : lt b a = false := by
  obtain ⟨x, y, rfl, rfl, hlt⟩ := lt_eq_true_iff.1 h
  simp only [lt, decide_eq_false_iff_not, not_lt]
  exact le_of_lt hlt

theorem lt_natCast (n m : Nat) : lt (quotient n (1 : Nat)) (quotient m (1 : Nat)) = decide (n < m) := by
  rw [quotient_natCast, quotient_natCast]
  simp [lt]

theorem eq_natCast (n m : Nat) : eq (quotient n (1 : Nat)) (quotient m (1 : Nat)) = decide (n = m) := by
  rw [quotient_natCast, quotient_natCast]
  simp [eq]

theorem quotient_le_one (n m : Nat) (h : n ≤ m) (hm : 0 < m) :
    lt (quotient (1 : Nat) (1 : Nat)) (quotient n m) = false := by
  have hle : (n : Rat) / m ≤ 1 := (div_le_one (by exact_mod_cast hm)).2 (by exact_mod_cast h)
  rw [quotient_natCast, quotient_of_ne (by exact_mod_cast hm.ne')]
  simpa [lt] using hle

theorem lt_zero_iff {a : Option Rat} : lt a (quotient (0 : Nat) (1 : Nat)) = false ↔ ∀ x, a = some x → 0 ≤ x := by
  rw [quotient_natCast]
  cases a <;> simp [lt]

theorem quotient_nonneg (n m : Nat) : lt (quotient n m) (quotient (0 : Nat) (1 : Nat)) = false := by
  rw [lt_zero_iff]
  intro x hx
  unfold quotient at hx
  split at hx
  · cases hx
  · rw [← Option.some.inj hx]
    exact div_nonneg (Nat.cast_nonneg n) (Nat.cast_nonneg m)

end Exact

/-- The library with exact numbers for its floats. -/
def exactPython (py : Python) : Python :=
  { py with
    Float := Option Rat
    float := fun s => some (asciiFloat s)
    ratio := fun n m => Exact.quotient n m
    add := Exact.lift (fun x y => x + y)
    sub := Exact.lift (fun x y => x - y)
    mul := Exact.lift (fun x y => x * y)
    div := Exact.div
    abs := fun a => a.map (fun x => if x < 0 then -x else x)
    lt := Exact.lt
    eq := Exact.eq
    lt_irrefl := Exact.lt_irrefl
    lt_asymm := Exact.lt_asymm
    lt_small := fun n m _ _ => Exact.lt_natCast n m
    eq_small := fun n m _ _ => Exact.eq_natCast n m
    ratio_le_one := Exact.quotient_le_one
    ratio_nonneg := Exact.quotient_nonneg
    add_nonneg := fun _ _ hx hy => Exact.lt_zero_iff.2
      (Exact.nonneg_of_lift (fun _ _ => add_nonneg) (Exact.lt_zero_iff.1 hx) (Exact.lt_zero_iff.1 hy))
    mul_nonneg := fun _ _ hx hy => Exact.lt_zero_iff.2
      (Exact.nonneg_of_lift (fun _ _ => mul_nonneg) (Exact.lt_zero_iff.1 hx) (Exact.lt_zero_iff.1 hy))
    div_nonneg := fun _ _ hx hy => Exact.lt_zero_iff.2
      (Exact.nonneg_of_div (Exact.lt_zero_iff.1 hx) (Exact.lt_zero_iff.1 hy)) }

/-- A number. -/
def exact (py : Python) (q : Rat) : (exactPython py).Float := some q

section
variable {py : Python}

theorem exact_inj {x y : Rat} (h : exact py x = exact py y) : x = y := Option.some.inj h

@[simp] theorem exact_ofNat (n : Nat) : (exactPython py).ofNat n = exact py n := Exact.quotient_natCast n

theorem exact_ratio {n m : Nat} (hm : m ≠ 0) : (exactPython py).ratio n m = exact py ((n : Rat) / m) :=
  Exact.quotient_of_ne (by exact_mod_cast hm)

@[simp] theorem exact_add (x y : Rat) : (exactPython py).add (exact py x) (exact py y) = exact py (x + y) := rfl

@[simp] theorem exact_sub (x y : Rat) : (exactPython py).sub (exact py x) (exact py y) = exact py (x - y) := rfl

@[simp] theorem exact_mul (x y : Rat) : (exactPython py).mul (exact py x) (exact py y) = exact py (x * y) := rfl

theorem exact_div (x : Rat) {y : Rat} (hy : y ≠ 0) : (exactPython py).div (exact py x) (exact py y) = exact py (x / y) :=
  Exact.quotient_of_ne hy

@[simp] theorem exact_lt (x y : Rat) : (exactPython py).lt (exact py x) (exact py y) = decide (x < y) := rfl

theorem exact_le_iff {a b : (exactPython py).Float} :
    (exactPython py).le a b = true ↔ ∃ x y, a = exact py x ∧ b = exact py y ∧ x ≤ y := by
  have hle : (exactPython py).le a b = (Exact.lt a b || Exact.eq a b) := rfl
  rw [hle]
  cases a with
  | none => simp [Exact.lt, Exact.eq, exact]
  | some x =>
    cases b with
    | none => simp [Exact.lt, Exact.eq, exact]
    | some y =>
      have hlt : (Exact.lt (some x) (some y) || Exact.eq (some x) (some y)) = true ↔ x ≤ y := by
        simp [Exact.lt, Exact.eq, le_iff_lt_or_eq]
      rw [hlt]
      constructor
      · exact fun h => ⟨x, y, rfl, rfl, h⟩
      · rintro ⟨x', y', hx, hy, h⟩
        rwa [Option.some.inj hx, Option.some.inj hy]

theorem exact_lt_iff {a b : (exactPython py).Float} :
    (exactPython py).lt a b = true ↔ ∃ x y, a = exact py x ∧ b = exact py y ∧ x < y := Exact.lt_eq_true_iff

@[simp] theorem exact_le (x y : Rat) : (exactPython py).le (exact py x) (exact py y) = true ↔ x ≤ y := by
  rw [exact_le_iff]
  constructor
  · rintro ⟨a, b, ha, hb, hle⟩
    rwa [exact_inj ha, exact_inj hb]
  · exact fun hle => ⟨x, y, rfl, rfl, hle⟩

end

/-- **Exact numbers are ordered.** -/
theorem exactPython_ordered (py : Python) : (exactPython py).OrderedArithmetic where
  le_trans := fun a b c hab hbc => by
    obtain ⟨x, y, rfl, rfl, hxy⟩ := exact_le_iff.1 hab
    obtain ⟨y', z, hy, rfl, hyz⟩ := exact_le_iff.1 hbc
    cases exact_inj hy
    exact (exact_le x z).2 (le_trans hxy hyz)
  lt_of_le_lt := fun a b c hab hbc => by
    obtain ⟨x, y, rfl, rfl, hxy⟩ := exact_le_iff.1 hab
    obtain ⟨y', z, hy, rfl, hyz⟩ := exact_lt_iff.1 hbc
    cases exact_inj hy
    exact decide_eq_true (lt_of_le_of_lt hxy hyz)
  lt_of_lt_le := fun a b c hab hbc => by
    obtain ⟨x, y, rfl, rfl, hxy⟩ := exact_lt_iff.1 hab
    obtain ⟨y', z, hy, rfl, hyz⟩ := exact_le_iff.1 hbc
    cases exact_inj hy
    exact decide_eq_true (lt_of_lt_of_le hxy hyz)
  le_antisymm := fun a b hab hba => by
    obtain ⟨x, y, rfl, rfl, hxy⟩ := exact_le_iff.1 hab
    have hyx := (exact_le y x).1 hba
    exact decide_eq_true (le_antisymm hxy hyx)
  ratio_le := fun n n' m hn hm => by
    rw [exact_ratio hm.ne', exact_ratio hm.ne', exact_le]
    exact div_le_div_of_nonneg_right (Nat.cast_le.2 hn) (Nat.cast_nonneg m)
  zero_le_ratio := fun n m hm => by
    rw [exact_ratio hm.ne', exact_ofNat, exact_le, Nat.cast_zero]
    exact div_nonneg (Nat.cast_nonneg n) (Nat.cast_nonneg m)
  one_le_ratio := fun n m hn hm => by
    rw [exact_ratio hm.ne', exact_ofNat, exact_le, Nat.cast_one, one_le_div (Nat.cast_pos.2 hm)]
    exact Nat.cast_le.2 hn
  sub_le := fun n a b hab => by
    obtain ⟨x, y, rfl, rfl, hxy⟩ := exact_le_iff.1 hab
    rw [exact_ofNat, exact_sub, exact_sub, exact_le]
    exact sub_le_sub_left hxy _
  ofNat_mul_le := fun n a b _ hab => by
    obtain ⟨x, y, rfl, rfl, hxy⟩ := exact_le_iff.1 hab
    rw [exact_ofNat, exact_mul, exact_mul, exact_le]
    exact mul_le_mul_of_nonneg_left hxy (Nat.cast_nonneg n)
  le_mul := fun n a _ ha => by
    obtain ⟨x, y, hx, rfl, hxy⟩ := exact_le_iff.1 ha
    rw [exact_ofNat] at hx
    cases exact_inj hx
    rw [exact_ofNat, exact_mul, exact_le]
    exact le_mul_of_one_le_right (Nat.cast_nonneg n) (by simpa using hxy)
  mul_ofNat_le := fun a b n _ _ hab => by
    obtain ⟨x, y, rfl, rfl, hxy⟩ := exact_le_iff.1 hab
    rw [exact_ofNat, exact_mul, exact_mul, exact_le]
    exact mul_le_mul_of_nonneg_right hxy (Nat.cast_nonneg n)
  le_mul_ofNat := fun a n _ ha => by
    obtain ⟨x, y, hx, rfl, hxy⟩ := exact_le_iff.1 ha
    rw [exact_ofNat] at hx
    cases exact_inj hx
    rw [exact_ofNat, exact_ofNat, exact_mul, exact_le, Nat.cast_zero]
    exact mul_nonneg (by simpa using hxy) (Nat.cast_nonneg n)
  add_le := fun a b c d _ _ hab hcd => by
    obtain ⟨x, y, rfl, rfl, hxy⟩ := exact_le_iff.1 hab
    obtain ⟨z, w, rfl, rfl, hzw⟩ := exact_le_iff.1 hcd
    rw [exact_add, exact_add, exact_le]
    exact add_le_add hxy hzw
  le_add := fun a b ha hb => by
    obtain ⟨x, y, hx, rfl, hxy⟩ := exact_le_iff.1 ha
    obtain ⟨z, w, hz, rfl, hzw⟩ := exact_le_iff.1 hb
    rw [exact_ofNat] at hx hz
    cases exact_inj hx
    cases exact_inj hz
    rw [exact_ofNat, exact_add, exact_le, Nat.cast_zero]
    exact add_nonneg (by simpa using hxy) (by simpa using hzw)
  div_le := fun a b n _ hab hn => by
    obtain ⟨x, y, rfl, rfl, hxy⟩ := exact_le_iff.1 hab
    have hne : (n : Rat) ≠ 0 := Nat.cast_ne_zero.2 hn.ne'
    rw [exact_ofNat, exact_div _ hne, exact_div _ hne, exact_le]
    exact div_le_div_of_nonneg_right hxy (Nat.cast_nonneg n)

/-! ## Weighted means -/

def weightedMean (l : List (Rat × Nat)) : Rat := (l.map (fun p => p.1 * (p.2 : Rat))).sum / ((l.map (·.2)).sum : Nat)

theorem mul_weights_le {a : Rat} : ∀ {l : List (Rat × Nat)}, (∀ p ∈ l, a ≤ p.1) →
    a * ((l.map (·.2)).sum : Nat) ≤ (l.map (fun p => p.1 * (p.2 : Rat))).sum
  | [], _ => by simp
  | p :: l, h => by
    have hp := mul_le_mul_of_nonneg_right (h p List.mem_cons_self) (by exact_mod_cast Nat.zero_le p.2 : (0 : Rat) ≤ p.2)
    have hl := mul_weights_le (fun q hq => h q (List.mem_cons_of_mem p hq))
    rw [List.map_cons, List.map_cons, List.sum_cons, List.sum_cons, Nat.cast_add, mul_add]
    exact add_le_add hp hl

theorem le_mul_weights {b : Rat} : ∀ {l : List (Rat × Nat)}, (∀ p ∈ l, p.1 ≤ b) →
    (l.map (fun p => p.1 * (p.2 : Rat))).sum ≤ b * ((l.map (·.2)).sum : Nat)
  | [], _ => by simp
  | p :: l, h => by
    have hp := mul_le_mul_of_nonneg_right (h p List.mem_cons_self) (by exact_mod_cast Nat.zero_le p.2 : (0 : Rat) ≤ p.2)
    have hl := le_mul_weights (fun q hq => h q (List.mem_cons_of_mem p hq))
    rw [List.map_cons, List.map_cons, List.sum_cons, List.sum_cons, Nat.cast_add, mul_add]
    exact add_le_add hp hl

/-- **The mean lies between the bounds of the numbers.** -/
theorem weightedMean_mem {l : List (Rat × Nat)} (hweights : 0 < (l.map (·.2)).sum) {a b : Rat}
    (h : ∀ p ∈ l, a ≤ p.1 ∧ p.1 ≤ b) : a ≤ weightedMean l ∧ weightedMean l ≤ b := by
  have hpos : (0 : Rat) < ((l.map (·.2)).sum : Nat) := Nat.cast_pos.2 hweights
  unfold weightedMean
  rw [le_div_iff₀ hpos, div_le_iff₀ hpos]
  exact ⟨mul_weights_le (fun p hp => (h p hp).1), le_mul_weights (fun p hp => (h p hp).2)⟩

end DataOps

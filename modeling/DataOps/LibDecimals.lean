import Mathlib.Algebra.Order.Field.Basic
import Mathlib.Data.Rat.Cast.Order
import Mathlib.Tactic.FieldSimp
import Mathlib.Tactic.Linarith
import DataOps.LibText
/-!
# LibDecimals — decimal numbers of any size

A decimal is a sign, a coefficient and an exponent; a context rounds it to a precision within a range of exponents.  What
counts as a digit, and for how much, is a parameter.
-/
namespace DataOps
namespace Decimals

/-- What counts as a digit, and for how much; among the ASCII characters, what is usual. -/
structure Digits where
  isDigit : Char → Bool
  value   : Char → Nat
  isDigit_ascii     : ∀ c, c.toNat < 128 → isDigit c = c.isDigit
  value_ascii       : ∀ c, c.isDigit = true → value c = c.toNat - 48
  isDigit_not_space : ∀ c, isDigit c = true → Str.isSpace c = false

/-- `(-1)^sign * coefficient * 10^exponent`. -/
structure Dec where
  negative    : Bool
  coefficient : Nat
  exponent    : Int
deriving DecidableEq, Repr

inductive Number
  -- infinities and not-a-numbers
  | special
  | finite (d : Dec)
deriving DecidableEq, Repr

def Dec.value (d : Dec) : Rat := (if d.negative then -1 else 1) * d.coefficient * (10 : Rat) ^ d.exponent

/-- The digits of a number, one for zero. -/
def numDigits (n : Nat) : Nat := (Nat.toDigits 10 n).length

/-- The exponent of the first digit. -/
def Dec.adjusted (d : Dec) : Int := d.exponent + numDigits d.coefficient - 1

/-! ## Texts -/

/-- The text before the first character that cuts, and the text after it. -/
def cut (p : Char → Bool) (s : Str) : Str × Option Str :=
  (s.takeWhile (fun c => !p c),
    match s.dropWhile (fun c => !p c) with
    | []        => none
    | _ :: rest => some rest)

def scanSign : Str → Bool × Str
  | '-' :: s => (true, s)
  | '+' :: s => (false, s)
  | s        => (false, s)

section
variable (digits : Digits)

def Digits.number (s : Str) : Nat := s.foldl (fun n c => 10 * n + digits.value c) 0

def scanExponent : Option Str → Option Int
  | none   => some 0
  | some s =>
    let (negative, unsigned) := scanSign s
    if unsigned ≠ [] ∧ unsigned.all digits.isDigit then
      some (if negative then -(digits.number unsigned : Int) else digits.number unsigned)
    else none

/-- A sign, digits with at most one point among them, and an exponent behind an `e`. -/
def scanFinite (s : Str) : Option Dec :=
  let (negative, unsigned) := scanSign s
  let (mantissa, exponent) := cut (fun c => c = 'e' ∨ c = 'E') unsigned
  let (whole, decimals) := cut (fun c => c = '.') mantissa
  let decimals := decimals.getD []
  if whole ++ decimals ≠ [] ∧ (whole ++ decimals).all digits.isDigit then
    (scanExponent digits exponent).map (fun e => ⟨negative, digits.number (whole ++ decimals), e - decimals.length⟩)
  else none

/-- `inf`, `infinity`, or `nan` and `snan` with their payload. -/
def isSpecial (s : Str) : Bool :=
  let lowered := (scanSign s).2.map Char.toLower
  let payload := lowered.dropWhile (fun c => c = 's' ∨ c = 'n' ∨ c = 'a')
  lowered = "inf".toList ∨ lowered = "infinity".toList ∨
    (payload.all digits.isDigit ∧ (lowered = "nan".toList ++ payload ∨ lowered = "snan".toList ++ payload))

/-- What the largest context holds exactly. -/
def Dec.isExact (d : Dec) : Bool :=
  numDigits d.coefficient ≤ 999999999999999999 ∧ d.adjusted ≤ 999999999999999999 ∧
    (-1999999999999999997 : Int) ≤ d.exponent

/-- `Decimal(s)`; `none` is `InvalidOperation`. -/
def parse (s : Str) : Option Number :=
  let text := (Str.strip s).filter (fun c => c ≠ '_')
  if isSpecial digits text then some .special
  else
    match scanFinite digits text with
    | none   => none
    | some d => if d.isExact then some (.finite d) else none

/-- The number that a text denotes. -/
def Denotes (s : Str) (q : Rat) : Prop := ∃ d, parse digits s = some (.finite d) ∧ d.value = q

end

/-! ## Rounding -/

/-- A context: what arithmetic rounds to. -/
structure Context where
  precision : Nat
  eMin      : Int
  eMax      : Int

/-- The smallest exponent. -/
def Context.etiny (ctx : Context) : Int := ctx.eMin - (ctx.precision - 1)

/-- `n` without its last `shift` digits, rounded half to even. -/
def roundHalfEven (n shift : Nat) : Nat :=
  if numDigits n < shift then 0
  else
    let quotient := n / 10 ^ shift
    let remainder := n % 10 ^ shift
    if 2 * remainder < 10 ^ shift then quotient
    else if 10 ^ shift < 2 * remainder then quotient + 1
    else if quotient % 2 = 0 then quotient
    else quotient + 1

/-- How many digits of a decimal are too many, or too small. -/
def Context.excess (ctx : Context) (d : Dec) : Nat :=
  (max ((numDigits d.coefficient : Int) - ctx.precision) (ctx.etiny - d.exponent)).toNat

/-- The decimal as the context has it; `none` is `Overflow`. -/
def Context.round (ctx : Context) (d : Dec) : Option Dec :=
  let shift := ctx.excess d
  let rounded : Dec := ⟨d.negative, roundHalfEven d.coefficient shift, d.exponent + shift⟩
  if rounded.coefficient ≠ 0 ∧ ctx.eMax < rounded.adjusted then none else some rounded

/-- The zeros at the end of a number, at most `fuel` of them. -/
def trailingZeros : Nat → Nat → Nat
  | 0, _        => 0
  | fuel + 1, n => if n % 10 = 0 then trailingZeros fuel (n / 10) + 1 else 0

/-- The decimal without trailing zeros. -/
def Dec.reduce (d : Dec) : Dec :=
  let zeros := trailingZeros (numDigits d.coefficient) d.coefficient
  if d.coefficient = 0 then ⟨d.negative, 0, 0⟩ else ⟨d.negative, d.coefficient / 10 ^ zeros, d.exponent + zeros⟩

/-- `d.normalize()`. -/
def Context.normalize (ctx : Context) (d : Dec) : Option Dec := (ctx.round d).map Dec.reduce

/-- `d == d.to_integral_value()`. -/
def Dec.isIntegral (d : Dec) : Bool := d.coefficient = 0 ∨ 0 ≤ d.reduce.exponent

/-- `format(d, "f")`. -/
def Dec.fixedText (d : Dec) : Str :=
  let digits := Nat.toDigits 10 d.coefficient
  let body :=
    if 0 ≤ d.exponent then digits ++ List.replicate d.exponent.toNat '0'
    else
      let places := (-d.exponent).toNat
      let padded := List.replicate (places + 1 - digits.length) '0' ++ digits
      padded.take (padded.length - places) ++ '.' :: padded.drop (padded.length - places)
  (if d.negative then ['-'] else []) ++ body

/-- `str(int(d))` of an integral decimal; `none` where there are more digits than `limit`. -/
def Dec.intText (limit : Nat) (d : Dec) : Option Str :=
  let reduced := d.reduce
  if limit < numDigits reduced.coefficient + reduced.exponent.toNat then none
  else
    some ((if d.negative ∧ d.coefficient ≠ 0 then ['-'] else []) ++
      Nat.toDigits 10 (reduced.coefficient * 10 ^ reduced.exponent.toNat))

/-! ## The digits of a number -/

theorem numDigits_le_iff {n k : Nat} (hk : 0 < k) : numDigits n ≤ k ↔ n < 10 ^ k :=
  Nat.length_toDigits_le_iff (by decide) hk

theorem numDigits_pos (n : Nat) : 0 < numDigits n := Nat.length_toDigits_pos

theorem lt_pow_numDigits (n : Nat) : n < 10 ^ numDigits n := (numDigits_le_iff (numDigits_pos n)).1 (Nat.le_refl _)

theorem lt_numDigits_iff {n k : Nat} (hk : 0 < k) : k < numDigits n ↔ 10 ^ k ≤ n := by
  have hle := numDigits_le_iff (n := n) hk
  omega

theorem numDigits_eq {n k : Nat} (hlow : 10 ^ k ≤ n) (hhigh : n < 10 ^ (k + 1)) : numDigits n = k + 1 := by
  have hle : numDigits n ≤ k + 1 := (numDigits_le_iff (Nat.succ_pos k)).2 hhigh
  rcases Nat.eq_zero_or_pos k with rfl | hk
  · have hpos := numDigits_pos n
    omega
  · have hlt := (lt_numDigits_iff hk).2 hlow
    omega

theorem pow_le_of_numDigits {n : Nat} (hn : n ≠ 0) : 10 ^ (numDigits n - 1) ≤ n := by
  rcases Nat.eq_zero_or_pos (numDigits n - 1) with hzero | hpos
  · rw [hzero]
    omega
  · exact (lt_numDigits_iff hpos).1 (by omega)

/-- Zeros at the end are digits. -/
theorem numDigits_mul_pow {n : Nat} (hn : n ≠ 0) (k : Nat) : numDigits (n * 10 ^ k) = numDigits n + k := by
  have hpos := numDigits_pos n
  have hsum : numDigits n + k = (numDigits n - 1 + k) + 1 := by omega
  rw [hsum]
  apply numDigits_eq
  · rw [Nat.pow_add]
    exact Nat.mul_le_mul_right _ (pow_le_of_numDigits hn)
  · have hshift : numDigits n - 1 + k + 1 = numDigits n + k := by omega
    rw [hshift, Nat.pow_add]
    exact Nat.mul_lt_mul_of_pos_right (lt_pow_numDigits n) (Nat.pow_pos (by decide))

theorem numDigits_mono {n m : Nat} (h : n ≤ m) : numDigits n ≤ numDigits m :=
  (numDigits_le_iff (numDigits_pos m)).2 (Nat.lt_of_le_of_lt h (lt_pow_numDigits m))

/-! ## Plain texts -/

/-- A text of ASCII digits. -/
def AsciiDigits (s : Str) : Prop := ∀ c ∈ s, c.isDigit = true

theorem asciiDigits_toDigits (n : Nat) : AsciiDigits (Nat.toDigits 10 n) :=
  fun _ hc => Nat.isDigit_of_mem_toDigits (by decide) (by decide) hc

theorem asciiDigits_replicate (k : Nat) : AsciiDigits (List.replicate k '0') := by
  intro c hc
  rw [List.eq_of_mem_replicate hc]
  decide

theorem AsciiDigits.append {s t : Str} (hs : AsciiDigits s) (ht : AsciiDigits t) : AsciiDigits (s ++ t) := by
  intro c hc
  rcases List.mem_append.1 hc with hc | hc
  · exact hs c hc
  · exact ht c hc

theorem toLower_of_isDigit {c : Char} (h : c.isDigit = true) : c.toLower = c := by
  have hrange : 48 ≤ c.toNat ∧ c.toNat ≤ 57 := Char.isDigit_iff_toNat.1 h
  have hval : c.val.toNat = c.toNat := rfl
  unfold Char.toLower
  rw [dif_neg]
  rintro ⟨hlow, -⟩
  have hlow' : 65 ≤ c.val.toNat := hlow
  omega

theorem ne_of_isDigit {c : Char} (h : c.isDigit = true) (x : Char) (hx : x.isDigit = false) : c ≠ x := by
  rintro rfl
  rw [hx] at h
  cases h

section
variable (digits : Digits)

theorem isDigit_of_ascii {c : Char} (h : c.isDigit = true) : digits.isDigit c = true := by
  have hrange : 48 ≤ c.toNat ∧ c.toNat ≤ 57 := Char.isDigit_iff_toNat.1 h
  rw [digits.isDigit_ascii c (by omega), h]

theorem isDigit_false_of_ascii {c : Char} (hascii : c.toNat < 128) (h : c.isDigit = false) : digits.isDigit c = false := by
  rw [digits.isDigit_ascii c hascii, h]

theorem number_eq_ofDigitChars {s : Str} (h : AsciiDigits s) : digits.number s = Nat.ofDigitChars 10 s 0 := by
  unfold Digits.number
  rw [Nat.ofDigitChars_eq_foldl]
  apply List.foldl_ext
  intro n c hc
  rw [digits.value_ascii c (h c hc)]
  rfl

theorem number_zeros_append (n k : Nat) : digits.number (List.replicate k '0' ++ Nat.toDigits 10 n) = n := by
  rw [number_eq_ofDigitChars digits ((asciiDigits_replicate k).append (asciiDigits_toDigits n)), Nat.ofDigitChars_append,
    Nat.ofDigitChars_replicate_zero, Nat.mul_zero, Nat.ofDigitChars_ten_toDigits]

theorem number_append_zeros (n k : Nat) : digits.number (Nat.toDigits 10 n ++ List.replicate k '0') = n * 10 ^ k := by
  rw [number_eq_ofDigitChars digits ((asciiDigits_toDigits n).append (asciiDigits_replicate k)), Nat.ofDigitChars_append,
    Nat.ofDigitChars_replicate_zero, Nat.ofDigitChars_ten_toDigits, Nat.mul_comm]

theorem all_isDigit {s : Str} (h : AsciiDigits s) : s.all digits.isDigit = true :=
  List.all_eq_true.2 (fun c hc => isDigit_of_ascii digits (h c hc))

end

theorem cut_eq_self {p : Char → Bool} {s : Str} (h : ∀ c ∈ s, p c = false) : cut p s = (s, none) := by
  have htake : s.takeWhile (fun c => !p c) = s := List.takeWhile_eq_self_iff.2 (fun c hc => by simp [h c hc])
  have hdrop : s.dropWhile (fun c => !p c) = [] := List.dropWhile_eq_nil_iff.2 (fun c hc => by simp [h c hc])
  unfold cut
  rw [htake, hdrop]

theorem cut_append {p : Char → Bool} {s t : Str} {c : Char} (h : ∀ x ∈ s, p x = false) (hc : p c = true) :
    cut p (s ++ c :: t) = (s, some t) := by
  have hs : ∀ x ∈ s, (!p x) = true := fun x hx => by simp [h x hx]
  have htake : (s ++ c :: t).takeWhile (fun c => !p c) = s := by
    rw [List.takeWhile_append_of_pos hs, List.takeWhile_cons_of_neg (by simp [hc]), List.append_nil]
  have hdrop : (s ++ c :: t).dropWhile (fun c => !p c) = c :: t := by
    rw [List.dropWhile_append_of_pos hs, List.dropWhile_cons_of_neg (by simp [hc])]
  unfold cut
  rw [htake, hdrop]

/-- The sign of a plain text. -/
def signText (negative : Bool) : Str := if negative then ['-'] else []

theorem scanSign_signText (negative : Bool) {s : Str} (h : ∀ c, s.head? = some c → c.isDigit = true) :
    scanSign (signText negative ++ s) = (negative, s) := by
  cases negative with
  | true => rfl
  | false =>
    cases s with
    | nil => rfl
    | cons c s =>
      have hc := h c rfl
      have hminus := ne_of_isDigit hc '-' (by decide)
      have hplus := ne_of_isDigit hc '+' (by decide)
      unfold signText scanSign
      rw [if_neg (by decide), List.nil_append]
      split
      · rename_i heq
        exact absurd (List.cons.inj heq).1 hminus
      · rename_i heq
        exact absurd (List.cons.inj heq).1 hplus
      · rfl

/-- A text with a digit in front is no infinity and no not-a-number. -/
theorem isSpecial_signText (digits : Digits) (negative : Bool) {c : Char} {s : Str} (hc : c.isDigit = true) :
    isSpecial digits (signText negative ++ c :: s) = false := by
  have hsign : scanSign (signText negative ++ c :: s) = (negative, c :: s) :=
    scanSign_signText negative (fun x hx => by cases hx; exact hc)
  have hlower := toLower_of_isDigit hc
  have hs := ne_of_isDigit hc 's' (by decide)
  have hn := ne_of_isDigit hc 'n' (by decide)
  have ha := ne_of_isDigit hc 'a' (by decide)
  have hi := ne_of_isDigit hc 'i' (by decide)
  have hdrop : (c :: s.map Char.toLower).dropWhile (fun c => c = 's' ∨ c = 'n' ∨ c = 'a') = c :: s.map Char.toLower := by
    rw [List.dropWhile_cons_of_neg]
    simp [hs, hn, ha]
  unfold isSpecial
  rw [hsign]
  simp only [List.map_cons, hlower, hdrop]
  simp [hi, hn, hs]

theorem not_cut_of_isDigit {c : Char} (hc : c.isDigit = true) :
    decide (c = 'e' ∨ c = 'E') = false ∧ decide (c = '.') = false := by
  simp [ne_of_isDigit hc 'e' (by decide), ne_of_isDigit hc 'E' (by decide), ne_of_isDigit hc '.' (by decide)]

theorem scanFinite_whole (digits : Digits) (negative : Bool) {whole : Str} (hwhole : AsciiDigits whole)
    (hne : whole ≠ []) :
    scanFinite digits (signText negative ++ whole) = some ⟨negative, digits.number whole, 0⟩ := by
  have hsign : scanSign (signText negative ++ whole) = (negative, whole) :=
    scanSign_signText negative (fun c hc => hwhole c (List.mem_of_mem_head? hc))
  unfold scanFinite
  rw [hsign]
  simp only [cut_eq_self (fun c hc => (not_cut_of_isDigit (hwhole c hc)).1),
    cut_eq_self (fun c hc => (not_cut_of_isDigit (hwhole c hc)).2), Option.getD_none, List.append_nil]
  rw [if_pos ⟨hne, all_isDigit digits hwhole⟩]
  rfl

theorem scanFinite_point (digits : Digits) (negative : Bool) {whole decimals : Str} (hwhole : AsciiDigits whole)
    (hne : whole ≠ []) (hdecimals : AsciiDigits decimals) :
    scanFinite digits (signText negative ++ (whole ++ '.' :: decimals)) =
      some ⟨negative, digits.number (whole ++ decimals), -decimals.length⟩ := by
  have hsign : scanSign (signText negative ++ (whole ++ '.' :: decimals)) = (negative, whole ++ '.' :: decimals) := by
    apply scanSign_signText
    intro c hc
    rw [List.head?_append_of_ne_nil _ hne] at hc
    exact hwhole c (List.mem_of_mem_head? hc)
  have hexponent : ∀ c ∈ whole ++ '.' :: decimals, decide (c = 'e' ∨ c = 'E') = false := by
    intro c hc
    rcases List.mem_append.1 hc with hc | hc
    · exact (not_cut_of_isDigit (hwhole c hc)).1
    · rcases List.mem_cons.1 hc with rfl | hc
      · decide
      · exact (not_cut_of_isDigit (hdecimals c hc)).1
  unfold scanFinite
  rw [hsign]
  simp only [cut_eq_self hexponent, cut_append (fun c hc => (not_cut_of_isDigit (hwhole c hc)).2)
    (decide_eq_true (rfl : '.' = '.')), Option.getD_some]
  rw [if_pos ⟨by simp [hne], all_isDigit digits (hwhole.append hdecimals)⟩]
  simp [scanExponent]

/-- The decimal that a fixed-point text is read as. -/
def Dec.expand (d : Dec) : Dec := if 0 ≤ d.exponent then ⟨d.negative, d.coefficient * 10 ^ d.exponent.toNat, 0⟩ else d

/-- A fixed-point text: a sign, digits, and more digits behind a point. -/
theorem exists_fixedText (d : Dec) : ∃ whole decimals, AsciiDigits whole ∧ whole ≠ [] ∧ AsciiDigits decimals ∧
    ((0 ≤ d.exponent ∧ d.fixedText = signText d.negative ++ whole ∧
        whole = Nat.toDigits 10 d.coefficient ++ List.replicate d.exponent.toNat '0') ∨
      (d.exponent < 0 ∧ d.fixedText = signText d.negative ++ (whole ++ '.' :: decimals) ∧
        decimals.length = (-d.exponent).toNat ∧
        ∃ k, whole ++ decimals = List.replicate k '0' ++ Nat.toDigits 10 d.coefficient)) := by
  have hdigits := asciiDigits_toDigits d.coefficient
  by_cases hexp : 0 ≤ d.exponent
  · refine ⟨_, [], hdigits.append (asciiDigits_replicate d.exponent.toNat), by simp,
      fun c hc => absurd hc List.not_mem_nil, .inl ⟨hexp, ?_, rfl⟩⟩
    unfold Dec.fixedText
    simp only [if_pos hexp]
    rfl
  · obtain ⟨places, hplaces⟩ : ∃ places, places = (-d.exponent).toNat := ⟨_, rfl⟩
    obtain ⟨padded, hpadded⟩ : ∃ padded, padded =
      List.replicate (places + 1 - (Nat.toDigits 10 d.coefficient).length) '0' ++ Nat.toDigits 10 d.coefficient := ⟨_, rfl⟩
    have hascii : AsciiDigits padded := by
      rw [hpadded]
      exact (asciiDigits_replicate _).append hdigits
    have hlength : places + 1 ≤ padded.length := by
      rw [hpadded, List.length_append, List.length_replicate]
      omega
    refine ⟨padded.take (padded.length - places), padded.drop (padded.length - places),
      fun c hc => hascii c (List.mem_of_mem_take hc), ?_, fun c hc => hascii c (List.mem_of_mem_drop hc),
      .inr ⟨by omega, ?_, ?_, ?_⟩⟩
    · apply List.ne_nil_of_length_pos
      rw [List.length_take]
      omega
    · unfold Dec.fixedText
      simp only [if_neg hexp, ← hplaces, ← hpadded]
      rfl
    · rw [List.length_drop]
      omega
    · exact ⟨_, (List.take_append_drop _ _).trans hpadded⟩

/-- **A fixed-point text reads back.** -/
theorem scanFinite_fixedText (digits : Digits) (d : Dec) : scanFinite digits d.fixedText = some d.expand := by
  obtain ⟨whole, decimals, hwhole, hne, hdecimals, ⟨hexp, htext, hdigits⟩ | ⟨hexp, htext, hlength, k, hdigits⟩⟩ :=
    exists_fixedText d
  · rw [htext, scanFinite_whole digits d.negative hwhole hne, hdigits, number_append_zeros, Dec.expand, if_pos hexp]
  · have hneg : (-((-d.exponent).toNat : Int)) = d.exponent := by omega
    rw [htext, scanFinite_point digits d.negative hwhole hne hdecimals, hdigits, number_zeros_append, hlength, hneg,
      Dec.expand, if_neg (by omega)]

/-- The characters of a fixed-point text. -/
theorem mem_fixedText {d : Dec} {c : Char} (hc : c ∈ d.fixedText) : c.isDigit = true ∨ c = '-' ∨ c = '.' := by
  have hsign : ∀ c ∈ signText d.negative, c = '-' := by
    intro c hc
    unfold signText at hc
    split at hc
    · exact List.mem_singleton.1 hc
    · cases hc
  obtain ⟨whole, decimals, hwhole, -, hdecimals, ⟨-, htext, -⟩ | ⟨-, htext, -⟩⟩ := exists_fixedText d
  · rw [htext] at hc
    rcases List.mem_append.1 hc with hc | hc
    · exact .inr (.inl (hsign c hc))
    · exact .inl (hwhole c hc)
  · rw [htext] at hc
    rcases List.mem_append.1 hc with hc | hc
    · exact .inr (.inl (hsign c hc))
    · rcases List.mem_append.1 hc with hc | hc
      · exact .inl (hwhole c hc)
      · rcases List.mem_cons.1 hc with rfl | hc
        · exact .inr (.inr rfl)
        · exact .inl (hdecimals c hc)

/-! ## The characters of a number -/

theorem exists_cut (p : Char → Bool) (s : Str) :
    (cut p s = (s, none) ∧ ∀ c ∈ s, p c = false) ∨ ∃ l c r, s = l ++ c :: r ∧ p c = true ∧
      cut p s = (l, some r) := by
  by_cases h : ∀ c ∈ s, p c = false
  · exact .inl ⟨cut_eq_self h, h⟩
  · right
    have hdrop : s.dropWhile (fun c => !p c) ≠ [] := by
      intro hnil
      apply h
      intro c hc
      simpa using List.dropWhile_eq_nil_iff.1 hnil c hc
    obtain ⟨c, r, hcr⟩ := List.exists_cons_of_ne_nil hdrop
    have hpc : p c = true := by
      have hhead := List.head_dropWhile_not (fun c => !p c) hdrop
      simp only [hcr, List.head_cons] at hhead
      simpa using hhead
    refine ⟨s.takeWhile (fun c => !p c), c, r, ?_, hpc, ?_⟩
    · rw [← hcr, List.takeWhile_append_dropWhile]
    · unfold cut
      rw [hcr]

section
variable (digits : Digits)

/-- A character of a number. -/
def NumberChar (c : Char) : Prop := digits.isDigit c = true ∨ c = '+' ∨ c = '-' ∨ c = '.' ∨ c = 'e' ∨ c = 'E'

theorem scanSign_cases (s : Str) : s = (scanSign s).2 ∨ s = '-' :: (scanSign s).2 ∨ s = '+' :: (scanSign s).2 := by
  unfold scanSign
  split
  · exact .inr (.inl rfl)
  · exact .inr (.inr rfl)
  · exact .inl rfl

theorem numberChar_of_scanSign {s : Str} (h : ∀ c ∈ (scanSign s).2, NumberChar digits c) :
    ∀ c ∈ s, NumberChar digits c := by
  intro c hc
  rcases scanSign_cases s with heq | heq | heq
  · rw [heq] at hc
    exact h c hc
  · rw [heq] at hc
    rcases List.mem_cons.1 hc with rfl | hc
    · exact .inr (.inr (.inl rfl))
    · exact h c hc
  · rw [heq] at hc
    rcases List.mem_cons.1 hc with rfl | hc
    · exact .inr (.inl rfl)
    · exact h c hc

theorem numberChar_of_scanExponent {s : Str} {e : Int} (h : scanExponent digits (some s) = some e) :
    ∀ c ∈ s, NumberChar digits c := by
  unfold scanExponent at h
  dsimp only at h
  split at h
  · rename_i hall
    exact numberChar_of_scanSign digits (fun c hc => .inl (List.all_eq_true.1 hall.2 c hc))
  · cases h

/-- **A number is written with digits, signs, a point and an `e`, and has a digit.** -/
theorem numberChar_of_scanFinite {s : Str} {d : Dec} (h : scanFinite digits s = some d) :
    (∀ c ∈ s, NumberChar digits c) ∧ ∃ c ∈ s, digits.isDigit c = true := by
  obtain ⟨unsigned, hunsigned⟩ : ∃ unsigned, unsigned = (scanSign s).2 := ⟨_, rfl⟩
  have hsub : ∀ c ∈ unsigned, c ∈ s := by
    intro c hc
    rw [hunsigned] at hc
    rcases scanSign_cases s with heq | heq | heq
    · rwa [heq]
    · rw [heq]
      exact List.mem_cons_of_mem _ hc
    · rw [heq]
      exact List.mem_cons_of_mem _ hc
  unfold scanFinite at h
  dsimp only at h
  rw [← hunsigned] at h
  obtain ⟨mantissa, hmantissa⟩ : ∃ m, m = (cut (fun c => decide (c = 'e' ∨ c = 'E')) unsigned).1 := ⟨_, rfl⟩
  obtain ⟨whole, hwhole⟩ : ∃ w, w = (cut (fun c => decide (c = '.')) mantissa).1 := ⟨_, rfl⟩
  obtain ⟨decimals, hdecimals⟩ : ∃ d, d = ((cut (fun c => decide (c = '.')) mantissa).2).getD [] := ⟨_, rfl⟩
  rw [← hmantissa, ← hwhole, ← hdecimals] at h
  split at h
  · rename_i hall
    obtain ⟨e, he, -⟩ := Option.map_eq_some_iff.1 h
    have hdigits : ∀ c ∈ whole ++ decimals, digits.isDigit c = true := List.all_eq_true.1 hall.2
    have hmant : ∀ c, c ∈ mantissa ↔ c ∈ whole ++ decimals ∨ (c = '.' ∧ '.' ∈ mantissa) := by
      rcases exists_cut (fun c => decide (c = '.')) mantissa with ⟨hcut, -⟩ | ⟨l, x, r, hsplit, hx, hcut⟩
      · rw [hcut] at hwhole hdecimals
        subst hwhole hdecimals
        intro c
        simp only [Option.getD_none, List.append_nil]
        constructor
        · exact .inl
        · rintro (hc | ⟨rfl, hc⟩) <;> exact hc
      · rw [hcut] at hwhole hdecimals
        subst hwhole hdecimals
        have hdot : x = '.' := of_decide_eq_true hx
        subst hdot
        intro c
        rw [hsplit]
        simp only [List.mem_append, List.mem_cons]
        tauto
    have hmantissaChars : ∀ c ∈ mantissa, NumberChar digits c := by
      intro c hc
      rcases (hmant c).1 hc with hc | ⟨rfl, -⟩
      · exact .inl (hdigits c hc)
      · exact .inr (.inr (.inr (.inl rfl)))
    have hunsignedChars : (∀ c ∈ unsigned, NumberChar digits c) ∧ ∀ c ∈ mantissa, c ∈ unsigned := by
      rcases exists_cut (fun c => decide (c = 'e' ∨ c = 'E')) unsigned with ⟨hcut, -⟩ | ⟨l, x, r, hsplit, hx, hcut⟩
      · rw [hcut] at hmantissa
        subst hmantissa
        exact ⟨hmantissaChars, fun c hc => hc⟩
      · rw [hcut] at hmantissa he
        subst hmantissa
        have hex : x = 'e' ∨ x = 'E' := of_decide_eq_true hx
        constructor
        · intro c hc
          rw [hsplit] at hc
          rcases List.mem_append.1 hc with hc | hc
          · exact hmantissaChars c hc
          · rcases List.mem_cons.1 hc with rfl | hc
            · rcases hex with rfl | rfl
              · exact .inr (.inr (.inr (.inr (.inl rfl))))
              · exact .inr (.inr (.inr (.inr (.inr rfl))))
            · exact numberChar_of_scanExponent digits he c hc
        · intro c hc
          rw [hsplit]
          exact List.mem_append_left _ hc
    refine ⟨numberChar_of_scanSign digits (by rw [← hunsigned]; exact hunsignedChars.1), ?_⟩
    obtain ⟨c, rest, hcons⟩ := List.exists_cons_of_ne_nil hall.1
    have hc : c ∈ whole ++ decimals := hcons ▸ List.mem_cons_self
    exact ⟨c, hsub c (hunsignedChars.2 c ((hmant c).2 (.inl hc))), hdigits c hc⟩
  · cases h

theorem scanFinite_of_parse {s : Str} {d : Dec} (h : parse digits s = some (.finite d)) :
    scanFinite digits ((Str.strip s).filter (fun c => c ≠ '_')) = some d := by
  unfold parse at h
  dsimp only at h
  split at h
  · cases h
  · split at h
    · cases h
    · rename_i heq
      split at h
      · cases h
        exact heq
      · cases h

/-- A number has no blank inside, and a digit. -/
theorem chars_of_parse {s : Str} {d : Dec} (h : parse digits s = some (.finite d)) :
    (∀ c ∈ Str.strip s, Str.isSpace c = false) ∧ ∃ c ∈ Str.strip s, digits.isDigit c = true := by
  obtain ⟨hchars, c, hc, hdigit⟩ := numberChar_of_scanFinite digits (scanFinite_of_parse digits h)
  refine ⟨fun x hx => ?_, c, (List.mem_filter.1 hc).1, hdigit⟩
  by_cases hunderscore : x = '_'
  · rw [hunderscore]
    decide
  · rcases hchars x (List.mem_filter.2 ⟨hx, decide_eq_true hunderscore⟩) with hx | rfl | rfl | rfl | rfl | rfl
    · exact digits.isDigit_not_space x hx
    all_goals decide

end

end Decimals
end DataOps

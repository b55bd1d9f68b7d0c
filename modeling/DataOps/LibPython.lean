import Mathlib.Algebra.Order.Field.Basic
import Mathlib.Algebra.Order.Ring.Rat
import Mathlib.Tactic.NormNum
import DataOps.LibText
/-!
# LibPython — what programs take from Python's library

Unicode case mappings, decimal and ISO 8601 parsing, `strptime` and `strftime`, binary floating point and the phone-number
library are parameters: nothing is known of them but the laws below.
-/
namespace DataOps

structure Python where
  casefold : Str → Str
  lower    : Str → Str
  upper    : Str → Str
  title    : Str → Str
  isAlpha  : Char → Bool
  -- what `\d` matches
  isDigit  : Char → Bool
  -- `Decimal(s)` is a finite number
  isFiniteDecimal : Str → Bool
  -- `datetime.fromisoformat(s)` and `date.fromisoformat(s)` accept
  isIsoDatetime : Str → Bool
  isIsoDate     : Str → Bool
  DateTime : Type
  strptime : Str → Str → Option DateTime
  strftime : DateTime → Str → Str
  PhoneNumber   : Type
  parsePhone    : Str → Option Str → Option PhoneNumber
  isValidNumber : PhoneNumber → Bool
  formatE164    : PhoneNumber → Str
  Float : Type
  float : Str → Float
  -- the division of two integers
  ratio : Nat → Nat → Float
  add   : Float → Float → Float
  sub   : Float → Float → Float
  mul   : Float → Float → Float
  div   : Float → Float → Float
  abs   : Float → Float
  lt    : Float → Float → Bool
  eq    : Float → Float → Bool
  casefold_true  : casefold ['t', 'r', 'u', 'e'] = ['t', 'r', 'u', 'e']
  casefold_false : casefold ['f', 'a', 'l', 's', 'e'] = ['f', 'a', 'l', 's', 'e']
  isDigit_not_space : ∀ c, isDigit c = true → Str.isSpace c = false
  lt_irrefl : ∀ x, lt x x = false
  lt_asymm  : ∀ x y, lt x y = true → lt y x = false
  -- small integers are exact
  lt_small : ∀ n m, n ≤ 100 → m ≤ 100 → lt (ratio n 1) (ratio m 1) = decide (n < m)
  eq_small : ∀ n m, n ≤ 100 → m ≤ 100 → eq (ratio n 1) (ratio m 1) = decide (n = m)
  ratio_le_one : ∀ n m, n ≤ m → 0 < m → lt (ratio 1 1) (ratio n m) = false
  -- nothing below zero comes from what is not below zero
  ratio_nonneg : ∀ n m, lt (ratio n m) (ratio 0 1) = false
  add_nonneg : ∀ x y, lt x (ratio 0 1) = false → lt y (ratio 0 1) = false → lt (add x y) (ratio 0 1) = false
  mul_nonneg : ∀ x y, lt x (ratio 0 1) = false → lt y (ratio 0 1) = false → lt (mul x y) (ratio 0 1) = false
  div_nonneg : ∀ x y, lt x (ratio 0 1) = false → lt y (ratio 0 1) = false → lt (div x y) (ratio 0 1) = false

namespace Python
variable (py : Python)

/-- An integer as a float. -/
def ofNat (n : Nat) : py.Float := py.ratio n 1

/-- `min(a, b)`. -/
def min (a b : py.Float) : py.Float := if py.lt b a then b else a

/-- `max(a, b)`. -/
def max (a b : py.Float) : py.Float := if py.lt a b then b else a

/-- `a <= b`. -/
def le (a b : py.Float) : Bool := py.lt a b || py.eq a b

end Python

/-- What the cell rules take besides: `decimal` and `datetime`, as values. -/
structure PythonValues extends Python where
  Decimal : Type
  -- `Decimal(s)`; `none` is `InvalidOperation`
  decimal    : Str → Option Decimal
  isFinite   : Decimal → Bool
  -- `d == d.to_integral_value()`
  isIntegral : Decimal → Bool
  -- `str(int(d))` and `format(d.normalize(), "f")`; both can raise
  intText   : Decimal → Option Str
  plainText : Decimal → Option Str
  -- `fromisoformat` of `datetime`, `date` and `time`; `none` is `ValueError`
  datetimeFromIso : Str → Option DateTime
  dateFromIso     : Str → Option DateTime
  Time : Type
  timeFromIso : Str → Option Time
  isoformat     : DateTime → Str
  timeIsoformat : Time → Str

/-! ## On ASCII texts -/

/-- `s.title()`; `inWord` is whether the character before was cased. -/
def asciiTitle (inWord : Bool) : Str → Str
  | []      => []
  | c :: cs => (if inWord then c.toLower else c.toUpper) :: asciiTitle c.isAlpha cs

/-- The value of a plain decimal text. -/
def asciiFloat (s : Str) : Rat :=
  let digits := s.filter Char.isDigit
  let decimals := if '.' ∈ s then (s.reverse.takeWhile (fun c => c ≠ '.')).length else 0
  let magnitude := (digits.foldl (fun n c => 10 * n + (c.toNat - 48)) 0 : Nat) / ((10 ^ decimals : Nat) : Rat)
  if s.head? = some '-' then -magnitude else magnitude

/-- Python's library on ASCII texts, with exact numbers for floats, no date and no phone number. -/
def asciiPython : Python where
  casefold := fun s => s.map Char.toLower
  lower := fun s => s.map Char.toLower
  upper := fun s => s.map Char.toUpper
  title := asciiTitle false
  isAlpha := Char.isAlpha
  isDigit := Char.isDigit
  isFiniteDecimal := fun s =>
    let unsigned := if s.head? = some '-' then s.tail else s
    unsigned.any Char.isDigit && unsigned.all (fun c => c.isDigit || c = '.') && unsigned.count '.' ≤ 1
  isIsoDatetime := fun _ => false
  isIsoDate := fun _ => false
  DateTime := Unit
  strptime := fun _ _ => none
  strftime := fun _ format => format
  PhoneNumber := Unit
  parsePhone := fun _ _ => none
  isValidNumber := fun _ => false
  formatE164 := fun _ => []
  Float := Rat
  float := asciiFloat
  ratio := fun n m => (n : Rat) / m
  add := fun a b => a + b
  sub := fun a b => a - b
  mul := fun a b => a * b
  div := fun a b => a / b
  abs := fun a => if a < 0 then -a else a
  lt := fun a b => a < b
  eq := fun a b => a = b
  casefold_true := by decide
  casefold_false := by decide
  isDigit_not_space := fun c h => by
    have hrange : 48 ≤ c.toNat ∧ c.toNat ≤ 57 := Char.isDigit_iff_toNat.1 h
    unfold Str.isSpace
    grind
  lt_irrefl := fun x => by simp
  lt_asymm := fun x y h => by simp only [decide_eq_true_eq, decide_eq_false_iff_not] at h ⊢; exact lt_asymm h
  lt_small := fun n m _ _ => by simp
  eq_small := fun n m _ _ => by simp
  ratio_le_one := fun n m h hm => by
    have hle : (n : Rat) / m ≤ 1 := (div_le_one (by exact_mod_cast hm)).2 (by exact_mod_cast h)
    simpa using hle
  ratio_nonneg := fun n m => by
    have hle : (0 : Rat) ≤ (n : Rat) / m := div_nonneg (Nat.cast_nonneg n) (Nat.cast_nonneg m)
    simpa using hle
  add_nonneg := fun x y hx hy => by
    simp only [decide_eq_false_iff_not, not_lt] at hx hy ⊢
    simpa using add_nonneg (by simpa using hx) (by simpa using hy)
  mul_nonneg := fun x y hx hy => by
    simp only [decide_eq_false_iff_not, not_lt] at hx hy ⊢
    simpa using mul_nonneg (by simpa using hx) (by simpa using hy)
  div_nonneg := fun x y hx hy => by
    simp only [decide_eq_false_iff_not, not_lt] at hx hy ⊢
    simpa using div_nonneg (by simpa using hx) (by simpa using hy)

/-- A plain decimal text: its digits as a number, and how many of them are decimals. -/
def asciiDecimal (s : Str) : Option (Int × Nat) :=
  if asciiPython.isFiniteDecimal s then
    let n : Nat := (s.filter Char.isDigit).foldl (fun n c => 10 * n + (c.toNat - 48)) 0
    let decimals := if '.' ∈ s then (s.reverse.takeWhile (fun c => c ≠ '.')).length else 0
    some (if s.head? = some '-' then -n else n, decimals)
  else none

/-- The digits of a plain decimal, without trailing zeros. -/
def asciiPlainText (d : Int × Nat) : Str :=
  let digits := (toString d.1.natAbs).toList
  let padded := List.replicate (d.2 + 1 - digits.length) '0' ++ digits
  let whole := padded.take (padded.length - d.2)
  let decimals := (padded.drop (padded.length - d.2)).rdropWhile (fun c => c = '0')
  (if d.1 < 0 then ['-'] else []) ++ whole ++ (if decimals = [] then [] else '.' :: decimals)

/-- Plain decimals and no dates, on ASCII texts. -/
def asciiValues : PythonValues where
  toPython := asciiPython
  Decimal := Int × Nat
  decimal := asciiDecimal
  isFinite := fun _ => true
  isIntegral := fun d => d.1 % (10 ^ d.2 : Nat) = 0
  intText := fun d => some (toString (d.1.tdiv (10 ^ d.2 : Nat))).toList
  plainText := fun d => some (asciiPlainText d)
  datetimeFromIso := fun _ => none
  dateFromIso := fun _ => none
  Time := Unit
  timeFromIso := fun _ => none
  isoformat := fun _ => []
  timeIsoformat := fun _ => []

end DataOps

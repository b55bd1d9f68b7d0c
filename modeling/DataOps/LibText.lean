import Mathlib.Data.Char
import Mathlib.Data.List.DropRight
import Mathlib.Data.List.Lex
/-!
# LibText — strings as lists of code points

What programs do to the text of a cell: whitespace as `str.isspace` has it, `str.strip`, and replacing every run of
whitespace by one space.
-/
namespace DataOps

/-- A string, as its code points. -/
abbrev Str := List Char

instance : LawfulBEq Str := inferInstance

namespace Str

/-- `str.isspace` of one character. -/
def isSpace (c : Char) : Bool :=
  let n := c.toNat
  (0x09 ≤ n && n ≤ 0x0D) || (0x1C ≤ n && n ≤ 0x20) || n == 0x85 || n == 0xA0 || n == 0x1680 ||
    (0x2000 ≤ n && n ≤ 0x200A) || n == 0x2028 || n == 0x2029 || n == 0x202F || n == 0x205F || n == 0x3000

/-- U+0000, which no text of a PostgreSQL database holds. -/
def nul : Char := Char.ofNat 0

/-- A `VARCHAR` of the width holds the text. -/
def fits (width : Nat) (s : Str) : Bool := s.length ≤ width ∧ nul ∉ s

/-- `s.strip()`. -/
def strip (s : Str) : Str := (s.dropWhile isSpace).rdropWhile isSpace

/-- A text that is given and not empty, as `if not value` tests it. -/
def given (value : Option Str) : Option Str := value.filter (fun s => s ≠ [])

/-- `re.sub(r"\s+", " ", s)`; `inRun` is whether the character before was whitespace. -/
def subWhitespace (inRun : Bool) : Str → Str
  | []      => []
  | c :: cs =>
    if isSpace c then
      if inRun then subWhitespace true cs else ' ' :: subWhitespace true cs
    else c :: subWhitespace false cs

/-! ## Stripping -/

/-- What `strip` takes off, on both sides. -/
theorem strip_append (s : Str) :
    s.takeWhile isSpace ++ strip s ++ (s.dropWhile isSpace).rtakeWhile isSpace = s := by
  unfold strip
  rw [List.append_assoc, List.rdropWhile_append_rtakeWhile, List.takeWhile_append_dropWhile]

theorem length_strip_le (s : Str) : (strip s).length ≤ s.length := by
  have h := congrArg List.length (strip_append s)
  rw [List.length_append, List.length_append] at h
  omega

theorem count_strip_le (s : Str) (x : Char) : (strip s).count x ≤ s.count x := by
  have h := congrArg (List.count x) (strip_append s)
  rw [List.count_append, List.count_append] at h
  omega

theorem mem_strip {s : Str} {x : Char} (hx : x ∈ s) (hspace : isSpace x = false) : x ∈ strip s := by
  rw [← strip_append s, List.mem_append, List.mem_append] at hx
  rcases hx with (hx | hx) | hx
  · rw [List.mem_takeWhile_imp hx] at hspace
    cases hspace
  · exact hx
  · rw [List.mem_rtakeWhile_imp hx] at hspace
    cases hspace

theorem rdropWhile_eq_self_of_prefix {p : Char → Bool} {s : Str} (h : s.dropWhile p = s) :
    (s.rdropWhile p).dropWhile p = s.rdropWhile p := by
  rw [List.dropWhile_eq_self_iff] at h ⊢
  intro hlen
  have hpre := List.rdropWhile_prefix p s
  have hlen' : 0 < s.length := lt_of_lt_of_le hlen hpre.length_le
  rw [hpre.getElem hlen]
  exact h hlen'

theorem strip_strip (s : Str) : strip (strip s) = strip s := by
  have hdrop : (s.dropWhile isSpace).dropWhile isSpace = s.dropWhile isSpace := List.dropWhile_idempotent _ _
  have h := rdropWhile_eq_self_of_prefix hdrop
  unfold strip
  rw [h, List.rdropWhile_idempotent]

theorem strip_eq_self {s : Str} (h : ∀ x ∈ s, isSpace x = false) : strip s = s := by
  have hdrop : s.dropWhile isSpace = s := by
    rw [List.dropWhile_eq_self_iff]
    intro hlen
    rw [h _ (List.getElem_mem hlen)]
    decide
  unfold strip
  rw [hdrop, List.rdropWhile_eq_self_iff]
  intro hne
  rw [h _ (List.getLast_mem hne)]
  decide

theorem mem_of_mem_strip {s : Str} {x : Char} (h : x ∈ strip s) : x ∈ s := by
  rw [← strip_append s]
  exact List.mem_append_left _ (List.mem_append_right _ h)

/-- A stripped string begins with no blank. -/
theorem head_of_stripped {s : Str} (h : strip s = s) {x : Char} (hx : s.head? = some x) : isSpace x = false := by
  cases s with
  | nil => cases hx
  | cons y s =>
    cases hx
    by_contra hspace
    have hlen := (List.rdropWhile_prefix isSpace ((x :: s).dropWhile isSpace)).length_le
    have hdrop : ((x :: s).dropWhile isSpace).length ≤ s.length := by
      rw [List.dropWhile_cons_of_pos (by simpa using hspace)]
      exact (List.dropWhile_sublist _).length_le
    have heq := congrArg List.length h
    unfold strip at heq
    rw [List.length_cons] at heq
    omega

/-- A string that strips to a stripped one, and begins as it does, extends it with blanks. -/
theorem eq_append_of_strip {s t : Str} (h : strip s = t) (hhead : ∀ x, s.head? = some x → isSpace x = false) :
    ∃ ws, (∀ x ∈ ws, isSpace x = true) ∧ s = t ++ ws := by
  refine ⟨(s.dropWhile isSpace).rtakeWhile isSpace, fun x hx => List.mem_rtakeWhile_imp hx, ?_⟩
  have hnone : s.takeWhile isSpace = [] := by
    cases s with
    | nil => rfl
    | cons x s => rw [List.takeWhile_cons_of_neg (by simp [hhead x rfl])]
  have happ := strip_append s
  rw [hnone, List.nil_append, h] at happ
  exact happ.symm

end Str
end DataOps

import DataOps.LibText
/-!
# LibTextRuns — blanks at the ends and inside

`lstrip`, `rstrip`, and the two regular expressions that look for runs of blanks inside a text.  A match consumes the
characters on both sides of the run, so one pass of `sub` collapses every run unless a single character stands between two
of them (`searchRun_collapse`).
-/
namespace DataOps
namespace Str

def lstrip (s : Str) : Str := s.dropWhile isSpace

def rstrip (s : Str) : Str := s.rdropWhile isSpace

theorem lstrip_lstrip (s : Str) : lstrip (lstrip s) = lstrip s := List.dropWhile_idempotent _ _

theorem rstrip_rstrip (s : Str) : rstrip (rstrip s) = rstrip s := List.rdropWhile_idempotent _ _

/-- The search below, from inside the text: `inWord` is whether a visible character came before the blanks last read. -/
def searchRunFrom (inWord : Bool) (blanks : Nat) : Str → Bool
  | []     => false
  | x :: s =>
    if isSpace x then searchRunFrom inWord (blanks + 1) s
    else (inWord && decide (2 ≤ blanks)) || searchRunFrom true 0 s

/-- `re.search(r"\S(\s{2,})\S", s)`. -/
def searchRun (s : Str) : Bool := searchRunFrom false 0 s

/-- The substitution below; `free` is whether the visible character before the blanks can begin a match, which it cannot
when it ended one. -/
def collapseFrom (free : Bool) (blanks : Str) : Str → Str
  | []     => blanks
  | x :: s =>
    if isSpace x then collapseFrom free (blanks ++ [x]) s
    else if free && decide (2 ≤ blanks.length) then ' ' :: x :: collapseFrom false [] s
    else blanks ++ x :: collapseFrom true [] s

/-- `re.sub(r"(\S)\s{2,}(\S)", r"\1 \2", s)`. -/
def collapse (s : Str) : Str := collapseFrom false [] s

theorem mem_of_mem_lstrip {s : Str} {x : Char} (h : x ∈ lstrip s) : x ∈ s := (List.dropWhile_suffix _).subset h

theorem mem_of_mem_rstrip {s : Str} {x : Char} (h : x ∈ rstrip s) : x ∈ s := (List.rdropWhile_prefix _ s).subset h

theorem mem_of_mem_collapseFrom {x : Char} : ∀ {s blanks : Str} {free : Bool}, x ∈ collapseFrom free blanks s →
    x ∈ blanks ∨ x ∈ s ∨ x = ' '
  | [], _, _, h     => .inl h
  | y :: s, blanks, free, h => by
    rw [collapseFrom] at h
    split at h
    · rcases mem_of_mem_collapseFrom h with h | h | h
      · exact (List.mem_append.1 h).imp_right (fun h => .inl (by rw [List.mem_singleton.1 h]; exact List.mem_cons_self))
      · exact .inr (.inl (List.mem_cons_of_mem _ h))
      · exact .inr (.inr h)
    · have hrest : ∀ {free : Bool}, x ∈ y :: collapseFrom free [] s → x ∈ y :: s ∨ x = ' ' := by
        intro free h
        rcases List.mem_cons.1 h with rfl | h
        · exact .inl List.mem_cons_self
        · rcases mem_of_mem_collapseFrom h with h | h | h
          · cases h
          · exact .inl (List.mem_cons_of_mem _ h)
          · exact .inr h
      split at h
      · rcases List.mem_cons.1 h with rfl | h
        · exact .inr (.inr rfl)
        · exact .inr (hrest h)
      · rcases List.mem_append.1 h with h | h
        · exact .inl h
        · exact .inr (hrest h)

/-- Collapsing brings in no character but the space. -/
theorem mem_of_mem_collapse {s : Str} {x : Char} (h : x ∈ collapse s) : x ∈ s ∨ x = ' ' :=
  (mem_of_mem_collapseFrom h).resolve_left List.not_mem_nil

def searchLoneFrom (inWord : Bool) (blanks : Nat) (afterRun : Bool) : Str → Bool
  | []     => false
  | x :: s =>
    if isSpace x then searchLoneFrom inWord (blanks + 1) afterRun s
    else if inWord && decide (2 ≤ blanks) then afterRun || searchLoneFrom true 0 true s
    else searchLoneFrom true 0 false s

/-- `re.search(r"\S\s{2,}\S\s{2,}\S", s)`: a single character between two runs. -/
def searchLone (s : Str) : Bool := searchLoneFrom false 0 false s

theorem searchRunFrom_blanks (inWord : Bool) (s : Str) : ∀ (ws : Str) (n : Nat), (∀ w ∈ ws, isSpace w = true) →
    searchRunFrom inWord n (ws ++ s) = searchRunFrom inWord (n + ws.length) s
  | [], n, _ => rfl
  | w :: ws, n, h => by
    have ih := searchRunFrom_blanks inWord s ws (n + 1) (fun w' hw' => h w' (List.mem_cons_of_mem _ hw'))
    rw [List.cons_append, searchRunFrom, if_pos (h w List.mem_cons_self), ih, List.length_cons]
    congr 1
    omega

/-- A pass that has met no single character between two runs has collapsed every run. -/
theorem searchRunFrom_collapseFrom : ∀ (s blanks : Str) (inWord afterRun : Bool), (∀ w ∈ blanks, isSpace w = true) →
    searchRunFrom inWord 0 (collapseFrom (inWord && !afterRun) blanks s) =
      searchLoneFrom inWord blanks.length afterRun s
  | [], blanks, inWord, afterRun, hblanks => by
    have h := searchRunFrom_blanks inWord [] blanks 0 hblanks
    rw [List.append_nil] at h
    rw [collapseFrom, searchLoneFrom, h, searchRunFrom]
  | x :: s, blanks, inWord, afterRun, hblanks => by
    rw [collapseFrom, searchLoneFrom]
    by_cases hx : isSpace x = true
    · have ih := searchRunFrom_collapseFrom s (blanks ++ [x]) inWord afterRun (fun w hw => by
        rcases List.mem_append.1 hw with hw | hw
        · exact hblanks w hw
        · rw [List.mem_singleton.1 hw]
          exact hx)
      rw [if_pos hx, if_pos hx, ih, List.length_append, List.length_singleton]
    · rw [if_neg hx, if_neg hx]
      have hkept : searchRunFrom inWord 0 (blanks ++ x :: collapseFrom true [] s) =
          ((inWord && decide (2 ≤ blanks.length)) || searchLoneFrom true 0 false s) := by
        have ih := searchRunFrom_collapseFrom s [] true false (by simp)
        rw [searchRunFrom_blanks _ _ _ _ hblanks, searchRunFrom, if_neg hx, Nat.zero_add]
        exact congrArg _ ih
      cases inWord with
      | false => simpa using hkept
      | true =>
        by_cases hwide : 2 ≤ blanks.length
        · cases afterRun with
          | false =>
            have ih := searchRunFrom_collapseFrom s [] true true (by simp)
            have hblank : isSpace ' ' = true := by decide
            simp only [Bool.not_true, Bool.and_false, List.length_nil] at ih
            simp [hwide, searchRunFrom, hblank, hx, ih]
          | true => simpa [hwide] using hkept
        · cases afterRun with
          | false => simpa [hwide] using hkept
          | true => simpa [hwide] using hkept

/-- **One pass leaves a run exactly when a single character stood between two.** -/
theorem searchRun_collapse (s : Str) : searchRun (collapse s) = searchLone s :=
  searchRunFrom_collapseFrom s [] false false (by simp)

end Str
end DataOps

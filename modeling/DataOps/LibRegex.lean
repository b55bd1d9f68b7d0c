import Mathlib.Computability.RegularExpressions
import Mathlib.Data.List.Chain
import DataOps.LibText
/-!
# LibRegex — matching and substituting in a text

Character classes as regular expressions, what `$` accepts besides the end of a text, and the substitutions that leave one
character for a run of characters.
-/
namespace DataOps
namespace Str

open RegularExpression (char)

/-- A character class. -/
def oneOf (cs : Str) : RegularExpression Char := cs.foldr (fun c r => char c + r) 0

/-- `re.match(r"^…$", s)`: `$` also stands before a line feed that ends the text. -/
def matchToEnd (r : RegularExpression Char) (s : Str) : Bool :=
  r.rmatch s || (s.getLast? == some '\n' && r.rmatch s.dropLast)

/-- `re.sub(r"[…]+", x, s)`, of the class `p`; `inRun` is whether the character before was of the class. -/
def subRuns (p : Char → Bool) (x : Char) (inRun : Bool) : Str → Str
  | []      => []
  | c :: cs =>
    if p c then
      if inRun then subRuns p x true cs else x :: subRuns p x true cs
    else c :: subRuns p x false cs

/-- `re.sub(r"x{2,}", "x", s)`; `run` counts the `x` last read. -/
def subRepeats (x : Char) (run : Nat) : Str → Str
  | []      => if 2 ≤ run then [x] else List.replicate run x
  | c :: cs =>
    if c = x then subRepeats x (run + 1) cs
    else (if 2 ≤ run then [x] else List.replicate run x) ++ c :: subRepeats x 0 cs

/-- `s.strip("x")`. -/
def stripOf (x : Char) (s : Str) : Str := (s.dropWhile (· == x)).rdropWhile (· == x)

/-! ## Character classes -/

theorem oneOf_rmatch {cs s : Str} : (oneOf cs).rmatch s ↔ ∃ c ∈ cs, s = [c] := by
  induction cs with
  | nil => simp [oneOf, RegularExpression.zero_rmatch]
  | cons c cs ih =>
    have hcons : oneOf (c :: cs) = char c + oneOf cs := rfl
    rw [hcons, RegularExpression.add_rmatch_iff, RegularExpression.char_rmatch_iff, ih]
    simp

theorem star_oneOf_rmatch {cs s : Str} : (oneOf cs).star.rmatch s ↔ ∀ c ∈ s, c ∈ cs := by
  rw [RegularExpression.star_rmatch_iff]
  constructor
  · rintro ⟨parts, rfl, hparts⟩ c hc
    obtain ⟨part, hpart, hc⟩ := List.mem_flatten.1 hc
    obtain ⟨d, hd, rfl⟩ := oneOf_rmatch.1 (hparts part hpart).2
    rwa [List.mem_singleton.1 hc]
  · intro h
    refine ⟨s.map (fun c => [c]), ?_, fun part hpart => ?_⟩
    · induction s with
      | nil => rfl
      | cons c s ih =>
        have htail := ih (fun d hd => h d (List.mem_cons_of_mem c hd))
        rw [List.map_cons, List.flatten_cons, ← htail, List.singleton_append]
    · obtain ⟨c, hc, rfl⟩ := List.mem_map.1 hpart
      exact ⟨List.cons_ne_nil c [], oneOf_rmatch.2 ⟨c, h c hc, rfl⟩⟩

/-! ## Repeated characters -/

/-- No two `x` in a row. -/
def Single (x : Char) (s : Str) : Prop := s.IsChain (fun a b => ¬ (a = x ∧ b = x))

instance (x : Char) (s : Str) : Decidable (Single x s) := inferInstanceAs (Decidable (List.IsChain _ s))

theorem single_iff {x : Char} {s : Str} : Single x s ↔ ¬ [x, x] <:+: s := by
  unfold Single
  rw [List.isChain_iff_forall_rel_of_append_cons_cons]
  constructor
  · rintro h ⟨before, after, happ⟩
    have happ' : s = before ++ x :: x :: after := by simpa using happ.symm
    exact h happ' ⟨rfl, rfl⟩
  · rintro h a b before after rfl ⟨rfl, rfl⟩
    exact h ⟨before, after, by simp⟩

theorem Single.head_ne {x c : Char} {s : Str} (h : Single x (c :: s)) (hc : c = x) : s.head? ≠ some x := by
  cases s with
  | nil => simp
  | cons d s =>
    have hrel := (List.isChain_cons_cons.1 h).1
    simpa [hc] using hrel

theorem single_subRuns {p : Char → Bool} {x : Char} (hx : p x = true) : ∀ (s : Str) (inRun : Bool),
    Single x (subRuns p x inRun s) ∧ (inRun = true → (subRuns p x inRun s).head? ≠ some x)
  | [], _ => by simp [subRuns, Single]
  | c :: s, inRun => by
    have ihTrue := single_subRuns hx s true
    have ihFalse := single_subRuns hx s false
    by_cases hc : p c = true
    · cases inRun with
      | true => simpa [subRuns, hc] using ihTrue
      | false =>
        have hhead := ihTrue.2 rfl
        refine ⟨?_, by simp⟩
        simp only [subRuns, hc, if_true, Bool.false_eq_true, if_false]
        refine List.isChain_cons.2 ⟨?_, ihTrue.1⟩
        rintro b hb ⟨-, rfl⟩
        exact hhead hb
    · have hne : c ≠ x := by
        rintro rfl
        exact hc hx
      have hsub : subRuns p x inRun (c :: s) = c :: subRuns p x false s := by simp [subRuns, hc]
      rw [hsub]
      refine ⟨List.isChain_cons.2 ⟨fun b _ h => hne h.1, ihFalse.1⟩, fun _ => by simp [hne]⟩

theorem mem_subRuns {p : Char → Bool} {x : Char} : ∀ {s : Str} {inRun : Bool} {c : Char},
    c ∈ subRuns p x inRun s → c = x ∨ p c = false
  | [], _, _, h => absurd h List.not_mem_nil
  | d :: s, inRun, c, h => by
    rw [subRuns] at h
    split at h
    · split at h
      · exact mem_subRuns h
      · rcases List.mem_cons.1 h with rfl | h
        · exact Or.inl rfl
        · exact mem_subRuns h
    · rename_i hd
      rcases List.mem_cons.1 h with rfl | h
      · exact Or.inr (by simpa using hd)
      · exact mem_subRuns h

/-- A text whose characters of the class are single `x` stays. -/
theorem subRuns_eq_self {p : Char → Bool} {x : Char} : ∀ {s : Str} {inRun : Bool}, Single x s →
    (∀ c ∈ s, p c = true → c = x) → (inRun = true → s.head? ≠ some x) → subRuns p x inRun s = s
  | [], _, _, _, _ => rfl
  | c :: s, inRun, hsingle, hclass, hhead => by
    have htail : Single x s := (List.isChain_cons.1 hsingle).2
    have hrest : ∀ d ∈ s, p d = true → d = x := fun d hd => hclass d (List.mem_cons_of_mem c hd)
    by_cases hc : p c = true
    · have hx := hclass c List.mem_cons_self hc
      have hrun : inRun = false := by
        by_contra hrun
        exact hhead (by simpa using hrun) (by simp [hx])
      have ih : subRuns p x true s = s := subRuns_eq_self htail hrest (fun _ => hsingle.head_ne hx)
      simp [subRuns, hrun, hx ▸ hc, ih, hx]
    · have ih : subRuns p x false s = s := subRuns_eq_self htail hrest (by simp)
      simp [subRuns, hc, ih]

theorem subRepeats_eq_self {x : Char} : ∀ {s : Str} {run : Nat}, Single x s → run ≤ 1 →
    (run = 1 → s.head? ≠ some x) → subRepeats x run s = List.replicate run x ++ s
  | [], run, _, hrun, _ => by
    have hnot : ¬ 2 ≤ run := by omega
    simp [subRepeats, hnot]
  | c :: s, run, hsingle, hrun, hhead => by
    have htail : Single x s := (List.isChain_cons.1 hsingle).2
    have hnot : ¬ 2 ≤ run := by omega
    by_cases hc : c = x
    · have hzero : run = 0 := by
        by_contra hne
        exact hhead (by omega) (by simp [hc])
      have ih := subRepeats_eq_self htail (Nat.le_refl 1) (fun _ => hsingle.head_ne hc)
      simp [subRepeats, hc, hzero, ih]
    · have ih := subRepeats_eq_self htail (Nat.zero_le 1) (by simp)
      simp [subRepeats, hc, hnot, ih]

/-! ## Characters at the ends -/

theorem stripOf_infix (x : Char) (s : Str) : stripOf x s <:+: s :=
  (List.rdropWhile_prefix _ _).isInfix.trans (List.dropWhile_suffix _).isInfix

theorem stripOf_ends (x : Char) (s : Str) : (stripOf x s).head? ≠ some x ∧ (stripOf x s).getLast? ≠ some x := by
  have hdrop : ∀ c, (s.dropWhile (· == x)).head? = some c → c ≠ x := by
    intro c hc
    have hnot := List.head?_dropWhile_not (· == x) s
    rw [hc] at hnot
    simpa using hnot
  constructor
  · intro h
    have hpre := List.rdropWhile_prefix (· == x) (s.dropWhile (· == x))
    obtain ⟨rest, hrest⟩ := hpre
    cases hstrip : (s.dropWhile (· == x)).rdropWhile (· == x) with
    | nil =>
      unfold stripOf at h
      rw [hstrip] at h
      cases h
    | cons c t =>
      unfold stripOf at h
      rw [hstrip] at h hrest
      cases h
      exact hdrop x (by rw [← hrest]; rfl) rfl
  · intro h
    have hne : (s.dropWhile (· == x)).rdropWhile (· == x) ≠ [] := by
      intro hnil
      unfold stripOf at h
      rw [hnil] at h
      cases h
    have hlast := List.rdropWhile_last_not (· == x) (s.dropWhile (· == x)) hne
    unfold stripOf at h
    rw [List.getLast?_eq_some_getLast hne] at h
    simp [Option.some.inj h] at hlast

theorem stripOf_eq_self {x : Char} {s : Str} (hhead : s.head? ≠ some x) (hlast : s.getLast? ≠ some x) :
    stripOf x s = s := by
  have hdrop : s.dropWhile (· == x) = s := by
    cases s with
    | nil => rfl
    | cons c s => rw [List.dropWhile_cons_of_neg (by simpa using hhead)]
  unfold stripOf
  rw [hdrop, List.rdropWhile_eq_self_iff]
  intro hne h
  rw [List.getLast?_eq_some_getLast hne] at hlast
  exact hlast (congrArg some (by simpa using h))

end Str
end DataOps

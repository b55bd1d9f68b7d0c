import Mathlib.Data.List.Basic
/-!
# LibTrace — runs of a system that takes labelled steps, and loops

A system is a step function `σ → ℓ → σ`; a run is a list of labels.  `Along P s ls` reads a condition on a step at
every step of the run, at the state before it.  The rules below are the two inductions every result about runs uses:
what one step preserves, every run preserves (`exec_invariant`), and two conditions that agree on one step wherever
an invariant holds agree along every run (`along_congr`).

A `while` loop runs for a number of turns at most.  Where an invariant holds at its start, and each turn keeps it and
lowers a measure, the loop ends within as many turns (`whileLoop_total`).
-/
namespace DataOps
namespace Trace

universe u v
variable {σ : Type u} {ℓ : Type v} (step : σ → ℓ → σ)

/-- The state a list of labels leads to. -/
def exec (s : σ) (ls : List ℓ) : σ := ls.foldl step s

/-- **Every step of a run satisfies `P`**, read at the state before it. -/
def Along (P : σ → ℓ → Prop) : σ → List ℓ → Prop
  | _, []      => True
  | s, l :: ls => P s l ∧ Along P (step s l) ls

@[simp] theorem exec_nil (s : σ) : exec step s [] = s := rfl

@[simp] theorem exec_cons (s : σ) (l : ℓ) (ls : List ℓ) : exec step s (l :: ls) = exec step (step s l) ls := rfl

theorem exec_append (s : σ) (as bs : List ℓ) : exec step s (as ++ bs) = exec step (exec step s as) bs :=
  List.foldl_append

theorem exec_concat (s : σ) (ls : List ℓ) (l : ℓ) : exec step s (ls ++ [l]) = step (exec step s ls) l := by
  rw [exec_append]; rfl

@[simp] theorem along_nil (P : σ → ℓ → Prop) (s : σ) : Along step P s [] := trivial

@[simp] theorem along_cons (P : σ → ℓ → Prop) (s : σ) (l : ℓ) (ls : List ℓ) :
    Along step P s (l :: ls) ↔ P s l ∧ Along step P (step s l) ls := Iff.rfl

/-- **The invariant rule.** -/
theorem exec_invariant {I : σ → Prop} (hstep : ∀ s l, I s → I (step s l)) :
    ∀ (ls : List ℓ) (s : σ), I s → I (exec step s ls)
  | [], _, h => h
  | l :: ls, s, h => exec_invariant hstep ls (step s l) (hstep s l h)

/-- **The invariant rule along a condition**: an invariant that steps meeting `C` preserve holds after every run whose
steps all meet `C`. -/
theorem exec_invariant_along {I : σ → Prop} {C : σ → ℓ → Prop} (hstep : ∀ s l, I s → C s l → I (step s l)) :
    ∀ (ls : List ℓ) (s : σ), I s → Along step C s ls → I (exec step s ls)
  | [], _, h, _ => h
  | l :: ls, s, h, hc => exec_invariant_along hstep ls (step s l) (hstep s l h hc.1) hc.2

theorem along_append (P : σ → ℓ → Prop) :
    ∀ (as : List ℓ) (s : σ) (bs : List ℓ),
      Along step P s (as ++ bs) ↔ Along step P s as ∧ Along step P (exec step s as) bs
  | [], s, bs => by simp
  | a :: as, s, bs => by
    rw [List.cons_append, along_cons, along_cons, along_append P as (step s a) bs, and_assoc, exec_cons]

/-- A condition holds along a run exactly when it holds at every step the run is split at. -/
theorem along_iff_split (P : σ → ℓ → Prop) (s : σ) (ls : List ℓ) :
    Along step P s ls ↔ ∀ pre l post, ls = pre ++ l :: post → P (exec step s pre) l := by
  constructor
  · rintro h pre l post rfl
    rw [along_append] at h
    exact h.2.1
  · induction ls generalizing s with
    | nil => intro _; trivial
    | cons l ls ih =>
      intro h
      refine ⟨h [] l ls rfl, ih (step s l) (fun pre l' post hs => ?_)⟩
      exact h (l :: pre) l' post (by rw [hs]; rfl)

/-- **Two conditions that agree on one step wherever `I` holds agree along every run**, when steps that meet the second
keep `I`. -/
theorem along_congr {I : σ → Prop} {P C : σ → ℓ → Prop} (hstep : ∀ s l, I s → C s l → I (step s l))
    (hiff : ∀ s l, I s → (P s l ↔ C s l)) :
    ∀ (ls : List ℓ) (s : σ), I s → (Along step P s ls ↔ Along step C s ls)
  | [], _, _ => Iff.rfl
  | l :: ls, s, hI => by
    rw [along_cons, along_cons, hiff s l hI]
    constructor
    · rintro ⟨hc, hrest⟩
      exact ⟨hc, (along_congr hstep hiff ls (step s l) (hstep s l hI hc)).1 hrest⟩
    · rintro ⟨hc, hrest⟩
      exact ⟨hc, (along_congr hstep hiff ls (step s l) (hstep s l hI hc)).2 hrest⟩

/-- Along a run on which `I` is kept, a condition that `I` implies holds at every step. -/
theorem along_of_invariant {I : σ → Prop} {P : σ → ℓ → Prop} (hstep : ∀ s l, I s → I (step s l))
    (hP : ∀ s l, I s → P s l) : ∀ (ls : List ℓ) (s : σ), I s → Along step P s ls
  | [], _, _ => trivial
  | l :: ls, s, hI => ⟨hP s l hI, along_of_invariant hstep hP ls (step s l) (hstep s l hI)⟩

end Trace

/-! ## Loops whose test and body can raise -/

namespace Loops

variable {σ : Type}

/-- `while test(s): s = body(s)`; `none` when one of them raises, or no turn is left. -/
def whileLoop (test : σ → Option Bool) (body : σ → Option σ) : Nat → σ → Option σ
  | 0, _         => none
  | turns + 1, s =>
    (test s).bind (fun go => if go = true then (body s).bind (whileLoop test body turns) else some s)

variable {test : σ → Option Bool} {body : σ → Option σ} {I : σ → Prop} {measure : σ → Nat}

/-- **A loop whose turns keep an invariant and lower a measure ends**, and where its test fails. -/
theorem whileLoop_total
    (hturn : ∀ s, I s → test s = some false ∨
      test s = some true ∧ ∃ s', body s = some s' ∧ I s' ∧ measure s' < measure s) :
    ∀ (turns : Nat) (s : σ), I s → measure s < turns →
      ∃ s', whileLoop test body turns s = some s' ∧ I s' ∧ test s' = some false
  | 0, _, _, hlt         => absurd hlt (Nat.not_lt_zero _)
  | turns + 1, s, hs, hlt => by
    rw [whileLoop]
    rcases hturn s hs with hstop | ⟨hgo, s', hbody, hs', hless⟩
    · rw [hstop]
      exact ⟨s, rfl, hs, hstop⟩
    · rw [hgo, hbody]
      exact whileLoop_total hturn turns s' hs' (by omega)

end Loops
end DataOps

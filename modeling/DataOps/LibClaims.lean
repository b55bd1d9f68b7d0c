import Mathlib.Data.List.Basic
/-!
# LibClaims — workers that each hold at most one row

Workers are a list; each may hold a claim, and a claim has a key, the row it locks.  `Held` says something of every claim
with its worker, and `Apart` that no two workers claim one key.  A worker claims only a key that is not `locked`, so what a
worker does keeps both: letting go, taking a free key, and going on with the key it has.
-/
namespace DataOps
namespace Claims

universe u v w
variable {ω : Type u} {γ : Type v} {κ : Type w} (claim : ω → Option γ) (key : γ → κ)

/-- Some worker holds the key. -/
def locked [DecidableEq κ] (ws : List ω) (k : κ) : Bool := ws.any (fun x => (claim x).any (fun c => key c = k))

/-- Every claim satisfies `Q`, with its worker. -/
def Held (Q : ω → γ → Prop) (ws : List ω) : Prop := ∀ (i : Nat) x c, ws[i]? = some x → claim x = some c → Q x c

/-- No two workers hold one key. -/
def Apart (ws : List ω) : Prop :=
  ∀ (i j : Nat) x y c d, ws[i]? = some x → ws[j]? = some y → claim x = some c → claim y = some d →
    key c = key d → i = j

variable {claim key} {ws : List ω} {i : Nat} {x : ω} {c : γ}

theorem ne_of_locked_eq_false [DecidableEq κ] {k : κ} (h : locked claim key ws k = false) (hx : ws[i]? = some x)
    (hc : claim x = some c) : key c ≠ k := by
  intro heq
  have hany : locked claim key ws k = true := by
    refine List.any_eq_true.2 ⟨x, List.mem_of_getElem? hx, ?_⟩
    rw [hc]
    exact decide_eq_true heq
  rw [h] at hany
  cases hany

/-- A worker after one was replaced: the new one, or one of the others. -/
theorem getElem?_set_cases {j : Nat} {y : ω} (h : (ws.set i x)[j]? = some y) :
    (j = i ∧ y = x) ∨ (j ≠ i ∧ ws[j]? = some y) := by
  rw [List.getElem?_set] at h
  split at h
  · rename_i heq
    split at h
    · exact .inl ⟨heq.symm, (Option.some.inj h).symm⟩
    · cases h
  · rename_i hne
    exact .inr ⟨fun heq => hne heq.symm, h⟩

/-- A claim after an idle worker came: one of those before. -/
theorem getElem?_append_of_claim {j : Nat} {y : ω} {d : γ} (hidle : claim x = none) (hy : (ws ++ [x])[j]? = some y)
    (hd : claim y = some d) : ws[j]? = some y := by
  rw [List.getElem?_append] at hy
  split at hy
  · exact hy
  · rw [List.mem_singleton.1 (List.mem_of_getElem? hy), hidle] at hd
    cases hd

/-! ## Every claim -/

variable {Q R : ω → γ → Prop}

/-- What implies `R` of every claim, key by key. -/
theorem Held.mono (h : Held claim Q ws) (hQR : ∀ (j : Nat) y d, ws[j]? = some y → claim y = some d → Q y d → R y d) :
    Held claim R ws :=
  fun j y d hy hd => hQR j y d hy hd (h j y d hy hd)

theorem Held.append (h : Held claim Q ws) (hidle : claim x = none) : Held claim Q (ws ++ [x]) :=
  fun j y d hy hd => h j y d (getElem?_append_of_claim hidle hy hd) hd

theorem Held.release (h : Held claim Q ws) (hidle : claim x = none) : Held claim Q (ws.set i x) := by
  intro j y d hy hd
  rcases getElem?_set_cases hy with ⟨-, rfl⟩ | ⟨-, hy⟩
  · rw [hidle] at hd
    cases hd
  · exact h j y d hy hd

theorem Held.hold (h : Held claim Q ws) (hc : claim x = some c) (hQ : Q x c) : Held claim Q (ws.set i x) := by
  intro j y d hy hd
  rcases getElem?_set_cases hy with ⟨-, rfl⟩ | ⟨-, hy⟩
  · obtain rfl : c = d := Option.some.inj (hc.symm.trans hd)
    exact hQ
  · exact h j y d hy hd

/-! ## No two of one key -/

theorem Apart.append (h : Apart claim key ws) (hidle : claim x = none) : Apart claim key (ws ++ [x]) := by
  intro j j' y y' d d' hy hy' hd hd'
  exact h j j' y y' d d' (getElem?_append_of_claim hidle hy hd) (getElem?_append_of_claim hidle hy' hd') hd hd'

theorem Apart.release (h : Apart claim key ws) (hidle : claim x = none) : Apart claim key (ws.set i x) := by
  intro j j' y y' d d' hy hy' hd hd' heq
  rcases getElem?_set_cases hy with ⟨-, rfl⟩ | ⟨-, hy⟩
  · rw [hidle] at hd
    cases hd
  · rcases getElem?_set_cases hy' with ⟨-, rfl⟩ | ⟨-, hy'⟩
    · rw [hidle] at hd'
      cases hd'
    · exact h j j' y y' d d' hy hy' hd hd' heq

/-- A worker may hold a key that no other one holds. -/
theorem Apart.hold (h : Apart claim key ws) (hc : claim x = some c)
    (hfree : ∀ (j : Nat) y d, j ≠ i → ws[j]? = some y → claim y = some d → key d ≠ key c) :
    Apart claim key (ws.set i x) := by
  intro j j' y y' d d' hy hy' hd hd' heq
  rcases getElem?_set_cases hy with ⟨rfl, rfl⟩ | ⟨hne, hold⟩
  · obtain rfl : c = d := Option.some.inj (hc.symm.trans hd)
    rcases getElem?_set_cases hy' with ⟨rfl, -⟩ | ⟨hne', hold'⟩
    · rfl
    · exact absurd heq.symm (hfree j' y' d' hne' hold' hd')
  · rcases getElem?_set_cases hy' with ⟨rfl, rfl⟩ | ⟨-, hold'⟩
    · obtain rfl : c = d' := Option.some.inj (hc.symm.trans hd')
      exact absurd heq (hfree j y d hne hold hd)
    · exact h j j' y y' d d' hold hold' hd hd' heq

theorem Apart.take [DecidableEq κ] (h : Apart claim key ws) (hc : claim x = some c)
    (hfree : locked claim key ws (key c) = false) : Apart claim key (ws.set i x) :=
  h.hold hc (fun _ _ _ _ hy hd => ne_of_locked_eq_false hfree hy hd)

/-- The others do not hold the key of a worker's claim. -/
theorem Apart.ne_of_ne (h : Apart claim key ws) (hx : ws[i]? = some x) (hc : claim x = some c) {j : Nat} {y : ω} {d : γ}
    (hne : j ≠ i) (hy : ws[j]? = some y) (hd : claim y = some d) : key d ≠ key c :=
  fun heq => hne (h j i y x d c hy hx hd hc heq)

theorem Apart.keep (h : Apart claim key ws) (hx : ws[i]? = some x) (hc : claim x = some c) {x' : ω} {c' : γ}
    (hc' : claim x' = some c') (hkey : key c' = key c) : Apart claim key (ws.set i x') :=
  h.hold hc' (fun _ _ _ hne hy hd => hkey ▸ h.ne_of_ne hx hc hne hy hd)

end Claims
end DataOps

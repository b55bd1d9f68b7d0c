import Mathlib.Data.List.Basic
import Mathlib.Data.List.Nodup
import Mathlib.Logic.Function.Iterate
import DataOps.LibDict
import DataOps.LibSortedCut
/-!
# LibQueues — taking the head of a queue, a bounded number of times

A worker asks for the head of a queue, deals with it and asks again.  The queue is what a query finds in a table, in an
order: a row dealt with waits no more, be it excluded or rewritten (`waiting_attempted`).  Where dealing with the head
leaves the tail, the worker deals with the first elements in order (`drain_eq`).  Of passes that each reach a bounded
number of elements and leave in the queue what fails, an element is reached at last exactly when fewer than the bound
fail before it (`mem_sweeps_iff`).
-/
namespace DataOps
namespace Queues

variable {σ α : Type}

/-! ## The rows that wait -/

section
variable {κ ρ τ : Type} [LinearOrder τ]

/-- The rows of a table that a query wants, in the order of a key. -/
def waiting (key : κ × ρ → τ) (wants : κ × ρ → Bool) (rows : Dict κ ρ) : List (κ × ρ) :=
  (rows.filter wants).insertionSort (fun e e' => key e ≤ key e')

/-- The order tells apart the rows that the query wants. -/
def Separates (key : κ × ρ → τ) (wants : κ × ρ → Bool) : Prop :=
  ∀ a b, wants a = true → wants b = true → key a = key b → a.1 = b.1

variable {key : κ × ρ → τ} {wants wants' : κ × ρ → Bool} {rows rows' : Dict κ ρ} {e : κ × ρ}

theorem mem_waiting : e ∈ waiting key wants rows ↔ e ∈ rows ∧ wants e = true := by
  rw [waiting, List.mem_insertionSort, List.mem_filter]

theorem nodup_waiting (hkeys : rows.keys.Nodup) : ((waiting key wants rows).map Prod.fst).Nodup := by
  have hperm := (List.perm_insertionSort (fun e e' => key e ≤ key e') (rows.filter wants)).map Prod.fst
  exact hperm.nodup_iff.2 (hkeys.sublist (List.filter_sublist.map _))

theorem waiting_congr (h : rows'.filter wants' = rows.filter wants) :
    waiting key wants' rows' = waiting key wants rows := by
  rw [waiting, waiting, h]

/-- **Fewer rows found are the same rows with some left out.** -/
theorem waiting_filter (hkeys : rows.keys.Nodup) (hkey : Separates key wants) (p : κ × ρ → Bool)
    (h : rows'.filter wants' = (rows.filter wants).filter p) :
    waiting key wants' rows' = (waiting key wants rows).filter p := by
  rw [waiting, waiting, h]
  refine SortedCut.insertionSort_filter (fun a ha b hb heq => ?_) p
  obtain ⟨ha, hwa⟩ := List.mem_filter.1 ha
  obtain ⟨hb, hwb⟩ := List.mem_filter.1 hb
  exact List.inj_on_of_nodup_map hkeys ha hb (hkey a b hwa hwb heq)

variable [DecidableEq κ]

/-- Without its first row, the rest waits. -/
theorem waiting_tail (hkeys : rows.keys.Nodup) {l : List (κ × ρ)} (hqueue : waiting key wants rows = e :: l) :
    (waiting key wants rows).filter (fun e' => e'.1 ≠ e.1) = l := by
  have hnd := @nodup_waiting _ _ _ _ key wants rows hkeys
  rw [hqueue] at hnd ⊢
  rw [List.filter_cons_of_neg (by simp)]
  refine List.filter_eq_self.2 (fun e' he' => decide_eq_true (fun heq => ?_))
  exact (List.nodup_cons.1 hnd).1 (heq ▸ List.mem_map_of_mem he')

/-- **A row dealt with waits no more, the others still do**: it is excluded, or it was rewritten to one that the query
does not want. -/
theorem waiting_attempted (hkeys : rows.keys.Nodup) (hkey : Separates key wants) {k : κ}
    (hothers : ∀ e, e.1 ≠ k → wants' e = wants e)
    (hrows : rows' = rows ∧ (∀ v, wants' (k, v) = false) ∨ ∃ v, rows' = rows.set k v ∧ wants' (k, v) = false) :
    waiting key wants' rows' = (waiting key wants rows).filter (fun e => e.1 ≠ k) := by
  refine waiting_filter hkeys hkey _ ?_
  rcases hrows with ⟨rfl, hexcluded⟩ | ⟨v, rfl, hrewritten⟩
  · rw [List.filter_filter]
    refine List.filter_congr (fun e _ => ?_)
    by_cases heq : e.1 = k
    · rw [show e = (k, e.2) from Prod.ext heq rfl, hexcluded]
      simp
    · rw [hothers e heq, decide_eq_true heq, Bool.true_and]
  · rw [Dict.filter_set hrewritten hkeys, List.filter_filter, List.filter_filter]
    refine List.filter_congr (fun e _ => ?_)
    by_cases heq : e.1 = k
    · simp [heq]
    · rw [hothers e heq]

end

/-! ## Draining -/

/-- Ask for the next element and deal with it, at most `n` times. -/
def drain (next : σ → Option α) (attempt : σ → α → σ) : Nat → σ → σ
  | 0, s     => s
  | n + 1, s =>
    match next s with
    | none   => s
    | some a => drain next attempt n (attempt s a)

section
variable {next : σ → Option α} {attempt : σ → α → σ} {queue : σ → List α} {I : σ → Prop}

/-- **Where an attempt leaves the tail of the queue, the first `n` elements are dealt with in order.** -/
theorem drain_eq (hnext : ∀ s, next s = (queue s).head?)
    (hattempt : ∀ s a l, I s → queue s = a :: l → queue (attempt s a) = l ∧ I (attempt s a)) :
    ∀ (n : Nat) (s : σ), I s → drain next attempt n s = ((queue s).take n).foldl attempt s ∧
      queue (drain next attempt n s) = (queue s).drop n ∧ I (drain next attempt n s)
  | 0, s, hs => ⟨rfl, rfl, hs⟩
  | n + 1, s, hs => by
    rw [drain, hnext]
    cases hqueue : queue s with
    | nil => exact ⟨rfl, hqueue, hs⟩
    | cons a l =>
      obtain ⟨htail, hI⟩ := hattempt s a l hs hqueue
      obtain ⟨hfold, hdrop, hdrained⟩ := drain_eq hnext hattempt n (attempt s a) hI
      rw [htail] at hfold hdrop
      exact ⟨hfold, hdrop, hdrained⟩

/-- What holds with `n` attempts left, and after one more with one fewer left, holds in the end with some left. -/
theorem drain_counted {I : Nat → σ → Prop} (hattempt : ∀ n s a, I (n + 1) s → next s = some a → I n (attempt s a)) :
    ∀ (n : Nat) (s : σ), I n s → ∃ m, I m (drain next attempt n s)
  | 0, _, hs     => ⟨0, hs⟩
  | n + 1, s, hs => by
    rw [drain]
    cases hnext : next s with
    | none => exact ⟨n + 1, hs⟩
    | some a => exact drain_counted hattempt n (attempt s a) (hattempt n s a hs hnext)

/-- What an attempt on the next element preserves, the draining preserves. -/
theorem drain_invariant (hattempt : ∀ s a, I s → next s = some a → I (attempt s a)) (n : Nat) (s : σ) (hs : I s) :
    I (drain next attempt n s) := by
  obtain ⟨_, h⟩ := drain_counted (I := fun _ => I) (fun _ => hattempt) n s hs
  exact h

end

/-! ## Sweeping -/

/-- What a pass over the first `b` elements leaves. -/
def sweep (fails : α → Bool) (b : Nat) (l : List α) : List α := (l.take b).filter fails ++ l.drop b

section
variable {fails : α → Bool} {b : Nat} {l pre post : List α} {a : α}

theorem sweep_sublist (fails : α → Bool) (b : Nat) (l : List α) : (sweep fails b l).Sublist l := by
  have h := (List.filter_sublist (p := fails) (l := l.take b)).append (List.Sublist.refl (l.drop b))
  rwa [List.take_append_drop] at h

theorem sweeps_sublist (fails : α → Bool) (b : Nat) : ∀ (n : Nat) (l : List α), ((sweep fails b)^[n] l).Sublist l
  | 0, l     => List.Sublist.refl l
  | n + 1, l => (sweeps_sublist fails b n (sweep fails b l)).trans (sweep_sublist fails b l)

/-- **What is left of distinct elements**: those that fail, and those not among the first. -/
theorem sweep_eq_filter [DecidableEq α] (hnd : l.Nodup) :
    sweep fails b l = l.filter (fun a => fails a || decide (a ∉ l.take b)) := by
  have hsplit := List.nodup_append.1 (show (l.take b ++ l.drop b).Nodup by rwa [List.take_append_drop])
  unfold sweep
  conv => rhs; rw [← List.take_append_drop b l, List.filter_append]
  rw [List.take_append_drop]
  congr 1
  · refine List.filter_congr (fun a ha => ?_)
    rw [decide_eq_false (not_not_intro ha), Bool.or_false]
  · refine (List.filter_eq_self.2 (fun a ha => ?_)).symm
    have hnot : a ∉ l.take b := fun htake => hsplit.2.2 a htake a ha rfl
    rw [decide_eq_true hnot, Bool.or_true]

/-- A pass that ends before the rest leaves the rest. -/
theorem sweep_append (h : b ≤ pre.length) (l : List α) : sweep fails b (pre ++ l) = sweep fails b pre ++ l := by
  unfold sweep
  rw [List.take_append_of_le_length h, List.drop_append_of_le_length h, List.append_assoc]

/-- What fails stays. -/
theorem countP_sweep (fails : α → Bool) (b : Nat) (l : List α) : (sweep fails b l).countP fails = l.countP fails := by
  unfold sweep
  rw [List.countP_append, List.countP_filter, ← List.take_append_drop b l, List.countP_append, List.take_append_drop]
  simp only [Bool.and_self]

/-- A pass whose elements do not all fail shortens the queue. -/
theorem length_sweep_lt (hb : b ≤ l.length) (h : l.countP fails < b) : (sweep fails b l).length < l.length := by
  have htake : (l.take b).countP fails ≤ l.countP fails := (List.take_sublist b l).countP_le
  unfold sweep
  rw [List.length_append, ← List.countP_eq_length_filter, List.length_drop]
  omega

/-- **With as many failures before it as a pass has attempts, an element is never reached.** -/
theorem sweeps_stuck (l : List α) : ∀ (n : Nat) (pre : List α), b ≤ pre.countP fails →
    (sweep fails b)^[n] (pre ++ l) = (sweep fails b)^[n] pre ++ l
  | 0, _, _       => rfl
  | n + 1, pre, h => by
    rw [Function.iterate_succ_apply, Function.iterate_succ_apply, sweep_append (Nat.le_trans h List.countP_le_length)]
    exact sweeps_stuck l n (sweep fails b pre) (by rwa [countP_sweep])

/-- **With fewer, it is reached**, at the latest when all before it are. -/
theorem sweeps_reach (hfine : fails a = false) (hpost : a ∉ post) : ∀ (n : Nat) (pre : List α), a ∉ pre →
    pre.countP fails < b → pre.length < n → a ∉ (sweep fails b)^[n] (pre ++ a :: post)
  | n + 1, pre, hpre, hcount, hn => by
    rw [Function.iterate_succ_apply]
    by_cases hlength : b ≤ pre.length
    · rw [sweep_append hlength]
      have hshorter := length_sweep_lt hlength hcount
      refine sweeps_reach hfine hpost n (sweep fails b pre)
        (fun hmem => hpre ((sweep_sublist _ _ _).subset hmem)) ?_ (by omega)
      rwa [countP_sweep]
    · -- the pass comes to the element, which is dealt with
      refine fun hmem => absurd ((sweeps_sublist fails b n _).subset hmem) ?_
      have htake : (pre ++ a :: post).take b = pre ++ a :: post.take (b - pre.length - 1) := by
        obtain ⟨k, rfl⟩ : ∃ k, b = pre.length + (k + 1) := ⟨b - pre.length - 1, by omega⟩
        rw [List.take_length_add_append, List.take_succ_cons]
        congr 3
        omega
      have hdrop : (pre ++ a :: post).drop b = post.drop (b - pre.length - 1) := by
        obtain ⟨k, rfl⟩ : ∃ k, b = pre.length + (k + 1) := ⟨b - pre.length - 1, by omega⟩
        rw [List.drop_length_add_append, List.drop_succ_cons]
        congr 1
        omega
      unfold sweep
      rw [htake, hdrop]
      intro hmem
      rcases List.mem_append.1 hmem with hmem | hmem
      · exact Bool.false_ne_true (hfine.symm.trans (List.mem_filter.1 hmem).2)
      · exact hpost (List.mem_of_mem_drop hmem)

/-- **A queue is cleared of an element exactly when fewer than `b` before it fail**, as soon as there were as many passes
as elements. -/
theorem mem_sweeps_iff (hnd : (pre ++ a :: post).Nodup) (hfine : fails a = false) {n : Nat}
    (hn : (pre ++ a :: post).length ≤ n) : a ∉ (sweep fails b)^[n] (pre ++ a :: post) ↔ pre.countP fails < b := by
  obtain ⟨-, hnd, hdisjoint⟩ := List.nodup_append.1 hnd
  have hpre : a ∉ pre := fun hmem => hdisjoint a hmem a List.mem_cons_self rfl
  constructor
  · intro hgone
    by_contra hcount
    rw [sweeps_stuck (a :: post) n pre (Nat.not_lt.1 hcount)] at hgone
    exact hgone (List.mem_append_right _ List.mem_cons_self)
  · intro hcount
    rw [List.length_append, List.length_cons] at hn
    exact sweeps_reach hfine (List.nodup_cons.1 hnd).1 n pre hpre hcount (by omega)

end
end Queues
end DataOps

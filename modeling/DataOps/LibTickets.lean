import DataOps.LibTrace
/-!
# LibTickets — requests that check in one transaction and write in a later one

A request reads the store and is refused, or plans a write; its ticket commits that write later, to whatever the store
has become.  A ticket is undisturbed when no write that conflicts with its own was committed since its read, and then
its request would plan the same write at the commit (`Planned`): what the check saw still holds.
-/
namespace DataOps
namespace Tickets

universe u v w x
variable {σ : Type u} {ρ : Type v} {ε : Type w} {ω : Type x}

structure Protocol (σ : Type u) (ρ : Type v) (ε : Type w) (ω : Type x) where
  plan  : ρ → σ → Except ε ω
  write : ω → σ → σ

/-- A request whose check passed; `seen` is how many writes had been committed at its read. -/
structure Ticket (ρ : Type v) (ω : Type x) where
  request : ρ
  write   : ω
  seen    : Nat

/-- The committed store, every write committed so far, and the tickets still to commit. -/
structure State (σ : Type u) (ρ : Type v) (ω : Type x) where
  store   : σ
  history : List ω
  pending : List (Ticket ρ ω)

inductive Label (ρ : Type v)
  | read (r : ρ)
  | commit (i : Nat)
  | abandon (i : Nat)

def State.initial (store : σ) : State σ ρ ω := ⟨store, [], []⟩

def State.commit (p : Protocol σ ρ ε ω) (s : State σ ρ ω) (i : Nat) (t : Ticket ρ ω) : State σ ρ ω :=
  ⟨p.write t.write s.store, s.history ++ [t.write], s.pending.eraseIdx i⟩

def step (p : Protocol σ ρ ε ω) (s : State σ ρ ω) : Label ρ → State σ ρ ω
  | .read r =>
    match p.plan r s.store with
    | .ok w    => { s with pending := s.pending ++ [⟨r, w, s.history.length⟩] }
    | .error _ => s
  | .commit i =>
    match s.pending[i]? with
    | some t => s.commit p i t
    | none   => s
  | .abandon i => { s with pending := s.pending.eraseIdx i }

/-- A condition on every ticket a step commits, at the state it commits to. -/
def Commits (Q : State σ ρ ω → Ticket ρ ω → Prop) (s : State σ ρ ω) (l : Label ρ) : Prop :=
  ∀ i t, l = .commit i → s.pending[i]? = some t → Q s t

/-- The writes committed since the ticket's read. -/
def State.since (s : State σ ρ ω) (t : Ticket ρ ω) : List ω := s.history.drop t.seen

/-- No write that conflicts with the ticket's was committed since its read. -/
def Undisturbed (conflict : ω → ω → Prop) (s : State σ ρ ω) (t : Ticket ρ ω) : Prop :=
  ∀ w ∈ s.since t, ¬ conflict w t.write

section
variable {p : Protocol σ ρ ε ω} {s : State σ ρ ω}

/-- **Everything a step can do.** -/
theorem step_cases (p : Protocol σ ρ ε ω) (s : State σ ρ ω) (l : Label ρ) :
    step p s l = s ∨
    (∃ r w, p.plan r s.store = .ok w ∧
      step p s l = { s with pending := s.pending ++ [⟨r, w, s.history.length⟩] }) ∨
    (∃ i t, l = .commit i ∧ s.pending[i]? = some t ∧ step p s l = s.commit p i t) ∨
    (∃ i, step p s l = { s with pending := s.pending.eraseIdx i }) := by
  cases l with
  | read r =>
    cases h : p.plan r s.store with
    | ok w => exact .inr (.inl ⟨r, w, h, by simp only [step, h]⟩)
    | error e => exact .inl (by simp only [step, h])
  | commit i =>
    cases h : s.pending[i]? with
    | some t => exact .inr (.inr (.inl ⟨i, t, rfl, h, by simp only [step, h]⟩))
    | none => exact .inl (by simp only [step, h])
  | abandon i => exact .inr (.inr (.inr ⟨i, rfl⟩))

theorem step_commit {i : Nat} {t : Ticket ρ ω} (h : s.pending[i]? = some t) : step p s (.commit i) = s.commit p i t := by
  simp only [step, h]

/-- **The rule for invariants of tickets and store**: a read starts with it, a commit that meets `C` keeps it for the
tickets still pending, and nothing else touches it. -/
theorem step_tickets {T : σ → List ω → Ticket ρ ω → Prop} {C : State σ ρ ω → Ticket ρ ω → Prop}
    (hread : ∀ r w, p.plan r s.store = .ok w → T s.store s.history ⟨r, w, s.history.length⟩)
    (hcommit : ∀ t t', t ∈ s.pending → t' ∈ s.pending → C s t → T s.store s.history t' →
      T (p.write t.write s.store) (s.history ++ [t.write]) t')
    (hT : ∀ t ∈ s.pending, T s.store s.history t) (l : Label ρ) (hC : Commits C s l) :
    ∀ t ∈ (step p s l).pending, T (step p s l).store (step p s l).history t := by
  rcases step_cases p s l with h | ⟨r, w, hp, h⟩ | ⟨i, t, rfl, hi, h⟩ | ⟨i, h⟩ <;> rw [h]
  · exact hT
  · intro t ht
    rcases List.mem_append.1 ht with ht | ht
    · exact hT t ht
    · rw [List.mem_singleton.1 ht]
      exact hread r w hp
  · intro t' ht'
    have hmem := List.mem_of_mem_eraseIdx ht'
    exact hcommit t t' (List.mem_of_getElem? hi) hmem (hC i t rfl hi) (hT t' hmem)
  · exact fun t ht => hT t (List.mem_of_mem_eraseIdx ht)

/-- Two conditions on commits agree on a step when they agree on every pending ticket. -/
theorem commits_congr {Q C : State σ ρ ω → Ticket ρ ω → Prop} (h : ∀ t ∈ s.pending, Q s t ↔ C s t) (l : Label ρ) :
    Commits Q s l ↔ Commits C s l := by
  constructor
  · exact fun hq i t hl hi => (h t (List.mem_of_getElem? hi)).1 (hq i t hl hi)
  · exact fun hc i t hl hi => (h t (List.mem_of_getElem? hi)).2 (hc i t hl hi)

theorem drop_concat_of_le {α : Type x} {l : List α} {n : Nat} (h : n ≤ l.length) (a : α) :
    (l ++ [a]).drop n = l.drop n ++ [a] := List.drop_append_of_le_length h

/-! ## What an undisturbed ticket still knows -/

/-- **The check of an undisturbed ticket still passes, with the same plan.** -/
structure Planned (p : Protocol σ ρ ε ω) (conflict : ω → ω → Prop) (store : σ) (history : List ω) (t : Ticket ρ ω) :
    Prop where
  seen : t.seen ≤ history.length
  plan : (∀ w ∈ history.drop t.seen, ¬ conflict w t.write) → p.plan t.request store = .ok t.write

theorem Planned.read {conflict : ω → ω → Prop} {r : ρ} {w : ω} (h : p.plan r s.store = .ok w) :
    Planned p conflict s.store s.history ⟨r, w, s.history.length⟩ :=
  ⟨Nat.le_refl _, fun _ => h⟩

theorem Planned.commit {conflict : ω → ω → Prop} {t t' : Ticket ρ ω}
    (hframe : ∀ r w store, p.plan r store = .ok w → ¬ conflict t.write w → p.plan r (p.write t.write store) = .ok w)
    (h : Planned p conflict s.store s.history t') :
    Planned p conflict (p.write t.write s.store) (s.history ++ [t.write]) t' := by
  refine ⟨?_, fun hno => ?_⟩
  · rw [List.length_append]
    exact Nat.le_trans h.seen (Nat.le_add_right _ _)
  · rw [drop_concat_of_le h.seen] at hno
    refine hframe _ _ _ (h.plan (fun w hw => hno w (List.mem_append_left _ hw))) ?_
    exact hno _ (List.mem_append_right _ (List.mem_singleton_self _))

/-- **Every pending ticket stays planned**, when a write leaves the plans it does not conflict with alone. -/
theorem planned_step {conflict : ω → ω → Prop}
    (hframe : ∀ w' r w store, p.plan r store = .ok w → ¬ conflict w' w → p.plan r (p.write w' store) = .ok w)
    (h : ∀ t ∈ s.pending, Planned p conflict s.store s.history t) (l : Label ρ) :
    ∀ t ∈ (step p s l).pending, Planned p conflict (step p s l).store (step p s l).history t :=
  step_tickets (C := fun _ _ => True) (fun _ _ hp => Planned.read hp)
    (fun t _ _ _ _ ht' => Planned.commit (hframe t.write) ht') h l (fun _ _ _ _ => trivial)

end
end Tickets
end DataOps

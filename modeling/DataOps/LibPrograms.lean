import DataOps.LibTrace
/-!
# LibPrograms — programs over one shared state

A program looks at the shared state, acts on it and ends; executions of programs interleave look by look and act by act,
and the state changes from outside as well.  `Sound` says what a program may be relied on for, whatever its looks find in
states that grew from the one it started in and keep an invariant; `Safe.exec` is the induction over a run.
-/
namespace DataOps
namespace Programs

universe u v w x y z
variable {σ : Type u} {κ : Type v} {ε : Type w} {ρ : Type x} {ι : Type y} {η : Type z}

/-- A look says what it is after, and an act learns whether it was accepted. -/
inductive Program (σ : Type u) (κ : Type v) (ε : Type w) (ρ : Type x)
  | halt (result : ρ)
  | observe (query : κ) (next : σ → Program σ κ ε ρ)
  | act (effect : ε) (next : Bool → Program σ κ ε ρ)

/-- How the state changes: by an act, by the launch of an execution, and from outside. -/
structure Machine (σ : Type u) (κ : Type v) (ε : Type w) (ρ : Type x) (ι : Type y) (η : Type z) where
  perform : σ → ε → σ × Bool
  launch  : σ → Nat → ι → Option (σ × Program σ κ ε ρ)
  disturb : σ → η → σ

structure State (σ : Type u) (κ : Type v) (ε : Type w) (ρ : Type x) where
  shared   : σ
  programs : Nat → Option (Program σ κ ε ρ)

inductive Label (ι : Type y) (η : Type z)
  | launch (e : Nat) (request : ι)
  | advance (e : Nat)
  | stop (e : Nat)
  | disturb (change : η)

/-- No execution yet. -/
def State.initial (shared : σ) : State σ κ ε ρ := ⟨shared, fun _ => none⟩

/-- The state with one execution's program replaced. -/
def State.set (s : State σ κ ε ρ) (shared : σ) (e : Nat) (program : Option (Program σ κ ε ρ)) : State σ κ ε ρ :=
  ⟨shared, fun e' => if e' = e then program else s.programs e'⟩

section
variable (m : Machine σ κ ε ρ ι η)

def State.advance (s : State σ κ ε ρ) (e : Nat) : Program σ κ ε ρ → State σ κ ε ρ
  | .halt _          => s
  | .observe _ next  => s.set s.shared e (some (next s.shared))
  | .act effect next => s.set (m.perform s.shared effect).1 e (some (next (m.perform s.shared effect).2))

def step (s : State σ κ ε ρ) : Label ι η → State σ κ ε ρ
  | .launch e request =>
    match s.programs e, m.launch s.shared e request with
    | none, some (shared, program) => s.set shared e (some program)
    | _, _                         => s
  | .advance e =>
    match s.programs e with
    | some program => s.advance m e program
    | none         => s
  | .stop e         => s.set s.shared e none
  | .disturb change => { s with shared := m.disturb s.shared change }

end

/-- **Everything a step can do.** -/
theorem step_cases (m : Machine σ κ ε ρ ι η) (s : State σ κ ε ρ) (l : Label ι η) :
    step m s l = s ∨
    (∃ e request shared program, l = .launch e request ∧ m.launch s.shared e request = some (shared, program) ∧
      step m s l = s.set shared e (some program)) ∨
    (∃ e query next, l = .advance e ∧ s.programs e = some (.observe query next) ∧
      step m s l = s.set s.shared e (some (next s.shared))) ∨
    (∃ e effect next, l = .advance e ∧ s.programs e = some (.act effect next) ∧
      step m s l = s.set (m.perform s.shared effect).1 e (some (next (m.perform s.shared effect).2))) ∨
    (∃ e, step m s l = s.set s.shared e none) ∨
    ∃ change, l = .disturb change ∧ step m s l = { s with shared := m.disturb s.shared change } := by
  cases l with
  | launch e request =>
    simp only [step]
    split
    · rename_i shared program _ hlaunch
      exact .inr (.inl ⟨e, request, shared, program, rfl, hlaunch, rfl⟩)
    · exact .inl rfl
  | advance e =>
    simp only [step]
    split
    · rename_i program hprogram
      cases program with
      | halt result => exact .inl rfl
      | observe query next => exact .inr (.inr (.inl ⟨e, query, next, rfl, hprogram, rfl⟩))
      | act effect next => exact .inr (.inr (.inr (.inl ⟨e, effect, next, rfl, hprogram, rfl⟩)))
    · exact .inl rfl
  | stop e => exact .inr (.inr (.inr (.inr (.inl ⟨e, rfl⟩))))
  | disturb change => exact .inr (.inr (.inr (.inr (.inr ⟨change, rfl, rfl⟩))))

/-! ## One execution at a time -/

theorem State.set_set (s : State σ κ ε ρ) (shared shared' : σ) (e : Nat) (program program' : Option (Program σ κ ε ρ)) :
    (s.set shared e program).set shared' e program' = s.set shared' e program' := by
  simp only [State.set, State.mk.injEq, true_and]
  funext e'
  split <;> rfl

/-- The program an execution is left with. -/
theorem State.programs_set_self (s : State σ κ ε ρ) (shared : σ) (e : Nat) (program : Option (Program σ κ ε ρ)) :
    (s.set shared e program).programs e = program := by simp only [State.set, if_true]

/-- What a program comes to by `n` looks at one state, each after something of a kind. -/
inductive Looks (s : σ) (Q : κ → Prop) : Nat → Program σ κ ε ρ → Program σ κ ε ρ → Prop
  | none {program : Program σ κ ε ρ} : Looks s Q 0 program program
  | cons {n : Nat} {query : κ} {next : σ → Program σ κ ε ρ} {program : Program σ κ ε ρ} :
    Q query → Looks s Q n (next s) program → Looks s Q (n + 1) (.observe query next) program

section
variable (m : Machine σ κ ε ρ ι η) (s : State σ κ ε ρ) (shared : σ) (e : Nat)

theorem step_launch {s : State σ κ ε ρ} {e : Nat} {request : ι} {shared : σ} {program : Program σ κ ε ρ}
    (hprogram : s.programs e = none) (hlaunch : m.launch s.shared e request = some (shared, program)) :
    step m s (.launch e request) = s.set shared e (some program) := by
  simp only [step, hprogram, hlaunch]

theorem step_observe (query : κ) (next : σ → Program σ κ ε ρ) :
    step m (s.set shared e (some (.observe query next))) (.advance e) = s.set shared e (some (next shared)) := by
  simp only [step, State.programs_set_self]
  exact State.set_set s shared shared e _ _

theorem step_act (effect : ε) (next : Bool → Program σ κ ε ρ) :
    step m (s.set shared e (some (.act effect next))) (.advance e) =
      s.set (m.perform shared effect).1 e (some (next (m.perform shared effect).2)) := by
  simp only [step, State.programs_set_self]
  exact State.set_set s shared _ e _ _

variable {m s shared e}

theorem Looks.exec {Q : κ → Prop} {n : Nat} {program program' : Program σ κ ε ρ} (h : Looks shared Q n program program') :
    Trace.exec (step m) (s.set shared e (some program)) (List.replicate n (.advance e)) =
      s.set shared e (some program') := by
  induction h with
  | none => rfl
  | cons hquery hlooks ih => rw [List.replicate_succ, Trace.exec_cons, step_observe, ih]

/-- **The program alone, to its end.** -/
def Program.run (perform : σ → ε → σ × Bool) : Program σ κ ε ρ → σ → σ × ρ
  | .halt result, s      => (s, result)
  | .observe _ next, s   => (next s).run perform s
  | .act effect next, s  => (next (perform s effect).2).run perform (perform s effect).1

/-- It is a run of its steps. -/
theorem Program.exec_run (program : Program σ κ ε ρ) (shared : σ) :
    ∃ n, Trace.exec (step m) (s.set shared e (some program)) (List.replicate n (.advance e)) =
      s.set (program.run m.perform shared).1 e (some (.halt (program.run m.perform shared).2)) := by
  induction program generalizing shared with
  | halt result => exact ⟨0, rfl⟩
  | observe query next ih =>
    obtain ⟨n, hn⟩ := ih shared shared
    refine ⟨n + 1, ?_⟩
    rw [List.replicate_succ, Trace.exec_cons, step_observe, hn]
    rfl
  | act effect next ih =>
    obtain ⟨n, hn⟩ := ih (m.perform shared effect).2 (m.perform shared effect).1
    refine ⟨n + 1, ?_⟩
    rw [List.replicate_succ, Trace.exec_cons, step_act, hn]
    rfl

/-- A condition on steps that the looks meet holds along them. -/
theorem Looks.along {Q : κ → Prop} {P : State σ κ ε ρ → Label ι η → Prop}
    (hP : ∀ s e query next, s.shared = shared → Q query → s.programs e = some (.observe query next) → P s (.advance e))
    {n : Nat} {program program' : Program σ κ ε ρ} (h : Looks shared Q n program program') :
    Trace.Along (step m) P (s.set shared e (some program)) (List.replicate n (.advance e)) := by
  induction h with
  | none => trivial
  | @cons n query next program hquery hlooks ih =>
    rw [List.replicate_succ, Trace.along_cons, step_observe]
    exact ⟨hP _ e query next rfl hquery (State.programs_set_self s shared e _), ih⟩

end

theorem shared_step_act (m : Machine σ κ ε ρ ι η) {s : State σ κ ε ρ} {e : Nat} {effect : ε}
    {next : Bool → Program σ κ ε ρ} (h : s.programs e = some (.act effect next)) :
    (step m s (.advance e)).shared = (m.perform s.shared effect).1 := by
  simp only [step, h]
  rfl

/-! ## Sound programs -/

/-- What a proof about programs relies on and guarantees: how the state grows, its invariant, the conditions on what is
launched, looked at, done and changed, and what every act of a program meets. -/
structure Contract (σ : Type u) (κ : Type v) (ε : Type w) (ι : Type y) (η : Type z) where
  grows     : σ → σ → Prop
  invariant : σ → Prop
  launches  : σ → ι → Prop
  looks     : σ → κ → Prop
  acts      : σ → ε → Prop
  changes   : σ → η → Prop
  meets     : σ → ε → Prop

/-- Every act the program comes to meets the contract. -/
def Program.Sound (c : Contract σ κ ε ι η) : Program σ κ ε ρ → σ → Prop
  | .halt _, _             => True
  | .observe query next, s => ∀ s', c.grows s s' → c.invariant s' → c.looks s' query → (next s').Sound c s'
  | .act effect next, s    => c.meets s effect ∧ ∀ accepted, (next accepted).Sound c s

/-- The step meets the conditions of the contract. -/
def Allowed (c : Contract σ κ ε ι η) (s : State σ κ ε ρ) : Label ι η → Prop
  | .launch _ request => c.launches s.shared request
  | .advance e        =>
    (∀ query next, s.programs e = some (.observe query next) → c.looks s.shared query) ∧
      ∀ effect next, s.programs e = some (.act effect next) → c.acts s.shared effect
  | .stop _           => True
  | .disturb change   => c.changes s.shared change

/-- What the changes of the state keep. -/
structure Contract.Kept (c : Contract σ κ ε ι η) (m : Machine σ κ ε ρ ι η) : Prop where
  refl    : ∀ s, c.grows s s
  trans   : ∀ {s s' s''}, c.grows s s' → c.grows s' s'' → c.grows s s''
  stable  : ∀ {s s' effect}, c.meets s effect → c.grows s s' → c.meets s' effect
  perform : ∀ {s effect}, c.invariant s → c.meets s effect → c.acts s effect →
    c.invariant (m.perform s effect).1 ∧ c.grows s (m.perform s effect).1
  launch  : ∀ {s e request s' program}, c.invariant s → c.launches s request → m.launch s e request = some (s', program) →
    c.invariant s' ∧ c.grows s s' ∧ program.Sound c s'
  disturb : ∀ {s change}, c.invariant s → c.changes s change →
    c.invariant (m.disturb s change) ∧ c.grows s (m.disturb s change)

/-- The invariant, and every program sound in the state there is. -/
structure Safe (c : Contract σ κ ε ι η) (s : State σ κ ε ρ) : Prop where
  invariant : c.invariant s.shared
  programs  : ∀ e program, s.programs e = some program → program.Sound c s.shared

theorem Safe.initial {c : Contract σ κ ε ι η} {shared : σ} (h : c.invariant shared) :
    Safe c (State.initial shared : State σ κ ε ρ) := ⟨h, fun _ _ hprogram => by cases hprogram⟩

section
variable {c : Contract σ κ ε ι η} {m : Machine σ κ ε ρ ι η}

/-- A sound program stays sound as the state grows. -/
theorem Program.Sound.grow (hm : c.Kept m) : ∀ {program : Program σ κ ε ρ} {s s' : σ},
    program.Sound c s → c.grows s s' → program.Sound c s'
  | .halt _, _, _, _, _ => trivial
  | .observe _ _, _, _, h, hgrows => fun s'' hgrows' => h s'' (hm.trans hgrows hgrows')
  | .act _ _, _, _, h, hgrows => ⟨hm.stable h.1 hgrows, fun accepted => (h.2 accepted).grow hm hgrows⟩

/-- One execution moves on, and the others only see the state grow. -/
theorem Safe.set (hm : c.Kept m) {s : State σ κ ε ρ} (h : Safe c s) {shared : σ} {e : Nat}
    {program : Option (Program σ κ ε ρ)} (hinv : c.invariant shared) (hgrows : c.grows s.shared shared)
    (hprogram : ∀ p, program = some p → p.Sound c shared) : Safe c (s.set shared e program) := by
  refine ⟨hinv, fun e' p hp => ?_⟩
  simp only [State.set] at hp
  split at hp
  · exact hprogram p hp
  · exact (h.programs e' p hp).grow hm hgrows

/-- **An allowed step keeps it.** -/
theorem Safe.step (hm : c.Kept m) {s : State σ κ ε ρ} {l : Label ι η} (h : Safe c s) (hallowed : Allowed c s l) :
    Safe c (step m s l) := by
  rcases step_cases m s l with heq | ⟨e, request, shared, program, rfl, hlaunch, heq⟩ |
    ⟨e, query, next, rfl, hprogram, heq⟩ | ⟨e, effect, next, rfl, hprogram, heq⟩ | ⟨e, heq⟩ |
      ⟨change, rfl, heq⟩ <;> rw [heq]
  · exact h
  · obtain ⟨hinv, hgrows, hsound⟩ := hm.launch h.invariant hallowed hlaunch
    exact h.set hm hinv hgrows (fun p hp => Option.some.inj hp ▸ hsound)
  · refine h.set hm h.invariant (hm.refl _) (fun p hp => Option.some.inj hp ▸ ?_)
    exact h.programs e _ hprogram s.shared (hm.refl _) h.invariant (hallowed.1 query next hprogram)
  · obtain ⟨hmeets, hnext⟩ := h.programs e _ hprogram
    obtain ⟨hinv, hgrows⟩ := hm.perform h.invariant hmeets (hallowed.2 effect next hprogram)
    exact h.set hm hinv hgrows (fun p hp => Option.some.inj hp ▸ (hnext _).grow hm hgrows)
  · exact h.set hm h.invariant (hm.refl _) (fun p hp => by cases hp)
  · obtain ⟨hinv, hgrows⟩ := hm.disturb h.invariant hallowed
    exact ⟨hinv, fun e p hp => (h.programs e p hp).grow hm hgrows⟩

/-- **A run whose steps meet a condition that allows them keeps it.** -/
theorem Safe.exec (hm : c.Kept m) {P : State σ κ ε ρ → Label ι η → Prop} (hP : ∀ s l, P s l → Allowed c s l)
    (ls : List (Label ι η)) {s : State σ κ ε ρ} (h : Safe c s) (hrun : Trace.Along (Programs.step m) P s ls) :
    Safe c (Trace.exec (Programs.step m) s ls) :=
  Trace.exec_invariant_along _ (fun s l hs hl => Safe.step hm hs (hP s l hl)) ls s h hrun

end

end Programs
end DataOps

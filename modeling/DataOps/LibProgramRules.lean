import DataOps.LibPrograms
/-!
# LibProgramRules — what holds of a program whatever it sees

A property shown look by look (`Closed`) needs one proof for each program, whichever property it is.  Two such properties:
a confined program looks and acts within bounds (`Confined.exec`), and a program that obeys a discipline relies on being
the only one that acts on what it owns (`Disciplined.exec`).
-/
namespace DataOps
namespace Programs

universe u v w x y z
variable {σ : Type u} {κ : Type v} {ε : Type w} {ρ : Type x} {ι : Type y} {η : Type z}

/-- **The property is shown look by look**: of what there may be to ask, and of each state that may be seen then. -/
structure Closed (asked : κ → Prop) (seen : σ → κ → σ → Prop) (Φ : Program σ κ ε ρ → σ → Prop) : Prop where
  halt    : ∀ result s, Φ (.halt result) s
  observe : ∀ query next s, asked query → (∀ s', seen s query s' → Φ (next s') s') → Φ (.observe query next) s

theorem Contract.closed (c : Contract σ κ ε ι η) :
    Closed (fun _ => True) (fun s query s' => c.grows s s' ∧ c.invariant s' ∧ c.looks s' query)
      (Program.Sound c : Program σ κ ε ρ → σ → Prop) where
  halt := fun _ _ => trivial
  observe := fun _ _ _ _ h s' hgrows hinv hlooks => h s' ⟨hgrows, hinv, hlooks⟩

/-- The next step of the execution is an act. -/
def Acts (program : Option (Program σ κ ε ρ)) : Prop := ∃ effect next, program = some (.act effect next)

/-! ## Programs within bounds -/

/-- Every look and every act of the program is within the bounds, whatever it finds in states that keep the invariant. -/
def Program.Confined (I : σ → Prop) (asks : κ → Prop) (acts : ε → Prop) : Program σ κ ε ρ → Prop
  | .halt _             => True
  | .observe query next => asks query ∧ ∀ s, I s → (next s).Confined I asks acts
  | .act effect next    => acts effect ∧ ∀ accepted, (next accepted).Confined I asks acts

section
variable {I : σ → Prop} {asks : κ → Prop} {acts : ε → Prop} {m : Machine σ κ ε ρ ι η}

theorem confined_closed :
    Closed asks (fun _ _ s => I s) (fun (program : Program σ κ ε ρ) (_ : σ) => program.Confined I asks acts) where
  halt := fun _ _ => trivial
  observe := fun _ _ _ hasks h => ⟨hasks, h⟩

/-- **A confined program stays confined**, and what is launched as its execution is confined. -/
theorem Confined.step {s : State σ κ ε ρ} {e : Nat} {l : Label ι η} (hI : I s.shared)
    (hlaunch : ∀ request shared program, l = .launch e request → m.launch s.shared e request = some (shared, program) →
      program.Confined I asks acts)
    (h : ∀ program, s.programs e = some program → program.Confined I asks acts) :
    ∀ program, (step m s l).programs e = some program → program.Confined I asks acts := by
  rcases step_cases m s l with heq | ⟨e', request, shared, p, rfl, hl, heq⟩ | ⟨e', query, next, rfl, hp, heq⟩ |
    ⟨e', effect, next, rfl, hp, heq⟩ | ⟨e', heq⟩ | ⟨change, rfl, heq⟩ <;> rw [heq]
  · exact h
  · intro program hprogram
    simp only [State.set] at hprogram
    split at hprogram
    · rename_i he
      cases hprogram
      subst he
      exact hlaunch request shared p rfl hl
    · exact h program hprogram
  · intro program hprogram
    simp only [State.set] at hprogram
    split at hprogram
    · rename_i he
      have hconfined : (Program.observe query next).Confined I asks acts := h _ (he ▸ hp)
      cases hprogram
      exact hconfined.2 s.shared hI
    · exact h program hprogram
  · intro program hprogram
    simp only [State.set] at hprogram
    split at hprogram
    · rename_i he
      have hconfined : (Program.act effect next).Confined I asks acts := h _ (he ▸ hp)
      cases hprogram
      exact hconfined.2 _
    · exact h program hprogram
  · intro program hprogram
    simp only [State.set] at hprogram
    split at hprogram
    · cases hprogram
    · exact h program hprogram
  · exact h

/-- **Every run whose launches of an execution are confined**, in states that an invariant of the system says enough of. -/
theorem Confined.exec {J : State σ κ ε ρ → Prop} (hJ : ∀ s, J s → I s.shared) {e : Nat}
    (hstep : ∀ s (l : Label ι η), J s → J (Programs.step m s l)) {launched : ι → Prop}
    (hlaunch : ∀ s request shared program, J s → launched request → m.launch s.shared e request = some (shared, program) →
      program.Confined I asks acts) :
    ∀ (ls : List (Label ι η)) {s : State σ κ ε ρ},
      (∀ request, .launch e request ∈ ls → launched request) → J s →
      (∀ program, s.programs e = some program → program.Confined I asks acts) →
      ∀ program, (Trace.exec (Programs.step m) s ls).programs e = some program → program.Confined I asks acts
  | [], _, _, _, h => h
  | l :: ls, s, hls, hs, h => by
    rw [Trace.exec_cons]
    refine Confined.exec hJ hstep hlaunch ls (fun request hmem => hls request (List.mem_cons_of_mem _ hmem))
      (hstep s l hs) ?_
    refine Confined.step (hJ s hs) (fun request shared program hl => ?_) h
    exact hlaunch s request shared program hs (hls request (hl ▸ List.mem_cons_self))

/-- The invariant, and every execution within bounds of its own. -/
structure AllConfined {β : Type v} (I : σ → Prop) (asks : β → κ → Prop) (acts : β → ε → Prop)
    (s : State σ κ ε ρ) :
    Prop where
  invariant : I s.shared
  programs  : ∀ e program, s.programs e = some program → ∃ b, program.Confined I (asks b) (acts b)

/-- **Executions within bounds whose acts keep the invariant stay within them.** -/
theorem AllConfined.step {β : Type v} {asks : β → κ → Prop} {acts : β → ε → Prop}
    (hperform : ∀ b s effect, I s → acts b effect → I (m.perform s effect).1)
    (hlaunch : ∀ s e request shared program, I s → m.launch s e request = some (shared, program) →
      I shared ∧ ∃ b, program.Confined I (asks b) (acts b))
    (hdisturb : ∀ s change, I s → I (m.disturb s change)) {s : State σ κ ε ρ} (h : AllConfined I asks acts s)
    (l : Label ι η) : AllConfined I asks acts (step m s l) := by
  have hset : ∀ shared e program, I shared →
      (∀ p, program = some p → ∃ b, p.Confined I (asks b) (acts b)) →
        AllConfined I asks acts (s.set shared e program) := by
    intro shared e program hI hprogram
    refine ⟨hI, fun e' p hp => ?_⟩
    simp only [State.set] at hp
    split at hp
    · exact hprogram p hp
    · exact h.programs e' p hp
  rcases step_cases m s l with heq | ⟨e, request, shared, p, rfl, hl, heq⟩ | ⟨e, query, next, rfl, hp, heq⟩ |
    ⟨e, effect, next, rfl, hp, heq⟩ | ⟨e, heq⟩ | ⟨change, rfl, heq⟩ <;> rw [heq]
  · exact h
  · obtain ⟨hI, hconfined⟩ := hlaunch s.shared e request shared p h.invariant hl
    exact hset shared e _ hI (fun p' hp' => Option.some.inj hp' ▸ hconfined)
  · obtain ⟨b, -, hnext⟩ := h.programs e _ hp
    exact hset s.shared e _ h.invariant (fun p' hp' => ⟨b, Option.some.inj hp' ▸ hnext s.shared h.invariant⟩)
  · obtain ⟨b, hacts, hnext⟩ := h.programs e _ hp
    exact hset _ e _ (hperform b s.shared effect h.invariant hacts) (fun p' hp' => ⟨b, Option.some.inj hp' ▸ hnext _⟩)
  · exact hset s.shared e none h.invariant (fun p' hp' => by cases hp')
  · exact ⟨hdisturb s.shared change h.invariant, h.programs⟩

end

/-! ## Programs that own a part of the state -/

/-- What the others leave of a part of the state, what holds of the state, and what its owner may do. -/
structure Discipline (σ : Type u) (ε : Type w) where
  rely      : σ → σ → Prop
  invariant : σ → Prop
  acts      : σ → ε → Prop

/-- Every act of the program is one its owner may do, if the others leave its part as it is between its steps. -/
def Program.Obeys (d : Discipline σ ε) (perform : σ → ε → σ × Bool) : Program σ κ ε ρ → σ → Prop
  | .halt _, _          => True
  | .observe _ next, s  => ∀ s', d.rely s s' → d.invariant s' → (next s').Obeys d perform s'
  | .act effect next, s => ∀ s', d.rely s s' → d.invariant s' →
    d.acts s' effect ∧ (next (perform s' effect).2).Obeys d perform (perform s' effect).1

/-- The execution has ended, or there is none. -/
def Over (program : Option (Program σ κ ε ρ)) : Prop := ∀ p, program = some p → ∃ result, p = .halt result

theorem Discipline.closed (d : Discipline σ ε) (perform : σ → ε → σ × Bool) :
    Closed (fun _ => True) (fun s _ s' => d.rely s s' ∧ d.invariant s')
      (Program.Obeys d perform : Program σ κ ε ρ → σ → Prop) where
  halt := fun _ _ => trivial
  observe := fun _ _ _ _ h s' hrely hinv => h s' ⟨hrely, hinv⟩

theorem Program.Obeys.rely {d : Discipline σ ε} {perform : σ → ε → σ × Bool}
    (htrans : ∀ {a b c}, d.rely a b → d.rely b c → d.rely a c) {program : Program σ κ ε ρ} {s s' : σ}
    (h : program.Obeys d perform s) (hrely : d.rely s s') : program.Obeys d perform s' := by
  cases program with
  | halt result => trivial
  | observe query next => exact fun s'' hrely' => h s'' (htrans hrely hrely')
  | act effect next => exact fun s'' hrely' => h s'' (htrans hrely hrely')

/-- Both at once. -/
def Discipline.and (d d' : Discipline σ ε) : Discipline σ ε where
  rely := fun s s' => d.rely s s' ∧ d'.rely s s'
  invariant := fun s => d.invariant s ∧ d'.invariant s
  acts := fun s effect => d.acts s effect ∧ d'.acts s effect

theorem Program.Obeys.and {d d' : Discipline σ ε} {perform : σ → ε → σ × Bool} :
    ∀ {program : Program σ κ ε ρ} {s : σ}, program.Obeys d perform s → program.Obeys d' perform s →
      program.Obeys (d.and d') perform s
  | .halt _, _, _, _ => trivial
  | .observe _ _, _, h, h' => fun s' hrely hinv => (h s' hrely.1 hinv.1).and (h' s' hrely.2 hinv.2)
  | .act _ _, _, h, h' => fun s' hrely hinv =>
    ⟨⟨(h s' hrely.1 hinv.1).1, (h' s' hrely.2 hinv.2).1⟩, (h s' hrely.1 hinv.1).2.and (h' s' hrely.2 hinv.2).2⟩

/-- Parts of the state, a discipline for each, and who owns it now. -/
structure Parts (σ : Type u) (ε : Type w) (α : Type v) where
  discipline : α → Discipline σ ε
  owner      : σ → α → Option Nat

section
variable {α : Type v} {parts : Parts σ ε α} {m : Machine σ κ ε ρ ι η}

/-- What the changes of the state leave of the parts, when others make only certain ones. -/
structure Parts.Kept (parts : Parts σ ε α) (changes : η → Prop) (I : σ → Prop)
    (m : Machine σ κ ε ρ ι η) : Prop where
  invariant : ∀ part s, (parts.discipline part).invariant s ↔ I s
  refl      : ∀ part s, (parts.discipline part).rely s s
  trans     : ∀ part {a b c}, (parts.discipline part).rely a b → (parts.discipline part).rely b c →
    (parts.discipline part).rely a c
  perform   : ∀ {s effect part}, I s → (parts.discipline part).acts s effect → I (m.perform s effect).1 ∧
    parts.owner (m.perform s effect).1 = parts.owner s ∧
    ∀ other, other ≠ part → (parts.discipline other).rely s (m.perform s effect).1
  launch    : ∀ {s e request s' program}, I s → m.launch s e request = some (s', program) → I s' ∧
    ∃ part, parts.owner s part = none ∧ parts.owner s' part = some e ∧
      (∀ other, other ≠ part → parts.owner s' other = parts.owner s other) ∧
      (∀ other, (parts.discipline other).rely s s') ∧ program.Obeys (parts.discipline part) m.perform s'
  disturb   : ∀ {s} change, changes change → I s → I (m.disturb s change) ∧
    (∀ part, (parts.discipline part).rely s (m.disturb s change)) ∧
    ∀ part, parts.owner (m.disturb s change) part = parts.owner s part ∨ parts.owner (m.disturb s change) part = none

/-- No part is taken from an execution that goes on. -/
def KeepsOwner (parts : Parts σ ε α) (m : Machine σ κ ε ρ ι η) (s : State σ κ ε ρ) (l : Label ι η) : Prop :=
  ∀ change part e, l = .disturb change → parts.owner s.shared part = some e →
    parts.owner (m.disturb s.shared change) part ≠ some e → Over (s.programs e)

/-- The invariant, and every execution over, or the owner of a part whose discipline it obeys. -/
structure Disciplined (parts : Parts σ ε α) (I : σ → Prop) (m : Machine σ κ ε ρ ι η)
    (s : State σ κ ε ρ) : Prop where
  invariant : I s.shared
  programs  : ∀ e program, s.programs e = some program → (∃ result, program = .halt result) ∨
    ∃ part, parts.owner s.shared part = some e ∧ program.Obeys (parts.discipline part) m.perform s.shared

variable {I : σ → Prop} {changes : η → Prop}

theorem Disciplined.initial {shared : σ} (h : I shared) :
    Disciplined parts I m (State.initial shared : State σ κ ε ρ) := ⟨h, fun _ _ hprogram => by cases hprogram⟩

/-- **A step that takes no part from an execution that goes on.** -/
theorem Disciplined.step (hm : parts.Kept changes I m) {s : State σ κ ε ρ} {l : Label ι η} (h : Disciplined parts I m s)
    (hchanges : ∀ change, l = .disturb change → changes change) (hkeeps : KeepsOwner parts m s l) :
    Disciplined parts I m (step m s l) := by
  rcases step_cases m s l with heq | ⟨e, request, shared, p, rfl, hlaunch, heq⟩ | ⟨e, query, next, rfl, hp, heq⟩ |
    ⟨e, effect, next, rfl, hp, heq⟩ | ⟨e, heq⟩ | ⟨change, rfl, heq⟩ <;> rw [heq]
  · exact h
  · obtain ⟨hI, part, hfree, hown, hothers, hrely, hobeys⟩ := hm.launch h.invariant hlaunch
    refine ⟨hI, fun e' program hprogram => ?_⟩
    simp only [State.set] at hprogram
    split at hprogram
    · rename_i he
      cases hprogram
      exact .inr ⟨part, by rw [he]; exact hown, hobeys⟩
    · rcases h.programs e' program hprogram with hover | ⟨other, hother, hobeys'⟩
      · exact .inl hover
      · have hne : other ≠ part := by
          rintro rfl
          rw [hfree] at hother
          cases hother
        refine .inr ⟨other, ?_, hobeys'.rely (hm.trans other) (hrely other)⟩
        exact (hothers other hne).trans hother
  · refine ⟨h.invariant, fun e' program hprogram => ?_⟩
    simp only [State.set] at hprogram
    split at hprogram
    · rename_i he
      cases hprogram
      rcases h.programs e _ hp with ⟨result, hhalt⟩ | ⟨part, hown, hobeys⟩
      · cases hhalt
      · refine .inr ⟨part, by rw [he]; exact hown, ?_⟩
        exact hobeys s.shared (hm.refl part _) ((hm.invariant part _).2 h.invariant)
    · exact h.programs e' program hprogram
  · rcases h.programs e _ hp with ⟨result, hhalt⟩ | ⟨part, hown, hobeys⟩
    · cases hhalt
    obtain ⟨hacts, hnext⟩ := hobeys s.shared (hm.refl part _) ((hm.invariant part _).2 h.invariant)
    obtain ⟨hI, howner, hothers⟩ := hm.perform h.invariant hacts
    refine ⟨hI, fun e' program hprogram => ?_⟩
    simp only [State.set] at hprogram
    split at hprogram
    · rename_i he
      cases hprogram
      refine .inr ⟨part, ?_, hnext⟩
      simp only [State.set]
      rw [howner, he]
      exact hown
    · rename_i hne
      rcases h.programs e' program hprogram with hover | ⟨other, hother, hobeys'⟩
      · exact .inl hover
      · -- one part has one owner
        have hdiff : other ≠ part := by
          rintro rfl
          rw [hown] at hother
          exact hne (Option.some.inj hother).symm
        refine .inr ⟨other, ?_, hobeys'.rely (hm.trans other) (hothers other hdiff)⟩
        simp only [State.set]
        rw [howner]
        exact hother
  · refine ⟨h.invariant, fun e' program hprogram => ?_⟩
    simp only [State.set] at hprogram
    split at hprogram
    · cases hprogram
    · exact h.programs e' program hprogram
  · obtain ⟨hI, hrely, howner⟩ := hm.disturb change (hchanges change rfl) h.invariant
    refine ⟨hI, fun e program hprogram => ?_⟩
    rcases h.programs e program hprogram with hover | ⟨part, hown, hobeys⟩
    · exact .inl hover
    · by_cases hstill : parts.owner (m.disturb s.shared change) part = some e
      · exact .inr ⟨part, hstill, hobeys.rely (hm.trans part) (hrely part)⟩
      · exact .inl (hkeeps change part e rfl hown hstill program hprogram)

/-- **A run that takes no part from an execution that goes on.** -/
theorem Disciplined.exec (hm : parts.Kept changes I m) : ∀ (ls : List (Label ι η)) {s : State σ κ ε ρ},
    Disciplined parts I m s → (∀ change, .disturb change ∈ ls → changes change) →
      Trace.Along (Programs.step m) (KeepsOwner parts m) s ls → Disciplined parts I m (Trace.exec (Programs.step m) s ls)
  | [], _, h, _, _ => h
  | l :: ls, s, h, hchanges, hrun => by
    have hstep := h.step hm (fun change hl => hchanges change (hl ▸ List.mem_cons_self)) hrun.1
    exact Disciplined.exec hm ls hstep (fun change hmem => hchanges change (List.mem_cons_of_mem _ hmem)) hrun.2

end

end Programs
end DataOps

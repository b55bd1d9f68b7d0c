import DataOps.MatchRuleSets
/-!
# MatchRuleSetVersions — what overlapping requests leave

In every run a scope has at most one active rule set (`exec_consistent`).  Its versions count up, the active one is the
last, and no request fails but with the conflict answer exactly when no request is overtaken: nothing is committed in its
scope between its count and its insert (`versioned_iff`).
-/
namespace DataOps
namespace RuleSets

open Trace (exec Along)

variable {n : Nat} {requests : Fin n → Request} {w : World n} {i : Fin n}

/-! ## The rows of a scope -/

@[simp] theorem rowsOf_setPhase (phase : Phase n) (scope : Scope) : (w.setPhase i phase).rowsOf scope = w.rowsOf scope :=
  rfl

@[simp] theorem activeRows_setPhase (phase : Phase n) (scope : Scope) :
    (w.setPhase i phase).activeRows scope = w.activeRows scope := rfl

theorem retire_scope (priorActive : Option (Fin n)) (row : MatchRuleSet n) :
    (retire priorActive row).scope = row.scope := by
  unfold retire
  split <;> rfl

theorem retire_version (priorActive : Option (Fin n)) (row : MatchRuleSet n) :
    (retire priorActive row).version = row.version := by
  unfold retire
  split <;> rfl

theorem retire_of_ne {priorActive : Option (Fin n)} {row : MatchRuleSet n} (h : priorActive ≠ some row.id) :
    retire priorActive row = row := if_neg h

/-- The world a commit leaves. -/
def World.committed (requests : Fin n → Request) (w : World n) (i : Fin n) (existingCount : Nat)
    (priorActive : Option (Fin n)) : World n where
  rows := w.rows.map (retire priorActive) ++ [newRow requests i existingCount]
  phase := Function.update w.phase i (.ended .created)

theorem rowsOf_committed (existingCount : Nat) (priorActive : Option (Fin n)) (scope : Scope) :
    (w.committed requests i existingCount priorActive).rowsOf scope =
      (w.rowsOf scope).map (retire priorActive) ++
        if scopeOf requests i = scope then [newRow requests i existingCount] else [] := by
  unfold World.committed World.rowsOf
  rw [List.filter_append, List.filter_map]
  simp only [Function.comp_def, retire_scope]
  have hnew : (newRow requests i existingCount).scope = scopeOf requests i := rfl
  congr 1
  by_cases h : scopeOf requests i = scope <;> simp [hnew, h]

/-! ## Every run -/

/-- What a request remembers of its scope. -/
def Remembers (requests : Fin n → Request) (w : World n) (i : Fin n) : Phase n → Prop
  | .counted existingCount              => existingCount ≤ (w.rowsOf (scopeOf requests i)).length
  | .resolved existingCount priorActive => existingCount ≤ (w.rowsOf (scopeOf requests i)).length ∧
    ∀ j, priorActive = some j → scopeOf requests j = scopeOf requests i
  | .retired existingCount priorActive  => existingCount ≤ (w.rowsOf (scopeOf requests i)).length ∧
    ∀ j, priorActive = some j → scopeOf requests j = scopeOf requests i
  | .flushed existingCount priorActive  => (existingCount ≤ (w.rowsOf (scopeOf requests i)).length ∧
    ∀ j, priorActive = some j → scopeOf requests j = scopeOf requests i) ∧
    w.otherActive requests i priorActive = []
  | _                                   => True

/-- What holds in every run: each row is in the scope of its request, one insert is pending in a scope, and one rule set
of it is active. -/
structure Consistent (requests : Fin n → Request) (w : World n) : Prop where
  scopes     : ∀ row ∈ w.rows, row.scope = scopeOf requests row.id
  remembers  : ∀ i, Remembers requests w i (w.phase i)
  onePending : ∀ i j, (w.phase i).isFlushed → (w.phase j).isFlushed → scopeOf requests i = scopeOf requests j → i = j
  oneActive  : ∀ scope, (w.activeRows scope).length ≤ 1
  passed     : ∀ i, (requests i).Found ∨ w.phase i = .received ∨ ∃ answer, w.phase i = .ended answer

theorem mem_rowsOf {row : MatchRuleSet n} {scope : Scope} : row ∈ w.rowsOf scope ↔ row ∈ w.rows ∧ row.scope = scope := by
  unfold World.rowsOf
  rw [List.mem_filter, decide_eq_true_eq]

theorem phase_setPhase_self (w : World n) (i : Fin n) (phase : Phase n) : (w.setPhase i phase).phase i = phase :=
  Function.update_self _ _ _

theorem phase_setPhase_of_ne (w : World n) (phase : Phase n) {i j : Fin n} (h : j ≠ i) :
    (w.setPhase i phase).phase j = w.phase j := Function.update_of_ne h _ _

theorem consistent_setPhase {phase : Phase n} (h : Consistent requests w) (hphase : Remembers requests w i phase)
    (hpending : phase.isFlushed → ∀ j, j ≠ i → (w.phase j).isFlushed → scopeOf requests j ≠ scopeOf requests i)
    (hpassed : (requests i).Found ∨ ∃ answer, phase = .ended answer) : Consistent requests (w.setPhase i phase) := by
  have hself := phase_setPhase_self w i phase
  have hother : ∀ j, j ≠ i → (w.setPhase i phase).phase j = w.phase j := fun j => phase_setPhase_of_ne w phase
  refine ⟨h.scopes, fun j => ?_, fun j k hj hk hscope => ?_, h.oneActive, fun j => ?_⟩
  · by_cases hji : j = i
    · rw [hji, hself]
      exact hphase
    · rw [hother j hji]
      exact h.remembers j
  · by_cases hji : j = i
    · by_cases hki : k = i
      · rw [hji, hki]
      · rw [hji, hself] at hj
        rw [hother k hki] at hk
        rw [hji] at hscope
        exact absurd hscope.symm (hpending hj k hki hk)
    · rw [hother j hji] at hj
      by_cases hki : k = i
      · rw [hki, hself] at hk
        rw [hki] at hscope
        exact absurd hscope (hpending hk j hji hj)
      · rw [hother k hki] at hk
        exact h.onePending j k hj hk hscope
  · by_cases hji : j = i
    · rw [hji, hself]
      exact hpassed.imp_right .inr
    · rw [hother j hji]
      exact h.passed j

/-- Rows of another scope are not touched by a commit. -/
theorem map_retire_of_ne {priorActive : Option (Fin n)} {scope : Scope} (h : Consistent requests w)
    (hprior : ∀ j, priorActive = some j → scopeOf requests j ≠ scope) :
    (w.rowsOf scope).map (retire priorActive) = w.rowsOf scope := by
  refine (List.map_congr_left (fun row hrow => ?_)).trans (List.map_id _)
  obtain ⟨hmem, hscope⟩ := mem_rowsOf.1 hrow
  exact retire_of_ne (fun heq => hprior row.id heq ((h.scopes row hmem).symm.trans hscope))

/-- **A commit leaves its own rule set the only active one of the scope.** -/
theorem activeRows_committed {existingCount : Nat} {priorActive : Option (Fin n)}
    (hother : w.otherActive requests i priorActive = []) :
    (w.committed requests i existingCount priorActive).activeRows (scopeOf requests i) =
      [newRow requests i existingCount] := by
  unfold World.activeRows
  rw [rowsOf_committed, if_pos rfl, List.filter_append]
  have hnone : ((w.rowsOf (scopeOf requests i)).map (retire priorActive)).filter (fun row => row.isActive) = [] := by
    refine List.filter_eq_nil_iff.2 (fun row hrow => ?_)
    obtain ⟨row', hrow', rfl⟩ := List.mem_map.1 hrow
    unfold retire
    by_cases hprior : priorActive = some row'.id
    · rw [if_pos hprior]
      exact Bool.false_ne_true
    · rw [if_neg hprior]
      intro hactive
      have hmem : row' ∈ w.otherActive requests i priorActive :=
        List.mem_filter.2 ⟨List.mem_filter.2 ⟨hrow', hactive⟩, decide_eq_true hprior⟩
      rw [hother] at hmem
      cases hmem
  rw [hnone]
  rfl

theorem phase_committed_self (w : World n) (i : Fin n) (existingCount : Nat) (priorActive : Option (Fin n)) :
    (w.committed requests i existingCount priorActive).phase i = .ended .created := Function.update_self _ _ _

theorem phase_committed_of_ne (w : World n) (existingCount : Nat) (priorActive : Option (Fin n)) {i j : Fin n}
    (h : j ≠ i) : (w.committed requests i existingCount priorActive).phase j = w.phase j := Function.update_of_ne h _ _

/-- A commit leaves the rule sets of the other scopes. -/
theorem rowsOf_committed_of_ne {existingCount : Nat} {priorActive : Option (Fin n)} {scope : Scope}
    (h : Consistent requests w) (hphase : w.phase i = .flushed existingCount priorActive)
    (hscope : scope ≠ scopeOf requests i) :
    (w.committed requests i existingCount priorActive).rowsOf scope = w.rowsOf scope := by
  have hremembers := h.remembers i
  rw [hphase] at hremembers
  rw [rowsOf_committed, if_neg (Ne.symm hscope), List.append_nil,
    map_retire_of_ne h (fun j hj heq => hscope (heq.symm.trans (hremembers.1.2 j hj)))]

theorem consistent_committed {existingCount : Nat} {priorActive : Option (Fin n)} (h : Consistent requests w)
    (hphase : w.phase i = .flushed existingCount priorActive) :
    Consistent requests (w.committed requests i existingCount priorActive) := by
  have hremembers := h.remembers i
  rw [hphase] at hremembers
  obtain ⟨⟨-, hprior⟩, hother⟩ := hremembers
  have hself : (w.committed requests i existingCount priorActive).phase i = _ :=
    phase_committed_self w i existingCount priorActive
  have hne : ∀ j, j ≠ i → (w.committed requests i existingCount priorActive).phase j = w.phase j :=
    fun j => phase_committed_of_ne w existingCount priorActive
  have hrows : ∀ scope, scope ≠ scopeOf requests i →
      (w.committed requests i existingCount priorActive).rowsOf scope = w.rowsOf scope :=
    fun scope => rowsOf_committed_of_ne h hphase
  have hlength : ∀ scope, (w.rowsOf scope).length ≤
      ((w.committed requests i existingCount priorActive).rowsOf scope).length := by
    intro scope
    rw [rowsOf_committed, List.length_append, List.length_map]
    exact Nat.le_add_right _ _
  refine ⟨fun row hrow => ?_, fun j => ?_, fun j k hj hk hscope => ?_, fun scope => ?_, fun j => ?_⟩
  · rcases List.mem_append.1 hrow with hrow | hrow
    · obtain ⟨row', hrow', rfl⟩ := List.mem_map.1 hrow
      rw [retire_scope, h.scopes row' hrow']
      unfold retire
      split <;> rfl
    · rw [List.mem_singleton.1 hrow]
      rfl
  · by_cases hji : j = i
    · rw [hji, hself]
      trivial
    · rw [hne j hji]
      have hold := h.remembers j
      cases hj : w.phase j with
      | received => trivial
      | validated => trivial
      | ended answer => trivial
      | counted count =>
        rw [hj] at hold
        exact Nat.le_trans hold (hlength _)
      | resolved count prior =>
        rw [hj] at hold
        exact ⟨Nat.le_trans hold.1 (hlength _), hold.2⟩
      | retired count prior =>
        rw [hj] at hold
        exact ⟨Nat.le_trans hold.1 (hlength _), hold.2⟩
      | flushed count prior =>
        rw [hj] at hold
        have hscope : scopeOf requests j ≠ scopeOf requests i := fun heq =>
          hji (h.onePending j i (by rw [hj]; rfl) (by rw [hphase]; rfl) heq)
        refine ⟨⟨Nat.le_trans hold.1.1 (hlength _), hold.1.2⟩, ?_⟩
        unfold World.otherActive World.activeRows
        rw [hrows _ hscope]
        exact hold.2
  · by_cases hji : j = i
    · rw [hji, hself] at hj
      cases hj
    · by_cases hki : k = i
      · rw [hki, hself] at hk
        cases hk
      · rw [hne j hji] at hj
        rw [hne k hki] at hk
        exact h.onePending j k hj hk hscope
  · by_cases hscope : scope = scopeOf requests i
    · rw [hscope, activeRows_committed hother]
      exact Nat.le_refl _
    · unfold World.activeRows
      rw [hrows scope hscope]
      exact h.oneActive scope
  · by_cases hji : j = i
    · rw [hji, hself]
      exact .inr (.inr ⟨_, rfl⟩)
    · rw [hne j hji]
      exact h.passed j

theorem initial_consistent (requests : Fin n → Request) : Consistent requests (World.initial n) where
  scopes := fun _ hrow => absurd hrow List.not_mem_nil
  remembers := fun _ => trivial
  onePending := fun _ _ hi _ _ => absurd hi Bool.false_ne_true
  oneActive := fun _ => Nat.zero_le _
  passed := fun _ => .inr (.inl rfl)

/-- **A step keeps what holds in every run.** -/
theorem step_consistent (w : World n) (l : Fin n × Action) (h : Consistent requests w) :
    Consistent requests (step requests w l) := by
  obtain ⟨i, action⟩ := l
  have hremembers := h.remembers i
  have hnot : ∀ {phase : Phase n}, phase.isFlushed = false → phase.isFlushed →
      ∀ j, j ≠ i → (w.phase j).isFlushed → scopeOf requests j ≠ scopeOf requests i :=
    fun hfalse htrue => absurd (hfalse.symm.trans htrue) Bool.false_ne_true
  have hpassed : ∀ {phase : Phase n}, phase ≠ .received → (∀ answer, phase ≠ .ended answer) → w.phase i = phase →
      (requests i).Found := by
    intro phase hreceived hended hphase
    rcases h.passed i with hfound | hphase' | ⟨answer, hphase'⟩
    · exact hfound
    · exact absurd (hphase.symm.trans hphase') hreceived
    · exact absurd (hphase.symm.trans hphase') (hended answer)
  unfold step
  dsimp only
  split
  · by_cases hfound : (requests i).Found
    · rw [if_pos hfound]
      exact consistent_setPhase h trivial (hnot rfl) (.inl hfound)
    · rw [if_neg hfound]
      exact consistent_setPhase h trivial (hnot rfl) (.inr ⟨_, rfl⟩)
  · rename_i hphase
    exact consistent_setPhase h (Nat.le_refl _) (hnot rfl) (.inl (hpassed (by simp) (by simp) hphase))
  · rename_i existingCount hphase
    rw [hphase] at hremembers
    have hfound := hpassed (by simp) (by simp) hphase
    unfold World.readActive
    split
    · exact consistent_setPhase h ⟨hremembers, fun j hj => by cases hj⟩ (hnot rfl) (.inl hfound)
    · rename_i row hrow
      refine consistent_setPhase h ⟨hremembers, fun j hj => ?_⟩ (hnot rfl) (.inl hfound)
      have hmem : row ∈ w.activeRows (scopeOf requests i) := by rw [hrow]; exact List.mem_singleton_self _
      obtain ⟨hrows, hscope⟩ := mem_rowsOf.1 (List.mem_filter.1 hmem).1
      rw [← Option.some.inj hj, ← h.scopes row hrows, hscope]
    · exact consistent_setPhase h trivial (hnot rfl) (.inl hfound)
  · rename_i existingCount priorActive hphase
    rw [hphase] at hremembers
    split
    · exact h
    · exact consistent_setPhase h hremembers (hnot rfl) (.inl (hpassed (by simp) (by simp) hphase))
  · rename_i existingCount priorActive hphase
    rw [hphase] at hremembers
    split
    · exact h
    · rename_i hwaits
      split
      · rename_i hother
        refine consistent_setPhase h ⟨hremembers, hother⟩ (fun _ j hji hj hscope => ?_)
          (.inl (hpassed (by simp) (by simp) hphase))
        exact hwaits ⟨j, hji, .inl ⟨hj, hscope⟩⟩
      · exact consistent_setPhase h trivial (hnot rfl) (.inr ⟨_, rfl⟩)
  · rename_i existingCount priorActive hphase
    exact consistent_committed h hphase
  · exact h

/-- **In every run every scope has at most one active rule set.** -/
theorem exec_consistent (requests : Fin n → Request) (ls : List (Fin n × Action)) :
    Consistent requests (exec (step requests) (World.initial n) ls) :=
  Trace.exec_invariant _ step_consistent ls _ (initial_consistent requests)

/-! ## Runs in which no request is overtaken -/

/-- What holds as long as no request is overtaken. -/
structure Sequential (requests : Fin n → Request) (w : World n) : Prop where
  consistent : Consistent requests w
  versions   : ∀ scope, (w.rowsOf scope).map (fun row => row.version) = List.range' 1 (w.rowsOf scope).length
  newest     : ∀ scope, ∀ row ∈ w.activeRows scope, row.version = (w.rowsOf scope).length
  answers    : ∀ i answer, (requests i).Found → w.phase i = .ended answer → answer = .created

theorem initial_sequential (requests : Fin n → Request) : Sequential requests (World.initial n) where
  consistent := initial_consistent requests
  versions := fun _ => rfl
  newest := fun _ _ hrow => absurd hrow List.not_mem_nil
  answers := fun _ _ _ h => by cases h

theorem Sequential.versioned (h : Sequential requests w) (scope : Scope) : Versioned requests w scope where
  oneActive := h.consistent.oneActive scope
  increasing := by
    rw [h.versions scope]
    exact List.pairwise_lt_range'
  greatest := by
    intro active hactive row hrow
    rw [h.newest scope active hactive]
    have hmem := List.mem_map_of_mem (f := fun row : MatchRuleSet n => row.version) hrow
    rw [h.versions scope, List.mem_range'_1] at hmem
    omega
  answers := fun i answer _ hfound hanswer => .inl (h.answers i answer hfound hanswer)

/-- A step that commits nothing and ends no request wrongly. -/
theorem sequential_setPhase {phase : Phase n} (h : Sequential requests w)
    (hconsistent : Consistent requests (w.setPhase i phase))
    (hanswer : (requests i).Found → ∀ answer, phase = .ended answer → answer = .created) :
    Sequential requests (w.setPhase i phase) := by
  refine ⟨hconsistent, h.versions, h.newest, fun j answer hfound hj => ?_⟩
  by_cases hji : j = i
  · rw [hji, phase_setPhase_self] at hj
    rw [hji] at hfound
    exact hanswer hfound answer hj
  · rw [phase_setPhase_of_ne w phase hji] at hj
    exact h.answers j answer hfound hj

/-- **A commit on top of all the rule sets that were counted adds the next version.** -/
theorem sequential_committed {existingCount : Nat} {priorActive : Option (Fin n)} (h : Sequential requests w)
    (hphase : w.phase i = .flushed existingCount priorActive)
    (hcount : (w.rowsOf (scopeOf requests i)).length = existingCount) :
    Sequential requests (w.committed requests i existingCount priorActive) := by
  have hremembers := h.consistent.remembers i
  rw [hphase] at hremembers
  have hother := hremembers.2
  have hrows : ∀ scope, scope ≠ scopeOf requests i →
      (w.committed requests i existingCount priorActive).rowsOf scope = w.rowsOf scope :=
    fun scope => rowsOf_committed_of_ne h.consistent hphase
  refine ⟨consistent_committed h.consistent hphase, fun scope => ?_, fun scope row hrow => ?_,
    fun j answer hfound hj => ?_⟩
  · by_cases hscope : scope = scopeOf requests i
    · subst hscope
      rw [rowsOf_committed, if_pos rfl, List.map_append, List.map_map, List.length_append, List.length_map,
        List.length_singleton, List.range'_concat]
      simp only [Function.comp_def, retire_version, h.versions, List.map_cons, List.map_nil]
      rw [hcount]
      change _ ++ [existingCount + 1] = _
      rw [Nat.one_mul, Nat.add_comm]
    · rw [hrows scope hscope]
      exact h.versions scope
  · by_cases hscope : scope = scopeOf requests i
    · subst hscope
      rw [activeRows_committed hother] at hrow
      rw [List.mem_singleton.1 hrow, rowsOf_committed, if_pos rfl, List.length_append, List.length_map, hcount]
      rfl
    · unfold World.activeRows at hrow
      rw [hrows scope hscope] at hrow ⊢
      exact h.newest scope row hrow
  · by_cases hji : j = i
    · rw [hji, phase_committed_self] at hj
      cases hj
      rfl
    · rw [phase_committed_of_ne w _ _ hji] at hj
      exact h.answers j answer hfound hj

/-- **A step in which no request turns out overtaken keeps the versions in order.** -/
theorem step_sequential (w : World n) (l : Fin n × Action) (h : Sequential requests w)
    (hundisturbed : Undisturbed requests w l) : Sequential requests (step requests w l) := by
  have hconsistent := step_consistent w l h.consistent
  obtain ⟨i, action⟩ := l
  obtain ⟨hinsert, hcommit⟩ := hundisturbed
  unfold step at hconsistent ⊢
  dsimp only at hconsistent hinsert hcommit ⊢
  split at hconsistent
  · refine sequential_setPhase h hconsistent (fun hfound answer hanswer => ?_)
    rw [if_pos hfound] at hanswer
    cases hanswer
  · exact sequential_setPhase h hconsistent (fun _ _ hanswer => by cases hanswer)
  · rename_i existingCount hphase
    refine sequential_setPhase h hconsistent (fun _ answer hanswer => ?_)
    have hone := h.consistent.oneActive (scopeOf requests i)
    unfold World.readActive at hanswer
    split at hanswer
    · cases hanswer
    · cases hanswer
    · rename_i hnil hsingle
      cases hrows : w.activeRows (scopeOf requests i) with
      | nil => exact absurd hrows hnil
      | cons row rows =>
        rw [hrows, List.length_cons] at hone
        obtain rfl := List.eq_nil_of_length_eq_zero (Nat.le_zero.1 (Nat.le_of_succ_le_succ hone))
        exact absurd hrows (hsingle row)
  · rename_i existingCount priorActive hphase
    by_cases hlocked : w.rowLocked i priorActive
    · rw [if_pos hlocked]
      exact h
    · rw [if_neg hlocked] at hconsistent ⊢
      exact sequential_setPhase h hconsistent (fun _ _ hanswer => by cases hanswer)
  · rename_i existingCount priorActive hphase
    by_cases hwaits : w.insertWaits requests i priorActive
    · rw [if_pos hwaits]
      exact h
    · rw [if_neg hwaits, if_pos (hinsert existingCount priorActive rfl hphase hwaits)] at hconsistent ⊢
      exact sequential_setPhase h hconsistent (fun _ _ hanswer => by cases hanswer)
  · rename_i existingCount priorActive hphase
    exact sequential_committed h hphase (hcommit existingCount priorActive rfl hphase)
  · exact h

/-- A version that was given already, in front of the one just committed. -/
theorem not_increasing {existingCount : Nat} {priorActive : Option (Fin n)} (h : Sequential requests w)
    (hlt : existingCount < (w.rowsOf (scopeOf requests i)).length) :
    ¬ (((w.committed requests i existingCount priorActive).rowsOf (scopeOf requests i)).map
      (fun row => row.version)).Pairwise (· < ·) := by
  rw [rowsOf_committed, if_pos rfl, List.map_append, List.map_map]
  simp only [Function.comp_def, retire_version, h.versions, List.map_cons, List.map_nil]
  intro hpairwise
  have hmem : existingCount + 1 ∈ List.range' 1 (w.rowsOf (scopeOf requests i)).length :=
    List.mem_range'_1.2 ⟨Nat.le_add_left _ _, by omega⟩
  exact Nat.lt_irrefl _ ((List.pairwise_append.1 hpairwise).2.2 _ hmem _ (List.mem_singleton_self _))

/-- **An overtaken request breaks the order, or fails with an exception nothing catches.** -/
theorem undisturbed_of_versioned (w : World n) (l : Fin n × Action) (h : Sequential requests w)
    (hversioned : ∀ scope, Versioned requests (step requests w l) scope) : Undisturbed requests w l := by
  obtain ⟨i, action⟩ := l
  constructor
  · intro existingCount priorActive haction hphase hwaits
    dsimp only at haction hphase hwaits ⊢
    subst haction
    by_contra hother
    have hstep : step requests w (i, .insert) = w.setPhase i (.ended .integrityError) := by
      unfold step
      simp only [hphase]
      rw [if_neg hwaits, if_neg hother]
    have hfound : (requests i).Found := by
      rcases h.consistent.passed i with hfound | hphase' | ⟨answer, hphase'⟩
      · exact hfound
      · rw [hphase] at hphase'
        cases hphase'
      · rw [hphase] at hphase'
        cases hphase'
    have hanswer := (hversioned (scopeOf requests i)).answers i .integrityError rfl hfound
      (by rw [hstep]; exact Function.update_self _ _ _)
    rcases hanswer with hanswer | hanswer <;> cases hanswer
  · intro existingCount priorActive haction hphase
    dsimp only at haction hphase ⊢
    subst haction
    have hstep : step requests w (i, .commit) = w.committed requests i existingCount priorActive := by
      unfold step
      simp only [hphase]
      rfl
    have hremembers := h.consistent.remembers i
    rw [hphase] at hremembers
    have hincreasing := (hversioned (scopeOf requests i)).increasing
    rw [hstep] at hincreasing
    by_contra hne
    exact not_increasing h (Nat.lt_of_le_of_ne hremembers.1.1 (Ne.symm hne)) hincreasing

/-- **Along every run every scope is versioned exactly when no request is overtaken between its count and its insert.** -/
theorem versioned_iff (requests : Fin n → Request) (ls : List (Fin n × Action)) :
    Along (step requests) (fun w l => ∀ scope, Versioned requests (step requests w l) scope) (World.initial n) ls ↔
      Along (step requests) (Undisturbed requests) (World.initial n) ls := by
  refine Trace.along_congr _ step_sequential (fun w l h => ?_) ls _ (initial_sequential requests)
  exact ⟨undisturbed_of_versioned w l h, fun hundisturbed => (step_sequential w l h hundisturbed).versioned⟩

/-! ## Two requests for one scope -/

def emailRules : Matching.MatchRuleSetConfig where
  duplicateThreshold := 1
  reviewThreshold := 0
  fields := [⟨"email".toList, .exact, 1, by decide⟩]
  reviewThreshold_nonneg := by decide
  reviewThreshold_lt := by decide
  duplicateThreshold_le := by decide

/-- Two requests of one user for a rule set of the whole organization. -/
def twoRequests : Fin 2 → Request := fun _ => ⟨⟨none, emailRules⟩, ⟨1, 1, "", none, false⟩, false⟩

/-- All of the second request, in between the statements of the first. -/
def overtaking (before after : List Action) : List (Fin 2 × Action) :=
  before.map (fun action => (0, action)) ++
    [Action.validate, .count, .readActive, .retire, .insert, .commit].map (fun action => (1, action)) ++
    after.map (fun action => (0, action))

/-- **Overtaken between its count and its read, a request commits a version that exists; overtaken after its read, it
fails with an exception that is not caught.** -/
theorem overtaken_requests :
    ((exec (step twoRequests) (World.initial 2)
        (overtaking [.validate, .count] [.readActive, .retire, .insert, .commit])).rowsOf (1, none)).map
      (fun row => row.version) = [1, 1] ∧
    (exec (step twoRequests) (World.initial 2)
        (overtaking [.validate, .count, .readActive] [.retire, .insert])).phase 0 = .ended .integrityError ∧
    ¬ Versioned twoRequests (exec (step twoRequests) (World.initial 2)
        (overtaking [.validate, .count] [.readActive, .retire, .insert, .commit])) (1, none) ∧
    ¬ Versioned twoRequests (exec (step twoRequests) (World.initial 2)
        (overtaking [.validate, .count, .readActive] [.retire, .insert])) (1, none) := by
  have hversions : ((exec (step twoRequests) (World.initial 2)
      (overtaking [.validate, .count] [.readActive, .retire, .insert, .commit])).rowsOf (1, none)).map
        (fun row => row.version) = [1, 1] := by decide
  have hphase : (exec (step twoRequests) (World.initial 2)
      (overtaking [.validate, .count, .readActive] [.retire, .insert])).phase 0 = .ended .integrityError := by decide
  refine ⟨hversions, hphase, fun h => ?_, fun h => ?_⟩
  · have hincreasing := h.increasing
    rw [hversions] at hincreasing
    revert hincreasing
    decide
  · rcases h.answers 0 .integrityError rfl (.inl rfl) hphase with hanswer | hanswer <;> cases hanswer

end RuleSets
end DataOps

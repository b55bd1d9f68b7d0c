import DataOps.LibDict
/-!
# LibRegistry — rows known by their names

The active rows of an owner go by their names.  A table is `Unambiguous` when no two do so by one name: a row may be
written exactly when no other holds the name it would go by (`Unambiguous.set_iff`), which is what a query for the
holders tells.
-/
namespace DataOps
namespace Registry

universe u v w x
variable {ι : Type u} {ρ : Type v} {ω : Type w} {κ : Type x} [DecidableEq ι] [DecidableEq ω] [DecidableEq κ]

/-- Whose a row is, the name it goes by, and whether it does. -/
structure Naming (ρ : Type v) (ω : Type w) (κ : Type x) where
  owner  : ρ → ω
  name   : ρ → κ
  active : ρ → Bool

variable (naming : Naming ρ ω κ)

/-- The active rows of an owner under a name, other than one. -/
def holders (rows : Dict ι ρ) (owner : ω) (name : κ) (exclude : Option ι) : List (ι × ρ) :=
  rows.filter (fun e => naming.owner e.2 = owner ∧ naming.name e.2 = name ∧ naming.active e.2 = true ∧ some e.1 ≠ exclude)

/-- A name is held once. -/
structure Unambiguous (rows : Dict ι ρ) : Prop where
  keys : rows.keys.Nodup
  one  : ∀ e ∈ rows, ∀ e' ∈ rows, naming.active e.2 = true → naming.active e'.2 = true →
    naming.owner e.2 = naming.owner e'.2 → naming.name e.2 = naming.name e'.2 → e.1 = e'.1

section
variable {naming} {rows : Dict ι ρ}

theorem mem_holders {owner : ω} {name : κ} {exclude : Option ι} {e : ι × ρ} :
    e ∈ holders naming rows owner name exclude ↔ e ∈ rows ∧ naming.owner e.2 = owner ∧ naming.name e.2 = name ∧
      naming.active e.2 = true ∧ some e.1 ≠ exclude := by
  rw [holders, List.mem_filter, decide_eq_true_iff]

theorem holders_eq_nil_iff {owner : ω} {name : κ} {exclude : Option ι} :
    holders naming rows owner name exclude = [] ↔ ∀ e ∈ rows, naming.owner e.2 = owner → naming.name e.2 = name →
      naming.active e.2 = true → some e.1 = exclude := by
  rw [List.eq_nil_iff_forall_not_mem]
  refine forall_congr' (fun e => ?_)
  rw [mem_holders]
  constructor
  · exact fun h he howner hname hactive => Classical.byContradiction (fun hne => h ⟨he, howner, hname, hactive, hne⟩)
  · exact fun h hmem => hmem.2.2.2.2 (h hmem.1 hmem.2.1 hmem.2.2.1 hmem.2.2.2.1)

theorem mem_set (hkeys : rows.keys.Nodup) {i : ι} {r : ρ} {e : ι × ρ} :
    e ∈ rows.set i r ↔ e = (i, r) ∨ e ∈ rows ∧ e.1 ≠ i := by
  obtain ⟨j, s⟩ := e
  rw [← Dict.get?_eq_some_iff (Dict.nodup_keys_set hkeys i r), Dict.get?_set, ← Dict.get?_eq_some_iff hkeys]
  by_cases heq : i = j
  · subst heq
    simp [eq_comm]
  · have hne : j ≠ i := fun h => heq h.symm
    simp [heq, hne]

omit [DecidableEq ι] [DecidableEq ω] [DecidableEq κ] in
/-- **What tells rows of one name from the others tells one.** -/
theorem Unambiguous.filter_eq_singleton (h : Unambiguous naming rows) {p : ι × ρ → Bool}
    (hp : ∀ e ∈ rows, ∀ e' ∈ rows, p e = true → p e' = true → naming.active e.2 = true ∧
      naming.active e'.2 = true ∧
      naming.owner e.2 = naming.owner e'.2 ∧ naming.name e.2 = naming.name e'.2) {e : ι × ρ} (he : e ∈ rows)
    (hpe : p e = true) : rows.filter p = [e] := by
  have hnodup : (rows.filter p).Nodup := h.keys.of_map.filter _
  refine List.perm_singleton.1 ((List.perm_ext_iff_of_nodup hnodup (List.nodup_singleton e)).2 (fun e' => ?_))
  rw [List.mem_filter, List.mem_singleton]
  constructor
  · rintro ⟨he', hpe'⟩
    obtain ⟨hactive, hactive', howner, hname⟩ := hp e' he' e he hpe' hpe
    exact List.inj_on_of_nodup_map h.keys he' he (h.one e' he' e he hactive hactive' howner hname)
  · rintro rfl
    exact ⟨he, hpe⟩

/-- **A query for the holders of a name finds one at most.** -/
theorem Unambiguous.holders_le_one (h : Unambiguous naming rows) (owner : ω) (name : κ) (exclude : Option ι) :
    holders naming rows owner name exclude = [] ∨ ∃ e, holders naming rows owner name exclude = [e] := by
  cases hfound : holders naming rows owner name exclude with
  | nil => exact .inl rfl
  | cons e others =>
    have hmem : e ∈ holders naming rows owner name exclude := by
      rw [hfound]
      exact List.mem_cons_self
    rw [← hfound]
    refine .inr ⟨e, h.filter_eq_singleton (fun e₁ he₁ e₂ he₂ hheld₁ hheld₂ => ?_) (mem_holders.1 hmem).1
      (List.mem_filter.1 hmem).2⟩
    obtain ⟨-, howner₁, hname₁, hactive₁, -⟩ := mem_holders.1 (List.mem_filter.2 ⟨he₁, hheld₁⟩)
    obtain ⟨-, howner₂, hname₂, hactive₂, -⟩ := mem_holders.1 (List.mem_filter.2 ⟨he₂, hheld₂⟩)
    exact ⟨hactive₁, hactive₂, howner₁.trans howner₂.symm, hname₁.trans hname₂.symm⟩

omit [DecidableEq ι] [DecidableEq ω] [DecidableEq κ] in
theorem unambiguous_nil : Unambiguous naming ([] : Dict ι ρ) :=
  ⟨List.nodup_nil, fun _ he => absurd he List.not_mem_nil⟩

/-- **When a row may be written**: no other row holds its name, if it goes by one. -/
theorem Unambiguous.set_iff (h : Unambiguous naming rows) (i : ι) (r : ρ) : Unambiguous naming (rows.set i r) ↔
    (naming.active r = true → holders naming rows (naming.owner r) (naming.name r) (some i) = []) := by
  constructor
  · intro hset hactive
    refine holders_eq_nil_iff.2 (fun e he howner hname hactive' => ?_)
    by_contra hne
    have hother : e ∈ rows.set i r := (mem_set h.keys).2 (.inr ⟨he, fun heq => hne (congrArg some heq)⟩)
    have hself : (i, r) ∈ rows.set i r := (mem_set h.keys).2 (.inl rfl)
    exact hne (congrArg some (hset.one e hother (i, r) hself hactive' hactive howner hname))
  · intro hfree
    refine ⟨Dict.nodup_keys_set h.keys i r, fun e he e' he' hactive hactive' howner hname => ?_⟩
    rcases (mem_set h.keys).1 he with rfl | ⟨he, hne⟩ <;> rcases (mem_set h.keys).1 he' with rfl | ⟨he', hne'⟩
    · rfl
    · exact (Option.some.inj (holders_eq_nil_iff.1 (hfree hactive) e' he' howner.symm hname.symm hactive')).symm
    · exact Option.some.inj (holders_eq_nil_iff.1 (hfree hactive') e he howner hname hactive)
    · exact h.one e he e' he' hactive hactive' howner hname

/-- A row that keeps its name is in no other's way. -/
theorem Unambiguous.others (h : Unambiguous naming rows) {i : ι} {r : ρ} (hr : rows.get? i = some r)
    (hactive : naming.active r = true) : holders naming rows (naming.owner r) (naming.name r) (some i) = [] := by
  have hmem := Dict.mem_of_get?_eq_some hr
  exact holders_eq_nil_iff.2 (fun e he howner hname hactive' =>
    congrArg some (h.one e he (i, r) hmem hactive' hactive howner hname))

/-- **A name stays free when the row written does not go by it**, or is the one that may. -/
theorem holders_set_eq_nil (hkeys : rows.keys.Nodup) {owner : ω} {name : κ} {exclude : Option ι}
    (hfree : holders naming rows owner name exclude = []) {i : ι} {r : ρ}
    (hr : naming.active r = true → naming.owner r = owner → naming.name r = name → some i = exclude) :
    holders naming (rows.set i r) owner name exclude = [] := by
  refine holders_eq_nil_iff.2 (fun e he howner hname hactive => ?_)
  rcases (mem_set hkeys).1 he with rfl | ⟨he, -⟩
  · exact hr hactive howner hname
  · exact holders_eq_nil_iff.1 hfree e he howner hname hactive

/-- A row that goes by the name another went by, or by none. -/
structure Naming.Keeps (naming : Naming ρ ω κ) (old new : ρ) : Prop where
  owner  : naming.owner new = naming.owner old
  name   : naming.name new = naming.name old
  active : naming.active new = true → naming.active old = true

/-- **A row may always keep its name.** -/
theorem Unambiguous.keep (h : Unambiguous naming rows) {i : ι} {old new : ρ} (hold : rows.get? i = some old)
    (hkeeps : naming.Keeps old new) : Unambiguous naming (rows.set i new) := by
  refine (h.set_iff i new).2 (fun hactive => ?_)
  rw [hkeeps.owner, hkeeps.name]
  exact h.others hold (hkeeps.active hactive)

theorem holders_keep (hkeys : rows.keys.Nodup) {owner : ω} {name : κ} {exclude : Option ι}
    (hfree : holders naming rows owner name exclude = []) {i : ι} {old new : ρ} (hold : rows.get? i = some old)
    (hkeeps : naming.Keeps old new) : holders naming (rows.set i new) owner name exclude = [] := by
  refine holders_set_eq_nil hkeys hfree (fun hactive howner hname => ?_)
  exact holders_eq_nil_iff.1 hfree (i, old) (Dict.mem_of_get?_eq_some hold) (hkeeps.owner.symm.trans howner)
    (hkeeps.name.symm.trans hname) (hkeeps.active hactive)

omit [DecidableEq ι] [DecidableEq ω] [DecidableEq κ] in
/-- **In whatever order the rows come.** -/
theorem Unambiguous.filter_of_perm (h : Unambiguous naming rows) {l : List ρ} (hl : l.Perm rows.values) {p : ρ → Bool}
    (hp : ∀ r ∈ rows.values, ∀ r' ∈ rows.values, p r = true → p r' = true → naming.active r = true ∧
      naming.active r' = true ∧ naming.owner r = naming.owner r' ∧ naming.name r = naming.name r') {r : ρ} (hr : r ∈ l)
    (hpr : p r = true) : l.filter p = [r] := by
  obtain ⟨e, he, rfl⟩ := List.mem_map.1 (hl.mem_iff.1 hr)
  have hone : rows.filter (fun e => p e.2) = [e] :=
    h.filter_eq_singleton
      (fun e he e' he' => hp e.2 (List.mem_map_of_mem he) e'.2 (List.mem_map_of_mem he')) he hpr
  have hvalues : rows.values.filter p = [e.2] := by
    unfold Dict.values
    rw [List.filter_map, show p ∘ Prod.snd = fun e : ι × ρ => p e.2 from rfl, hone]
    rfl
  exact List.perm_singleton.1 (hvalues ▸ hl.filter p)

end

end Registry
end DataOps

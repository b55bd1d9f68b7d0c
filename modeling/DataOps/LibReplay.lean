import Mathlib.Data.List.Basic
/-!
# LibReplay — edit logs

An edit names a place, what it finds there and what it leaves there.  Replaying a log applies its edits in order and
stops at the first that does not find what it names or changes nothing.  A chain of edits at one place moves that place
alone (`replay_chain`).
-/
namespace DataOps
namespace Replay

universe u v w x

structure Edit (κ : Type u) (α : Type v) where
  key    : κ
  before : α
  after  : α

section
variable {σ : Type w} {κ : Type u} {α : Type v}

/-- Edits at one place, from a value to another, each finding what the one before left. -/
def Chain (k : κ) : α → List (Edit κ α) → α → Prop
  | v, [], w      => v = w
  | v, e :: es, w => e.key = k ∧ e.before = v ∧ e.after ≠ v ∧ Chain k e.after es w

theorem Chain.append {k : κ} {v w : α} {bs : List (Edit κ α)} (hb : Chain k v bs w) :
    ∀ {as : List (Edit κ α)} {u : α}, Chain k u as v → Chain k u (as ++ bs) w
  | [], _, ha => by
    have heq : _ = v := ha
    rw [heq]
    exact hb
  | _ :: _, _, ⟨hkey, hbefore, hafter, hrest⟩ => ⟨hkey, hbefore, hafter, Chain.append hb hrest⟩

variable [DecidableEq α]
variable (get : σ → κ → Option α) (put : σ → κ → α → σ)

/-- One edit, where the place holds what it names and it changes it. -/
def apply (s : σ) (e : Edit κ α) : Option σ :=
  if get s e.key = some e.before ∧ e.before ≠ e.after then some (put s e.key e.after) else none

def replay : σ → List (Edit κ α) → Option σ
  | s, []      => some s
  | s, e :: es => (apply get put s e).bind (fun s' => replay s' es)

theorem replay_append (s : σ) (as bs : List (Edit κ α)) :
    replay get put s (as ++ bs) = (replay get put s as).bind (fun s' => replay get put s' bs) := by
  induction as generalizing s with
  | nil => rfl
  | cons a as ih =>
    rw [List.cons_append, replay, replay]
    cases apply get put s a with
    | none => rfl
    | some s' => exact ih s'

/-- Two logs in a row. -/
theorem replay_trans {s s' s'' : σ} {as bs : List (Edit κ α)} (ha : replay get put s as = some s')
    (hb : replay get put s' bs = some s'') : replay get put s (as ++ bs) = some s'' := by
  rw [replay_append, ha]
  exact hb

/-- **A chain moves its place.** -/
theorem replay_chain {k : κ} (hget : ∀ s v w, get s k = some v → get (put s k w) k = some w)
    (hput : ∀ s v w, put (put s k v) k w = put s k w) (hself : ∀ s v, get s k = some v → put s k v = s) :
    ∀ {es : List (Edit κ α)} {s : σ} {v w : α}, get s k = some v → Chain k v es w →
      replay get put s es = some (put s k w)
  | [], s, v, w, hv, hchain => by
    have heq : v = w := hchain
    rw [← heq, hself s v hv]
    rfl
  | e :: es, s, v, w, hv, ⟨hkey, hbefore, hafter, hrest⟩ => by
    have happly : apply get put s e = some (put s k e.after) := by
      unfold apply
      rw [hkey, hbefore, hv, if_pos ⟨rfl, hafter.symm⟩]
    have hnext := replay_chain hget hput hself (hget s v e.after hv) hrest
    rw [replay, happly, Option.bind_some, hnext, hput]

end

/-! ## Logs that grow -/

section
variable {γ : Type w} {κ : Type u} {α : Type v} {edit : γ → Edit κ α}

/-- The log grows by entries of which `P` holds; beside its entries stands how many are counted. -/
def Grows (edit : γ → Edit κ α) (P : List (Edit κ α) → Prop) (log log' : List γ × Nat) : Prop :=
  ∃ es, log'.1 = log.1 ++ es ∧ log'.2 = log.2 + es.length ∧ P (es.map edit)

theorem Grows.refl {P : List (Edit κ α) → Prop} (h : P []) (log : List γ × Nat) : Grows edit P log log :=
  ⟨[], (List.append_nil _).symm, rfl, h⟩

theorem Grows.imp {P Q : List (Edit κ α) → Prop} {log log' : List γ × Nat} (hlog : Grows edit P log log')
    (h : ∀ es, P es → Q es) : Grows edit Q log log' := by
  obtain ⟨es, hentries, hcount, hP⟩ := hlog
  exact ⟨es, hentries, hcount, h _ hP⟩

theorem Grows.trans {P Q R : List (Edit κ α) → Prop} {log log' log'' : List γ × Nat} (hP : Grows edit P log log')
    (hQ : Grows edit Q log' log'') (h : ∀ as bs, P as → Q bs → R (as ++ bs)) : Grows edit R log log'' := by
  obtain ⟨as, hentries, hcount, ha⟩ := hP
  obtain ⟨bs, hentries', hcount', hb⟩ := hQ
  refine ⟨as ++ bs, by rw [hentries', hentries, List.append_assoc], ?_, ?_⟩
  · rw [List.length_append]
    omega
  · rw [List.map_append]
    exact h _ _ ha hb

theorem Grows.chain_refl (k : κ) (v : α) (log : List γ × Nat) : Grows edit (fun es => Chain k v es v) log log := by
  refine Grows.refl ?_ log
  rfl

/-- Chains in a row. -/
theorem Grows.chain {k : κ} {u v w : α} {log log' log'' : List γ × Nat}
    (ha : Grows edit (fun es => Chain k u es v) log log') (hb : Grows edit (fun es => Chain k v es w) log' log'') :
    Grows edit (fun es => Chain k u es w) log log'' :=
  ha.trans hb fun _ _ has hbs => hbs.append has

/-- Replays in a row. -/
theorem Grows.replay [DecidableEq α] {σ : Type x} {get : σ → κ → Option α} {put : σ → κ → α → σ}
    {s s' s'' : σ} {log log' log'' : List γ × Nat} (ha : Grows edit (fun es => replay get put s es = some s') log log')
    (hb : Grows edit (fun es => replay get put s' es = some s'') log' log'') :
    Grows edit (fun es => replay get put s es = some s'') log log'' :=
  ha.trans hb fun _ _ has hbs => replay_trans get put has hbs

end

/-! ## Cells of a table -/

section
variable {α : Type v}

/-- `rows[i][j]`. -/
def cellAt (rows : List (List α)) (p : Nat × Nat) : Option α := rows[p.1]?.bind (fun row => row[p.2]?)

/-- `rows[i][j] = v`. -/
def setCell (rows : List (List α)) (p : Nat × Nat) (v : α) : List (List α) := rows.modify p.1 (fun row => row.set p.2 v)

theorem cellAt_mid (pre post : List (List α)) (row : List α) (j : Nat) :
    cellAt (pre ++ row :: post) (pre.length, j) = row[j]? := by
  simp [cellAt]

theorem setCell_mid (pre post : List (List α)) (row : List α) (j : Nat) (v : α) :
    setCell (pre ++ row :: post) (pre.length, j) v = pre ++ row.set j v :: post := by
  unfold setCell
  rw [List.modify_eq_set_getElem?, List.getElem?_append_right (Nat.le_refl _), Nat.sub_self]
  simp

theorem cellAt_setCell {rows : List (List α)} {p : Nat × Nat} {v : α} (h : cellAt rows p = some v) (w : α) :
    cellAt (setCell rows p w) p = some w := by
  unfold cellAt setCell at *
  rw [List.getElem?_modify_eq]
  cases hrow : rows[p.1]? with
  | none =>
    rw [hrow] at h
    cases h
  | some row =>
    rw [hrow, Option.bind_some] at h
    obtain ⟨hlt, -⟩ := List.getElem?_eq_some_iff.1 h
    exact List.getElem?_set_self hlt

theorem setCell_setCell (rows : List (List α)) (p : Nat × Nat) (v w : α) :
    setCell (setCell rows p v) p w = setCell rows p w := by
  unfold setCell
  rw [List.modify_modify_eq]
  congr 1
  funext row
  exact List.set_set v

theorem setCell_self {rows : List (List α)} {p : Nat × Nat} {v : α} (h : cellAt rows p = some v) :
    setCell rows p v = rows := by
  unfold cellAt at h
  obtain ⟨row, hrow, hv⟩ := Option.bind_eq_some_iff.1 h
  unfold setCell
  apply List.ext_getElem?
  intro i
  by_cases hi : p.1 = i
  · subst hi
    obtain ⟨hlt, rfl⟩ := List.getElem?_eq_some_iff.1 hv
    rw [List.getElem?_modify_eq, hrow]
    exact congrArg some (List.set_getElem_self hlt)
  · rw [List.getElem?_modify_ne _ _ hi]

variable [DecidableEq α]

/-- **A chain at a cell of a row** sets that cell. -/
theorem replay_cell {pre post : List (List α)} {row : List α} {j : Nat} {v w : α} {es : List (Edit (Nat × Nat) α)}
    (hv : row[j]? = some v) (hchain : Chain (pre.length, j) v es w) :
    replay cellAt setCell (pre ++ row :: post) es = some (pre ++ row.set j w :: post) := by
  have hcell : cellAt (pre ++ row :: post) (pre.length, j) = some v := (cellAt_mid pre post row j).trans hv
  rw [← setCell_mid]
  exact replay_chain cellAt setCell (fun _ _ w h => cellAt_setCell h w) (fun rows v w => setCell_setCell rows _ v w)
    (fun _ _ h => setCell_self h) hcell hchain

section
variable {γ : Type w} {edit : γ → Edit (Nat × Nat) α} {pre post : List (List α)} {log log' log'' : List γ × Nat}

/-- **One cell and then the cells after it**, where the cells before it are done. -/
theorem Grows.cell {done row row' : List α} {v w : α}
    (hcell : Grows edit (fun es => Chain (pre.length, done.length) v es w) log log')
    (hrest : Grows edit (fun es => Replay.replay cellAt setCell (pre ++ ((done ++ [w]) ++ row) :: post) es =
      some (pre ++ ((done ++ [w]) ++ row') :: post)) log' log'') :
    Grows edit (fun es => Replay.replay cellAt setCell (pre ++ (done ++ v :: row) :: post) es =
      some (pre ++ (done ++ w :: row') :: post)) log log'' := by
  have hvalue : (done ++ v :: row)[done.length]? = some v := by simp
  have hset : (done ++ v :: row).set done.length w = done ++ w :: row := by simp
  have hfirst : Grows edit (fun es => Replay.replay cellAt setCell (pre ++ (done ++ v :: row) :: post) es =
      some (pre ++ (done ++ w :: row) :: post)) log log' :=
    hcell.imp fun es hchain => (replay_cell hvalue hchain).trans (by rw [hset])
  rw [List.append_assoc, List.singleton_append, List.append_assoc, List.singleton_append] at hrest
  exact hfirst.replay hrest

/-- **One row and then the rows after it**, where the rows before it are done. -/
theorem Grows.row {row row' : List α} {rows rows' : List (List α)}
    (hrow : Grows edit (fun es => Replay.replay cellAt setCell (pre ++ row :: rows) es = some (pre ++ row' :: rows))
      log log')
    (hrest : Grows edit (fun es => Replay.replay cellAt setCell ((pre ++ [row']) ++ rows) es =
      some ((pre ++ [row']) ++ rows')) log' log'') :
    Grows edit (fun es => Replay.replay cellAt setCell (pre ++ row :: rows) es = some (pre ++ row' :: rows'))
      log log'' := by
  rw [List.append_assoc, List.singleton_append, List.append_assoc, List.singleton_append] at hrest
  exact hrow.replay hrest

end
end

/-! ## Columns by name -/

section
variable {α : Type v} [BEq α]

/-- The names of the columns from `j` on stand where the header has them. -/
def Placed (headers : List α) (j : Nat) (names : List α) : Prop :=
  ∀ k name, names[k]? = some name → headers.idxOf name = j + k

theorem Placed.head {headers : List α} {j : Nat} {name : α} {names : List α} (h : Placed headers j (name :: names)) :
    headers.idxOf name = j := h 0 name rfl

theorem Placed.tail {headers : List α} {j : Nat} {name : α} {names : List α} (h : Placed headers j (name :: names)) :
    Placed headers (j + 1) names := by
  intro k name' hname
  have hplace := h (k + 1) name' hname
  omega

theorem placed_zip [LawfulBEq α] {headers : List α} (hnd : headers.Nodup) {β : Type w} (bs : List β) :
    Placed headers 0 ((headers.zip bs).map Prod.fst) := by
  intro k name hname
  rw [List.getElem?_map, Option.map_eq_some_iff] at hname
  obtain ⟨⟨name', b⟩, hpair, rfl⟩ := hname
  obtain ⟨hheader, -⟩ := List.getElem?_zip_eq_some.1 hpair
  obtain ⟨hlt, hget⟩ := List.getElem?_eq_some_iff.1 hheader
  dsimp only at hget
  rw [← hget, hnd.idxOf_getElem k hlt, Nat.zero_add]

end
end Replay
end DataOps

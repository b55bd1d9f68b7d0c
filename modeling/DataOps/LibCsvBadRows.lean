import DataOps.LibCsvLosses
/-!
# LibCsvBadRows — rows that do not come back

Each way a cell can fail `cellOk` is followed to the field that is read in its place: cut at a delimiter, short of blanks,
with quotes that were meant for the reader, or run together with the next cell.  Only a cell that opens with a foreign
quote character is not followed: there a quote character is lost, and counting shows it.
-/
namespace DataOps
namespace Csv

/-- A field that is not the cell, even up to blanks around it. -/
def Differs (c f : Str) : Prop := f ≠ c ∧ (Str.strip c = c → Str.strip f ≠ c)

theorem Differs.of_lt {c f : Str} (h : f.length < c.length) : Differs c f := by
  have hstrip := Str.length_strip_le f
  refine ⟨fun heq => ?_, fun _ heq => ?_⟩
  · rw [heq] at h
    omega
  · rw [heq] at hstrip
    omega

theorem Differs.of_mem {c f : Str} {x : Char} (hf : x ∈ f) (hspace : Str.isSpace x = false) (hc : x ∉ c) :
    Differs c f := by
  refine ⟨fun heq => hc (heq ▸ hf), fun _ heq => hc ?_⟩
  rw [← heq]
  exact Str.mem_strip hf hspace

theorem Differs.of_ne {c f : Str} (hne : ∀ ws, (∀ y ∈ ws, Str.isSpace y = true) → f ≠ c ++ ws)
    (hhead : ∀ y, f.head? = some y → Str.isSpace y = true → c.head? = some y) : Differs c f := by
  refine ⟨fun heq => hne [] (by simp) (by simpa using heq), fun hc heq => ?_⟩
  have hfirst : ∀ y, f.head? = some y → Str.isSpace y = false := by
    intro y hy
    by_contra hspace
    have hspace' : Str.isSpace y = true := by simpa using hspace
    rw [Str.head_of_stripped hc (hhead y hy hspace')] at hspace'
    cases hspace'
  obtain ⟨ws, hws, happ⟩ := Str.eq_append_of_strip heq hfirst
  exact hne ws hws happ

section
variable {D : Dialect} {r R : Reader} {p : Str} {F : List Str} {x : Char} {s T : Str} {P Q : Str → Prop}

/-- In the first record, the field the reader is about to save has a property. -/
def FieldAt (D : Dialect) (r : Reader) (s : Str) (P : Str → Prop) : Prop :=
  ∀ fields rest, run D r s = .ok fields :: rest → ∃ f, P f ∧ r.fields ++ [f] <+: fields

theorem FieldAt.imp (h : FieldAt D r s P) (hPQ : ∀ f, P f → Q f) : FieldAt D r s Q := by
  intro fields rest hrun
  obtain ⟨f, hf, hfields⟩ := h fields rest hrun
  exact ⟨f, hPQ f hf, hfields⟩

theorem FieldAt.and (hP : FieldAt D r s P) (hQ : FieldAt D r s Q) : FieldAt D r s (fun f => P f ∧ Q f) := by
  intro fields rest hrun
  obtain ⟨f, hf, hfields⟩ := hP fields rest hrun
  obtain ⟨f', hf', hfields'⟩ := hQ fields rest hrun
  have hpre := List.prefix_of_prefix_length_le hfields hfields' (by simp)
  have heq : f = f' := by simpa using hpre.eq_of_length (by simp)
  exact ⟨f, ⟨hf, heq ▸ hf'⟩, hfields⟩

theorem FieldAt.of_run {s' : Str} (h : FieldAt D R s' P) (hrun : run D r s = run D R s')
    (hfields : r.fields = R.fields) : FieldAt D r s P := by
  intro fields rest hok
  rw [hrun] at hok
  obtain ⟨f, hf, hpre⟩ := h fields rest hok
  exact ⟨f, hf, by rw [hfields]; exact hpre⟩

/-- Inside a field, what it holds is the beginning of what is saved. -/
theorem fieldAt_extends (hin : Inside r.state) : FieldAt D r s (fun f => r.field <+: f) := by
  intro fields rest hrun
  obtain ⟨f, hf, hfields⟩ := records_field hin hrun
  exact ⟨f, hf, hfields⟩

/-- A character that is added to a field. -/
theorem FieldAt.add {state state' : State} (hline : isNewline x = false) (hs : s ≠ [])
    (hstep : process D ⟨state, p, F⟩ (some x) = (⟨state, p, F⟩ : Reader).addChar x state') (hin : Inside state')
    (h : FieldAt D ⟨state', p ++ [x], F⟩ s P) : FieldAt D ⟨state, p, F⟩ (x :: s) P := by
  intro fields rest hrun
  unfold run at hrun
  rw [endLines_cons hline hs] at hrun
  obtain ⟨R, hp, hrest⟩ := records_cons hrun
  rw [hstep] at hp
  unfold Reader.addChar at hp
  split at hp
  · cases hp
  · cases hp
    rcases hrest with ⟨hstart, -⟩ | hrest
    · exact absurd hstart hin.1
    · exact h fields rest hrest

/-- A character that ends a field. -/
theorem FieldAt.save {state state' : State}
    (hstep : process D ⟨state, p, F⟩ (some x) = .ok ((⟨state, p, F⟩ : Reader).saveField state')) :
    FieldAt D ⟨state, p, F⟩ (x :: s) (fun f => f = p) := by
  have hcons : ∃ cs, endLines (x :: s) = some x :: cs := by
    match s with
    | [] => exact ⟨[none], by simp [endLines]⟩
    | y :: s =>
      by_cases hcrlf : x = '\r' ∧ y = '\n'
      · obtain ⟨rfl, rfl⟩ := hcrlf
        exact ⟨_, endLines_crlf⟩
      · rw [endLines]
        · split
          · exact ⟨_, rfl⟩
          · exact ⟨_, rfl⟩
        · intro h1 h2
          exact absurd ⟨h1, h2⟩ hcrlf
  obtain ⟨cs, hcs⟩ := hcons
  intro fields rest hrun
  unfold run at hrun
  rw [hcs] at hrun
  obtain ⟨R, hp, hrest⟩ := records_cons hrun
  rw [hstep] at hp
  cases hp
  refine ⟨p, rfl, ?_⟩
  rcases hrest with ⟨-, rfl⟩ | hrest
  · exact List.prefix_refl _
  · exact records_fields hrest

theorem process_inField (hline : isNewline x = false) (hd : x ≠ D.delimiter) :
    process D ⟨.inField, p, F⟩ (some x) = (⟨.inField, p, F⟩ : Reader).addChar x .inField := by
  simp [process, processInField, hline, hd]

theorem process_inField_end (h : isNewline x = true ∨ x = D.delimiter) :
    ∃ state, process D ⟨.inField, p, F⟩ (some x) = .ok ((⟨.inField, p, F⟩ : Reader).saveField state) := by
  by_cases hline : isNewline x = true
  · exact ⟨.eatCrnl, by simp [process, processInField, hline]⟩
  · have hd := h.resolve_left hline
    exact ⟨.startField, by simp [process, processInField, hd, isNewline_delimiter]⟩

/-! ## Quotes read as characters -/

theorem isSpace_quote : Str.isSpace '"' = false := by decide

/-- What is left of a quoted cell is not empty. -/
theorem doubled_ne_nil (k : Nat) (u : Str) : List.replicate k '"' ++ (doubled u ++ '"' :: T) ≠ [] := by
  simp

/-- A field that has got a quote does not end in the cell's blanks. -/
theorem fieldAt_quote {u : Str} (hu : u.head? ≠ some '"') :
    FieldAt D ⟨.inField, p ++ ['"'], F⟩ s (fun f => ∀ ws, (∀ y ∈ ws, Str.isSpace y = true) → f ≠ p ++ u ++ ws) := by
  refine (fieldAt_extends inside_inField).imp (fun f hf ws hws heq => ?_)
  obtain ⟨t, rfl⟩ := hf
  rw [List.append_assoc, List.append_assoc, List.append_cancel_left_eq, List.singleton_append] at heq
  cases u with
  | nil =>
    rw [List.nil_append] at heq
    have hspace := hws '"' (heq ▸ List.mem_cons_self)
    rw [isSpace_quote] at hspace
    cases hspace
  | cons y u =>
    rw [List.cons_append, List.cons.injEq] at heq
    exact hu (by rw [heq.1]; rfl)

/-- **Doubled quotes read as characters.**  What is left of a quoted cell, `k` more quotes before it, never reads as the
cell's own remainder, whatever blanks follow: the quotes are too many. -/
theorem fieldAt_doubled (hquote : D.delimiter ≠ '"') (hT : T ≠ []) : ∀ (u : Str) (k : Nat) (p : Str),
    FieldAt D ⟨.inField, p, F⟩ (List.replicate k '"' ++ (doubled u ++ '"' :: T))
      (fun f => ∀ ws, (∀ y ∈ ws, Str.isSpace y = true) → f ≠ p ++ u ++ ws)
  | [], k, p => by
    have hstep := process_inField (D := D) (p := p) (F := F) (x := '"') (by simp [isNewline]) hquote.symm
    cases k with
    | zero => exact .add (by simp [isNewline]) hT hstep inside_inField (fieldAt_quote (by simp))
    | succ k =>
      rw [List.replicate_succ, List.cons_append]
      exact .add (by simp [isNewline]) (by simp) hstep inside_inField (fieldAt_quote (by simp))
  | x :: u, k, p => by
    have hstep := process_inField (D := D) (p := p) (F := F) (x := '"') (by simp [isNewline]) hquote.symm
    by_cases hx : x = '"'
    · subst hx
      -- one of the quotes is the cell's; one more stands before its remainder
      have ih := fieldAt_doubled hquote hT u (k + 1) (p ++ ['"'])
      have hrest : List.replicate k '"' ++ (doubled ('"' :: u) ++ '"' :: T) =
          '"' :: (List.replicate (k + 1) '"' ++ (doubled u ++ '"' :: T)) := by
        have htwo : (['"', '"'] : Str) = List.replicate 2 '"' := rfl
        rw [doubled_cons, if_pos rfl, htwo, List.append_assoc, ← List.append_assoc (List.replicate k '"'),
          List.replicate_append_replicate, ← List.cons_append, ← List.replicate_succ]
      rw [hrest]
      refine .add (by simp [isNewline]) (doubled_ne_nil _ _) hstep inside_inField (ih.imp (fun f hf ws hws heq => ?_))
      exact hf ws hws (by simpa using heq)
    · have hdoubled : doubled (x :: u) = x :: doubled u := by rw [doubled_cons, if_neg hx, List.singleton_append]
      cases k with
      | succ k =>
        rw [List.replicate_succ, List.cons_append]
        refine .add (by simp [isNewline]) (doubled_ne_nil _ _) hstep inside_inField (fieldAt_quote ?_)
        simpa using hx
      | zero =>
        rw [List.replicate_zero, List.nil_append, hdoubled, List.cons_append]
        by_cases hend : isNewline x = true ∨ x = D.delimiter
        · obtain ⟨state, hsave⟩ := process_inField_end (D := D) (p := p) (F := F) hend
          refine (FieldAt.save hsave).imp (fun f hf ws _ heq => ?_)
          have hlen := congrArg List.length heq
          rw [hf] at hlen
          simp at hlen
        · rw [not_or] at hend
          have ih := fieldAt_doubled hquote hT u 0 (p ++ [x])
          rw [List.replicate_zero, List.nil_append] at ih
          refine .add (by simpa using hend.1) (by simp) (process_inField (by simpa using hend.1) hend.2) inside_inField
            (ih.imp (fun f hf ws hws heq => ?_))
          exact hf ws hws (by simpa using heq)

theorem doubled_append (u v : Str) : doubled (u ++ v) = doubled u ++ doubled v := by
  simp [doubled]

/-- **A quoted cell under foreign quotes, or with doubled quotes the dialect does not know.** -/
theorem fieldAt_badQuoted (hquote : D.delimiter ≠ '"') (hT : T ≠ []) {c : Str} (hlen : c.length ≤ fieldSizeLimit)
    (hbad : ¬ (D.quotechar = '"' ∧ ('"' ∈ c → D.doublequote = true))) :
    FieldAt D ⟨.startField, [], F⟩ (quoted c ++ T) (Differs c) := by
  have htext : quoted c ++ T = '"' :: (doubled c ++ '"' :: T) := by simp [quoted]
  rw [htext]
  by_cases hq : D.quotechar = '"'
  · have hmem : '"' ∈ c := by
      by_contra hmem
      exact hbad ⟨hq, fun h => absurd h hmem⟩
    have hb : D.doublequote = false := by
      by_contra hb
      exact hbad ⟨hq, fun _ => by simpa using hb⟩
    -- the first quote of the cell closes the field; from there on its quotes are characters
    obtain ⟨u, v, rfl, hu⟩ := List.eq_append_cons_of_mem hmem
    have hopen := run_open (D := D) (p := []) (F := F) (s := doubled (u ++ '"' :: v) ++ '"' :: T) (by simp)
    rw [hq] at hopen
    have hread := run_quoted (F := F) (T := '"' :: (doubled v ++ '"' :: T)) hq (by simp) u [] (fun h => absurd h hu)
      (by rw [List.length_append] at hlen; simp; omega)
    have hsplit : doubled (u ++ '"' :: v) ++ '"' :: T = doubled u ++ '"' :: '"' :: (doubled v ++ '"' :: T) := by
      simp [doubled_append, doubled_cons]
    rw [hb, List.nil_append] at hread
    rw [hsplit] at hopen ⊢
    refine FieldAt.of_run (R := ⟨.inField, u, F⟩) ?_ (hopen.trans hread) rfl
    have hstep := process_inField (D := D) (p := u) (F := F) (x := '"') (by simp [isNewline]) hquote.symm
    have hdoubled := fieldAt_doubled (F := F) hquote hT v 0 (u ++ ['"'])
    rw [List.replicate_zero, List.nil_append] at hdoubled
    have hext : FieldAt D ⟨.inField, u ++ ['"'], F⟩ (doubled v ++ '"' :: T) (fun f => u ++ ['"'] <+: f) :=
      fieldAt_extends inside_inField
    refine .add (by simp [isNewline]) (by simp) hstep inside_inField ((hdoubled.and hext).imp (fun f hf => ?_))
    obtain ⟨hne, t, rfl⟩ := hf
    refine Differs.of_ne (fun ws hws heq => hne ws hws (by simpa using heq)) (fun y hy _ => ?_)
    cases u <;> simpa using hy
  · have hstep : process D ⟨.startField, [], F⟩ (some '"') =
        (⟨.startField, [], F⟩ : Reader).addChar '"' .inField := by
      have hq' : ¬ '"' = D.quotechar := fun h => hq h.symm
      have hd' : ¬ '"' = D.delimiter := fun h => hquote h.symm
      simp [process, processStartField, isNewline, hq', hd']
    have hext : FieldAt D ⟨.inField, ['"'], F⟩ (doubled c ++ '"' :: T) (fun f => ['"'] <+: f) :=
      fieldAt_extends inside_inField
    have hne : FieldAt D ⟨.inField, ['"'], F⟩ (doubled c ++ '"' :: T)
        (fun f => ∀ ws, (∀ y ∈ ws, Str.isSpace y = true) → f ≠ c ++ ws) := by
      by_cases hc : c.head? = some '"'
      · obtain ⟨u, rfl⟩ : ∃ u, c = '"' :: u := by
          cases c with
          | nil => cases hc
          | cons y u => exact ⟨u, by simpa using hc⟩
        have hdoubled := fieldAt_doubled (F := F) hquote hT u 2 ['"']
        have htwo : List.replicate 2 '"' ++ (doubled u ++ '"' :: T) = doubled ('"' :: u) ++ '"' :: T := by
          simp [doubled_cons, List.replicate]
        rw [htwo] at hdoubled
        exact hdoubled
      · exact fieldAt_quote (p := []) hc
    refine .add (by simp [isNewline]) (by simp) hstep inside_inField ((hne.and hext).imp (fun f hf => ?_))
    obtain ⟨hne, t, rfl⟩ := hf
    refine Differs.of_ne hne (fun y hy hspace => ?_)
    rw [List.singleton_append, List.head?_cons] at hy
    cases hy
    rw [isSpace_quote] at hspace
    cases hspace

/-! ## Unquoted cells -/

/-- The blanks before a field that the dialect skips. -/
def skipped (D : Dialect) (c : Str) : Str := if D.skipinitialspace then c.dropWhile (· = ' ') else c

theorem run_skipped (hT : T ≠ []) : ∀ c : Str,
    run D ⟨.startField, [], F⟩ (c ++ T) = run D ⟨.startField, [], F⟩ (skipped D c ++ T)
  | [] => by simp [skipped]
  | x :: c => by
    by_cases hskip : D.skipinitialspace = true ∧ x = ' '
    · obtain ⟨hspace, rfl⟩ := hskip
      have ih := run_skipped hT c
      have h1 := run_skip (D := D) (p := []) (F := F) (s := c ++ T) hspace (by simp [hT])
      have hdrop : skipped D (' ' :: c) = skipped D c := by simp [skipped, hspace]
      rw [hdrop]
      exact h1.trans ih
    · have hkeep : skipped D (x :: c) = x :: c := by
        unfold skipped
        split
        · rename_i hspace
          have hx : ¬ x = ' ' := fun h => hskip ⟨hspace, h⟩
          simp [hx]
        · rfl
      rw [hkeep]

theorem skipped_suffix (c : Str) : skipped D c <:+ c := by
  unfold skipped
  split
  · exact List.dropWhile_suffix _
  · exact List.suffix_refl _

theorem skipped_head {c : Str} (hspace : D.skipinitialspace = true) : (skipped D c).head? ≠ some ' ' := by
  unfold skipped
  rw [if_pos hspace]
  intro h
  have hnot := List.head?_dropWhile_not (p := (· = ' ')) c
  rw [h] at hnot
  simp at hnot

/-- **A delimiter in an unquoted cell** cuts it. -/
theorem fieldAt_delimiter (hT : T ≠ []) : ∀ (u p : Str), (∀ y ∈ u, isNewline y = false) → D.delimiter ∈ u →
    FieldAt D ⟨.inField, p, F⟩ (u ++ T) (fun f => f.length < p.length + u.length)
  | x :: u, p, hline, hd => by
    by_cases hx : x = D.delimiter
    · obtain ⟨state, hsave⟩ := process_inField_end (D := D) (p := p) (F := F) (.inr hx)
      refine (FieldAt.save hsave).imp (fun f hf => ?_)
      rw [hf, List.length_cons]
      omega
    · have hd' : D.delimiter ∈ u := (List.mem_cons.1 hd).resolve_left (fun h => hx h.symm)
      have ih := fieldAt_delimiter hT u (p ++ [x]) (fun y hy => hline y (List.mem_cons_of_mem _ hy)) hd'
      have hx' := hline x List.mem_cons_self
      refine .add hx' (by simp [hT]) (process_inField hx' hx) inside_inField (ih.imp (fun f hf => ?_))
      rw [List.length_append, List.length_singleton] at hf
      rw [List.length_cons]
      omega

/-- What ends a cell for the dialect. -/
def Ends (D : Dialect) (T : Str) : Prop := (∃ T', T' ≠ [] ∧ T = D.delimiter :: T') ∨ ∃ T', T = '\r' :: '\n' :: T'

theorem fieldAt_ends {state : State} (hstate : AtEnd state) (hT : Ends D T) :
    FieldAt D ⟨state, p, F⟩ T (fun f => f = p) := by
  intro fields rest hrun
  rcases hT with ⟨T', hT', rfl⟩ | ⟨T', rfl⟩
  · rw [run_delimiter hstate hT'] at hrun
    exact ⟨p, rfl, records_fields hrun⟩
  · rw [run_crlf hstate] at hrun
    cases hrun
    exact ⟨p, rfl, List.prefix_refl _⟩

/-- An unquoted cell without delimiter, past the blanks, is read to its end. -/
theorem run_unquotedCell {sole : Bool} {c : Str} (hc : isQuoted sole c = false) (hT : T ≠ [])
    (hlen : c.length ≤ fieldSizeLimit) (hhead : (skipped D c).head? ≠ some D.quotechar)
    (hd : D.delimiter ∉ skipped D c) :
    ∃ state, AtEnd state ∧ run D ⟨.startField, [], F⟩ (c ++ T) = run D ⟨state, skipped D c, F⟩ T := by
  have hneeds : isQuoted false (skipped D c) = false := by
    have hc' : needsQuotes c = false := (Bool.or_eq_false_iff.1 hc).1
    unfold isQuoted needsQuotes at *
    rw [List.any_eq_false] at hc'
    rw [Bool.false_and, Bool.or_false, List.any_eq_false]
    exact fun x hx => hc' x ((skipped_suffix c).subset hx)
  have hok : cellOk D false (skipped D c) := by
    unfold cellOk
    rw [if_neg (by simp [hneeds])]
    exact ⟨hhead, skipped_head, hd⟩
  have hwrite : writeCell false (skipped D c) = skipped D c := by simp [writeCell, hneeds]
  obtain ⟨state, hstate, hrun⟩ := run_cell (F := F) (T := T) hok
    ((skipped_suffix c).length_le.trans hlen) hT
  rw [hwrite] at hrun
  exact ⟨state, hstate, (run_skipped hT c).trans hrun⟩

/-- **A cell that opens with the dialect's quote** loses it. -/
theorem held_open {c : Str} (hT : T ≠ []) (hhead : (skipped D c).head? = some D.quotechar) :
    held D.quotechar (run D ⟨.startField, [], F⟩ (c ++ T)) <
      F.flatten.count D.quotechar + (c ++ T).count D.quotechar := by
  obtain ⟨u, hu⟩ : ∃ u, skipped D c = D.quotechar :: u := by
    cases h : skipped D c with
    | nil => rw [h] at hhead; cases hhead
    | cons y u => rw [h] at hhead; exact ⟨u, by simpa using hhead⟩
  have hopen := run_open (D := D) (p := []) (F := F) (s := u ++ T) (by simp [hT])
  have hheld := held_run (D := D) (x := D.quotechar) (r := ⟨.inQuotedField, [], F⟩) (u ++ T)
  have hcount : u.count D.quotechar + 1 ≤ c.count D.quotechar := by
    have hsub := (skipped_suffix (D := D) c).sublist.count_le D.quotechar
    rw [hu, List.count_cons_self] at hsub
    exact hsub
  rw [run_skipped hT, hu, List.cons_append, hopen]
  rw [List.count_append] at hheld ⊢
  simp only [List.count_nil] at hheld
  omega

/-- A cell cut short, or without its first blanks. -/
theorem fieldAt_cut {sole : Bool} {c : Str} (hc : isQuoted sole c = false) (hT : T ≠ [])
    (hhead : (skipped D c).head? ≠ some D.quotechar) (hd : D.delimiter ∈ skipped D c) :
    FieldAt D ⟨.startField, [], F⟩ (c ++ T) (Differs c) := by
  have hchars := fun x hx => (@isNewline_of_unquoted sole c hc x ((skipped_suffix (D := D) c).subset hx)).1
  have hlen := (skipped_suffix (D := D) c).length_le
  refine FieldAt.of_run (R := ⟨.startField, [], F⟩) ?_ (run_skipped hT c) rfl
  cases hu : skipped D c with
  | nil => rw [hu] at hd; cases hd
  | cons x u =>
    rw [hu] at hchars hd hhead hlen
    rw [List.length_cons] at hlen
    by_cases hx : x = D.delimiter
    · have hd' := D.delimiter_ok
      have hsave : process D ⟨.startField, [], F⟩ (some x) =
          .ok ((⟨.startField, [], F⟩ : Reader).saveField .startField) := by
        simp [process, processStartField, hx, isNewline_delimiter, hd'.2.2.1, hd'.2.2.2]
      refine (FieldAt.save hsave).imp (fun f hf => Differs.of_lt ?_)
      rw [hf, List.length_nil]
      omega
    · have hline := hchars x List.mem_cons_self
      have hskip : ¬ (x = ' ' ∧ D.skipinitialspace = true) := by
        rintro ⟨hx', hspace⟩
        have h := skipped_head (c := c) hspace
        rw [hu] at h
        exact h (by rw [hx']; rfl)
      have hq : ¬ x = D.quotechar := fun h => hhead (by rw [h]; rfl)
      have hstep : process D ⟨.startField, [], F⟩ (some x) =
          (⟨.startField, [], F⟩ : Reader).addChar x .inField := by
        simp [process, processStartField, hline, hq, hskip, hx]
      have hd' : D.delimiter ∈ u := (List.mem_cons.1 hd).resolve_left (fun h => hx h.symm)
      have hcut := fieldAt_delimiter (F := F) hT u [x] (fun y hy => hchars y (List.mem_cons_of_mem _ hy)) hd'
      refine .add hline (by simp [hT]) hstep inside_inField (hcut.imp (fun f hf => Differs.of_lt ?_))
      rw [List.length_singleton] at hf
      omega

/-- **A cell the dialect does not give back**: something else is read in its place, or its first quote is lost. -/
theorem fieldAt_badCell (hquote : D.delimiter ≠ '"') {sole : Bool} {c : Str} (hbad : ¬ cellOk D sole c)
    (hlen : c.length ≤ fieldSizeLimit) (hT : Ends D T) :
    (D.quotechar ≠ '"' ∧ held D.quotechar (run D ⟨.startField, [], F⟩ (writeCell sole c ++ T)) <
        F.flatten.count D.quotechar + (writeCell sole c ++ T).count D.quotechar) ∨
      FieldAt D ⟨.startField, [], F⟩ (writeCell sole c ++ T) (Differs c) := by
  have hne : T ≠ [] := by
    rcases hT with ⟨T', -, rfl⟩ | ⟨T', rfl⟩ <;> simp
  unfold cellOk at hbad
  unfold writeCell
  by_cases hquoted : isQuoted sole c = true
  · rw [if_pos hquoted] at hbad ⊢
    exact .inr (fieldAt_badQuoted hquote hne hlen hbad)
  · rw [if_neg hquoted] at hbad ⊢
    have hc : isQuoted sole c = false := by simpa using hquoted
    by_cases hhead : (skipped D c).head? = some D.quotechar
    · refine .inl ⟨fun hq => ?_, held_open hne hhead⟩
      have hmem : D.quotechar ∈ c := (skipped_suffix c).subset (List.mem_of_mem_head? hhead)
      exact (isNewline_of_unquoted hc hmem).2.1 hq
    refine .inr ?_
    by_cases hd : D.delimiter ∈ skipped D c
    · exact fieldAt_cut hc hne hhead hd
    · obtain ⟨state, hstate, hrun⟩ := run_unquotedCell (F := F) hc hne hlen hhead hd
      refine FieldAt.of_run (R := ⟨state, skipped D c, F⟩) ((fieldAt_ends hstate hT).imp (fun f hf => ?_)) hrun rfl
      -- nothing but a first blank is left to be wrong
      have hshort : (skipped D c).length < c.length := by
        rcases Nat.lt_or_ge (skipped D c).length c.length with h | h
        · exact h
        · exfalso
          have heq := (skipped_suffix c).eq_of_length_le h
          rw [heq] at hhead hd
          refine hbad ⟨hhead, fun hspace => ?_, hd⟩
          have hsp := skipped_head (c := c) hspace
          rw [heq] at hsp
          exact hsp
      rw [hf]
      exact Differs.of_lt hshort

/-! ## Another delimiter -/

/-- A comma that is no delimiter is a character of the field. -/
theorem process_comma {state : State} (hstate : AtEnd state) (hd : D.delimiter ≠ ',') (hq : D.quotechar ≠ ',') :
    process D ⟨state, p, F⟩ (some ',') = (⟨state, p, F⟩ : Reader).addChar ',' .inField := by
  have hd' : ¬ ',' = D.delimiter := fun h => hd h.symm
  have hq' : ¬ ',' = D.quotechar := fun h => hq h.symm
  rcases hstate with rfl | rfl | rfl
  all_goals simp [process, processStartField, processInField, processQuoteInQuotedField, isNewline, hd', hq']

theorem fieldAt_comma {state : State} (hstate : AtEnd state) (hd : D.delimiter ≠ ',') (hq : D.quotechar ≠ ',')
    (hs : s ≠ []) : FieldAt D ⟨state, p, F⟩ (',' :: s) (fun f => p ++ [','] <+: f) :=
  .add (by simp [isNewline]) hs (process_comma hstate hd hq) inside_inField (fieldAt_extends inside_inField)

/-- **A first cell that another one follows**, for a dialect whose delimiter is not the comma. -/
theorem fieldAt_joined (hquote : D.delimiter ≠ '"') (hd : D.delimiter ≠ ',') (hq : D.quotechar ≠ ',') {c : Str}
    (hlen : c.length ≤ fieldSizeLimit) (hs : s ≠ []) :
    (D.quotechar ≠ '"' ∧ held D.quotechar (run D ⟨.startField, [], F⟩ (writeCell false c ++ ',' :: s)) <
        F.flatten.count D.quotechar + (writeCell false c ++ ',' :: s).count D.quotechar) ∨
      FieldAt D ⟨.startField, [], F⟩ (writeCell false c ++ ',' :: s) (Differs c) := by
  unfold writeCell
  by_cases hquoted : isQuoted false c = true
  · rw [if_pos hquoted]
    refine .inr ?_
    by_cases hok : D.quotechar = '"' ∧ ('"' ∈ c → D.doublequote = true)
    · have hcell : cellOk D false c := by
        unfold cellOk
        rw [if_pos hquoted]
        exact hok
      obtain ⟨state, hstate, hrun⟩ := run_cell (F := F) (T := ',' :: s) hcell hlen (by simp)
      unfold writeCell at hrun
      rw [if_pos hquoted] at hrun
      refine FieldAt.of_run (R := ⟨state, c, F⟩) ((fieldAt_comma hstate hd hq hs).imp (fun f hf => ?_)) hrun rfl
      obtain ⟨t, rfl⟩ := hf
      refine Differs.of_ne (fun ws hws heq => ?_) (fun y hy hspace => ?_)
      · rw [List.append_assoc, List.append_cancel_left_eq, List.singleton_append] at heq
        have hspace := hws ',' (heq ▸ List.mem_cons_self)
        revert hspace
        decide
      · cases c with
        | nil =>
          cases hy
          revert hspace
          decide
        | cons z c => exact hy
    · exact fieldAt_badQuoted hquote (by simp) hlen hok
  · rw [if_neg hquoted]
    have hc : isQuoted false c = false := by simpa using hquoted
    by_cases hhead : (skipped D c).head? = some D.quotechar
    · refine .inl ⟨fun hq => ?_, held_open (by simp) hhead⟩
      have hmem : D.quotechar ∈ c := (skipped_suffix c).subset (List.mem_of_mem_head? hhead)
      exact (isNewline_of_unquoted hc hmem).2.1 hq
    refine .inr ?_
    by_cases hmem : D.delimiter ∈ skipped D c
    · exact fieldAt_cut hc (by simp) hhead hmem
    · obtain ⟨state, hstate, hrun⟩ := run_unquotedCell (F := F) (T := ',' :: s) hc (by simp) hlen hhead hmem
      refine FieldAt.of_run (R := ⟨state, skipped D c, F⟩)
        ((fieldAt_comma hstate hd hq hs).imp (fun f hf => ?_)) hrun rfl
      obtain ⟨t, rfl⟩ := hf
      have hcomma : ',' ∉ c := fun h => (isNewline_of_unquoted hc h).2.2 rfl
      exact Differs.of_mem (x := ',') (by simp) (by decide) hcomma

/-! ## Rows -/

/-- The first record has another field in the place of a cell, even up to blanks, or the dialect's quote is lost. -/
def Lost (D : Dialect) (cells : List Str) (items : List (Except Error (List Str))) (available : Nat) : Prop :=
  (D.quotechar ≠ '"' ∧ held D.quotechar items < available) ∨
    ∀ fields rest, items = .ok fields :: rest → ∃ (j : Nat) (f c : Str),
      fields[j]? = some f ∧ cells[j]? = some c ∧ Differs c f

theorem FieldAt.lost {c : Str} {cs : List Str} {available : Nat} (h : FieldAt D ⟨.startField, p, F⟩ s (Differs c)) :
    Lost D (F ++ c :: cs) (run D ⟨.startField, p, F⟩ s) available := by
  refine .inr (fun fields rest hrun => ?_)
  obtain ⟨f, hf, t, rfl⟩ := h fields rest hrun
  exact ⟨F.length, f, c, by simp, by simp, hf⟩

/-- The dialect's quote, unless it is the writer's, is as often in the text as in the cells. -/
theorem count_writeCell {q : Char} (hq : q ≠ '"') (sole : Bool) (c : Str) : (writeCell sole c).count q = c.count q := by
  have hdoubled : (doubled c).count q = c.count q := by
    induction c with
    | nil => rfl
    | cons x c ih =>
      rw [doubled_cons, List.count_append, ih, List.count_cons]
      by_cases hx : x = '"'
      · subst hx
        simp [hq.symm]
      · simp [hx, List.count_cons]
        omega
  unfold writeCell
  split
  · simp [quoted, hdoubled, hq.symm]
  · rfl

/-- **A row with a cell the dialect does not give back.** -/
theorem run_badCells (hquote : D.delimiter ≠ '"') (sole : Bool) : ∀ (cs F : List Str),
    (D.delimiter = ',' ∨ cs.length = 1) → (∀ c ∈ cs, c.length ≤ fieldSizeLimit) →
      (∃ c ∈ cs, ¬ cellOk D sole c) →
    Lost D (F ++ cs) (run D ⟨.startField, [], F⟩ (joinCells sole cs ++ '\r' :: '\n' :: T))
      (F.flatten.count D.quotechar + (joinCells sole cs ++ '\r' :: '\n' :: T).count D.quotechar)
  | [c], F, _, hlen, hbad => by
    obtain ⟨c', hc', hbad⟩ := hbad
    rw [List.mem_singleton.1 hc'] at hbad
    rcases fieldAt_badCell (F := F) hquote hbad (hlen c List.mem_cons_self) (.inr ⟨T, rfl⟩) with h | h
    · exact .inl h
    · exact h.lost
  | c :: c' :: cs, F, hcomma, hlen, hbad => by
    have hcomma : D.delimiter = ',' := hcomma.resolve_right (by simp)
    have htext : joinCells sole (c :: c' :: cs) ++ '\r' :: '\n' :: T =
        writeCell sole c ++ ',' :: (joinCells sole (c' :: cs) ++ '\r' :: '\n' :: T) := by simp [joinCells]
    rw [htext]
    have hclen := hlen c List.mem_cons_self
    by_cases hc : cellOk D sole c
    · obtain ⟨state, hstate, hrun⟩ := run_cell (F := F)
        (T := ',' :: (joinCells sole (c' :: cs) ++ '\r' :: '\n' :: T)) hc hclen (by simp)
      have hdelim := run_delimiter (D := D) (p := c) (F := F)
        (s := joinCells sole (c' :: cs) ++ '\r' :: '\n' :: T) hstate (by simp)
      rw [hcomma] at hdelim
      have hrest : ∃ c'' ∈ c' :: cs, ¬ cellOk D sole c'' := by
        obtain ⟨c'', hmem, hbad⟩ := hbad
        rcases List.mem_cons.1 hmem with rfl | hmem
        · exact absurd hc hbad
        · exact ⟨c'', hmem, hbad⟩
      have ih := run_badCells hquote sole (c' :: cs) (F ++ [c]) (.inl hcomma)
        (fun c'' h => hlen c'' (List.mem_cons_of_mem _ h)) hrest
      rw [hrun, hdelim]
      rw [List.append_assoc, List.singleton_append] at ih
      rcases ih with ⟨hq, hheld⟩ | hfields
      · refine .inl ⟨hq, ?_⟩
        have hcount := count_writeCell hq sole c
        rw [List.flatten_append, List.count_append] at hheld
        rw [List.count_append, List.count_cons, hcount]
        simp only [List.flatten_singleton] at hheld
        omega
      · exact .inr hfields
    · rcases fieldAt_badCell (F := F) (T := ',' :: (joinCells sole (c' :: cs) ++ '\r' :: '\n' :: T)) hquote hc hclen
        (.inl ⟨joinCells sole (c' :: cs) ++ '\r' :: '\n' :: T, by simp, by rw [hcomma]⟩) with h | h
      · exact .inl h
      · exact h.lost

/-- **A row the dialect does not give back**: its first record differs from it in some cell, or a quote is lost. -/
theorem run_badRow (hquote : D.delimiter ≠ '"') (hq : D.quotechar ≠ ',') {row : List Str} (hrow : row ≠ [])
    (hbad : ¬ rowOk D row) (hlen : ∀ c ∈ row, c.length ≤ fieldSizeLimit) (T : Str) :
    Lost D row (run D .start (writeRow row ++ T)) ((writeRow row ++ T).count D.quotechar) := by
  have htext : writeRow row ++ T = joinCells (row.length = 1) row ++ '\r' :: '\n' :: T := by
    simp [writeRow_eq hrow]
  rw [run_writeRow hrow, htext]
  by_cases hd : D.delimiter = ',' ∨ row.length = 1
  · have hcell : ∃ c ∈ row, ¬ cellOk D (row.length = 1) c := by
      by_contra hall
      exact hbad ⟨hd, fun c hc => by_contra (fun hnot => hall ⟨c, hc, hnot⟩)⟩
    have h := run_badCells (T := T) hquote (row.length = 1) row [] hd hlen hcell
    simpa using h
  · rw [not_or] at hd
    match row, hrow, hd, hlen with
    | [c], _, hd, _ => exact absurd rfl hd.2
    | c :: c' :: cs, _, hd, hlen =>
      have hsole : decide ((c :: c' :: cs).length = 1) = false := by simp
      have hjoin : joinCells false (c :: c' :: cs) ++ '\r' :: '\n' :: T =
          writeCell false c ++ ',' :: (joinCells false (c' :: cs) ++ '\r' :: '\n' :: T) := by simp [joinCells]
      rw [hsole, hjoin]
      rcases fieldAt_joined (F := []) (s := joinCells false (c' :: cs) ++ '\r' :: '\n' :: T) hquote hd.1 hq
        (hlen c List.mem_cons_self) (by simp) with h | h
      · exact .inl (by simpa using h)
      · exact h.lost

end

/-! ## Counting over a table -/

/-- How often a character stands in the cells of a table. -/
def cellCount (x : Char) (rows : List (List Str)) : Nat := (rows.map (fun row => row.flatten.count x)).sum

theorem held_ok (x : Char) (rows : List (List Str)) : held x (rows.map .ok) = cellCount x rows := by
  unfold held cellCount
  rw [List.map_map]
  rfl

theorem cellCount_append (x : Char) (rows rows' : List (List Str)) :
    cellCount x (rows ++ rows') = cellCount x rows + cellCount x rows' := by
  simp [cellCount]

theorem count_joinCells {x : Char} (hquote : x ≠ '"') (hcomma : x ≠ ',') (sole : Bool) : ∀ cs : List Str,
    (joinCells sole cs).count x = cs.flatten.count x
  | []            => rfl
  | [c]           => by simp [joinCells, count_writeCell hquote]
  | c :: c' :: cs => by
    have ih := count_joinCells hquote hcomma sole (c' :: cs)
    have hflat : (c :: c' :: cs).flatten.count x = c.count x + (c' :: cs).flatten.count x := by
      rw [List.flatten_cons, List.count_append]
    rw [joinCells, List.count_append, List.count_cons_of_ne hcomma.symm, ih, count_writeCell hquote, hflat]

/-- **The writer adds commas, quotes and line ends only.** -/
theorem count_write {x : Char} (hquote : x ≠ '"') (hcomma : x ≠ ',') (hcr : x ≠ '\r') (hlf : x ≠ '\n') :
    ∀ rows : List (List Str), (∀ row ∈ rows, row ≠ []) → (write rows).count x = cellCount x rows
  | [], _ => rfl
  | row :: rows, h => by
    have ih := count_write hquote hcomma hcr hlf rows (fun row' h' => h row' (List.mem_cons_of_mem _ h'))
    have hwrite : write (row :: rows) = writeRow row ++ write rows := by simp [write]
    have hrow : (writeRow row).count x = row.flatten.count x := by
      rw [writeRow_eq (h row List.mem_cons_self), List.count_append, count_joinCells hquote hcomma]
      simp [hcr.symm, hlf.symm]
    rw [hwrite, List.count_append, hrow, ih]
    simp [cellCount]

end Csv
end DataOps

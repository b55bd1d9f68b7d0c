import DataOps.LibCsv
/-!
# LibCsvCells — reading back what the writer wrote

A cell is `cellOk` for a dialect when reading what the writer made of it gives it back; then rows of such cells are read
back (`read_write`).  The writer separates with commas, so a dialect with another delimiter reads back single-cell rows
only.
-/
namespace DataOps
namespace Csv

/-- Whether the writer quotes a cell; `sole` is whether it is the only one of its row. -/
def isQuoted (sole : Bool) (c : Str) : Bool := needsQuotes c || (sole && c.isEmpty)

def writeCell (sole : Bool) (c : Str) : Str := if isQuoted sole c then quoted c else c

/-- A dialect gives a cell back: its quotes are the writer's and doubled if there are any, or it needs none and has
neither a delimiter nor a beginning the dialect takes for something else. -/
def cellOk (D : Dialect) (sole : Bool) (c : Str) : Prop :=
  if isQuoted sole c then D.quotechar = '"' ∧ ('"' ∈ c → D.doublequote = true)
  else c.head? ≠ some D.quotechar ∧ (D.skipinitialspace = true → c.head? ≠ some ' ') ∧ D.delimiter ∉ c

instance (D : Dialect) (sole : Bool) (c : Str) : Decidable (cellOk D sole c) := by
  unfold cellOk
  infer_instance

/-- A dialect gives a row back. -/
def rowOk (D : Dialect) (row : List Str) : Prop :=
  (D.delimiter = ',' ∨ row.length = 1) ∧ ∀ c ∈ row, cellOk D (row.length = 1) c

instance (D : Dialect) (row : List Str) : Decidable (rowOk D row) := inferInstanceAs (Decidable (_ ∧ _))

/-- The cells of a row, separated by commas. -/
def joinCells (sole : Bool) : List Str → Str
  | []           => []
  | [c]          => writeCell sole c
  | c :: c' :: cs => writeCell sole c ++ ',' :: joinCells sole (c' :: cs)

theorem writeCell_of_ne {c : Str} : writeCell false c = writeField c := by
  simp [writeCell, isQuoted, writeField]

theorem intercalate_eq_joinCells : ∀ cs : List Str, [','].intercalate (cs.map writeField) = joinCells false cs
  | []            => rfl
  | [c]           => by simp [joinCells, writeCell_of_ne, List.intercalate]
  | c :: c' :: cs => by
    have ih := intercalate_eq_joinCells (c' :: cs)
    rw [List.map_cons] at ih
    rw [List.map_cons, List.map_cons, List.intercalate_cons_cons, ih, joinCells, writeCell_of_ne]
    simp

theorem writeRow_eq {row : List Str} (hrow : row ≠ []) :
    writeRow row = joinCells (row.length = 1) row ++ ['\r', '\n'] := by
  unfold writeRow
  match row with
  | [c] =>
    by_cases hc : c = []
    · subst hc
      rfl
    · simp [joinCells, writeCell, isQuoted, hc, writeField, List.intercalate]
  | c :: c' :: cs =>
    rw [if_neg (by simp), intercalate_eq_joinCells]
    simp

theorem isNewline_of_unquoted {sole : Bool} {c : Str} (h : isQuoted sole c = false) {x : Char} (hx : x ∈ c) :
    isNewline x = false ∧ x ≠ '"' ∧ x ≠ ',' := by
  have hneeds : needsQuotes c = false := by
    unfold isQuoted at h
    exact (Bool.or_eq_false_iff.1 h).1
  have hall : ∀ y ∈ c, ¬ (((y = ',' ∨ y = '"') ∨ y = '\r') ∨ y = '\n') := by
    simpa [needsQuotes] using hneeds
  have hx' := hall x hx
  simp only [not_or] at hx'
  obtain ⟨⟨⟨hcomma, hquote⟩, hcr⟩, hlf⟩ := hx'
  exact ⟨by simp [isNewline, hcr, hlf], hquote, hcomma⟩

theorem doubled_cons (x : Char) (c : Str) : doubled (x :: c) = (if x = '"' then ['"', '"'] else [x]) ++ doubled c := by
  simp [doubled]

/-! ## Reading back a cell -/

section
variable {D : Dialect} {p : Str} {F : List Str} {c T : Str}

/-- The state a cell is read in to its end. -/
def AtEnd (state : State) : Prop := state = .startField ∨ state = .inField ∨ state = .quoteInQuotedField

theorem run_quoted (hq : D.quotechar = '"') (hT : T ≠ []) : ∀ (c p : Str), ('"' ∈ c → D.doublequote = true) →
    p.length + c.length ≤ fieldSizeLimit →
    run D ⟨.inQuotedField, p, F⟩ (doubled c ++ '"' :: T) =
      run D ⟨if D.doublequote then .quoteInQuotedField else .inField, p ++ c, F⟩ T
  | [], p, _, _ => by
    have h := run_quotechar (D := D) (p := p) (F := F) hT
    rw [hq] at h
    simpa [doubled] using h
  | x :: c, p, hdouble, hlen => by
    rw [List.length_cons] at hlen
    have ih := run_quoted hq hT c (p ++ [x]) (fun h => hdouble (List.mem_cons_of_mem _ h)) (by simp; omega)
    rw [List.append_assoc, List.singleton_append] at ih
    rw [doubled_cons]
    by_cases hx : x = '"'
    · subst hx
      have hb := hdouble List.mem_cons_self
      have h1 := run_quotechar (D := D) (p := p) (F := F) (s := '"' :: (doubled c ++ '"' :: T)) (by simp)
      have h2 := run_doubled (D := D) (p := p) (F := F) (s := doubled c ++ '"' :: T) (by omega) (by simp)
      rw [hq] at h1 h2
      rw [if_pos hb] at h1
      rw [if_pos rfl]
      exact h1.trans (h2.trans ih)
    · rw [if_neg hx]
      have h1 := run_inQuotedField (D := D) (p := p) (F := F) (s := doubled c ++ '"' :: T) (by rw [hq]; exact hx)
        (by omega)
      exact h1.trans ih

theorem run_unquoted (hT : T ≠ []) : ∀ (c p : Str), (∀ x ∈ c, isNewline x = false) → D.delimiter ∉ c →
    p.length + c.length ≤ fieldSizeLimit →
    run D ⟨.inField, p, F⟩ (c ++ T) = run D ⟨.inField, p ++ c, F⟩ T
  | [], p, _, _, _ => by simp
  | x :: c, p, hline, hd, hlen => by
    rw [List.length_cons] at hlen
    have ih := run_unquoted hT c (p ++ [x]) (fun y hy => hline y (List.mem_cons_of_mem _ hy))
      (fun h => hd (List.mem_cons_of_mem _ h)) (by simp; omega)
    have h1 := run_inField (D := D) (p := p) (F := F) (s := c ++ T) (hline x List.mem_cons_self)
      (fun h => hd (h ▸ List.mem_cons_self)) (by omega) (by simp [hT])
    rw [List.append_assoc, List.singleton_append] at ih
    exact h1.trans ih

/-- **A cell a dialect gives back is read to its end.** -/
theorem run_cell {sole : Bool} (hok : cellOk D sole c) (hlen : c.length ≤ fieldSizeLimit) (hT : T ≠ []) :
    ∃ state, AtEnd state ∧ run D ⟨.startField, [], F⟩ (writeCell sole c ++ T) = run D ⟨state, c, F⟩ T := by
  unfold cellOk at hok
  unfold writeCell
  by_cases hquoted : isQuoted sole c = true
  · rw [if_pos hquoted] at hok ⊢
    obtain ⟨hq, hdouble⟩ := hok
    refine ⟨if D.doublequote then .quoteInQuotedField else .inField, ?_, ?_⟩
    · cases D.doublequote
      · exact .inr (.inl rfl)
      · exact .inr (.inr rfl)
    · have hopen := run_open (D := D) (p := []) (F := F) (s := doubled c ++ '"' :: T) (by simp)
      have hread := run_quoted (F := F) hq hT c [] hdouble (by simpa using hlen)
      rw [hq] at hopen
      simpa [quoted] using hopen.trans hread
  · rw [if_neg hquoted] at hok ⊢
    have hchars := fun x hx => @isNewline_of_unquoted sole c (Bool.not_eq_true _ ▸ hquoted) x hx
    obtain ⟨hhead, hspace, hd⟩ := hok
    match c, hhead, hspace, hd, hchars, hlen with
    | [], _, _, _, _, _ => exact ⟨.startField, .inl rfl, rfl⟩
    | x :: c, hhead, hspace, hd, hchars, hlen =>
      rw [List.length_cons] at hlen
      have h1 := run_startField (D := D) (p := []) (F := F) (s := c ++ T) (hchars x List.mem_cons_self).1
        (fun h => hhead (by simp [h])) (fun h => hd (h ▸ List.mem_cons_self))
        (fun h => Bool.eq_false_iff.2 (fun hs => hspace hs (by simp [h])))
        (by simp [fieldSizeLimit]) (by simp [hT])
      have h2 := run_unquoted (F := F) hT c [x] (fun y hy => (hchars y (List.mem_cons_of_mem _ hy)).1)
        (fun h => hd (List.mem_cons_of_mem _ h)) (by simp; omega)
      exact ⟨.inField, .inr (.inl rfl), h1.trans h2⟩

/-- **A row a dialect gives back is read as one record.** -/
theorem run_cells (sole : Bool) : ∀ (cs : List Str) (F : List Str), cs ≠ [] →
    (D.delimiter = ',' ∨ cs.length = 1) → (∀ c ∈ cs, cellOk D sole c ∧ c.length ≤ fieldSizeLimit) →
    run D ⟨.startField, [], F⟩ (joinCells sole cs ++ '\r' :: '\n' :: T) = .ok (F ++ cs) :: run D .start T
  | [c], F, _, _, hok => by
    obtain ⟨hc, hlen⟩ := hok c List.mem_cons_self
    obtain ⟨state, hstate, hrun⟩ := run_cell (F := F) (T := '\r' :: '\n' :: T) hc hlen (by simp)
    rw [joinCells, hrun, run_crlf hstate]
  | c :: c' :: cs, F, _, hd, hok => by
    have hcomma : D.delimiter = ',' := hd.resolve_right (by simp)
    obtain ⟨hc, hlen⟩ := hok c List.mem_cons_self
    obtain ⟨state, hstate, hrun⟩ := run_cell (F := F)
      (T := ',' :: (joinCells sole (c' :: cs) ++ '\r' :: '\n' :: T)) hc hlen (by simp)
    have hdelim := run_delimiter (D := D) (p := c) (F := F)
      (s := joinCells sole (c' :: cs) ++ '\r' :: '\n' :: T) hstate (by simp)
    have ih := run_cells sole (c' :: cs) (F ++ [c]) (by simp) (.inl hcomma)
      (fun c hc => hok c (List.mem_cons_of_mem _ hc))
    rw [hcomma] at hdelim
    rw [joinCells, List.append_assoc, List.cons_append, hrun, hdelim, ih, List.append_assoc, List.singleton_append]

/-- A written row does not begin with the end of a line. -/
theorem writeRow_head {row : List Str} (hrow : row ≠ []) :
    ∃ x s, writeRow row = x :: s ∧ s ≠ [] ∧ isNewline x = false := by
  have hcell : ∀ (sole : Bool) (c : Str), writeCell sole c ≠ [] →
      ∃ x s, writeCell sole c = x :: s ∧ isNewline x = false := by
    intro sole c hne
    unfold writeCell at hne ⊢
    by_cases hquoted : isQuoted sole c = true
    · rw [if_pos hquoted]
      exact ⟨'"', _, rfl, by simp [isNewline]⟩
    · rw [if_neg hquoted] at hne ⊢
      obtain ⟨x, s, rfl⟩ := List.exists_cons_of_ne_nil hne
      exact ⟨x, s, rfl, (isNewline_of_unquoted (Bool.not_eq_true _ ▸ hquoted) List.mem_cons_self).1⟩
  rw [writeRow_eq hrow]
  rcases row with _ | ⟨c, _ | ⟨c', cs⟩⟩
  · contradiction
  · have hne : writeCell true c ≠ [] := by
      cases c <;> simp [writeCell, isQuoted, quoted]
      split <;> simp
    obtain ⟨x, s, hs, hx⟩ := hcell true c hne
    exact ⟨x, s ++ ['\r', '\n'], by simp [joinCells, hs], by simp, hx⟩
  · by_cases hne : writeCell false c = []
    · refine ⟨',', joinCells false (c' :: cs) ++ ['\r', '\n'], ?_, by simp, by simp [isNewline]⟩
      simp [joinCells, hne]
    · obtain ⟨x, s, hs, hx⟩ := hcell false c hne
      exact ⟨x, s ++ ',' :: joinCells false (c' :: cs) ++ ['\r', '\n'], by simp [joinCells, hs], by simp, hx⟩

/-- A row is read from its first field on. -/
theorem run_writeRow {row : List Str} (hrow : row ≠ []) (T : Str) :
    run D .start (writeRow row ++ T) =
      run D ⟨.startField, [], []⟩ (joinCells (row.length = 1) row ++ '\r' :: '\n' :: T) := by
  obtain ⟨x, s, hs, hne, hx⟩ := writeRow_head hrow
  have htext : writeRow row ++ T = joinCells (row.length = 1) row ++ '\r' :: '\n' :: T := by
    simp [writeRow_eq hrow]
  rw [← htext, hs, List.cons_append]
  exact run_start hx (by simp [hne])

theorem run_row {row : List Str} (hrow : row ≠ []) (hok : rowOk D row)
    (hlen : ∀ c ∈ row, c.length ≤ fieldSizeLimit) :
    run D .start (writeRow row ++ T) = .ok row :: run D .start T := by
  rw [run_writeRow hrow, run_cells _ row [] hrow hok.1 (fun c hc => ⟨hok.2 c hc, hlen c hc⟩), List.nil_append]

/-- **What the writer writes is read back.** -/
theorem run_write : ∀ rows : List (List Str),
    (∀ row ∈ rows, row ≠ [] ∧ rowOk D row ∧ ∀ c ∈ row, c.length ≤ fieldSizeLimit) →
    run D .start (write rows ++ T) = rows.map .ok ++ run D .start T
  | [], _ => by simp [write]
  | row :: rows, h => by
    obtain ⟨hrow, hok, hlen⟩ := h row List.mem_cons_self
    have ih := run_write rows (fun row' h' => h row' (List.mem_cons_of_mem _ h'))
    have hwrite : write (row :: rows) ++ T = writeRow row ++ (write rows ++ T) := by simp [write]
    rw [hwrite, run_row hrow hok hlen, ih, List.map_cons, List.cons_append]

theorem run_nil : run D .start [] = [] := by
  simp [run, endLines, records, Reader.start]

theorem read_write {rows : List (List Str)}
    (h : ∀ row ∈ rows, row ≠ [] ∧ rowOk D row ∧ ∀ c ∈ row, c.length ≤ fieldSizeLimit) :
    read D (write rows) = rows.map .ok := by
  have hrun := run_write (T := []) rows h
  rw [run_nil, List.append_nil, List.append_nil] at hrun
  exact hrun

end

end Csv
end DataOps

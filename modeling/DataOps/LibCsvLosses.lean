import Mathlib.Algebra.BigOperators.Group.List.Basic
import Mathlib.Algebra.GroupWithZero.Nat
import DataOps.LibCsvCells
/-!
# LibCsvLosses — what a dialect does not give back

`process_moves` says what a character can do to the fields; hence they only grow (`records_fields`, `records_field`),
and no character is read more often than it stands in the text (`held_records`).  A row that is not `rowOk` has a cell
that comes back as another field, even up to blanks around it, or loses a quote character (`run_badRow`).
-/
namespace DataOps
namespace Csv

section
variable {D : Dialect} {r r' : Reader} {p : Str} {F : List Str} {x : Char} {s : Str}

/-! ## What one character does -/

/-- The states inside a field, where the field is still to be saved. -/
def Inside (state : State) : Prop := state ≠ .startRecord ∧ state ≠ .eatCrnl

/-- A character goes to the field, or nowhere, or saves the field; inside a field, it stays there unless saved. -/
def Moves (r : Reader) (c : Option Char) (r' : Reader) : Prop :=
  (r'.fields = r.fields ∧
      (r'.field = r.field ∨ ∃ x, c = some x ∧ r'.field = r.field ++ [x] ∧ r.field.length < fieldSizeLimit) ∧
      (Inside r.state → Inside r'.state)) ∨
    (r'.fields = r.fields ++ [r.field] ∧ r'.field = [])

theorem Moves.save (r : Reader) (c : Option Char) (state : State) : Moves r c (r.saveField state) := .inr ⟨rfl, rfl⟩

theorem Moves.stay {state : State} (c : Option Char) (h : Inside r.state → Inside state) :
    Moves r c { r with state := state } := .inl ⟨rfl, .inl rfl, h⟩

theorem Moves.add {state : State} (h : r.addChar x state = .ok r') (hin : Inside state) : Moves r (some x) r' := by
  unfold Reader.addChar at h
  split at h
  · cases h
  · rename_i hlt
    cases h
    exact .inl ⟨rfl, .inr ⟨x, rfl, rfl, Nat.not_le.1 hlt⟩, fun _ => hin⟩

theorem inside_inField : Inside .inField := ⟨by simp, by simp⟩
theorem inside_inQuotedField : Inside .inQuotedField := ⟨by simp, by simp⟩
theorem inside_startField : Inside .startField := ⟨by simp, by simp⟩

theorem processStartField_moves {c : Option Char} (h : processStartField D r c = .ok r') : Moves r c r' := by
  unfold processStartField at h
  cases c with
  | none => cases h; exact .save _ _ _
  | some x =>
    dsimp only at h
    by_cases h1 : isNewline x = true
    · rw [if_pos h1] at h; cases h; exact .save _ _ _
    rw [if_neg h1] at h
    by_cases h2 : x = D.quotechar
    · rw [if_pos h2] at h; cases h; exact .stay _ (fun _ => inside_inQuotedField)
    rw [if_neg h2] at h
    by_cases h3 : x = ' ' ∧ D.skipinitialspace = true
    · rw [if_pos h3] at h; cases h; exact .stay _ (fun _ => inside_startField)
    rw [if_neg h3] at h
    by_cases h4 : x = D.delimiter
    · rw [if_pos h4] at h; cases h; exact .save _ _ _
    rw [if_neg h4] at h
    exact .add h inside_inField

/-- **What one character can do.** -/
theorem process_moves {c : Option Char} (h : process D r c = .ok r') : Moves r c r' := by
  unfold process at h
  cases hstate : r.state with
  | startRecord =>
    have hout : ¬ Inside r.state := fun hin => hin.1 hstate
    rw [hstate] at h
    dsimp only [processStartRecord] at h
    cases c with
    | none => cases h; exact .stay _ id
    | some x =>
      dsimp only at h
      by_cases h1 : isNewline x = true
      · rw [if_pos h1] at h; cases h; exact .stay _ (fun hin => absurd hin hout)
      rw [if_neg h1] at h
      exact processStartField_moves h
  | startField =>
    rw [hstate] at h
    exact processStartField_moves h
  | inField =>
    rw [hstate] at h
    dsimp only [processInField] at h
    cases c with
    | none => cases h; exact .save _ _ _
    | some x =>
      dsimp only at h
      by_cases h1 : isNewline x = true
      · rw [if_pos h1] at h; cases h; exact .save _ _ _
      rw [if_neg h1] at h
      by_cases h2 : x = D.delimiter
      · rw [if_pos h2] at h; cases h; exact .save _ _ _
      rw [if_neg h2] at h
      exact .add h inside_inField
  | inQuotedField =>
    rw [hstate] at h
    dsimp only [processInQuotedField] at h
    cases c with
    | none => cases h; exact .stay _ id
    | some x =>
      dsimp only at h
      by_cases h1 : x = D.quotechar
      · rw [if_pos h1] at h; cases h
        exact .stay _ (fun _ => by cases D.doublequote <;> exact ⟨by simp, by simp⟩)
      rw [if_neg h1] at h
      exact .add h inside_inQuotedField
  | quoteInQuotedField =>
    rw [hstate] at h
    dsimp only [processQuoteInQuotedField] at h
    cases c with
    | none => cases h; exact .save _ _ _
    | some x =>
      dsimp only at h
      by_cases h1 : x = D.quotechar
      · rw [if_pos h1] at h
        exact .add h inside_inQuotedField
      rw [if_neg h1] at h
      by_cases h2 : x = D.delimiter
      · rw [if_pos h2] at h; cases h; exact .save _ _ _
      rw [if_neg h2] at h
      by_cases h3 : isNewline x = true
      · rw [if_pos h3] at h; cases h; exact .save _ _ _
      rw [if_neg h3] at h
      exact .add h inside_inField
  | eatCrnl =>
    have hout : ¬ Inside r.state := fun hin => hin.2 hstate
    rw [hstate] at h
    dsimp only [processEatCrnl] at h
    cases c with
    | none => cases h; exact .stay _ (fun hin => absurd hin hout)
    | some x =>
      dsimp only at h
      by_cases h1 : isNewline x = true
      · rw [if_pos h1] at h; cases h; exact .stay _ id
      rw [if_neg h1] at h
      cases h

/-! ## The first record -/

/-- The first step of a run that gives a record. -/
theorem records_cons {c : Option Char} {cs : List (Option Char)} {fields : List Str}
    {rest : List (Except Error (List Str))} (h : records D r (c :: cs) = .ok fields :: rest) :
    ∃ r', process D r c = .ok r' ∧
      ((r'.state = .startRecord ∧ fields = r'.fields) ∨ records D r' cs = .ok fields :: rest) := by
  rw [records] at h
  cases hp : process D r c with
  | error e =>
    rw [hp] at h
    cases h
  | ok r' =>
    rw [hp] at h
    dsimp only at h
    split at h
    · rename_i hend
      cases h
      exact ⟨r', rfl, .inl ⟨hend.2, rfl⟩⟩
    · exact ⟨r', rfl, .inr h⟩

/-- **The fields of a record are not given up.** -/
theorem records_fields : ∀ {cs : List (Option Char)} {r : Reader} {fields : List Str}
    {rest : List (Except Error (List Str))}, records D r cs = .ok fields :: rest → r.fields <+: fields
  | [], r, fields, rest, h => by
    rw [records] at h
    split at h
    · cases h
      exact List.prefix_append _ _
    · cases h
  | c :: cs, r, fields, rest, h => by
    obtain ⟨r', hp, hrest⟩ := records_cons h
    have hfields : r.fields <+: r'.fields := by
      rcases process_moves hp with ⟨heq, -⟩ | ⟨heq, -⟩
      · exact heq ▸ List.prefix_refl _
      · rw [heq]
        exact List.prefix_append _ _
    rcases hrest with ⟨-, rfl⟩ | hrest
    · exact hfields
    · exact hfields.trans (records_fields hrest)

/-- **What a field holds is not given up**: the field saved at its place extends it. -/
theorem records_field : ∀ {cs : List (Option Char)} {r : Reader} {fields : List Str}
    {rest : List (Except Error (List Str))}, Inside r.state → records D r cs = .ok fields :: rest →
      ∃ f, r.field <+: f ∧ r.fields ++ [f] <+: fields
  | [], r, fields, rest, _, h => by
    rw [records] at h
    split at h
    · cases h
      exact ⟨r.field, List.prefix_refl _, List.prefix_refl _⟩
    · cases h
  | c :: cs, r, fields, rest, hin, h => by
    obtain ⟨r', hp, hrest⟩ := records_cons h
    rcases process_moves hp with ⟨heq, hfield, hinside⟩ | ⟨heq, -⟩
    · rcases hrest with ⟨hstart, -⟩ | hrest
      · exact absurd hstart (hinside hin).1
      · obtain ⟨f, hf, hfields⟩ := records_field (hinside hin) hrest
        rw [heq] at hfields
        refine ⟨f, List.IsPrefix.trans ?_ hf, hfields⟩
        rcases hfield with h | ⟨x, -, h, -⟩
        · exact h ▸ List.prefix_refl _
        · rw [h]
          exact List.prefix_append _ _
    · refine ⟨r.field, List.prefix_refl _, ?_⟩
      rcases hrest with ⟨-, rfl⟩ | hrest
      · exact heq ▸ List.prefix_refl _
      · rw [← heq]
        exact records_fields hrest

/-! ## The size of a field -/

/-- What the reader holds is within the limit. -/
def Reader.Small (r : Reader) : Prop :=
  r.field.length ≤ fieldSizeLimit ∧ ∀ f ∈ r.fields, f.length ≤ fieldSizeLimit

theorem process_small {c : Option Char} (h : process D r c = .ok r') (hr : r.Small) : r'.Small := by
  obtain ⟨hfield, hfields⟩ := hr
  rcases process_moves h with ⟨heq, hf | ⟨x, -, hf, hlt⟩, -⟩ | ⟨heq, hf⟩
  · exact ⟨by rw [hf]; exact hfield, by rw [heq]; exact hfields⟩
  · refine ⟨?_, by rw [heq]; exact hfields⟩
    rw [hf, List.length_append, List.length_singleton]
    omega
  · refine ⟨by simp [hf], fun f hmem => ?_⟩
    rw [heq, List.mem_append, List.mem_singleton] at hmem
    rcases hmem with hmem | rfl
    · exact hfields f hmem
    · exact hfield

/-- **Every field read is within the limit.** -/
theorem records_small : ∀ {cs : List (Option Char)} {r : Reader}, r.Small → ∀ fields, .ok fields ∈ records D r cs →
    ∀ f ∈ fields, f.length ≤ fieldSizeLimit
  | [], r, hr, fields, hmem, f, hf => by
    rw [records] at hmem
    split at hmem
    · have heq : fields = r.fields ++ [r.field] := by simpa [Reader.saveField] using hmem
      rw [heq, List.mem_append, List.mem_singleton] at hf
      rcases hf with hf | rfl
      · exact hr.2 f hf
      · exact hr.1
    · cases hmem
  | c :: cs, r, hr, fields, hmem, f, hf => by
    rw [records] at hmem
    cases hp : process D r c with
    | error e =>
      rw [hp] at hmem
      simp at hmem
    | ok r' =>
      rw [hp] at hmem
      have hr' := process_small hp hr
      dsimp only at hmem
      split at hmem
      · rcases List.mem_cons.1 hmem with heq | hmem
        · cases heq
          exact hr'.2 f hf
        · exact records_small ⟨by simp [Reader.start], by simp [Reader.start]⟩ fields hmem f hf
      · exact records_small hr' fields hmem f hf

theorem read_small {text : Str} {fields : List Str} (hmem : .ok fields ∈ read D text) {f : Str} (hf : f ∈ fields) :
    f.length ≤ fieldSizeLimit :=
  records_small ⟨by simp [Reader.start], by simp [Reader.start]⟩ fields hmem f hf

/-! ## Counting a character -/

/-- How often a character stands in the records read. -/
def held (x : Char) (items : List (Except Error (List Str))) : Nat :=
  (items.map (fun item => match item with
    | .ok fields => fields.flatten.count x
    | .error _ => 0)).sum

theorem process_count {c : Option Char} (h : process D r c = .ok r') :
    r'.fields.flatten.count x + r'.field.count x ≤
      r.fields.flatten.count x + r.field.count x + [c].count (some x) := by
  rcases process_moves h with ⟨heq, hfield | ⟨y, hy, hfield, -⟩, -⟩ | ⟨heq, hfield⟩
  · rw [heq, hfield]
    omega
  · subst hy
    rw [heq, hfield, List.count_append, List.count_singleton, List.count_singleton]
    by_cases hyx : y = x
    · simp [hyx, Nat.add_assoc]
    · simp [hyx]
  · rw [heq, hfield, List.flatten_append, List.count_append]
    simp

/-- **No character is read more often than it stands in the text.** -/
theorem held_records : ∀ (cs : List (Option Char)) (r : Reader),
    held x (records D r cs) ≤ r.fields.flatten.count x + r.field.count x + cs.count (some x)
  | [], r => by
    rw [records]
    split
    · simp [held, Reader.saveField]
    · simp [held]
  | c :: cs, r => by
    rw [records]
    cases hp : process D r c with
    | error e => simp [held]
    | ok r' =>
      have hstep := process_count (x := x) hp
      have hcons : (c :: cs).count (some x) = [c].count (some x) + cs.count (some x) := by
        rw [← List.count_append, List.singleton_append]
      dsimp only
      split
      · have ih := held_records cs .start
        have hheld : held x (.ok r'.fields :: records D .start cs) =
            r'.fields.flatten.count x + held x (records D .start cs) := by simp [held]
        simp only [Reader.start, List.flatten_nil, List.count_nil] at ih
        rw [hheld]
        simp only [Reader.start] at *
        omega
      · have ih := held_records cs r'
        omega

theorem count_endLines : ∀ s : Str, (endLines s).count (some x) = s.count x
  | []                => rfl
  | '\r' :: '\n' :: s => by
    have ih := count_endLines s
    rw [endLines_crlf]
    simp [List.count_cons, ih]
  | [c]               => by simp [endLines, List.count_cons]
  | c :: c' :: s      => by
    by_cases hcrlf : c = '\r' ∧ c' = '\n'
    · obtain ⟨rfl, rfl⟩ := hcrlf
      have ih := count_endLines s
      rw [endLines_crlf]
      simp [List.count_cons, ih]
    · have ih := count_endLines (c' :: s)
      rw [endLines]
      · split <;> simp [List.count_cons, ih]
      · intro h1 h2
        exact absurd ⟨h1, h2⟩ hcrlf

theorem held_run (s : Str) : held x (run D r s) ≤ r.fields.flatten.count x + r.field.count x + s.count x := by
  have h := held_records (D := D) (x := x) (endLines s) r
  rwa [count_endLines] at h

end

end Csv
end DataOps

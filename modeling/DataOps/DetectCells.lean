import DataOps.DetectEngine
/-!
# DetectCells — which cells the value rules report

Six rules report a cell for its value: three for its blanks, one for a bad number, and two for a form that is not the most
frequent one of its column.  What they report at a row and a column's name is said once, cell by cell (`reported_iff`).
-/
namespace DataOps
namespace Detection

section
variable (py : Python)

/-- The family of a nonempty boolean token. -/
def familyOf (value : Str) : Option BooleanFamily :=
  if value = [] then none else (classifyBooleanToken py value).map (fun token => token.1)

/-- A form that is not the most frequent one of the column. -/
def Deviates {κ : Type} [DecidableEq κ] (priority : List κ) (formOf : Str → Option κ) (column : List Str) (value : Str) :
    Prop :=
  ∃ form, formOf value = some form ∧ Dict.mostFrequent priority (column.filterMap formOf) ≠ some form

/-- A value rule reports a cell, given the rule of its column and the column's cells. -/
def Flags (issueType : IssueType) (rule : Option (ColumnRuleConfig py)) (column : List Str) (value : Str) : Prop :=
  match issueType with
  | .leadingWhitespace          => value ≠ [] ∧ value ≠ value.lstrip
  | .trailingWhitespace         => value ≠ [] ∧ value ≠ value.rstrip
  | .multipleInternalSpaces     => value ≠ [] ∧ value.searchRun = true
  | .invalidNumeric             =>
    rule.any (fun rule => rule.expectedType = some .numeric) = true ∧ value ≠ [] ∧ isValidNumeric py value = false
  | .booleanInconsistency       => rule.any (fun rule => rule.expectedType = some .boolean) = true ∧
    ((value ≠ [] ∧ classifyBooleanToken py value = none) ∨ Deviates familiesByName (familyOf py) column value)
  | .inconsistentCapitalization => rule.any (fun rule => rule.capitalizationCheckEnabled) = true ∧
    Deviates patternPriority (classifyCasing py) column value
  | _                           => False

/-- The issue types of the whitespace, numeric, boolean and capitalization rules. -/
def valueIssueTypes : List IssueType :=
  [.leadingWhitespace, .trailingWhitespace, .multipleInternalSpaces, .invalidNumeric, .booleanInconsistency,
    .inconsistentCapitalization]

end

section
variable {py : Python} {d : DetectionDataset py}

/-- The cells of a column. -/
def DetectionDataset.column (d : DetectionDataset py) (c : d.ColIndex) : List Str :=
  (List.finRange d.rows.length).map (fun i => d.cell i c)

/-- **An issue type is reported at a row and a column's name.** -/
def Reported (d : DetectionDataset py) (issueType : IssueType) (rowNumber : Nat) (columnName : Str) : Prop :=
  ∃ f ∈ allFindings d, f.issueType = issueType ∧ f.rowNumber = rowNumber ∧ f.columnName = some columnName

theorem mem_columnsWith_any {governs : ColumnRuleConfig py → Bool} {c : d.ColIndex} :
    c ∈ columnsWith governs d ↔ (d.columnRules.get? (d.header c)).any governs = true := by
  rw [mem_columnsWith, Option.any_eq_true]

/-- The rule of a column. -/
def DetectionDataset.ruleOf (d : DetectionDataset py) (c : d.ColIndex) : Option (ColumnRuleConfig py) :=
  d.columnRules.get? (d.header c)

/-- A rule reports exactly the cells that its issue type flags, each as its own finding. -/
structure ReportsFlagged (rule : DetectionRule py) (d : DetectionDataset py) : Prop where
  sound    : ∀ f ∈ rule.detect d, ∃ i c, Flags py rule.issueType (d.ruleOf c) (d.column c) (d.cell i c) ∧
    f.rowNumber = csvRowNumber i ∧ f.columnName = some (d.header c) ∧ f.originalValue = some (d.cell i c)
  complete : ∀ i c, Flags py rule.issueType (d.ruleOf c) (d.column c) (d.cell i c) →
    ∃ f ∈ rule.detect d, f.rowNumber = csvRowNumber i ∧ f.columnName = some (d.header c)

theorem cellRule_reports {issueType : IssueType} {severity : Severity}
    {columns : (d : DetectionDataset py) → List d.ColIndex}
    {flags : (d : DetectionDataset py) → d.RowIndex → d.ColIndex → Bool} {suggestedFix : Str → Option Str}
    (h : ∀ i c, (c ∈ columns d ∧ flags d i c = true) ↔ Flags py issueType (d.ruleOf c) (d.column c) (d.cell i c)) :
    ReportsFlagged (cellRule issueType severity columns flags some suggestedFix) d := by
  constructor
  · intro f hf
    obtain ⟨i, c, hc, hflags, rfl⟩ := mem_cellRule.1 hf
    exact ⟨i, c, (h i c).1 ⟨hc, hflags⟩, rfl, rfl, rfl⟩
  · intro i c hflagged
    obtain ⟨hc, hflags⟩ := (h i c).2 hflagged
    exact ⟨_, mem_cellRule.2 ⟨i, c, hc, hflags, rfl⟩, rfl, rfl⟩

/-! ## The whitespace rules and the numeric rule -/

theorem mem_allColumns (c : d.ColIndex) : c ∈ allColumns d := List.mem_finRange c

theorem leadingWhitespaceRule_reports (d : DetectionDataset py) : ReportsFlagged leadingWhitespaceRule d := by
  refine cellRule_reports (fun i c => ?_)
  simp [Flags, mem_allColumns]

theorem trailingWhitespaceRule_reports (d : DetectionDataset py) : ReportsFlagged trailingWhitespaceRule d := by
  refine cellRule_reports (fun i c => ?_)
  simp [Flags, mem_allColumns]

theorem multipleInternalSpacesRule_reports (d : DetectionDataset py) :
    ReportsFlagged multipleInternalSpacesRule d := by
  refine cellRule_reports (fun i c => ?_)
  simp [Flags, mem_allColumns]

theorem invalidNumericRule_reports (d : DetectionDataset py) : ReportsFlagged invalidNumericRule d := by
  refine cellRule_reports (fun i c => ?_)
  rw [mem_columnsWith_any]
  simp [Flags, DetectionDataset.ruleOf]

/-! ## The boolean rule and the capitalization rule -/

theorem casings_forms (c : d.ColIndex) :
    (casings d c).map (·.2) = (d.column c).filterMap (classifyCasing py) := by
  unfold casings DetectionDataset.column
  rw [List.map_filterMap, List.filterMap_map]
  refine List.filterMap_congr (fun i _ => ?_)
  dsimp only [Function.comp_apply]
  cases classifyCasing py (d.cell i c) <;> rfl

theorem mem_casings {c : d.ColIndex} {p : d.RowIndex × Casing} :
    p ∈ casings d c ↔ classifyCasing py (d.cell p.1 c) = some p.2 := by
  unfold casings
  rw [List.mem_filterMap]
  constructor
  · rintro ⟨i, -, h⟩
    obtain ⟨pattern, hpattern, rfl⟩ := Option.map_eq_some_iff.1 h
    exact hpattern
  · intro h
    exact ⟨p.1, List.mem_finRange _, by rw [h]; rfl⟩

theorem families_forms (c : d.ColIndex) :
    (families d c).map (·.2) = (d.column c).filterMap (familyOf py) := by
  unfold families DetectionDataset.column familyOf
  rw [List.map_filterMap, List.filterMap_map]
  refine List.filterMap_congr (fun i _ => ?_)
  dsimp only [Function.comp_apply]
  split
  · rfl
  · cases classifyBooleanToken py (d.cell i c) <;> rfl

theorem mem_families {c : d.ColIndex} {p : d.RowIndex × BooleanFamily} :
    p ∈ families d c ↔ familyOf py (d.cell p.1 c) = some p.2 := by
  unfold families familyOf
  rw [List.mem_filterMap]
  constructor
  · rintro ⟨i, -, h⟩
    split at h
    · cases h
    · rename_i hne
      obtain ⟨token, htoken, rfl⟩ := Option.map_eq_some_iff.1 h
      rw [if_neg hne, htoken]
      rfl
  · intro h
    refine ⟨p.1, List.mem_finRange _, ?_⟩
    split at h
    · cases h
    · rename_i hne
      obtain ⟨token, htoken, hform⟩ := Option.map_eq_some_iff.1 h
      rw [if_neg hne, htoken]
      exact congrArg some (Prod.ext rfl hform)

/-- The cells of a column whose form deviates. -/
theorem deviates_iff {κ : Type} [DecidableEq κ] (priority : List κ) (hranked : ∀ form, form ∈ priority)
    {formOf : Str → Option κ} {c : d.ColIndex} {forms : List (d.RowIndex × κ)}
    (hforms : forms.map (·.2) = (d.column c).filterMap formOf)
    (hmem : ∀ p : d.RowIndex × κ, p ∈ forms ↔ formOf (d.cell p.1 c) = some p.2) (i : d.RowIndex) :
    Deviates priority formOf (d.column c) (d.cell i c) ↔
      ∃ dominant, Dict.mostFrequent priority (forms.map (·.2)) = some dominant ∧
        ∃ p ∈ forms, p.1 = i ∧ p.2 ≠ dominant := by
  unfold Deviates
  rw [← hforms]
  constructor
  · rintro ⟨form, hform, hne⟩
    have hin : (i, form) ∈ forms := (hmem (i, form)).2 hform
    have hnonempty : forms.map (·.2) ≠ [] := List.ne_nil_of_mem (List.mem_map_of_mem hin)
    obtain ⟨dominant, hdominant⟩ := Dict.exists_mostFrequent hnonempty (fun k _ => hranked k)
    exact ⟨dominant, hdominant, (i, form), hin, rfl, fun h => hne (hdominant.trans (congrArg some h.symm))⟩
  · rintro ⟨dominant, hdominant, p, hp, rfl, hne⟩
    refine ⟨p.2, (hmem p).1 hp, fun h => hne ?_⟩
    exact Option.some.inj (h.symm.trans hdominant)

theorem inconsistentCapitalizationRule_reports (d : DetectionDataset py) :
    ReportsFlagged inconsistentCapitalizationRule d := by
  have hranked : ∀ form : Casing, form ∈ patternPriority := by
    intro form
    cases form <;> decide
  have hiff := fun c => deviates_iff patternPriority hranked (casings_forms (d := d) c) (fun p => mem_casings)
  constructor
  · intro f hf
    obtain ⟨c, hc, hf⟩ := List.mem_flatMap.1 hf
    cases hdominant : Dict.mostFrequent patternPriority ((casings d c).map (·.2)) with
    | none =>
      rw [hdominant] at hf
      cases hf
    | some dominant =>
      rw [hdominant] at hf
      obtain ⟨p, hp, rfl⟩ := List.mem_map.1 hf
      obtain ⟨hp, hne⟩ := List.mem_filter.1 hp
      have hflagged := (hiff c p.1).2 ⟨dominant, hdominant, p, hp, rfl, by simpa using hne⟩
      exact ⟨p.1, c, ⟨mem_columnsWith_any.1 hc, hflagged⟩, rfl, rfl, rfl⟩
  · rintro i c ⟨hrule, hdeviates⟩
    obtain ⟨dominant, hdominant, p, hp, rfl, hne⟩ := (hiff c i).1 hdeviates
    refine ⟨cellFinding .inconsistentCapitalization .low some (fun _ => none) d p.1 c,
      List.mem_flatMap.2 ⟨c, mem_columnsWith_any.2 hrule, ?_⟩, rfl, rfl⟩
    rw [hdominant]
    exact List.mem_map.2 ⟨p, List.mem_filter.2 ⟨hp, by simpa using hne⟩, rfl⟩

theorem booleanInconsistencyRule_reports (d : DetectionDataset py) : ReportsFlagged booleanInconsistencyRule d := by
  have hranked : ∀ form : BooleanFamily, form ∈ familiesByName := by
    intro form
    cases form <;> decide
  have hiff := fun c => deviates_iff familiesByName hranked (families_forms (d := d) c) (fun p => mem_families)
  constructor
  · intro f hf
    obtain ⟨c, hc, hf⟩ := List.mem_flatMap.1 hf
    have hrule := mem_columnsWith_any.1 hc
    rcases List.mem_append.1 hf with hf | hf
    · obtain ⟨i, hi, rfl⟩ := List.mem_map.1 hf
      exact ⟨i, c, ⟨hrule, .inl (by simpa [unrecognized] using hi)⟩, rfl, rfl, rfl⟩
    · cases hdominant : Dict.mostFrequent familiesByName ((families d c).map (·.2)) with
      | none =>
        rw [hdominant] at hf
        cases hf
      | some dominant =>
        rw [hdominant] at hf
        obtain ⟨p, hp, rfl⟩ := List.mem_map.1 hf
        obtain ⟨hp, hne⟩ := List.mem_filter.1 hp
        exact ⟨p.1, c, ⟨hrule, .inr ((hiff c p.1).2 ⟨dominant, hdominant, p, hp, rfl, by simpa using hne⟩)⟩, rfl, rfl,
          rfl⟩
  · rintro i c ⟨hrule, hflagged⟩
    rcases hflagged with hunrecognized | hdeviates
    · have hi : i ∈ unrecognized d c := by simpa [unrecognized] using hunrecognized
      exact ⟨_, List.mem_flatMap.2 ⟨c, mem_columnsWith_any.2 hrule, List.mem_append_left _ (List.mem_map_of_mem hi)⟩, rfl,
        rfl⟩
    · obtain ⟨dominant, hdominant, p, hp, rfl, hne⟩ := (hiff c i).1 hdeviates
      refine ⟨cellFinding .booleanInconsistency .medium some (fun _ => none) d p.1 c,
        List.mem_flatMap.2 ⟨c, mem_columnsWith_any.2 hrule, List.mem_append_right _ ?_⟩, rfl, rfl⟩
      rw [hdominant]
      exact List.mem_map.2 ⟨p, List.mem_filter.2 ⟨hp, by simpa using hne⟩, rfl⟩

/-! ## All six -/

theorem exists_valueRule {issueType : IssueType} (h : issueType ∈ valueIssueTypes) (d : DetectionDataset py) :
    ∃ rule ∈ detectionRules, rule.issueType = issueType ∧ ReportsFlagged rule d := by
  simp only [valueIssueTypes, List.mem_cons, List.not_mem_nil, or_false] at h
  rcases h with rfl | rfl | rfl | rfl | rfl | rfl
  · exact ⟨leadingWhitespaceRule, by simp [detectionRules], rfl, leadingWhitespaceRule_reports d⟩
  · exact ⟨trailingWhitespaceRule, by simp [detectionRules], rfl, trailingWhitespaceRule_reports d⟩
  · exact ⟨multipleInternalSpacesRule, by simp [detectionRules], rfl, multipleInternalSpacesRule_reports d⟩
  · exact ⟨invalidNumericRule, by simp [detectionRules], rfl, invalidNumericRule_reports d⟩
  · exact ⟨booleanInconsistencyRule, by simp [detectionRules], rfl, booleanInconsistencyRule_reports d⟩
  · exact ⟨inconsistentCapitalizationRule, by simp [detectionRules], rfl, inconsistentCapitalizationRule_reports d⟩

theorem exists_flagged {issueType : IssueType} (h : issueType ∈ valueIssueTypes) {f : Finding} (hf : f ∈ allFindings d)
    (htype : f.issueType = issueType) : ∃ i c, Flags py issueType (d.ruleOf c) (d.column c) (d.cell i c) ∧
      f.rowNumber = csvRowNumber i ∧ f.columnName = some (d.header c) ∧ f.originalValue = some (d.cell i c) := by
  obtain ⟨rule, hrule, rfl, hreports⟩ := exists_valueRule h d
  exact hreports.sound f ((mem_allFindings_of_rule hrule).1 ⟨hf, htype⟩)

/-- **What is reported at a row and a column's name**: a flagged cell of a column of that name. -/
theorem reported_iff {issueType : IssueType} (h : issueType ∈ valueIssueTypes) (i : d.RowIndex) (columnName : Str) :
    Reported d issueType (csvRowNumber i) columnName ↔
      ∃ c, d.header c = columnName ∧ Flags py issueType (d.ruleOf c) (d.column c) (d.cell i c) := by
  constructor
  · rintro ⟨f, hf, htype, hrow, hcolumn⟩
    obtain ⟨j, c, hflags, hj, hc, -⟩ := exists_flagged h hf htype
    have hji : j = i := Fin.ext (Nat.add_right_cancel (hj.symm.trans hrow))
    exact ⟨c, Option.some.inj (hc.symm.trans hcolumn), hji ▸ hflags⟩
  · rintro ⟨c, rfl, hflags⟩
    obtain ⟨rule, hrule, rfl, hreports⟩ := exists_valueRule h d
    obtain ⟨f, hf, hrow, hcolumn⟩ := hreports.complete i c hflags
    obtain ⟨hall, htype⟩ := (mem_allFindings_of_rule hrule).2 hf
    exact ⟨f, hall, htype, hrow, hcolumn⟩

end
end Detection
end DataOps

import Mathlib.Data.Prod.Lex
import DataOps.DetectRules
/-!
# DetectEngine — detect_issues

Every rule runs, the findings are sorted, and only the first few are kept; the totals count them all.  Since each rule
owns its issue type, what is found of a type is what its rule reports (`mem_allFindings_of_rule`).
-/
namespace DataOps
namespace Detection

variable {py : Python}

/-- `DETECTION_RULES`. -/
def detectionRules : List (DetectionRule py) :=
  [missingValueRule, emptyStringRule, nullValueRule, duplicateRowRule, duplicatePrimaryKeyRule, invalidEmailRule,
    invalidPhoneRule, invalidDateRule, invalidNumericRule, requiredFieldViolationRule, leadingWhitespaceRule,
    trailingWhitespaceRule, multipleInternalSpacesRule, inconsistentCapitalizationRule, booleanInconsistencyRule,
    invalidEnumValueRule, outlierRule, brokenFkReferenceRule]

/-- No two registered rules share an issue type. -/
theorem nodup_issueTypes : (detectionRules.map (fun r : DetectionRule py => r.issueType)).Nodup := by
  change [IssueType.missingValue, .emptyString, .nullValue, .duplicateRow, .duplicatePrimaryKey, .invalidEmail,
    .invalidPhone, .invalidDate, .invalidNumeric, .requiredFieldViolation, .leadingWhitespace, .trailingWhitespace,
    .multipleInternalSpaces, .inconsistentCapitalization, .booleanInconsistency, .invalidEnumValue, .outlier,
    .brokenFkReference].Nodup
  decide

structure DetectionLimits where
  maxPersistedIssues : Nat

structure DetectionResult where
  findings            : List Finding
  totalIssuesFound    : Nat
  persistedIssueCount : Nat
  issuesBySeverity    : Dict Severity Nat
  issuesByType        : Dict IssueType Nat
  rowsScanned         : Nat
  columnsScanned      : Nat
deriving DecidableEq, Repr

/-- `_sort_key`. -/
def sortKey (f : Finding) : Nat ×ₗ Str ×ₗ Str := toLex (f.rowNumber, toLex (f.columnName.getD [], f.issueType.name))

/-- `all_findings`, before the sort. -/
def allFindings (d : DetectionDataset py) : List Finding := detectionRules.flatMap (fun r => r.detect d)

def sortedFindings (d : DetectionDataset py) : List Finding :=
  (allFindings d).insertionSort (fun f f' => sortKey f ≤ sortKey f')

def detectIssues (d : DetectionDataset py) (limits : DetectionLimits) : DetectionResult :=
  let persisted := (sortedFindings d).take limits.maxPersistedIssues
  { findings := persisted
    totalIssuesFound := (sortedFindings d).length
    persistedIssueCount := persisted.length
    issuesBySeverity := Dict.tally ((sortedFindings d).map (fun f => f.severity))
    issuesByType := Dict.tally ((sortedFindings d).map (fun f => f.issueType))
    rowsScanned := d.rows.length
    columnsScanned := d.headers.length }

/-- `issues_by_severity.get(severity, 0)`. -/
def DetectionResult.severityCount (r : DetectionResult) (severity : Severity) : Nat :=
  (r.issuesBySeverity.get? severity).getD 0

section
variable {d : DetectionDataset py}

theorem sortedFindings_perm (d : DetectionDataset py) : (sortedFindings d).Perm (allFindings d) :=
  List.perm_insertionSort _ _

theorem mem_sortedFindings {f : Finding} : f ∈ sortedFindings d ↔ f ∈ allFindings d :=
  (sortedFindings_perm d).mem_iff

theorem mem_allFindings_of_mem {limits : DetectionLimits} {f : Finding} (h : f ∈ (detectIssues d limits).findings) :
    f ∈ allFindings d := mem_sortedFindings.1 (List.mem_of_mem_take h)

/-- A run with room for every finding keeps them all. -/
theorem exists_limits (d : DetectionDataset py) : ∃ limits, (detectIssues d limits).findings = sortedFindings d :=
  ⟨⟨(sortedFindings d).length⟩, List.take_length⟩

/-- **What is found of an issue type is what its rule reports.** -/
theorem mem_allFindings_of_rule {r : DetectionRule py} (hr : r ∈ detectionRules) {f : Finding} :
    f ∈ allFindings d ∧ f.issueType = r.issueType ↔ f ∈ r.detect d := by
  unfold allFindings
  rw [List.mem_flatMap]
  constructor
  · rintro ⟨⟨r', hr', hf⟩, htype⟩
    have hown := r'.own d f hf
    have heq : r' = r := List.inj_on_of_nodup_map nodup_issueTypes hr' hr (hown.symm.trans htype)
    rw [← heq]
    exact hf
  · intro hf
    exact ⟨⟨r, hr, hf⟩, r.own d f hf⟩

theorem filter_detect (r r' : DetectionRule py) : (r.detect d).filter (fun f => f.issueType = r'.issueType) =
    if r.issueType = r'.issueType then r.detect d else [] := by
  split
  · rename_i heq
    exact List.filter_eq_self.2 (fun f hf => by rw [r.own d f hf, heq]; exact decide_eq_true rfl)
  · rename_i hne
    exact List.filter_eq_nil_iff.2 (fun f hf => by rw [r.own d f hf]; simpa using hne)

/-- **The findings of an issue type, as its rule reports them.** -/
theorem filter_allFindings {r : DetectionRule py} (hr : r ∈ detectionRules) :
    (allFindings d).filter (fun f => f.issueType = r.issueType) = r.detect d := by
  have hfilter : ∀ rules : List (DetectionRule py), r ∈ rules → (rules.map (fun r => r.issueType)).Nodup →
      (rules.flatMap (fun r' => (r'.detect d).filter (fun f => f.issueType = r.issueType))) = r.detect d := by
    intro rules
    induction rules with
    | nil => intro hmem; cases hmem
    | cons r' rules ih =>
      intro hmem hnd
      obtain ⟨hhead, htail⟩ := List.nodup_cons.1 hnd
      rw [List.flatMap_cons, filter_detect]
      rcases List.mem_cons.1 hmem with rfl | hmem
      · have hrest : rules.flatMap (fun r' => (r'.detect d).filter (fun f => f.issueType = r.issueType)) = [] := by
          refine List.flatMap_eq_nil_iff.2 (fun r'' hr'' => ?_)
          rw [filter_detect, if_neg]
          exact fun heq => hhead (List.mem_map.2 ⟨r'', hr'', heq⟩)
        rw [if_pos rfl, hrest, List.append_nil]
      · have hne : r'.issueType ≠ r.issueType := fun heq => hhead (List.mem_map.2 ⟨r, hmem, heq.symm⟩)
        rw [if_neg hne, List.nil_append]
        exact ih hmem htail
  unfold allFindings
  rw [List.filter_flatMap]
  exact hfilter detectionRules hr nodup_issueTypes

theorem severityCount_detectIssues (d : DetectionDataset py) (limits : DetectionLimits) (severity : Severity) :
    (detectIssues d limits).severityCount severity =
      ((allFindings d).filter (fun f => f.severity = severity)).length := by
  unfold DetectionResult.severityCount detectIssues
  rw [Dict.get?_tally, ((sortedFindings_perm d).map _).count_eq, List.count_eq_length_filter, List.filter_map,
    List.length_map]
  refine congrArg List.length (List.filter_congr (fun f _ => ?_))
  by_cases h : f.severity = severity <;> simp [h]

end

/-! ## What each rule reports -/

section
variable {d : DetectionDataset py}

theorem mem_columnsWith {governs : ColumnRuleConfig py → Bool} {c : d.ColIndex} :
    c ∈ columnsWith governs d ↔ ∃ rule, d.columnRules.get? (d.header c) = some rule ∧ governs rule := by
  unfold columnsWith allColumns
  rw [List.mem_filter, Option.any_eq_true]
  simp

theorem nodup_repeated {κ : Type} [DecidableEq κ] (key : d.RowIndex → κ) :
    ((repeated key [] (List.finRange d.rows.length)).map (fun i : d.RowIndex => csvRowNumber i)).Nodup := by
  refine List.Nodup.map (fun i j h => ?_) ((List.nodup_finRange _).sublist (repeated_sublist key [] _))
  unfold csvRowNumber at h
  exact Fin.ext (by omega)

/-- A repeated row is never the first. -/
theorem pos_of_mem_repeated {κ : Type} [DecidableEq κ] {key : d.RowIndex → κ} {i : d.RowIndex}
    (h : i ∈ repeated key [] (List.finRange d.rows.length)) : 0 < (i : Nat) := by
  have hget : ∀ n (key : Fin n → κ) (i : Fin n), i ∈ repeated key [] (List.finRange n) → 0 < (i : Nat) := by
    intro n key i hi
    cases n with
    | zero => exact i.elim0
    | succ n =>
      rw [List.finRange_succ] at hi
      obtain ⟨j, -, rfl⟩ := List.mem_map.1 (mem_tail_of_mem_repeated hi)
      exact Nat.succ_pos _
  exact hget _ key i h

/-- What a duplicate rule reports: rows after the first, each once. -/
structure ReportsLaterRows (l : List Finding) (n : Nat) : Prop where
  nodup : (l.map (fun f => f.rowNumber)).Nodup
  range : ∀ f ∈ l, 3 ≤ f.rowNumber ∧ f.rowNumber ≤ n + 1

/-- One finding for each row whose key came before. -/
theorem reportsLaterRows_repeated {κ : Type} [DecidableEq κ] (key : d.RowIndex → κ) {finding : d.RowIndex → Finding}
    (hrow : ∀ i, (finding i).rowNumber = csvRowNumber i) :
    ReportsLaterRows ((repeated key [] (List.finRange d.rows.length)).map finding) d.rows.length := by
  constructor
  · have hnumbers : (fun f : Finding => f.rowNumber) ∘ finding = fun i : d.RowIndex =>
      csvRowNumber (i : Nat) := funext hrow
    rw [List.map_map, hnumbers]
    exact nodup_repeated key
  · intro f hf
    obtain ⟨i, hi, rfl⟩ := List.mem_map.1 hf
    have hpos := pos_of_mem_repeated hi
    have hlt := i.isLt
    rw [hrow]
    unfold csvRowNumber
    omega

theorem duplicateRowRule_reports (d : DetectionDataset py) :
    ReportsLaterRows (duplicateRowRule.detect d) d.rows.length :=
  reportsLaterRows_repeated d.row (fun _ => rfl)

theorem duplicatePrimaryKeyRule_reports (d : DetectionDataset py) :
    ReportsLaterRows (duplicatePrimaryKeyRule.detect d) d.rows.length := by
  unfold duplicatePrimaryKeyRule
  dsimp only
  split
  · exact ⟨List.nodup_nil, fun f hf => by cases hf⟩
  · exact reportsLaterRows_repeated (primaryKey d) (fun _ => rfl)

theorem mem_cellRule {issueType : IssueType} {severity : Severity} {columns : (d : DetectionDataset py) → List d.ColIndex}
    {flags : (d : DetectionDataset py) → d.RowIndex → d.ColIndex → Bool} {originalValue suggestedFix : Str → Option Str}
    {f : Finding} :
    f ∈ (cellRule issueType severity columns flags originalValue suggestedFix).detect d ↔
      ∃ i, ∃ c ∈ columns d, flags d i c = true ∧ f = cellFinding issueType severity originalValue suggestedFix d i c := by
  change f ∈ (List.finRange d.rows.length).flatMap _ ↔ _
  simp only [List.mem_flatMap, List.mem_finRange, true_and, List.mem_map, List.mem_filter, and_assoc, eq_comm]

end
end Detection
end DataOps

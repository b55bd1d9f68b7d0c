import Mathlib.Data.Rat.Floor
import DataOps.DetectEngine
import DataOps.LibSortedCut
/-!
# DetectStorable — which findings the table of issues takes

A finding is stored with a confidence.  Every confidence is between zero and one, and every type and severity fits its
column.  The name of a column need not: a header may be longer, and the duplicate key rule joins several.  Nor need any
text: a header or a cell may have a U+0000.  `issues_storable_iff` says when no such text is among the findings kept.
-/
namespace DataOps
namespace Detection

/-! ## Confidences -/

/-- What the confidences take besides: `round(x, 4)`, and which numbers are none. -/
structure PythonRounding extends Python where
  round4 : Float → Float
  abs_nonneg : ∀ x, lt (abs x) (ratio 0 1) = false
  -- a number below another is one
  nonneg_of_lt : ∀ x y, lt x y = true → lt x (ratio 0 1) = false → toPython.le (ratio 0 1) x = true
  literals : (toPython.le (ratio 0 1) (float "0.6".toList) ∧ toPython.le (float "0.6".toList) (ratio 1 1)) ∧
    (toPython.le (ratio 0 1) (float "0.7".toList) ∧ toPython.le (float "0.7".toList) (ratio 1 1)) ∧
    lt (float "3.5".toList) (ratio 0 1) = false
  round4_unit : ∀ x, toPython.le (ratio 0 1) x = true → toPython.le x (ratio 1 1) = true →
    toPython.le (ratio 0 1) (round4 x) = true ∧ toPython.le (round4 x) (ratio 1 1) = true

/-- Four decimals of an exact number. -/
def roundRat4 (x : Rat) : Rat := (⌊x * 10000 + 1 / 2⌋ : Int) / 10000

theorem asciiPython_unit (x : Rat) : (asciiPython.le (asciiPython.ratio 0 1) x = true ↔ 0 ≤ x) ∧
    (asciiPython.le x (asciiPython.ratio 1 1) = true ↔ x ≤ 1) := by
  have hle : ∀ x y : Rat, (decide (x < y) || decide (x = y)) = true ↔ x ≤ y := by
    intro x y
    rw [← Bool.decide_or, decide_eq_true_iff, le_iff_lt_or_eq]
  have hzero : ((0 : Nat) : Rat) / (1 : Nat) = 0 := by norm_num
  have hone : ((1 : Nat) : Rat) / (1 : Nat) = 1 := by norm_num
  constructor
  · refine (hle (((0 : Nat) : Rat) / (1 : Nat)) x).trans ?_
    rw [hzero]
  · refine (hle x (((1 : Nat) : Rat) / (1 : Nat))).trans ?_
    rw [hone]

theorem roundRat4_unit {x : Rat} (h0 : 0 ≤ x) (h1 : x ≤ 1) : 0 ≤ roundRat4 x ∧ roundRat4 x ≤ 1 := by
  have hlow : (0 : Int) ≤ ⌊x * 10000 + 1 / 2⌋ := Int.floor_nonneg.2 (by linarith)
  have hhigh : ⌊x * 10000 + 1 / 2⌋ ≤ 10000 := by
    refine Int.le_of_lt_add_one (Int.floor_lt.2 ?_)
    push_cast
    linarith
  unfold roundRat4
  constructor
  · exact div_nonneg (by exact_mod_cast hlow) (by norm_num)
  · exact (div_le_one (by norm_num)).2 (by exact_mod_cast hhigh)

theorem asciiPython_abs (x : Rat) : asciiPython.lt (asciiPython.abs x) (asciiPython.ratio 0 1) = false := by
  have habs : (0 : Rat) ≤ if x < 0 then -x else x := by
    split
    · linarith
    · linarith
  simpa [asciiPython] using habs

theorem asciiPython_literals :
    (asciiPython.le (asciiPython.ratio 0 1) (asciiPython.float "0.6".toList) ∧
      asciiPython.le (asciiPython.float "0.6".toList) (asciiPython.ratio 1 1)) ∧
    (asciiPython.le (asciiPython.ratio 0 1) (asciiPython.float "0.7".toList) ∧
      asciiPython.le (asciiPython.float "0.7".toList) (asciiPython.ratio 1 1)) ∧
    asciiPython.lt (asciiPython.float "3.5".toList) (asciiPython.ratio 0 1) = false := by decide +kernel

theorem asciiPython_le_of_lt {x : Rat} (h : asciiPython.lt x (asciiPython.ratio 0 1) = false) :
    asciiPython.le (asciiPython.ratio 0 1) x = true := by
  have hle : ((0 : Nat) : Rat) / (1 : Nat) ≤ x := not_lt.1 (of_decide_eq_false h)
  exact (asciiPython_unit x).1.2 (by simpa using hle)

theorem roundRat4_mem {x : Rat} (h0 : asciiPython.le (asciiPython.ratio 0 1) x = true)
    (h1 : asciiPython.le x (asciiPython.ratio 1 1) = true) :
    asciiPython.le (asciiPython.ratio 0 1) (roundRat4 x) = true ∧
      asciiPython.le (roundRat4 x) (asciiPython.ratio 1 1) = true := by
  obtain ⟨hlow, hhigh⟩ := roundRat4_unit ((asciiPython_unit x).1.1 h0) ((asciiPython_unit x).2.1 h1)
  exact ⟨(asciiPython_unit _).1.2 hlow, (asciiPython_unit _).2.2 hhigh⟩

/-- On ASCII texts, with exact numbers. -/
def asciiRounding : PythonRounding where
  toPython := asciiPython
  round4 := roundRat4
  abs_nonneg := asciiPython_abs
  nonneg_of_lt := fun _ _ _ h => asciiPython_le_of_lt h
  literals := asciiPython_literals
  round4_unit := fun _ h0 h1 => roundRat4_mem h0 h1

variable {py : PythonRounding}

/-- `confidence >= 0 AND confidence <= 1`. -/
def InUnit (py : PythonRounding) (x : py.Float) : Prop := py.le (py.ofNat 0) x = true ∧ py.le x (py.ofNat 1) = true

/-- A data set under a configuration its table takes (`ck_issue_detection_column_rules_outlier_threshold_positive`). -/
structure ConfiguredDataset (py : PythonRounding) extends DetectionDataset py.toPython where
  threshold_pos : ∀ header rule, columnRules.get? header = some rule →
    ∀ threshold, rule.outlierZscoreThreshold = some threshold → py.lt (py.ofNat 0) threshold = true

/-- What every rule but the outlier rule gives its findings. -/
def fixedConfidence (py : PythonRounding) (f : Finding) : py.Float :=
  match f.issueType with
  | .inconsistentCapitalization => py.float "0.6".toList
  | .invalidPhone               => py.float "0.7".toList
  | .booleanInconsistency       => if f.severity = .medium then py.float "0.7".toList else py.ofNat 1
  | _                           => py.ofNat 1

/-- `round(min(1.0, abs(z) / (threshold * 2)), 4)`. -/
def outlierConfidence (py : PythonRounding) (z threshold : py.Float) : py.Float :=
  py.round4 (py.min (py.ofNat 1) (py.div (py.abs z) (py.mul threshold (py.ofNat 2))))

/-- `OutlierRule._detect_column`, with the confidences. -/
def ratedColumnOutliers (d : DetectionDataset py.toPython) (rule : ColumnRuleConfig py.toPython) (c : d.ColIndex) :
    List (Finding × py.Float) :=
  let numbers := numericByRow d c
  if numbers.length < 2 then []
  else
    match median (numbers.map (·.2)) with
    | none   => []
    | some m =>
      match median (numbers.map (fun p => py.abs (py.sub p.2 m))) with
      | none     => []
      | some mad =>
        if py.eq mad (py.ofNat 0) then []
        else
          let z (p : d.RowIndex × py.Float) := py.div (py.mul (py.float "0.6745".toList) (py.sub p.2 m)) mad
          (numbers.filter (fun p => py.lt (zscoreThreshold rule) (py.abs (z p)))).map (fun p =>
            (cellFinding .outlier .medium some (fun _ => none) d p.1 c, outlierConfidence py (z p) (zscoreThreshold rule)))

def ratedOutliers (d : DetectionDataset py.toPython) : List (Finding × py.Float) :=
  (allColumns d).flatMap (fun c =>
    match d.columnRules.get? (d.header c) with
    | none      => []
    | some rule => if rule.outlierEnabled then ratedColumnOutliers d rule c else [])

/-- What a rule yields. -/
def rated (d : DetectionDataset py.toPython) (r : DetectionRule py.toPython) : List (Finding × py.Float) :=
  if r.issueType = .outlier then ratedOutliers d else (r.detect d).map (fun f => (f, fixedConfidence py f))

def ratedFindings (d : DetectionDataset py.toPython) : List (Finding × py.Float) := detectionRules.flatMap (rated d)

/-- `persisted_findings`, with the confidences. -/
def persistedFindings (d : DetectionDataset py.toPython) (limits : DetectionLimits) : List (Finding × py.Float) :=
  ((ratedFindings d).insertionSort (fun p p' => sortKey p.1 ≤ sortKey p'.1)).take limits.maxPersistedIssues

theorem ratedColumnOutliers_fst (d : DetectionDataset py.toPython) (rule : ColumnRuleConfig py.toPython)
    (c : d.ColIndex) : (ratedColumnOutliers d rule c).map Prod.fst = detectOutliers d rule c := by
  unfold ratedColumnOutliers detectOutliers
  dsimp only
  split
  · rfl
  · cases median ((numericByRow d c).map (·.2)) with
    | none => rfl
    | some m =>
      dsimp only
      cases median ((numericByRow d c).map (fun p => py.abs (py.sub p.2 m))) with
      | none => rfl
      | some mad =>
        dsimp only
        split
        · rfl
        · rw [List.map_map]
          rfl

theorem ratedOutliers_fst (d : DetectionDataset py.toPython) : (ratedOutliers d).map Prod.fst = outlierRule.detect d := by
  unfold ratedOutliers outlierRule
  dsimp only
  rw [List.map_flatMap]
  refine List.flatMap_congr (fun c _ => ?_)
  cases d.columnRules.get? (d.header c) with
  | none => rfl
  | some rule =>
    dsimp only
    split
    · exact ratedColumnOutliers_fst d rule c
    · rfl

/-- **The findings with their confidences are the findings.** -/
theorem ratedFindings_fst (d : DetectionDataset py.toPython) : (ratedFindings d).map Prod.fst = allFindings d := by
  unfold ratedFindings allFindings
  rw [List.map_flatMap]
  refine List.flatMap_congr (fun r hr => ?_)
  unfold rated
  split
  · rename_i htype
    have houtlier : outlierRule ∈ (detectionRules : List (DetectionRule py.toPython)) := by simp [detectionRules]
    rw [List.inj_on_of_nodup_map nodup_issueTypes hr houtlier htype]
    exact ratedOutliers_fst d
  · rw [List.map_map]
    exact List.map_id _

theorem persistedFindings_fst (d : DetectionDataset py.toPython) (limits : DetectionLimits) :
    (persistedFindings d limits).map Prod.fst = (detectIssues d limits).findings := by
  unfold persistedFindings detectIssues sortedFindings
  dsimp only
  rw [List.map_take, ← ratedFindings_fst d]
  refine congrArg (List.take _) (List.map_insertionSort _ _ Prod.fst _ (fun p _ p' _ => ?_))
  exact Iff.rfl

/-! ### Between zero and one -/

theorem one_inUnit : InUnit py (py.ofNat 1) := by
  have hlt := py.lt_small 0 1 (by omega) (by omega)
  have heq := py.eq_small 1 1 (by omega) (by omega)
  constructor
  · unfold Python.le Python.ofNat
    rw [hlt]
    rfl
  · unfold Python.le Python.ofNat
    rw [heq, Bool.or_eq_true]
    exact .inr rfl

theorem fixedConfidence_inUnit (f : Finding) : InUnit py (fixedConfidence py f) := by
  obtain ⟨h6, h7, -⟩ := py.literals
  unfold fixedConfidence
  split
  · exact h6
  · exact h7
  · split
    · exact h7
    · exact one_inUnit
  · exact one_inUnit

theorem min_one_inUnit {x : py.Float} (hx : py.lt x (py.ofNat 0) = false) : InUnit py (py.min (py.ofNat 1) x) := by
  unfold Python.min
  split
  · rename_i hlt
    exact ⟨py.nonneg_of_lt x _ hlt hx, by unfold Python.le; rw [hlt]; rfl⟩
  · exact one_inUnit

theorem outlierConfidence_inUnit {z threshold : py.Float} (h : py.lt threshold (py.ofNat 0) = false) :
    InUnit py (outlierConfidence py z threshold) := by
  have htwo : py.lt (py.mul threshold (py.ofNat 2)) (py.ofNat 0) = false := py.mul_nonneg _ _ h (py.ratio_nonneg 2 1)
  obtain ⟨hlo, hhi⟩ := min_one_inUnit (py.div_nonneg _ _ (py.abs_nonneg z) htwo)
  exact py.round4_unit _ hlo hhi

theorem zscoreThreshold_nonneg {rule : ColumnRuleConfig py.toPython}
    (h : ∀ threshold, rule.outlierZscoreThreshold = some threshold → py.lt (py.ofNat 0) threshold = true) :
    py.lt (zscoreThreshold rule) (py.ofNat 0) = false := by
  unfold zscoreThreshold
  cases hrule : rule.outlierZscoreThreshold with
  | none => exact py.literals.2.2
  | some threshold =>
    dsimp only
    split
    · exact py.literals.2.2
    · exact py.lt_asymm _ _ (h threshold hrule)

/-- **Every confidence lies between zero and one.** -/
theorem ratedFindings_inUnit (d : ConfiguredDataset py) :
    ∀ p ∈ ratedFindings d.toDetectionDataset, InUnit py p.2 := by
  intro p hp
  obtain ⟨r, -, hp⟩ := List.mem_flatMap.1 hp
  unfold rated at hp
  split at hp
  · obtain ⟨c, -, hp⟩ := List.mem_flatMap.1 hp
    split at hp
    · cases hp
    · rename_i rule hrule
      have hthreshold := zscoreThreshold_nonneg (d.threshold_pos _ rule hrule)
      split at hp
      · unfold ratedColumnOutliers at hp
        dsimp only at hp
        split at hp
        · cases hp
        · split at hp
          · cases hp
          · split at hp
            · cases hp
            · split at hp
              · cases hp
              · obtain ⟨q, -, rfl⟩ := List.mem_map.1 hp
                exact outlierConfidence_inUnit hthreshold
      · cases hp
  · obtain ⟨f, -, rfl⟩ := List.mem_map.1 hp
    exact fixedConfidence_inUnit f

/-! ## Texts -/

/-- The width of `issues.column_name`. -/
def columnNameWidth : Nat := 255

/-- What the duplicate key rule reports under. -/
def keyName {py : Python} (d : DetectionDataset py) : Str := ['+'].intercalate ((keyColumns d).map d.header)

/-- What it reports of a row. -/
def keyValue {py : Python} (d : DetectionDataset py) (i : d.RowIndex) : Str := [',', ' '].intercalate (primaryKey d i)

/-- A finding on a column whose header does not fit, or on a key whose joined headers do not; or one that reports a cell,
or the cells of a key, with a U+0000. -/
def Unfit {py : Python} (d : DetectionDataset py) (f : Finding) : Prop :=
  (∃ c : d.ColIndex, f.columnName = some (d.header c) ∧ (d.header c).fits columnNameWidth = false) ∨
    (f.columnName = some (keyName d) ∧ (keyName d).fits columnNameWidth = false) ∨
    (∃ i c, f.originalValue = some (d.cell i c) ∧ Str.nul ∈ d.cell i c) ∨
    ∃ i, f.originalValue = some (keyValue d i) ∧ Str.nul ∈ keyValue d i

/-- The columns of `issues` take the texts of the finding. -/
structure Finding.TextsFit (f : Finding) : Prop where
  columnName    : ∀ name, f.columnName = some name → name.fits columnNameWidth
  originalValue : ∀ value, f.originalValue = some value → Str.nul ∉ value
  suggestedFix  : ∀ value, f.suggestedFix = some value → Str.nul ∉ value

/-- What a finding on a cell holds: the header, the cell or nothing, and a repaired cell or nothing. -/
structure OnCell {py : Python} (d : DetectionDataset py) (c : d.ColIndex) (f : Finding) : Prop where
  columnName    : f.columnName = some (d.header c)
  originalValue : ∀ value, f.originalValue = some value → ∃ i, value = d.cell i c
  suggestedFix  : ∀ fix, f.suggestedFix = some fix → Str.nul ∈ fix → ∃ value, f.originalValue = some value ∧
    Str.nul ∈ value

/-- A rule that reports on cells only. -/
def OnCells {py : Python} (r : DetectionRule py) : Prop := ∀ d, ∀ f ∈ r.detect d, ∃ c : d.ColIndex, OnCell d c f

section
variable {py : Python}

theorem cellFinding_onCell {issueType : IssueType} {severity : Severity} {originalValue suggestedFix : Str → Option Str}
    (horiginal : ∀ value value', originalValue value = some value' → value' = value)
    (hfix : ∀ value fix, suggestedFix value = some fix → Str.nul ∈ fix →
      originalValue value = some value ∧ Str.nul ∈ value) (d : DetectionDataset py) (i : d.RowIndex) (c : d.ColIndex) :
    OnCell d c (cellFinding issueType severity originalValue suggestedFix d i c) :=
  ⟨rfl, fun value hvalue => ⟨i, horiginal _ value hvalue⟩, fun fix heq hnul => ⟨_, hfix _ fix heq hnul⟩⟩

/-- The cell as it is, and no repair. -/
theorem plainFinding_onCell (issueType : IssueType) (severity : Severity) (d : DetectionDataset py) (i : d.RowIndex)
    (c : d.ColIndex) : OnCell d c (cellFinding issueType severity some (fun _ => none) d i c) :=
  cellFinding_onCell (fun value value' h => (Option.some.inj h).symm) (fun value fix h => by cases h) d i c

theorem cellRule_onCells {issueType : IssueType} {severity : Severity}
    {columns : (d : DetectionDataset py) → List d.ColIndex}
    {flags : (d : DetectionDataset py) → d.RowIndex → d.ColIndex → Bool}
    {originalValue suggestedFix : Str → Option Str}
    (horiginal : ∀ value value', originalValue value = some value' → value' = value)
    (hfix : ∀ value fix, suggestedFix value = some fix → Str.nul ∈ fix →
      originalValue value = some value ∧ Str.nul ∈ value) :
    OnCells (cellRule issueType severity columns flags originalValue suggestedFix) := by
  intro d f hf
  obtain ⟨i, c, -, -, rfl⟩ := mem_cellRule.1 hf
  exact ⟨c, cellFinding_onCell horiginal hfix d i c⟩

theorem plainRule_onCells {issueType : IssueType} {severity : Severity}
    {columns : (d : DetectionDataset py) → List d.ColIndex}
    {flags : (d : DetectionDataset py) → d.RowIndex → d.ColIndex → Bool} :
    OnCells (cellRule issueType severity columns flags some (fun _ => none)) :=
  cellRule_onCells (fun value value' h => (Option.some.inj h).symm) (fun value fix h => by cases h)

theorem whitespaceRule_onCells {issueType : IssueType} {flags : Str → Bool} {repair : Str → Str}
    (h : ∀ value, Str.nul ∈ repair value → Str.nul ∈ value) :
    OnCells (whitespaceRule issueType flags repair : DetectionRule py) := by
  refine cellRule_onCells (fun value value' h => (Option.some.inj h).symm) (fun value fix hfix hnul => ⟨rfl, ?_⟩)
  obtain rfl := Option.some.inj hfix
  exact h value hnul

theorem requiredFieldViolationRule_onCells : OnCells (requiredFieldViolationRule : DetectionRule py) := by
  refine cellRule_onCells (fun value value' h => ?_) (fun value fix h => by cases h)
  split at h
  · exact (Option.some.inj h).symm
  · cases h

theorem missingValueRule_onCells : OnCells (missingValueRule : DetectionRule py) := by
  intro d f hf
  obtain ⟨issue, -, hf⟩ := List.mem_flatMap.1 hf
  cases issue <;> simp only [List.mem_map, List.not_mem_nil] at hf
  obtain ⟨c, -, rfl⟩ := hf
  exact ⟨c, ⟨rfl, (fun value h => by cases h), (fun fix h => by cases h)⟩⟩

theorem inconsistentCapitalizationRule_onCells : OnCells (inconsistentCapitalizationRule : DetectionRule py) := by
  intro d f hf
  obtain ⟨c, -, hf⟩ := List.mem_flatMap.1 hf
  split at hf
  · cases hf
  · obtain ⟨p, -, rfl⟩ := List.mem_map.1 hf
    exact ⟨c, plainFinding_onCell _ _ d p.1 c⟩

theorem booleanInconsistencyRule_onCells : OnCells (booleanInconsistencyRule : DetectionRule py) := by
  intro d f hf
  obtain ⟨c, -, hf⟩ := List.mem_flatMap.1 hf
  obtain ⟨severity, i, rfl⟩ := mem_detectBooleanColumn hf
  exact ⟨c, plainFinding_onCell _ _ d i c⟩

theorem outlierRule_onCells : OnCells (outlierRule : DetectionRule py) := by
  intro d f hf
  obtain ⟨c, -, hf⟩ := List.mem_flatMap.1 hf
  split at hf
  · cases hf
  · split at hf
    · obtain ⟨i, rfl⟩ := mem_detectOutliers hf
      exact ⟨c, plainFinding_onCell _ _ d i c⟩
    · cases hf

/-- Two rules do not: one reports on rows, the other on the key. -/
theorem onCells_of_mem {r : DetectionRule py} (hr : r ∈ detectionRules) :
    r = duplicateRowRule ∨ r = duplicatePrimaryKeyRule ∨ OnCells r := by
  simp only [detectionRules, List.mem_cons, List.not_mem_nil, or_false] at hr
  rcases hr with rfl | rfl | rfl | rfl | rfl | rfl | rfl | rfl | rfl | rfl | rfl | rfl | rfl | rfl | rfl | rfl | rfl | rfl
  · exact .inr (.inr missingValueRule_onCells)
  · exact .inr (.inr plainRule_onCells)
  · exact .inr (.inr plainRule_onCells)
  · exact .inl rfl
  · exact .inr (.inl rfl)
  · exact .inr (.inr plainRule_onCells)
  · exact .inr (.inr plainRule_onCells)
  · exact .inr (.inr plainRule_onCells)
  · exact .inr (.inr plainRule_onCells)
  · exact .inr (.inr requiredFieldViolationRule_onCells)
  · exact .inr (.inr (whitespaceRule_onCells (fun _ => Str.mem_of_mem_lstrip)))
  · exact .inr (.inr (whitespaceRule_onCells (fun _ => Str.mem_of_mem_rstrip)))
  · exact .inr (.inr (whitespaceRule_onCells (fun _ h => (Str.mem_of_mem_collapse h).resolve_right (by decide))))
  · exact .inr (.inr inconsistentCapitalizationRule_onCells)
  · exact .inr (.inr booleanInconsistencyRule_onCells)
  · exact .inr (.inr plainRule_onCells)
  · exact .inr (.inr outlierRule_onCells)
  · exact .inr (.inr (fun d f hf => by cases hf))

/-- **A finding is on a row, on the key or on a cell.** -/
theorem finding_cases {d : DetectionDataset py} {f : Finding} (h : f ∈ allFindings d) :
    (f.columnName = none ∧ f.originalValue = none ∧ f.suggestedFix = none) ∨
      (f.columnName = some (keyName d) ∧ (∃ i, f.originalValue = some (keyValue d i)) ∧ f.suggestedFix = none) ∨
      ∃ c, OnCell d c f := by
  obtain ⟨r, hr, hf⟩ := List.mem_flatMap.1 h
  rcases onCells_of_mem hr with rfl | rfl | hcells
  · obtain ⟨i, -, rfl⟩ := List.mem_map.1 hf
    exact .inl ⟨rfl, rfl, rfl⟩
  · unfold duplicatePrimaryKeyRule at hf
    dsimp only at hf
    split at hf
    · cases hf
    · obtain ⟨i, -, rfl⟩ := List.mem_map.1 hf
      exact .inr (.inl ⟨rfl, ⟨i, rfl⟩, rfl⟩)
  · exact .inr (.inr (hcells d f hf))

/-- A text that does not fit is a header, a cell, or those of the key. -/
theorem unfit_iff {d : DetectionDataset py} {f : Finding} (h : f ∈ allFindings d) : Unfit d f ↔ ¬ f.TextsFit := by
  constructor
  · rintro (⟨c, hname, hunfit⟩ | ⟨hname, hunfit⟩ | ⟨i, c, hvalue, hnul⟩ | ⟨i, hvalue, hnul⟩) hfit
    · exact Bool.false_ne_true (hunfit.symm.trans (hfit.columnName _ hname))
    · exact Bool.false_ne_true (hunfit.symm.trans (hfit.columnName _ hname))
    · exact hfit.originalValue _ hvalue hnul
    · exact hfit.originalValue _ hvalue hnul
  · intro hunfit
    by_contra hno
    unfold Unfit at hno
    push Not at hno
    obtain ⟨hheader, hkey, hcell, hkeyValue⟩ := hno
    refine hunfit ?_
    rcases finding_cases h with ⟨hname, hvalue, hfix⟩ | ⟨hname, ⟨i, hvalue⟩, hfix⟩ | ⟨c, hname, hvalue, hfix⟩
    · refine ⟨fun name heq => ?_, fun value heq => ?_, fun fix heq => ?_⟩
      · cases hname.symm.trans heq
      · cases hvalue.symm.trans heq
      · cases hfix.symm.trans heq
    · refine ⟨fun name heq => ?_, fun value heq => ?_, fun fix heq => ?_⟩
      · obtain rfl := Option.some.inj (hname.symm.trans heq)
        exact Bool.eq_true_of_not_eq_false (hkey hname)
      · obtain rfl := Option.some.inj (hvalue.symm.trans heq)
        exact hkeyValue i hvalue
      · cases hfix.symm.trans heq
    · have horiginal : ∀ value, f.originalValue = some value → Str.nul ∉ value := by
        intro value heq
        obtain ⟨i, rfl⟩ := hvalue value heq
        exact hcell i c heq
      refine ⟨fun name heq => ?_, horiginal, fun fix heq hnul => ?_⟩
      · obtain rfl := Option.some.inj (hname.symm.trans heq)
        exact Bool.eq_true_of_not_eq_false (hheader c hname)
      · obtain ⟨value, heq', hnul'⟩ := hfix fix heq hnul
        exact horiginal value heq' hnul'

/-- No rule reports a text that does not fit while findings are still kept: those on earlier rows, on lesser names of its
own row, and of its own row, name and type from before it come first. -/
def TextsFit (d : DetectionDataset py) (limits : DetectionLimits) : Prop :=
  ∀ earlier f later, detectionRules.flatMap (fun r => r.detect d) = earlier ++ f :: later → Unfit d f →
    limits.maxPersistedIssues ≤
      (detectionRules.flatMap (fun r => r.detect d)).countP (fun g => sortKey g < sortKey f) +
        earlier.countP (fun g => sortKey g = sortKey f)

/-- **A finding kept with a text that does not fit.** -/
theorem exists_unfit_kept {d : DetectionDataset py} {limits : DetectionLimits} :
    (∃ f ∈ (detectIssues d limits).findings, ¬ f.TextsFit) ↔ ¬ TextsFit d limits := by
  have hstable := SortedCut.stablySorts_insertionSort sortKey (allFindings d)
  have hkept := hstable.exists_mem_take (n := limits.maxPersistedIssues) (P := fun f => ¬ f.TextsFit)
  refine hkept.trans ?_
  unfold TextsFit
  push Not
  refine exists_congr (fun earlier => exists_congr (fun f => exists_congr (fun later => ?_)))
  refine and_congr_right (fun hsplit => ?_)
  have hmem : f ∈ allFindings d := by
    rw [hsplit]
    exact List.mem_append_right _ List.mem_cons_self
  refine and_congr (unfit_iff hmem).symm (Eq.to_iff ?_)
  refine congrArg (· < _) (congrArg (_ + ·) (List.countP_congr (fun g _ => ?_)))
  simp only [decide_eq_true_eq]

end

/-! ## When the table takes the findings -/

/-- `ISSUE_SEVERITIES`. -/
def Severity.name : Severity → Str
  | info     => "INFO".toList
  | low      => "LOW".toList
  | medium   => "MEDIUM".toList
  | high     => "HIGH".toList
  | critical => "CRITICAL".toList

/-- A row of `issues`. -/
structure IssueModel (py : PythonRounding) where
  organizationId : Nat
  detectionRunId : Nat
  rowNumber      : Nat
  columnName     : Option Str
  issueType      : Str
  severity       : Str
  originalValue  : Option Str
  suggestedFix   : Option Str
  confidence     : py.Float

def issueModel (organizationId detectionRunId : Nat) (p : Finding × py.Float) : IssueModel py where
  organizationId := organizationId
  detectionRunId := detectionRunId
  rowNumber := p.1.rowNumber
  columnName := p.1.columnName
  issueType := p.1.issueType.name
  severity := p.1.severity.name
  originalValue := p.1.originalValue
  suggestedFix := p.1.suggestedFix
  confidence := p.2

structure IssueModel.Storable (m : IssueModel py) : Prop where
  columnName    : ∀ name, m.columnName = some name → name.fits columnNameWidth
  issueType     : m.issueType.fits 30 ∧ ∃ issueType : IssueType, issueType.name = m.issueType
  severity      : m.severity.fits 10 ∧ ∃ severity : Severity, severity.name = m.severity
  originalValue : ∀ value, m.originalValue = some value → Str.nul ∉ value
  suggestedFix  : ∀ value, m.suggestedFix = some value → Str.nul ∉ value
  confidence    : InUnit py m.confidence

/-- **The table of issues takes what `IssueDetectionHandler` adds exactly when the texts fit.** -/
theorem issues_storable_iff (d : ConfiguredDataset py) (limits : DetectionLimits) (organizationId detectionRunId : Nat) :
    (∀ m ∈ (persistedFindings d.toDetectionDataset limits).map (issueModel organizationId detectionRunId), m.Storable) ↔
      TextsFit d.toDetectionDataset limits := by
  have hfindings := persistedFindings_fst d.toDetectionDataset limits
  constructor
  · intro h
    by_contra hfit
    obtain ⟨f, hf, hunfit⟩ := exists_unfit_kept.2 hfit
    rw [← hfindings] at hf
    obtain ⟨p, hp, rfl⟩ := List.mem_map.1 hf
    have hm := h _ (List.mem_map_of_mem hp)
    exact hunfit ⟨hm.columnName, hm.originalValue, hm.suggestedFix⟩
  · intro hfit m hm
    obtain ⟨p, hp, rfl⟩ := List.mem_map.1 hm
    have htexts : p.1.TextsFit := by
      by_contra hunfit
      refine exists_unfit_kept.1 ⟨p.1, ?_, hunfit⟩ hfit
      rw [← hfindings]
      exact List.mem_map_of_mem hp
    refine ⟨htexts.columnName, ⟨?_, p.1.issueType, rfl⟩, ⟨?_, p.1.severity, rfl⟩,
      htexts.originalValue, htexts.suggestedFix, ?_⟩
    · show p.1.issueType.name.fits 30
      cases p.1.issueType <;> decide
    · show p.1.severity.name.fits 10
      cases p.1.severity <;> decide
    · exact ratedFindings_inUnit d p ((List.perm_insertionSort _ _).mem_iff.1 (List.mem_of_mem_take hp))

end Detection
end DataOps

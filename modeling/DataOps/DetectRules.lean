import Mathlib.Data.List.FinRange
import Mathlib.Data.List.Sort
import DataOps.LibDict
import DataOps.LibLists
import DataOps.LibPython
import DataOps.LibTextRuns
import DataOps.CsvTable
import DataOps.CsvLoader
/-!
# DetectRules — the detection rules

Each rule reads the loaded table and reports findings of its own issue type.  Most rules check cell by cell, row after row
(`cellRule`); the two duplicate rules report the rows whose key an earlier row has (`repeated`); the boolean and the
capitalization rule compare a column with what most of it looks like.
-/
namespace DataOps
namespace Detection

inductive IssueType
  | missingValue | emptyString | nullValue | duplicateRow | duplicatePrimaryKey | invalidEmail | invalidPhone
  | invalidDate | invalidNumeric | requiredFieldViolation | leadingWhitespace | trailingWhitespace
  | multipleInternalSpaces | inconsistentCapitalization | booleanInconsistency | invalidEnumValue | outlier
  | brokenFkReference
deriving DecidableEq, Repr

def IssueType.name : IssueType → Str
  | missingValue               => "missing_value".toList
  | emptyString                => "empty_string".toList
  | nullValue                  => "null_value".toList
  | duplicateRow               => "duplicate_row".toList
  | duplicatePrimaryKey        => "duplicate_primary_key".toList
  | invalidEmail               => "invalid_email".toList
  | invalidPhone               => "invalid_phone".toList
  | invalidDate                => "invalid_date".toList
  | invalidNumeric             => "invalid_numeric".toList
  | requiredFieldViolation     => "required_field_violation".toList
  | leadingWhitespace          => "leading_whitespace".toList
  | trailingWhitespace         => "trailing_whitespace".toList
  | multipleInternalSpaces     => "multiple_internal_spaces".toList
  | inconsistentCapitalization => "inconsistent_capitalization".toList
  | booleanInconsistency       => "boolean_inconsistency".toList
  | invalidEnumValue           => "invalid_enum_value".toList
  | outlier                    => "outlier".toList
  | brokenFkReference          => "broken_fk_reference".toList

inductive Severity
  | info | low | medium | high | critical
deriving DecidableEq, Repr

inductive ExpectedType
  | email | phone | date | numeric | boolean
deriving DecidableEq, Repr

structure ColumnRuleConfig (py : Python) where
  expectedType               : Option ExpectedType := none
  isRequired                 : Bool := false
  isPrimaryKey               : Bool := false
  allowedValues              : Option (List Str) := none
  outlierEnabled             : Bool := false
  outlierZscoreThreshold     : Option py.Float := none
  capitalizationCheckEnabled : Bool := false

structure Finding where
  rowNumber     : Nat
  columnName    : Option Str
  issueType     : IssueType
  severity      : Severity
  originalValue : Option Str
  suggestedFix  : Option Str
deriving DecidableEq, Repr

structure DetectionDataset (py : Python) extends Table where
  structuralIssues : List Profiling.StructuralIssue := []
  columnRules      : Dict Str (ColumnRuleConfig py) := []

/-- A rule reports findings of its own issue type only. -/
structure DetectionRule (py : Python) where
  issueType : IssueType
  detect    : DetectionDataset py → List Finding
  own       : ∀ d, ∀ f ∈ detect d, f.issueType = issueType

/-! ## Validity of a value -/

section
variable (py : Python)

def isValidEmailSyntax (value : Str) : Bool :=
  match value.splitOn '@' with
  | [name, domain] => name ≠ [] ∧ domain ≠ [] ∧ '.' ∈ domain ∧ domain.head? ≠ some '.' ∧
    domain.getLast? ≠ some '.'
  | _              => false

def isValidPhoneInternational (value : Str) : Bool :=
  if value.head? ≠ some '+' then false
  else
    match py.parsePhone value none with
    | none        => false
    | some parsed => py.isValidNumber parsed

def isValidIsoDate (value : Str) : Bool :=
  let stripped := value.strip
  py.isIsoDatetime (stripped.flatMap (fun c => if c = 'Z' then "+00:00".toList else [c])) || py.isIsoDate stripped

/-- `s.replace(sep, "")`. -/
def without (sep : Char) (s : Str) : Str := s.filter (fun c => c ≠ sep)

/-- `-?\d{1,3}(<sep>\d{3})+`. -/
def groupedBy (sep : Char) (s : Str) : Bool :=
  let unsigned := match s with
    | '-' :: s => s
    | s        => s
  match unsigned.splitOn sep with
  | []      => false
  | g :: gs => 1 ≤ g.length ∧ g.length ≤ 3 ∧ g.all py.isDigit ∧ gs ≠ [] ∧ ∀ g' ∈ gs, g'.length = 3 ∧
    g'.all py.isDigit

def isValidNumeric (value : Str) : Bool :=
  let stripped := value.strip
  if stripped = [] then false
  else
    let candidate := if ',' ∈ stripped ∧ '.' ∉ stripped ∧
      groupedBy py ',' stripped then without ',' stripped else stripped
    py.isFiniteDecimal candidate

inductive BooleanFamily
  | trueFalse | yesNo | yN | oneZero
deriving DecidableEq, Repr

def BooleanFamily.name : BooleanFamily → Str
  | trueFalse => "true_false".toList
  | yesNo     => "yes_no".toList
  | yN        => "y_n".toList
  | oneZero   => "one_zero".toList

/-- `BOOLEAN_TOKEN_FAMILIES`. -/
def booleanTokenFamilies : List (BooleanFamily × Dict Str Bool) :=
  [(.trueFalse, [("true".toList, true), ("false".toList, false)]),
    (.yesNo, [("yes".toList, true), ("no".toList, false)]),
    (.yN, [("y".toList, true), ("n".toList, false)]),
    (.oneZero, [("1".toList, true), ("0".toList, false)])]

def classifyBooleanToken (value : Str) : Option (BooleanFamily × Bool) :=
  let lowered := py.casefold value.strip
  booleanTokenFamilies.findSome? (fun entry => (Dict.get? entry.2 lowered).map (fun parsed => (entry.1, parsed)))

inductive Casing
  | lower | upper | title | mixed
deriving DecidableEq, Repr

def classifyCasing (value : Str) : Option Casing :=
  if ¬ value.any py.isAlpha then none
  else if value = py.lower value then some .lower
  else if value = py.upper value then some .upper
  else if value = py.title value then some .title
  else some .mixed

/-- `NULL_SENTINELS`. -/
def nullSentinels : List Str :=
  ["null".toList, "none".toList, "n/a".toList, "na".toList, "-".toList, "nan".toList, "nil".toList]

def isNullSentinel (value : Str) : Bool := py.casefold value.strip ∈ nullSentinels

end

/-! ## Rules that check cell by cell -/

section
variable {py : Python}

/-- `_csv_row_number`: row 1 is the header. -/
def csvRowNumber (rowIndex : Nat) : Nat := rowIndex + 2

def DetectionDataset.header (d : DetectionDataset py) (c : d.ColIndex) : Str := d.headers.get c

def allColumns (d : DetectionDataset py) : List d.ColIndex := List.finRange d.headers.length

/-- The columns whose rule a check governs. -/
def columnsWith (governs : ColumnRuleConfig py → Bool) (d : DetectionDataset py) : List d.ColIndex :=
  (allColumns d).filter (fun c => (d.columnRules.get? (d.header c)).any governs)

def cellFinding (issueType : IssueType) (severity : Severity) (originalValue suggestedFix : Str → Option Str)
    (d : DetectionDataset py) (i : d.RowIndex) (c : d.ColIndex) : Finding where
  rowNumber := csvRowNumber i
  columnName := some (d.header c)
  issueType := issueType
  severity := severity
  originalValue := originalValue (d.cell i c)
  suggestedFix := suggestedFix (d.cell i c)

/-- Row after row, the cells of the rule's columns that it flags. -/
def cellRule (issueType : IssueType) (severity : Severity) (columns : (d : DetectionDataset py) → List d.ColIndex)
    (flags : (d : DetectionDataset py) → d.RowIndex → d.ColIndex → Bool)
    (originalValue : Str → Option Str := some) (suggestedFix : Str → Option Str := fun _ => none) : DetectionRule py where
  issueType := issueType
  detect := fun d => (List.finRange d.rows.length).flatMap (fun i =>
    ((columns d).filter (flags d i)).map (cellFinding issueType severity originalValue suggestedFix d i))
  own := by
    intro d f hf
    obtain ⟨i, -, hf⟩ := List.mem_flatMap.1 hf
    obtain ⟨c, -, rfl⟩ := List.mem_map.1 hf
    rfl

/-- The columns a short row has no field for. -/
def paddedColumns (d : DetectionDataset py) (fieldCount : Nat) : List d.ColIndex :=
  (allColumns d).filter (fun c => fieldCount ≤ (c : Nat))

def missingValueRule : DetectionRule py where
  issueType := .missingValue
  detect := fun d => d.structuralIssues.flatMap (fun issue =>
    match issue with
    | .tooFewFields rowNumber fieldCount =>
      (paddedColumns d fieldCount).map (fun c => ⟨rowNumber, some (d.header c), .missingValue, .medium, none, none⟩)
    | _ => [])
  own := by
    intro d f hf
    obtain ⟨issue, -, hf⟩ := List.mem_flatMap.1 hf
    cases issue <;> simp only [List.mem_map, List.not_mem_nil] at hf
    obtain ⟨c, -, rfl⟩ := hf
    rfl

/-- `(row_index, column_index) in _missing_cells(dataset)`. -/
def isMissingCell (d : DetectionDataset py) (i : d.RowIndex) (c : d.ColIndex) : Bool :=
  d.structuralIssues.any (fun issue =>
    match issue with
    | .tooFewFields rowNumber fieldCount => rowNumber = csvRowNumber i ∧ fieldCount ≤ (c : Nat)
    | _                                  => false)

def emptyStringRule : DetectionRule py :=
  cellRule .emptyString .low allColumns (fun d i c => ¬ isMissingCell d i c ∧ d.cell i c = [])

def nullValueRule : DetectionRule py :=
  cellRule .nullValue .low allColumns (fun d i c => d.cell i c ≠ [] ∧ isNullSentinel py (d.cell i c))

/-- `_ExpectedTypeRule`. -/
def expectedTypeRule (issueType : IssueType) (expectedType : ExpectedType) (isValid : Str → Bool) : DetectionRule py :=
  cellRule issueType .medium (columnsWith (fun rule => rule.expectedType = some expectedType))
    (fun d i c => ¬ (d.cell i c = [] ∨ isValid (d.cell i c)))

def invalidEmailRule : DetectionRule py := expectedTypeRule .invalidEmail .email isValidEmailSyntax
def invalidPhoneRule : DetectionRule py := expectedTypeRule .invalidPhone .phone (isValidPhoneInternational py)
def invalidDateRule : DetectionRule py := expectedTypeRule .invalidDate .date (isValidIsoDate py)
def invalidNumericRule : DetectionRule py := expectedTypeRule .invalidNumeric .numeric (isValidNumeric py)

def requiredFieldViolationRule : DetectionRule py :=
  cellRule .requiredFieldViolation .high (columnsWith (fun rule => rule.isRequired))
    (fun d i c => d.cell i c = [] ∨ isNullSentinel py (d.cell i c)) (fun value => if value ≠ [] then some value else none)

/-- A whitespace rule suggests the repaired text. -/
def whitespaceRule (issueType : IssueType) (flags : Str → Bool) (repair : Str → Str) : DetectionRule py :=
  cellRule issueType .info allColumns (fun d i c => d.cell i c ≠ [] ∧ flags (d.cell i c)) some
    (fun value => some (repair value))

def leadingWhitespaceRule : DetectionRule py :=
  whitespaceRule .leadingWhitespace (fun value => value ≠ value.lstrip) Str.lstrip
def trailingWhitespaceRule : DetectionRule py :=
  whitespaceRule .trailingWhitespace (fun value => value ≠ value.rstrip) Str.rstrip
def multipleInternalSpacesRule : DetectionRule py :=
  whitespaceRule .multipleInternalSpaces Str.searchRun Str.collapse

def invalidEnumValueRule : DetectionRule py :=
  cellRule .invalidEnumValue .high (columnsWith (fun rule => rule.allowedValues.any (fun allowed => allowed ≠ [])))
    (fun d i c => d.cell i c ≠ [] ∧
      d.cell i c ∉ ((d.columnRules.get? (d.header c)).bind (fun rule => rule.allowedValues)).getD [])

/-! ## Rules on rows -/

def duplicateRowFinding (rowIndex : Nat) : Finding :=
  ⟨csvRowNumber rowIndex, none, .duplicateRow, .medium, none, none⟩

def duplicateRowRule : DetectionRule py where
  issueType := .duplicateRow
  detect := fun d => (repeated d.row [] (List.finRange d.rows.length)).map (fun i : d.RowIndex => duplicateRowFinding i)
  own := by
    intro d f hf
    obtain ⟨i, -, rfl⟩ := List.mem_map.1 hf
    rfl

def keyColumns (d : DetectionDataset py) : List d.ColIndex := columnsWith (fun rule => rule.isPrimaryKey) d

/-- The key of a row: its cells in the key columns, in header order. -/
def primaryKey (d : DetectionDataset py) (i : d.RowIndex) : List Str := (keyColumns d).map (d.cell i)

def duplicatePrimaryKeyFinding (d : DetectionDataset py) (i : d.RowIndex) : Finding where
  rowNumber := csvRowNumber i
  columnName := some (['+'].intercalate ((keyColumns d).map d.header))
  issueType := .duplicatePrimaryKey
  severity := .critical
  originalValue := some ([',', ' '].intercalate (primaryKey d i))
  suggestedFix := none

def duplicatePrimaryKeyRule : DetectionRule py where
  issueType := .duplicatePrimaryKey
  detect := fun d =>
    if keyColumns d = [] then []
    else (repeated (primaryKey d) [] (List.finRange d.rows.length)).map (duplicatePrimaryKeyFinding d)
  own := by
    intro d f hf
    split at hf
    · cases hf
    · obtain ⟨i, -, rfl⟩ := List.mem_map.1 hf
      rfl

/-! ## Rules on columns -/

/-- `_PATTERN_PRIORITY`. -/
def patternPriority : List Casing := [.lower, .title, .upper, .mixed]

/-- The casing of every cell of a column that has one. -/
def casings (d : DetectionDataset py) (c : d.ColIndex) : List (d.RowIndex × Casing) :=
  (List.finRange d.rows.length).filterMap (fun i => (classifyCasing py (d.cell i c)).map (fun pattern => (i, pattern)))

def inconsistentCapitalizationRule : DetectionRule py where
  issueType := .inconsistentCapitalization
  detect := fun d => (columnsWith (fun rule => rule.capitalizationCheckEnabled) d).flatMap (fun c =>
    match Dict.mostFrequent patternPriority ((casings d c).map (·.2)) with
    | none          => []
    | some dominant => ((casings d c).filter (fun p => p.2 ≠ dominant)).map (fun p =>
        cellFinding .inconsistentCapitalization .low some (fun _ => none) d p.1 c))
  own := by
    intro d f hf
    obtain ⟨c, -, hf⟩ := List.mem_flatMap.1 hf
    split at hf
    · cases hf
    · obtain ⟨p, -, rfl⟩ := List.mem_map.1 hf
      rfl

/-- The token families in the order of their names. -/
def familiesByName : List BooleanFamily := [.oneZero, .trueFalse, .yN, .yesNo]

example : (familiesByName.map BooleanFamily.name).Pairwise (· < ·) := by decide

/-- The family of every nonempty cell of a column that is a boolean token. -/
def families (d : DetectionDataset py) (c : d.ColIndex) : List (d.RowIndex × BooleanFamily) :=
  (List.finRange d.rows.length).filterMap (fun i =>
    if d.cell i c = [] then none else (classifyBooleanToken py (d.cell i c)).map (fun token => (i, token.1)))

/-- The rows whose nonempty cell is no boolean token. -/
def unrecognized (d : DetectionDataset py) (c : d.ColIndex) : List d.RowIndex :=
  (List.finRange d.rows.length).filter (fun i => d.cell i c ≠ [] ∧ classifyBooleanToken py (d.cell i c) = none)

/-- `BooleanInconsistencyRule._detect_column`. -/
def detectBooleanColumn (d : DetectionDataset py) (c : d.ColIndex) : List Finding :=
  (unrecognized d c).map (fun i => cellFinding .booleanInconsistency .high some (fun _ => none) d i c) ++
    match Dict.mostFrequent familiesByName ((families d c).map (·.2)) with
    | none          => []
    | some dominant => ((families d c).filter (fun p => p.2 ≠ dominant)).map (fun p =>
        cellFinding .booleanInconsistency .medium some (fun _ => none) d p.1 c)

theorem mem_detectBooleanColumn {d : DetectionDataset py} {c : d.ColIndex} {f : Finding}
    (hf : f ∈ detectBooleanColumn d c) :
    ∃ severity i, f = cellFinding .booleanInconsistency severity some (fun _ => none) d i c := by
  unfold detectBooleanColumn at hf
  rcases List.mem_append.1 hf with hf | hf
  · obtain ⟨i, -, rfl⟩ := List.mem_map.1 hf
    exact ⟨.high, i, rfl⟩
  · split at hf
    · cases hf
    · obtain ⟨p, -, rfl⟩ := List.mem_map.1 hf
      exact ⟨.medium, p.1, rfl⟩

def booleanInconsistencyRule : DetectionRule py where
  issueType := .booleanInconsistency
  detect := fun d => (columnsWith (fun rule => rule.expectedType = some .boolean) d).flatMap (detectBooleanColumn d)
  own := by
    intro d f hf
    obtain ⟨c, -, hf⟩ := List.mem_flatMap.1 hf
    obtain ⟨severity, i, rfl⟩ := mem_detectBooleanColumn hf
    rfl

/-- `_median`. -/
def median (values : List py.Float) : Option py.Float :=
  let ordered := values.insertionSort (fun a b => ¬ py.lt b a)
  let mid := ordered.length / 2
  if ordered.length % 2 = 1 then ordered[mid]?
  else
    match ordered[mid - 1]?, ordered[mid]? with
    | some a, some b => some (py.div (py.add a b) (py.ofNat 2))
    | _, _           => none

/-- `column_rule.outlier_zscore_threshold or _FALLBACK_ZSCORE_THRESHOLD`. -/
def zscoreThreshold (rule : ColumnRuleConfig py) : py.Float :=
  match rule.outlierZscoreThreshold with
  | none           => py.float "3.5".toList
  | some threshold => if py.eq threshold (py.ofNat 0) then py.float "3.5".toList else threshold

/-- The numbers of a column, with their rows. -/
def numericByRow (d : DetectionDataset py) (c : d.ColIndex) : List (d.RowIndex × py.Float) :=
  (List.finRange d.rows.length).filterMap (fun i =>
    if d.cell i c ≠ [] ∧ isValidNumeric py (d.cell i c) then some (i, py.float (without ',' (d.cell i c).strip)) else none)

/-- `OutlierRule._detect_column`. -/
def detectOutliers (d : DetectionDataset py) (rule : ColumnRuleConfig py) (c : d.ColIndex) : List Finding :=
  let numbers := numericByRow d c
  if numbers.length < 2 then []
  else
    match median (numbers.map (·.2)) with
    | none   => []
    | some m =>
      match median (numbers.map (fun p => py.abs (py.sub p.2 m))) with
      | none     => []
      | some mad =>
        if py.eq mad (py.ofNat 0) then []
        else (numbers.filter (fun p => py.lt (zscoreThreshold rule)
          (py.abs (py.div (py.mul (py.float "0.6745".toList) (py.sub p.2 m)) mad)))).map (fun p =>
            cellFinding .outlier .medium some (fun _ => none) d p.1 c)

theorem mem_detectOutliers {d : DetectionDataset py} {rule : ColumnRuleConfig py} {c : d.ColIndex} {f : Finding}
    (hf : f ∈ detectOutliers d rule c) :
    ∃ i, f = cellFinding .outlier .medium some (fun _ => none) d i c := by
  unfold detectOutliers at hf
  dsimp only at hf
  split at hf
  · cases hf
  · split at hf
    · cases hf
    · split at hf
      · cases hf
      · split at hf
        · cases hf
        · obtain ⟨p, -, rfl⟩ := List.mem_map.1 hf
          exact ⟨p.1, rfl⟩

def outlierRule : DetectionRule py where
  issueType := .outlier
  detect := fun d => (allColumns d).flatMap (fun c =>
    match d.columnRules.get? (d.header c) with
    | none      => []
    | some rule => if rule.outlierEnabled then detectOutliers d rule c else [])
  own := by
    intro d f hf
    obtain ⟨c, -, hf⟩ := List.mem_flatMap.1 hf
    split at hf
    · cases hf
    · split at hf
      · obtain ⟨i, rfl⟩ := mem_detectOutliers hf
        rfl
      · cases hf

def brokenFkReferenceRule : DetectionRule py where
  issueType := .brokenFkReference
  detect := fun _ => []
  own := fun _ _ hf => by cases hf

end
end Detection
end DataOps

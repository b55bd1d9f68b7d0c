import DataOps.ColumnRules
import DataOps.QualityRowCount
/-!
# ApprovedChanges — the changes of a chain whose three handlers loaded their rules

Detection, remediation and validation load the rules of one organization, the same rules but each in the order its query
returned them (`Loaded`).  A change is proposed only where active rules ask for it, but for those of whitespace
(`changes_asked_for`).  Where one rule speaks for each column, validation, which loads the rules of the approved columns
only, passes every approved change up to its ceiling (`approved_changes_pass`).
-/
namespace DataOps
namespace ColumnRules

open Api (OrganizationId)
open Detection (ColumnRuleConfig DetectionDataset ExpectedType Finding IssueType)
open Quality (Chain RemediationChangeRow ValidationResultRow)
open Remediation (Action RemediationColumnConfig RemediationDatasetConfigInput RemediationIssueInput RemediationRule
  columnConfigOf)
open Schedule (DataSourceId)
open Validation (ValidationColumnConfig forValidation validateChange)

/-- The rules of both tables, as queries returned them. -/
structure RuleRows (py : Python) where
  remediation : List RemediationColumnRule
  detection   : List (IssueDetectionColumnRule py)

/-- **A chain whose configurations were loaded** from the rules of one organization, which stayed as they are. -/
structure Loaded {py : Python} (c : Chain py) where
  organizationId                : OrganizationId
  dataSourceId                  : DataSourceId
  rules                         : RuleRows py
  datasetConfigs                : List RemediationDatasetConfig
  defaultOutlierZscoreThreshold : py.Float
  -- the orders in which each handler saw them
  atDetection                   : List (IssueDetectionColumnRule py)
  atDetection_perm              : rules.detection.Perm atDetection
  atRemediation                 : RuleRows py
  atRemediation_perm            : rules.remediation.Perm atRemediation.remediation ∧
    rules.detection.Perm atRemediation.detection
  atValidation                  : RuleRows py
  atValidation_perm             : rules.remediation.Perm atValidation.remediation ∧
    rules.detection.Perm atValidation.detection
  -- the set of the approved columns, as a list
  columnNames                   : List Str
  mem_columnNames               : ∀ name, name ∈ columnNames ↔
    ∃ change ∈ c.approvedChanges, change.columnName = some name
  columnRules_loaded            : c.dataset.columnRules = loadColumnRules py organizationId dataSourceId atDetection
    c.dataset.headers defaultOutlierZscoreThreshold
  columnConfig_loaded           : c.columnConfig = loadRemediationConfig py organizationId dataSourceId
    atRemediation.remediation atRemediation.detection c.dataset.headers
  datasetConfig_loaded          : c.datasetConfig = loadDatasetConfig datasetConfigs organizationId dataSourceId
  validationConfig_loaded       : c.validationConfig = loadValidationConfig py organizationId dataSourceId
    atValidation.remediation atValidation.detection columnNames

section
variable {py : Python} {c : Chain py}

/-! ## What a column's configuration comes from -/

/-- An active detection rule on the column, which is the table's. -/
def Loaded.Detects (r : Loaded c) (columnName : Option Str) (asks : IssueDetectionColumnRule py → Prop) : Prop :=
  ∃ name ∈ c.dataset.headers, columnName = some name ∧ ∃ row ∈ r.rules.detection,
    Asks py (·.toRuleScope) r.organizationId r.dataSourceId name row ∧ asks row

/-- An active remediation rule on the column. -/
def Loaded.Repairs (r : Loaded c) (columnName : Option Str) (asks : RemediationColumnRule → Prop) : Prop :=
  ∃ name ∈ c.dataset.headers, columnName = some name ∧ ∃ row ∈ r.rules.remediation,
    Asks py (·.toRuleScope) r.organizationId r.dataSourceId name row ∧ asks row

/-- A configured field of a column is a field of the rules on it. -/
theorem Loaded.exists_rules (r : Loaded c) {columnName : Option Str} {config : RemediationColumnConfig}
    (h : columnConfigOf c.columnConfig columnName = some config) :
    ∃ rules, config = remediationConfig rules ∧ (∀ row, rules.1 = some row → r.Repairs columnName (· = row)) ∧
      ∀ row, rules.2 = some row → r.Detects columnName (· = row) := by
  rw [r.columnConfig_loaded] at h
  obtain ⟨name, hgiven, hconfig⟩ := Option.bind_eq_some_iff.1 h
  have hname := Validation.given_eq_some hgiven
  unfold loadRemediationConfig at hconfig
  rw [resolveEach_get?] at hconfig
  split at hconfig
  · rename_i hheader
    obtain ⟨rules, hrules, rfl⟩ := Option.map_eq_some_iff.1 hconfig
    have hfound : (ruleMaps py (·.toRuleScope) r.organizationId r.dataSourceId r.atRemediation.remediation).find
          (py.lower name.strip) = rules.1 ∧
        (ruleMaps py (·.toRuleScope) r.organizationId r.dataSourceId r.atRemediation.detection).find
          (py.lower name.strip) = rules.2 := by
      unfold rulesOn at hrules
      dsimp only at hrules
      split at hrules
      · cases hrules
      · rename_i remediationRow detectionRow _
        cases hrules
        exact ⟨rfl, rfl⟩
    refine ⟨rules, rfl, fun row hrow => ?_, fun row hrow => ?_⟩
    · obtain ⟨hmem, hasks⟩ := asks_of_find (hfound.1.trans hrow)
      exact ⟨name, hheader, hname, row, r.atRemediation_perm.1.mem_iff.2 hmem, hasks, rfl⟩
    · obtain ⟨hmem, hasks⟩ := asks_of_find (hfound.2.trans hrow)
      exact ⟨name, hheader, hname, row, r.atRemediation_perm.2.mem_iff.2 hmem, hasks, rfl⟩
  · cases hconfig

/-- A field that remediation reads. -/
theorem Loaded.repairs_of_field (r : Loaded c) {γ : Type} {columnName : Option Str} {value : γ}
    (field : RemediationColumnConfig → Option γ) (column : RemediationColumnRule → Option γ)
    (hfield : ∀ rules : Option RemediationColumnRule × Option (IssueDetectionColumnRule py),
      field (remediationConfig rules) = rules.1.bind column)
    (h : (columnConfigOf c.columnConfig columnName).bind field = some value) :
    r.Repairs columnName (fun row => column row = some value) := by
  obtain ⟨config, hconfig, hvalue⟩ := Option.bind_eq_some_iff.1 h
  obtain ⟨rules, rfl, hrepairs, -⟩ := r.exists_rules hconfig
  rw [hfield] at hvalue
  obtain ⟨row, hrow, hcolumn⟩ := Option.bind_eq_some_iff.1 hvalue
  obtain ⟨name, hheader, hname, _, hmem, hasks, rfl⟩ := hrepairs row hrow
  exact ⟨name, hheader, hname, _, hmem, hasks, hcolumn⟩

/-- A column that a detection rule governs. -/
theorem Loaded.detects_of_column (r : Loaded c) {governs : ColumnRuleConfig py → Bool}
    {needs : IssueDetectionColumnRule py → Prop} {column : c.dataset.ColIndex}
    (h : column ∈ Detection.columnsWith governs c.dataset)
    (hneeds : ∀ row, governs (detectionConfig r.defaultOutlierZscoreThreshold row) = true → needs row) :
    r.Detects (some (c.dataset.header column)) needs := by
  obtain ⟨-, hgoverned⟩ := List.mem_filter.1 h
  rw [r.columnRules_loaded, loadColumnRules, resolveEach_get?] at hgoverned
  split at hgoverned
  · rename_i hheader
    cases hfound : (ruleMaps py (·.toRuleScope) r.organizationId r.dataSourceId r.atDetection).find
        (py.lower (c.dataset.header column).strip) with
    | none => rw [hfound] at hgoverned; cases hgoverned
    | some row =>
      rw [hfound] at hgoverned
      obtain ⟨hmem, hasks⟩ := asks_of_find hfound
      exact ⟨_, hheader, rfl, row, r.atDetection_perm.mem_iff.2 hmem, hasks, hneeds row hgoverned⟩
  · cases hgoverned

/-! ## What an issue needs -/

/-- The issue types that are reported under a rule of their column only. -/
def ruledIssueTypes : List IssueType :=
  [.invalidEmail, .invalidPhone, .invalidDate, .invalidNumeric, .requiredFieldViolation, .inconsistentCapitalization,
    .booleanInconsistency, .invalidEnumValue, .outlier]

/-- What a rule says for an issue type to be reported. -/
def Needs (issueType : IssueType) (row : IssueDetectionColumnRule py) : Prop :=
  match issueType with
  | .invalidEmail               => row.expectedType = some .email
  | .invalidPhone               => row.expectedType = some .phone
  | .invalidDate                => row.expectedType = some .date
  | .invalidNumeric             => row.expectedType = some .numeric
  | .requiredFieldViolation     => row.isRequired = true
  | .inconsistentCapitalization => row.capitalizationCheckEnabled = true
  | .booleanInconsistency       => row.expectedType = some .boolean
  | .invalidEnumValue           => (givenValues row.allowedValues).isSome = true
  | .outlier                    => row.outlierEnabled = true
  | .duplicatePrimaryKey        => row.isPrimaryKey = true
  | _                           => True

/-- A cell rule reports under a rule of the column. -/
theorem Loaded.detects_of_cellRule (r : Loaded c) {issueType : IssueType} {severity : Detection.Severity}
    {governs : ColumnRuleConfig py → Bool} {flags : (d : DetectionDataset py) → d.RowIndex → d.ColIndex → Bool}
    {originalValue suggestedFix : Str → Option Str} {f : Finding} {needs : IssueDetectionColumnRule py → Prop}
    (hf : f ∈ (Detection.cellRule issueType severity (Detection.columnsWith governs) flags originalValue
      suggestedFix).detect c.dataset)
    (hneeds : ∀ row, governs (detectionConfig r.defaultOutlierZscoreThreshold row) = true → needs row) :
    r.Detects f.columnName needs := by
  obtain ⟨i, column, hcolumn, -, rfl⟩ := Detection.mem_cellRule.1 hf
  exact r.detects_of_column hcolumn hneeds

theorem Loaded.detects_expectedType (r : Loaded c) {issueType : IssueType} {expectedType : ExpectedType}
    {isValid : Str → Bool} {f : Finding}
    (hf : f ∈ (Detection.expectedTypeRule issueType expectedType isValid).detect c.dataset) :
    r.Detects f.columnName (fun row => row.expectedType = some expectedType) :=
  r.detects_of_cellRule hf (fun _ h => of_decide_eq_true h)

/-- **An issue of a ruled type is reported under an active rule of its column.** -/
theorem Loaded.detects_issue (r : Loaded c) {f : Finding} (hf : f ∈ Detection.allFindings c.dataset)
    (htype : f.issueType ∈ ruledIssueTypes) : r.Detects f.columnName (Needs f.issueType) := by
  have hrule : ∀ rule ∈ Detection.detectionRules, f.issueType = rule.issueType → f ∈ rule.detect c.dataset :=
    fun rule hrule heq => (Detection.mem_allFindings_of_rule hrule).1 ⟨hf, heq⟩
  simp only [ruledIssueTypes, List.mem_cons, List.not_mem_nil, or_false] at htype
  rcases htype with htype | htype | htype | htype | htype | htype | htype | htype | htype <;> rw [htype]
  · exact r.detects_expectedType (hrule Detection.invalidEmailRule (by simp [Detection.detectionRules]) htype)
  · exact r.detects_expectedType (hrule Detection.invalidPhoneRule (by simp [Detection.detectionRules]) htype)
  · exact r.detects_expectedType (hrule Detection.invalidDateRule (by simp [Detection.detectionRules]) htype)
  · exact r.detects_expectedType (hrule Detection.invalidNumericRule (by simp [Detection.detectionRules]) htype)
  · exact r.detects_of_cellRule (hrule Detection.requiredFieldViolationRule (by simp [Detection.detectionRules]) htype)
      (fun row h => h)
  · have hmem := hrule Detection.inconsistentCapitalizationRule (by simp [Detection.detectionRules]) htype
    obtain ⟨column, hcolumn, hmem⟩ := List.mem_flatMap.1 hmem
    split at hmem
    · cases hmem
    · obtain ⟨p, -, rfl⟩ := List.mem_map.1 hmem
      exact r.detects_of_column hcolumn (fun row h => h)
  · have hmem := hrule Detection.booleanInconsistencyRule (by simp [Detection.detectionRules]) htype
    obtain ⟨column, hcolumn, hmem⟩ := List.mem_flatMap.1 hmem
    obtain ⟨severity, i, rfl⟩ := Detection.mem_detectBooleanColumn hmem
    have hneeds : ∀ row, decide ((detectionConfig r.defaultOutlierZscoreThreshold row).expectedType =
      some .boolean) = true →
        row.expectedType = some .boolean := fun row h => of_decide_eq_true h
    exact r.detects_of_column hcolumn hneeds
  · exact r.detects_of_cellRule (hrule Detection.invalidEnumValueRule (by simp [Detection.detectionRules]) htype)
      (fun row h => Option.isSome_of_any h)
  · have hmem := hrule Detection.outlierRule (by simp [Detection.detectionRules]) htype
    obtain ⟨column, hcolumn, hmem⟩ := List.mem_flatMap.1 hmem
    split at hmem
    · cases hmem
    · rename_i rule hget
      split at hmem
      · rename_i henabled
        obtain ⟨i, rfl⟩ := Detection.mem_detectOutliers hmem
        have hgoverned : column ∈ Detection.columnsWith (fun rule => rule.outlierEnabled) c.dataset :=
          List.mem_filter.2 ⟨hcolumn, by rw [hget]; exact henabled⟩
        exact r.detects_of_column hgoverned (fun row h => h)
      · cases hmem

/-- Two rows with one key are reported where some column is a key. -/
theorem Loaded.detects_key (r : Loaded c) {f : Finding} (hf : f ∈ Detection.allFindings c.dataset)
    (htype : f.issueType = .duplicatePrimaryKey) : ∃ name, r.Detects (some name) (Needs .duplicatePrimaryKey) := by
  have hmem := (Detection.mem_allFindings_of_rule (r := Detection.duplicatePrimaryKeyRule)
    (by simp [Detection.detectionRules])).1 ⟨hf, htype⟩
  simp only [Detection.duplicatePrimaryKeyRule] at hmem
  split at hmem
  · cases hmem
  · rename_i hkeys
    obtain ⟨column, hcolumn⟩ := List.exists_mem_of_ne_nil _ hkeys
    exact ⟨_, r.detects_of_column hcolumn (fun row h => h)⟩

/-! ## What a change needs -/

/-- What the rules ask of a change, by its action. -/
def Loaded.AskedFor (r : Loaded c) (change : RemediationChangeRow) : Prop :=
  match change.action with
  -- whitespace is repaired without a rule
  | .trimWhitespace | .collapseMultipleSpaces => True
  | .normalizeBoolean => r.Detects change.columnName (Needs .booleanInconsistency)
  | .normalizeNumeric => r.Detects change.columnName (Needs .invalidNumeric)
  | .standardizeCapitalization =>
    r.Detects change.columnName (Needs .inconsistentCapitalization) ∧
      ∃ target value, r.Repairs change.columnName (fun row => row.capitalizationTarget = some target) ∧
        change.originalValue = some value ∧ change.proposedValue = some (Remediation.applyTarget py target value)
  | .normalizeDate =>
    r.Detects change.columnName (Needs .invalidDate) ∧
      ∃ sourceFormat targetFormat value parsed,
        r.Repairs change.columnName (fun row => row.sourceDateFormat = some sourceFormat) ∧
        r.Repairs change.columnName (fun row => row.targetDateFormat = some targetFormat) ∧
        change.originalValue = some value ∧ py.strptime value sourceFormat = some parsed ∧
        change.proposedValue = some (py.strftime parsed targetFormat)
  | .normalizePhone =>
    r.Detects change.columnName (Needs .invalidPhone) ∧
      ∃ country, r.Repairs change.columnName (fun row => row.defaultCountry = some country)
  | .normalizeEnumValue =>
    r.Detects change.columnName (Needs .invalidEnumValue) ∧
      ∃ allowed, change.proposedValue = some allowed ∧
        r.Detects change.columnName (fun row => ∃ values, row.allowedValues = some values ∧ allowed ∈ values)
  | .removeDuplicateRow =>
    ∃ row ∈ r.datasetConfigs, row.organizationId = r.organizationId ∧ row.dataSourceId = r.dataSourceId ∧
      row.isActive = true ∧ row.removeDuplicateRowsEnabled = true
  | .removeDuplicatePrimaryKey =>
    (∃ name, r.Detects (some name) (Needs .duplicatePrimaryKey)) ∧
      ∃ row ∈ r.datasetConfigs, row.organizationId = r.organizationId ∧ row.dataSourceId = r.dataSourceId ∧
        row.isActive = true ∧ row.removeDuplicatePrimaryKeysEnabled = true

/-- A removal that is enabled was enabled by an active row of the data source. -/
theorem Loaded.datasetConfig_row (r : Loaded c) {flag : RemediationDatasetConfigInput → Bool}
    {column : RemediationDatasetConfig → Bool} (hdefault : flag {} = false)
    (hflag : ∀ row : RemediationDatasetConfig,
      flag ⟨row.removeDuplicateRowsEnabled, row.removeDuplicatePrimaryKeysEnabled⟩ = column row)
    (h : flag c.datasetConfig = true) :
    ∃ row ∈ r.datasetConfigs, row.organizationId = r.organizationId ∧ row.dataSourceId = r.dataSourceId ∧
      row.isActive = true ∧ column row = true := by
  rw [r.datasetConfig_loaded, loadDatasetConfig] at h
  split at h
  · rw [hdefault] at h
    cases h
  · rename_i row hfind
    have hrow := List.find?_some hfind
    obtain ⟨horg, hsource, hactive⟩ := of_decide_eq_true hrow
    rw [hflag] at h
    exact ⟨row, List.mem_of_find?_eq_some hfind, horg, hsource, hactive, h⟩

theorem proposeRemoval_enabled {action : Action} {enabled : Bool} {v : Option Str} {reason : String}
    (h : Remediation.proposeRemoval action enabled = .changed v reason) : enabled = true := by
  unfold Remediation.proposeRemoval at h
  split at h
  · assumption
  · cases h

section
variable {issue : RemediationIssueInput} {config : Option RemediationColumnConfig} {v : Option Str} {reason : String}

theorem proposeStandardizeCapitalization_changed
    (h : Remediation.proposeStandardizeCapitalization py issue config = .changed v reason) :
    ∃ target value, config.bind (fun config => config.capitalizationTarget) = some target ∧
      issue.originalValue = some value ∧
      v = some (Remediation.applyTarget py target value) := by
  unfold Remediation.proposeStandardizeCapitalization at h
  split at h
  · cases h
  · rename_i target htarget
    split at h
    · cases h
    · rename_i value hvalue
      exact ⟨target, value, htarget, Validation.given_eq_some hvalue, Validation.proposeCanonical_changed h⟩

theorem proposeNormalizeDate_changed (h : Remediation.proposeNormalizeDate py issue config = .changed v reason) :
    ∃ sourceFormat targetFormat value parsed, config.bind (fun config => config.sourceDateFormat) = some sourceFormat ∧
      config.bind (fun config => config.targetDateFormat) = some targetFormat ∧ issue.originalValue = some value ∧
      py.strptime value sourceFormat = some parsed ∧ v = some (py.strftime parsed targetFormat) := by
  unfold Remediation.proposeNormalizeDate at h
  split at h
  · cases h
  · rename_i sourceFormat hsource
    split at h
    · cases h
    · rename_i targetFormat htarget
      split at h
      · cases h
      · rename_i value hvalue
        split at h
        · cases h
        · rename_i parsed hparsed
          exact ⟨sourceFormat, targetFormat, value, parsed, Validation.given_eq_some hsource,
            Validation.given_eq_some htarget,
            Validation.given_eq_some hvalue, hparsed, Validation.proposeCanonical_changed h⟩

theorem proposeNormalizePhone_changed (h : Remediation.proposeNormalizePhone py issue config = .changed v reason) :
    ∃ country, config.bind (fun config => config.defaultCountry) = some country := by
  unfold Remediation.proposeNormalizePhone at h
  split at h
  · cases h
  · rename_i country hcountry
    exact ⟨country, Validation.given_eq_some hcountry⟩

theorem proposeNormalizeEnumValue_changed
    (h : Remediation.proposeNormalizeEnumValue py issue config = .changed v reason) :
    ∃ values allowed, config.bind (fun config => config.allowedValues) = some values ∧ allowed ∈ values ∧
      v = some allowed := by
  unfold Remediation.proposeNormalizeEnumValue at h
  split at h
  · cases h
  · cases h
  · rename_i values _ hvalues
    split at h
    · cases h
    · rename_i value hvalue
      split at h
      · rename_i canonical hcanonical
        have hmem : canonical ∈ Remediation.matchingAllowed py values value := by
          rw [hcanonical]
          exact List.mem_singleton_self _
        exact ⟨values, canonical, hvalues, (List.mem_filter.1 (List.mem_dedup.1 hmem)).1,
          Validation.proposeCanonical_changed h⟩
      · cases h

end

/-- An allowed value that remediation reads is one of an active rule's. -/
theorem Loaded.detects_allowed (r : Loaded c) {columnName : Option Str} {values : List Str} {allowed : Str}
    (h : (columnConfigOf c.columnConfig columnName).bind (fun config => config.allowedValues) = some values)
    (hallowed : allowed ∈ values) :
    r.Detects columnName (fun row => ∃ values, row.allowedValues = some values ∧ allowed ∈ values) := by
  obtain ⟨config, hconfig, hvalues⟩ := Option.bind_eq_some_iff.1 h
  obtain ⟨rules, rfl, -, hdetects⟩ := r.exists_rules hconfig
  obtain ⟨row, hrow, hgiven⟩ := Option.bind_eq_some_iff.1 hvalues
  obtain ⟨name, hheader, hname, _, hmem, hasks, rfl⟩ := hdetects row hrow
  exact ⟨name, hheader, hname, _, hmem, hasks, values, (Option.filter_eq_some_iff.1 hgiven).1, hallowed⟩

/-- Every configuration is the mirror of one. -/
theorem exists_forValidation (config : Option ValidationColumnConfig) :
    ∃ config' : Option RemediationColumnConfig, config'.map forValidation = config := by
  cases config with
  | none => exact ⟨none, rfl⟩
  | some config =>
    exact ⟨some ⟨config.sourceDateFormat, config.targetDateFormat, config.defaultCountry, config.capitalizationTarget,
      config.allowedValues⟩, rfl⟩

/-- A rule for other issue types reads no configuration. -/
theorem propose_unconfigured {rule : RemediationRule} {issueType : IssueType}
    (h : Remediation.getRuleForIssueType py issueType = some rule) (hruled : issueType ∉ ruledIssueTypes)
    (issue : RemediationIssueInput) (config config' : Option RemediationColumnConfig)
    (datasetConfig : RemediationDatasetConfigInput) :
    rule.propose issue config datasetConfig = rule.propose issue config' datasetConfig := by
  obtain ⟨hmem, htype⟩ := Remediation.getRuleForIssueType_action h
  simp only [ruledIssueTypes, List.mem_cons, List.not_mem_nil, or_false, not_or] at hruled
  simp only [Remediation.remediationRules, List.mem_cons, List.not_mem_nil, or_false] at hmem
  rcases hmem with rfl | rfl | rfl | rfl | rfl | rfl | rfl | rfl | rfl | rfl <;> simp_all

/-- Remediation and validation see one configuration of an approved column of the table. -/
theorem Loaded.columnConfigOf_eq (r : Loaded c) (hremediation : OneRule py (·.toRuleScope) r.rules.remediation)
    (hdetection : OneRule py (·.toRuleScope) r.rules.detection) {change : RemediationChangeRow}
    (h : change ∈ c.approvedChanges) (hheader : ∀ name, change.columnName = some name → name ∈ c.dataset.headers) :
    columnConfigOf c.validationConfig change.columnName =
      (columnConfigOf c.columnConfig change.columnName).map forValidation := by
  rw [r.columnConfig_loaded, r.validationConfig_loaded]
  exact columnConfigOf_agree (hremediation.perm r.atRemediation_perm.1) (hdetection.perm r.atRemediation_perm.2)
    (r.atRemediation_perm.1.symm.trans r.atValidation_perm.1) (r.atRemediation_perm.2.symm.trans r.atValidation_perm.2)
    (fun name hname => ⟨hheader name hname, (r.mem_columnNames name).2 ⟨change, h, hname⟩⟩)

/-- **An approved change before the ceiling passes.** -/
theorem Loaded.validateChange_passed (r : Loaded c) (hremediation : OneRule py (·.toRuleScope) r.rules.remediation)
    (hdetection : OneRule py (·.toRuleScope) r.rules.detection) {change : RemediationChangeRow}
    (h : change ∈ c.approvedChanges) {position : Nat} (hposition : position < c.validationLimits.maxPersistedResults) :
    (validateChange py c.validationConfig c.validationLimits position change.input).outcome = .passed := by
  obtain ⟨issue, hissue, rule, v, reason, hrule, hpropose, heq⟩ := c.exists_issue (List.mem_filter.1 h).1
  have hcolumn : change.columnName = issue.columnName := congrArg (fun p => p.columnName) heq
  have haction : change.input.action = rule.action := congrArg (fun p => p.action) heq
  have horiginal : change.input.originalValue = issue.input.originalValue := congrArg (fun p => p.originalValue) heq
  have hproposed : change.input.proposedValue = v := congrArg (fun p => p.proposedValue) heq
  have hfinding := c.mem_allFindings hissue
  have hdescribes : Validation.Describes issue.input issue.toFinding := ⟨rfl, rfl, rfl, rfl, rfl⟩
  -- the configuration the proposal could as well have read
  have hsame : ∃ config, rule.propose issue.input config c.datasetConfig = .changed v reason ∧
      columnConfigOf c.validationConfig change.columnName = config.map forValidation := by
    by_cases hruled : issue.issueType ∈ ruledIssueTypes
    · refine ⟨_, hpropose, ?_⟩
      rw [← hcolumn]
      obtain ⟨header, hheader, hof, -⟩ := r.detects_issue hfinding hruled
      refine r.columnConfigOf_eq hremediation hdetection h (fun name hname => ?_)
      have heq : header = name := Option.some.inj (hof.symm.trans (hcolumn.symm.trans hname))
      rw [← heq]
      exact hheader
    · obtain ⟨config, hconfig⟩ := exists_forValidation (columnConfigOf c.validationConfig change.columnName)
      exact ⟨config, (propose_unconfigured hrule hruled _ _ _ _).trans hpropose, hconfig.symm⟩
  obtain ⟨config, hpropose, hsame⟩ := hsame
  obtain ⟨accepting, haccepting, hpassed⟩ := Validation.rule_accepts hrule (hdescribes.suggestsRepair hfinding) haction
    horiginal hproposed hpropose
  unfold validateChange
  rw [haccepting]
  dsimp only
  rw [if_neg (by omega)]
  change (accepting.validate change.input (columnConfigOf c.validationConfig change.columnName)).outcome = .passed
  rw [hsame]
  exact hpassed

/-- After the ceiling nothing is compared. -/
theorem validateChange_overLimit {columnConfig : Dict Str ValidationColumnConfig} {limits : Validation.ValidationLimits}
    {position : Nat} (h : limits.maxPersistedResults ≤ position) (change : Validation.ValidationChangeInput) :
    (validateChange py columnConfig limits position change).outcome = .skipped ∧
      (validateChange py columnConfig limits position change).reason = .resultLimitReached := by
  obtain ⟨rule, hrule⟩ := Option.isSome_iff_exists.1 (Validation.getRuleForAction_isSome py change.action)
  unfold validateChange
  rw [hrule]
  dsimp only
  rw [if_pos h]
  exact ⟨rfl, rfl⟩

theorem countP_zipIdx_lt {α : Type} (limit : Nat) : ∀ (xs : List α) (start : Nat),
    (xs.zipIdx start).countP (fun p => p.2 < limit) = min xs.length (limit - start)
  | [], start => by simp
  | x :: xs, start => by
    rw [List.zipIdx_cons, List.countP_cons, countP_zipIdx_lt limit xs (start + 1), List.length_cons]
    by_cases h : start < limit
    · simp only [h, decide_true, if_true]
      omega
    · simp only [h, decide_false, if_false, Bool.false_eq_true]
      omega

/-- **Validation passes the approved changes up to its ceiling**, whatever orders the rules came in; the others it skips
for the ceiling, and none fails. -/
theorem approved_changes_pass (c : Chain py) (r : Loaded c) (hremediation : OneRule py (·.toRuleScope) r.rules.remediation)
    (hdetection : OneRule py (·.toRuleScope) r.rules.detection) :
    (∀ row ∈ c.results, row.outcome = .passed ∨ row.outcome = .skipped ∧ row.reason = .resultLimitReached) ∧
      c.validationRun.passedCount = min c.approvedChanges.length c.validationLimits.maxPersistedResults ∧
      c.validationRun.failedCount = 0 ∧
      c.validationRun.skippedCount = c.approvedChanges.length - c.validationLimits.maxPersistedResults := by
  have hitem : ∀ p ∈ (Validation.sortChanges (c.approvedChanges.map RemediationChangeRow.input)).zipIdx,
      let item := validateChange py c.validationConfig c.validationLimits p.2 p.1
      (p.2 < c.validationLimits.maxPersistedResults → item.outcome = .passed) ∧
        (¬ p.2 < c.validationLimits.maxPersistedResults → item.outcome = .skipped ∧
          item.reason = .resultLimitReached) := by
    intro p hp
    have hinput := (Validation.sortChanges_perm _).mem_iff.1 (List.fst_mem_of_mem_zipIdx hp)
    obtain ⟨change, hchange, heq⟩ := List.mem_map.1 hinput
    rw [← heq]
    exact ⟨fun h => r.validateChange_passed hremediation hdetection hchange h,
      fun h => validateChange_overLimit (Nat.not_lt.1 h) _⟩
  have hresults := Validation.results_eq py (c.approvedChanges.map RemediationChangeRow.input) c.validationConfig
    c.validationLimits
  have hlength : c.approvedChanges.length =
      (Validation.sortChanges (c.approvedChanges.map RemediationChangeRow.input)).length := by
    rw [(Validation.sortChanges_perm _).length_eq, List.length_map]
  have hpassed : c.validationRun.passedCount = min c.approvedChanges.length c.validationLimits.maxPersistedResults := by
    change (Validation.validate py (c.approvedChanges.map RemediationChangeRow.input) _ _).results.countP _ = _
    have hcount := countP_zipIdx_lt c.validationLimits.maxPersistedResults
      (Validation.sortChanges (c.approvedChanges.map RemediationChangeRow.input)) 0
    rw [Nat.sub_zero] at hcount
    rw [hresults, List.countP_map, hlength, ← hcount]
    refine List.countP_congr (fun p hp => ?_)
    simp only [Function.comp_apply, decide_eq_true_eq]
    refine ⟨fun hpassed => ?_, (hitem p hp).1⟩
    by_contra hover
    rw [((hitem p hp).2 hover).1] at hpassed
    cases hpassed
  have hfailed : c.validationRun.failedCount = 0 := by
    change (Validation.validate py (c.approvedChanges.map RemediationChangeRow.input) _ _).results.countP _ = _
    rw [hresults, List.countP_map, List.countP_eq_zero]
    intro p hp
    simp only [Function.comp_apply, decide_eq_true_eq]
    by_cases h : p.2 < c.validationLimits.maxPersistedResults
    · rw [(hitem p hp).1 h]
      decide
    · rw [((hitem p hp).2 h).1]
      decide
  have hreconciles : c.validationRun.passedCount + c.validationRun.failedCount + c.validationRun.skippedCount =
      c.validationRun.approvedChangesConsidered := Validation.validate_reconciles py _ _ _
  have hconsidered : c.validationRun.approvedChangesConsidered = c.approvedChanges.length := hlength.symm
  refine ⟨fun row hrow => ?_, hpassed, hfailed, by omega⟩
  have hwritten : c.results.map (fun row => (row.outcome, row.reason)) = (Validation.validate py
      (c.approvedChanges.map RemediationChangeRow.input) c.validationConfig c.validationLimits).results.map
        (fun item => (item.outcome, item.reason)) :=
    map_eq_of_forall₂ (fun _ _ hwrites => by rw [hwrites.2.2.2.1, hwrites.2.2.2.2.1]) c.results_written
  have hmem : (row.outcome, row.reason) ∈ c.results.map (fun row => (row.outcome, row.reason)) := List.mem_map_of_mem hrow
  rw [hwritten, hresults, List.map_map] at hmem
  obtain ⟨p, hp, heq⟩ := List.mem_map.1 hmem
  obtain ⟨houtcome, hreason⟩ := Prod.mk.inj heq
  rw [← houtcome, ← hreason]
  by_cases h : p.2 < c.validationLimits.maxPersistedResults
  · exact .inl ((hitem p hp).1 h)
  · exact .inr ((hitem p hp).2 h)

end

/-! ## A chain with its rules -/

/-- Names in lower case, one of them not, with the organization asking for upper case and the data source for lower. -/
def namesRules : RuleRows asciiPython where
  remediation := [{ organizationId := 1, columnName := "name".toList, capitalizationTarget := some .upper },
    { organizationId := 1, dataSourceId := some 7, columnName := " NAME".toList, capitalizationTarget := some .lower }]
  detection := [{ organizationId := 1, columnName := "name".toList, capitalizationCheckEnabled := true }]

def namesDataset : DetectionDataset asciiPython where
  headers := ["Name".toList]
  rows := [["ann".toList], ["bob".toList], ["CAT".toList]]
  width := by simp
  columnRules := loadColumnRules asciiPython 1 7 namesRules.detection ["Name".toList] (asciiPython.ratio 7 2)

/-- The third name is repaired to lower case, and validation reads the two rules in the other order. -/
def namesChain : Chain asciiPython where
  dataset := namesDataset
  detectionLimits := ⟨10⟩
  issues := [⟨⟨4, some "Name".toList, .inconsistentCapitalization, .low, some "CAT".toList, none⟩, 1⟩]
  issues_written := by decide
  issues_nodup := by decide
  columnConfig := loadRemediationConfig asciiPython 1 7 namesRules.remediation namesRules.detection ["Name".toList]
  datasetConfig := {}
  remediationLimits := ⟨10⟩
  changes := [⟨⟨1, 4, some "Name".toList, .standardizeCapitalization, some "CAT".toList, some "cat".toList,
    Action.standardizeCapitalization.changeReason⟩, 1⟩]
  changes_written := by decide
  changes_nodup := by decide
  approved := fun _ => true
  validationConfig := loadValidationConfig asciiPython 1 7 namesRules.remediation.reverse
    namesRules.detection ["Name".toList]
  validationLimits := ⟨10⟩
  results := [⟨1, 1, 1, some .validateStandardizeCapitalization, .passed, .proposedValueMatches, some "CAT".toList,
    some "cat".toList, "1.0"⟩]
  results_written := .cons ⟨rfl, rfl, rfl, rfl, rfl, rfl, rfl, rfl⟩ .nil
  results_nodup := by decide

def namesLoaded : Loaded namesChain where
  organizationId := 1
  dataSourceId := 7
  rules := namesRules
  datasetConfigs := []
  defaultOutlierZscoreThreshold := asciiPython.ratio 7 2
  atDetection := namesRules.detection
  atDetection_perm := .refl _
  atRemediation := namesRules
  atRemediation_perm := ⟨.refl _, .refl _⟩
  atValidation := ⟨namesRules.remediation.reverse, namesRules.detection⟩
  atValidation_perm := ⟨(List.reverse_perm _).symm, .refl _⟩
  columnNames := ["Name".toList]
  mem_columnNames := by simp [namesChain, Chain.approvedChanges, eq_comm]
  columnRules_loaded := rfl
  columnConfig_loaded := rfl
  datasetConfig_loaded := rfl
  validationConfig_loaded := rfl

theorem approved_changes_pass_names :
    (∀ row ∈ namesChain.results, row.outcome = .passed ∨ row.outcome = .skipped ∧ row.reason = .resultLimitReached) ∧
      namesChain.validationRun.passedCount = 1 ∧ namesChain.validationRun.failedCount = 0 ∧
      namesChain.validationRun.skippedCount = 0 :=
  approved_changes_pass namesChain namesLoaded (oneRule_of_pairwise (by decide)) (oneRule_of_pairwise (by decide))

end ColumnRules
end DataOps

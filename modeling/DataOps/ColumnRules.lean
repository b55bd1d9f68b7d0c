import DataOps.ScheduleTasks
import DataOps.ValidateMirror
/-!
# ColumnRules — which rules a detection, a remediation and a validation run under

Each of the three handlers loads the active rules of its organization, in whatever order they come, and resolves a column
by its stripped, lower-cased name: a rule of the data source goes before one of the whole organization.  Two rules under
one scope and key leave it to the order which counts (`order_decides`); with one rule each the order does not matter, and
remediation and validation resolve the same configuration (`columnConfigOf_agree`).
-/
namespace DataOps
namespace ColumnRules

open Api (OrganizationId)
open Detection (ColumnRuleConfig ExpectedType)
open Remediation (CapitalizationTarget RemediationColumnConfig RemediationDatasetConfigInput columnConfigOf)
open Schedule (DataSourceId)
open Validation (ValidationColumnConfig forValidation)

/-! ## The rules -/

/-- The columns that say what a rule is about. -/
structure RuleScope where
  organizationId : OrganizationId
  dataSourceId   : Option DataSourceId := none
  columnName     : Str
  isActive       : Bool := true
deriving DecidableEq, Repr

structure IssueDetectionColumnRule (py : Python) extends RuleScope where
  expectedType               : Option ExpectedType := none
  isRequired                 : Bool := false
  isPrimaryKey               : Bool := false
  allowedValues              : Option (List Str) := none
  outlierEnabled             : Bool := false
  outlierZscoreThreshold     : Option py.Float := none
  capitalizationCheckEnabled : Bool := false

structure RemediationColumnRule extends RuleScope where
  sourceDateFormat     : Option Str := none
  targetDateFormat     : Option Str := none
  defaultCountry       : Option Str := none
  capitalizationTarget : Option CapitalizationTarget := none
deriving DecidableEq, Repr

structure RemediationDatasetConfig where
  organizationId                    : OrganizationId
  dataSourceId                      : DataSourceId
  removeDuplicateRowsEnabled        : Bool := false
  removeDuplicatePrimaryKeysEnabled : Bool := false
  isActive                          : Bool := true
deriving DecidableEq, Repr

/-! ## Loading them -/

/-- The rules of the whole organization and those of the data source, by key. -/
structure RuleMaps (ρ : Type) where
  orgWideRows : Dict Str ρ
  scopedRows  : Dict Str ρ

section
variable (py : Python) {ρ : Type} (scope : ρ → RuleScope) (organizationId : OrganizationId) (dataSourceId : DataSourceId)

/-- `column_name.strip().lower()`. -/
def ruleKey (row : ρ) : Str := py.lower (scope row).columnName.strip

/-- The loop body for one rule. -/
def RuleMaps.add (maps : RuleMaps ρ) (row : ρ) : RuleMaps ρ :=
  match (scope row).dataSourceId with
  | none    => { maps with orgWideRows := maps.orgWideRows.set (ruleKey py scope row) row }
  | some id =>
    if id = dataSourceId then { maps with scopedRows := maps.scopedRows.set (ruleKey py scope row) row } else maps

/-- Both maps, of the rows in the order a query returns them. -/
def ruleMaps (rows : List ρ) : RuleMaps ρ :=
  (rows.filter (fun row => (scope row).organizationId = organizationId ∧ (scope row).isActive = true)).foldl
    (RuleMaps.add py scope dataSourceId) ⟨[], []⟩

end

/-- `scoped.get(key) or org_wide.get(key)`. -/
def RuleMaps.find {ρ : Type} (maps : RuleMaps ρ) (key : Str) : Option ρ :=
  (maps.scopedRows.get? key).or (maps.orgWideRows.get? key)

/-- `resolved[name] = ..` for each name that has a configuration. -/
def resolveEach {γ : Type} (resolve : Str → Option γ) (names : List Str) : Dict Str γ :=
  names.foldl (fun resolved name => match resolve name with
    | none        => resolved
    | some config => resolved.set name config) []

/-- `tuple(values) if values else None`. -/
def givenValues (allowedValues : Option (List Str)) : Option (List Str) := allowedValues.filter (fun values => values ≠ [])

/-- The configuration of a column, from the detection rule on it. -/
def detectionConfig {py : Python} (defaultOutlierZscoreThreshold : py.Float) (row : IssueDetectionColumnRule py) :
    ColumnRuleConfig py where
  expectedType := row.expectedType
  isRequired := row.isRequired
  isPrimaryKey := row.isPrimaryKey
  allowedValues := givenValues row.allowedValues
  outlierEnabled := row.outlierEnabled
  outlierZscoreThreshold := some (row.outlierZscoreThreshold.getD defaultOutlierZscoreThreshold)
  capitalizationCheckEnabled := row.capitalizationCheckEnabled

/-- The configuration of a column, from the rule of either table on it. -/
def remediationConfig {py : Python} (rules : Option RemediationColumnRule × Option (IssueDetectionColumnRule py)) :
    RemediationColumnConfig where
  sourceDateFormat := rules.1.bind (fun row => row.sourceDateFormat)
  targetDateFormat := rules.1.bind (fun row => row.targetDateFormat)
  defaultCountry := rules.1.bind (fun row => row.defaultCountry)
  capitalizationTarget := rules.1.bind (fun row => row.capitalizationTarget)
  allowedValues := rules.2.bind (fun row => givenValues row.allowedValues)

def validationConfig {py : Python} (rules : Option RemediationColumnRule × Option (IssueDetectionColumnRule py)) :
    ValidationColumnConfig where
  sourceDateFormat := rules.1.bind (fun row => row.sourceDateFormat)
  targetDateFormat := rules.1.bind (fun row => row.targetDateFormat)
  defaultCountry := rules.1.bind (fun row => row.defaultCountry)
  capitalizationTarget := rules.1.bind (fun row => row.capitalizationTarget)
  allowedValues := rules.2.bind (fun row => givenValues row.allowedValues)

section
variable (py : Python) (organizationId : OrganizationId) (dataSourceId : DataSourceId)

/-- `IssueDetectionHandler._load_column_rules`. -/
def loadColumnRules (rows : List (IssueDetectionColumnRule py)) (headers : List Str)
    (defaultOutlierZscoreThreshold : py.Float) : Dict Str (ColumnRuleConfig py) :=
  let maps := ruleMaps py (·.toRuleScope) organizationId dataSourceId rows
  resolveEach (fun header =>
    (maps.find (py.lower header.strip)).map (detectionConfig defaultOutlierZscoreThreshold)) headers

/-- The rules on a name in the two tables; neither is no configuration. -/
def rulesOn (remediationRows : List RemediationColumnRule) (detectionRows : List (IssueDetectionColumnRule py))
    (name : Str) :
    Option (Option RemediationColumnRule × Option (IssueDetectionColumnRule py)) :=
  let key := py.lower name.strip
  match (ruleMaps py (·.toRuleScope) organizationId dataSourceId remediationRows).find key,
    (ruleMaps py (·.toRuleScope) organizationId dataSourceId detectionRows).find key with
  | none, none                   => none
  | remediationRow, detectionRow => some (remediationRow, detectionRow)

/-- `RemediationHandler._load_column_config`. -/
def loadRemediationConfig (remediationRows : List RemediationColumnRule)
    (detectionRows : List (IssueDetectionColumnRule py)) (headers : List Str) : Dict Str RemediationColumnConfig :=
  resolveEach (fun header =>
    (rulesOn py organizationId dataSourceId remediationRows detectionRows header).map remediationConfig) headers

/-- `ValidationHandler._load_column_config`. -/
def loadValidationConfig (remediationRows : List RemediationColumnRule)
    (detectionRows : List (IssueDetectionColumnRule py)) (columnNames : List Str) : Dict Str ValidationColumnConfig :=
  if columnNames = [] then []
  else
    resolveEach (fun columnName =>
      (rulesOn py organizationId dataSourceId remediationRows detectionRows columnName).map validationConfig) columnNames

end

/-- `_load_dataset_config`; `ix_remediation_dataset_configs_active` lets a data source have one active row. -/
def loadDatasetConfig (rows : List RemediationDatasetConfig) (organizationId : OrganizationId)
    (dataSourceId : DataSourceId) :
    RemediationDatasetConfigInput :=
  match rows.find? (fun row => row.organizationId = organizationId ∧ row.dataSourceId = dataSourceId ∧
    row.isActive = true) with
  | none     => {}
  | some row => ⟨row.removeDuplicateRowsEnabled, row.removeDuplicatePrimaryKeysEnabled⟩

/-! ## What is loaded -/

section
variable {py : Python} {ρ : Type} {scope : ρ → RuleScope} {organizationId : OrganizationId} {dataSourceId : DataSourceId}

/-- An active rule of an organization under a scope and a key. -/
def Governs (py : Python) (scope : ρ → RuleScope) (organizationId : OrganizationId)
    (source : Option DataSourceId) (key : Str) (row : ρ) : Bool :=
  (scope row).organizationId = organizationId ∧ (scope row).isActive = true ∧ (scope row).dataSourceId = source ∧
    ruleKey py scope row = key

/-- The last rule a query returns under a scope and a key. -/
def lastRule (py : Python) (scope : ρ → RuleScope) (organizationId : OrganizationId)
    (source : Option DataSourceId) (key : Str) (rows : List ρ) :
    Option ρ := (rows.filter (Governs py scope organizationId source key)).getLast?

theorem foldl_add_get? {key : Str} : ∀ (rows : List ρ) (maps : RuleMaps ρ),
    let filled := rows.foldl (RuleMaps.add py scope dataSourceId) maps
    filled.orgWideRows.get? key =
      ((rows.filter (fun row => (scope row).dataSourceId = none ∧ ruleKey py scope row = key)).getLast?).or
        (maps.orgWideRows.get? key) ∧
      filled.scopedRows.get? key =
        ((rows.filter (fun row => (scope row).dataSourceId = some dataSourceId ∧ ruleKey py scope row = key)).getLast?).or
          (maps.scopedRows.get? key)
  | [], maps => ⟨rfl, rfl⟩
  | row :: rows, maps => by
    obtain ⟨horg, hscoped⟩ := foldl_add_get? rows (RuleMaps.add py scope dataSourceId maps row)
    dsimp only at horg hscoped ⊢
    rw [List.foldl_cons, horg, hscoped]
    unfold RuleMaps.add
    cases hsource : (scope row).dataSourceId with
    | none =>
      have hother : ¬ ((scope row).dataSourceId = some dataSourceId ∧ ruleKey py scope row = key) := by simp [hsource]
      rw [List.filter_cons_of_neg (p := fun row => decide ((scope row).dataSourceId = some dataSourceId ∧ _))
        (by simpa using hother)]
      refine ⟨?_, rfl⟩
      dsimp only
      rw [Dict.get?_set]
      by_cases hkey : ruleKey py scope row = key
      · rw [if_pos hkey, List.filter_cons_of_pos (by simp [hsource, hkey]), List.getLast?_cons]
        cases (rows.filter (fun row => (scope row).dataSourceId = none ∧ ruleKey py scope row = key)).getLast? <;> rfl
      · rw [if_neg hkey, List.filter_cons_of_neg (by simp [hkey])]
    | some id =>
      have hother : ¬ ((scope row).dataSourceId = none ∧ ruleKey py scope row = key) := by simp [hsource]
      rw [List.filter_cons_of_neg (p := fun row => decide ((scope row).dataSourceId = none ∧ _)) (by simpa using hother)]
      dsimp only
      by_cases hid : id = dataSourceId
      · rw [if_pos hid]
        refine ⟨rfl, ?_⟩
        dsimp only
        rw [Dict.get?_set]
        by_cases hkey : ruleKey py scope row = key
        · rw [if_pos hkey, List.filter_cons_of_pos (by simp [hsource, hid, hkey]), List.getLast?_cons]
          cases (rows.filter (fun row => (scope row).dataSourceId = some dataSourceId ∧
            ruleKey py scope row = key)).getLast? <;>
            rfl
        · rw [if_neg hkey, List.filter_cons_of_neg (by simp [hkey])]
      · rw [if_neg hid, List.filter_cons_of_neg (by simp [hsource, hid])]
        exact ⟨rfl, rfl⟩

/-- **A key finds the last rule of the data source, or else the last of the organization.** -/
theorem ruleMaps_find (rows : List ρ) (key : Str) : (ruleMaps py scope organizationId dataSourceId rows).find key =
    (lastRule py scope organizationId (some dataSourceId) key rows).or
      (lastRule py scope organizationId none key rows) := by
  have hfilter : ∀ source,
    (rows.filter (fun row => (scope row).organizationId = organizationId ∧ (scope row).isActive = true)).filter
      (fun row => (scope row).dataSourceId = source ∧ ruleKey py scope row = key) =
      rows.filter (Governs py scope organizationId source key) := by
    intro source
    rw [List.filter_filter]
    refine List.filter_congr (fun row _ => ?_)
    unfold Governs
    rw [Bool.eq_iff_iff]
    simp only [Bool.and_eq_true, decide_eq_true_eq]
    tauto
  obtain ⟨horg, hscoped⟩ := @foldl_add_get? py ρ scope dataSourceId key
    (rows.filter (fun row => (scope row).organizationId = organizationId ∧ (scope row).isActive = true)) ⟨[], []⟩
  have hnone : (Dict.get? [] key : Option ρ) = none := rfl
  unfold RuleMaps.find ruleMaps lastRule
  rw [horg, hscoped, hfilter, hfilter, hnone, Option.or_none, Option.or_none]

/-- A rule that a loader may resolve a column to: active, of the organization or of its data source, under the column's
key. -/
def Asks (py : Python) (scope : ρ → RuleScope) (organizationId : OrganizationId) (dataSourceId : DataSourceId) (name : Str)
    (row : ρ) : Prop :=
  (scope row).organizationId = organizationId ∧ (scope row).isActive = true ∧
    ((scope row).dataSourceId = some dataSourceId ∨ (scope row).dataSourceId = none) ∧
    ruleKey py scope row = py.lower name.strip

theorem asks_of_find {rows : List ρ} {name : Str} {row : ρ}
    (h : (ruleMaps py scope organizationId dataSourceId rows).find (py.lower name.strip) = some row) :
    row ∈ rows ∧ Asks py scope organizationId dataSourceId name row := by
  rw [ruleMaps_find] at h
  have hlast : ∀ source, lastRule py scope organizationId source (py.lower name.strip) rows = some row →
      (source = some dataSourceId ∨ source = none) → row ∈ rows ∧ Asks py scope organizationId dataSourceId name row := by
    intro source hrow hsource
    obtain ⟨hmem, hgoverns⟩ := List.mem_filter.1 (List.mem_of_getLast? hrow)
    obtain ⟨horg, hactive, hown, hkey⟩ := of_decide_eq_true hgoverns
    exact ⟨hmem, horg, hactive, by rw [hown]; exact hsource, hkey⟩
  rcases Option.or_eq_some_iff.1 h with hscoped | ⟨-, horg⟩
  · exact hlast _ hscoped (.inl rfl)
  · exact hlast _ horg (.inr rfl)

theorem resolveEach_get? {γ : Type} (resolve : Str → Option γ) (names : List Str) (name : Str) :
    (resolveEach resolve names).get? name = if name ∈ names then resolve name else none := by
  have hfold : ∀ (names : List Str) (resolved : Dict Str γ), (names.foldl (fun resolved name => match resolve name with
      | none        => resolved
      | some config => resolved.set name config) resolved).get? name =
        if name ∈ names ∧ (resolve name).isSome = true then resolve name else resolved.get? name := by
    intro names
    induction names with
    | nil => intro resolved; simp
    | cons head names ih =>
      intro resolved
      rw [List.foldl_cons, ih]
      by_cases hmem : name ∈ names ∧ (resolve name).isSome = true
      · rw [if_pos hmem, if_pos ⟨List.mem_cons_of_mem _ hmem.1, hmem.2⟩]
      · rw [if_neg hmem]
        by_cases hhead : head = name
        · subst hhead
          cases hresolve : resolve head with
          | none => simp
          | some config => simp [Dict.get?_set]
        · have hne : name ≠ head := fun h => hhead h.symm
          cases hresolve : resolve head with
          | none => simp [hne, hmem]
          | some config => simp [hne, hmem, Dict.get?_set, hhead]
  unfold resolveEach
  rw [hfold]
  cases hresolve : resolve name <;> simp [Dict.get?]

/-! ## When the order does not matter -/

/-- No two active rules of an organization have one scope and one key. -/
def OneRule (py : Python) (scope : ρ → RuleScope) (rows : List ρ) : Prop :=
  ∀ organizationId source key, (rows.filter (Governs py scope organizationId source key)).length ≤ 1

theorem oneRule_of_pairwise {rows : List ρ} (h : rows.Pairwise (fun a b =>
    ¬ ((scope a).organizationId = (scope b).organizationId ∧ (scope a).dataSourceId = (scope b).dataSourceId ∧
      ruleKey py scope a = ruleKey py scope b))) : OneRule py scope rows := by
  intro organizationId source key
  match hl : rows.filter (Governs py scope organizationId source key) with
  | [] => exact Nat.zero_le _
  | [_] => exact Nat.le_refl _
  | a :: b :: rest =>
    have hpair := h.filter (Governs py scope organizationId source key)
    have hgoverns : ∀ row ∈ a :: b :: rest, Governs py scope organizationId source key row = true := by
      rw [← hl]
      exact fun row hrow => (List.mem_filter.1 hrow).2
    rw [hl] at hpair
    obtain ⟨horg, -, hsource, hkey⟩ := of_decide_eq_true (hgoverns a List.mem_cons_self)
    obtain ⟨horg', -, hsource', hkey'⟩ := of_decide_eq_true (hgoverns b (List.mem_cons_of_mem _ List.mem_cons_self))
    exact absurd ⟨horg.trans horg'.symm, hsource.trans hsource'.symm, hkey.trans hkey'.symm⟩
      ((List.pairwise_cons.1 hpair).1 b List.mem_cons_self)

theorem OneRule.perm {rows rows' : List ρ} (hone : OneRule py scope rows) (h : rows.Perm rows') :
    OneRule py scope rows' := by
  intro organizationId source key
  rw [← (h.filter _).length_eq]
  exact hone organizationId source key

theorem lastRule_perm {rows rows' : List ρ} (hone : OneRule py scope rows) (h : rows.Perm rows')
    (source : Option DataSourceId) (key : Str) :
    lastRule py scope organizationId source key rows = lastRule py scope organizationId source key rows' := by
  have hfilter := h.filter (Governs py scope organizationId source key)
  have hlength := hone organizationId source key
  unfold lastRule
  match hl : rows.filter (Governs py scope organizationId source key), hlength with
  | [], _ => rw [hl] at hfilter; rw [List.perm_nil.1 hfilter.symm]
  | [row], _ => rw [hl] at hfilter; rw [List.perm_singleton.1 hfilter.symm]

/-- **With one rule each, a column resolves to the same rules however they come.** -/
theorem rulesOn_perm {remediationRows remediationRows' : List RemediationColumnRule}
    {detectionRows detectionRows' : List (IssueDetectionColumnRule py)}
    (hremediation : OneRule py (·.toRuleScope) remediationRows) (hdetection : OneRule py (·.toRuleScope) detectionRows)
    (h : remediationRows.Perm remediationRows') (h' : detectionRows.Perm detectionRows') (name : Str) :
    rulesOn py organizationId dataSourceId remediationRows detectionRows name =
      rulesOn py organizationId dataSourceId remediationRows' detectionRows' name := by
  unfold rulesOn
  dsimp only
  rw [ruleMaps_find, ruleMaps_find, ruleMaps_find, ruleMaps_find, lastRule_perm hremediation h,
    lastRule_perm hremediation h,
    lastRule_perm hdetection h', lastRule_perm hdetection h']

/-- **Remediation and validation resolve the same configuration of a column** that both ask for. -/
theorem columnConfigOf_agree {remediationRows remediationRows' : List RemediationColumnRule}
    {detectionRows detectionRows' : List (IssueDetectionColumnRule py)}
    (hremediation : OneRule py (·.toRuleScope) remediationRows) (hdetection : OneRule py (·.toRuleScope) detectionRows)
    (h : remediationRows.Perm remediationRows') (h' : detectionRows.Perm detectionRows') {headers columnNames : List Str}
    {columnName : Option Str} (hcolumn : ∀ name, columnName = some name → name ∈ headers ∧ name ∈ columnNames) :
    columnConfigOf
      (loadValidationConfig py organizationId dataSourceId remediationRows' detectionRows' columnNames) columnName =
      (columnConfigOf (loadRemediationConfig py organizationId dataSourceId remediationRows detectionRows headers)
        columnName).map forValidation := by
  unfold columnConfigOf
  cases hgiven : Str.given columnName with
  | none => rfl
  | some name =>
    obtain ⟨hheader, hname⟩ := hcolumn name (Validation.given_eq_some hgiven)
    have hne : columnNames ≠ [] := List.ne_nil_of_mem hname
    unfold loadValidationConfig loadRemediationConfig
    rw [if_neg hne, Option.bind_some, Option.bind_some, resolveEach_get?, resolveEach_get?, if_pos hheader, if_pos hname,
      ← rulesOn_perm hremediation hdetection h h' name, Option.map_map]
    rfl

end

/-! ## Two rules under one key -/

/-- Two rules that the index keeps apart, as SQL's `trim` leaves the tab where it is, and Python does not. -/
def tabbedRules : List RemediationColumnRule :=
  [{ organizationId := 1, columnName := "name".toList, capitalizationTarget := some .upper },
    { organizationId := 1, columnName := "name\t".toList, capitalizationTarget := some .lower }]

/-- **Which of two rules under one key counts is the order's choice.** -/
theorem order_decides :
    (tabbedRules.map (fun row => asciiPython.lower (Schedule.sqlTrim row.columnName))).Nodup ∧
      (loadRemediationConfig asciiPython 1 7 tabbedRules [] ["name".toList]).get? "name".toList ≠
        (loadRemediationConfig asciiPython 1 7 tabbedRules.reverse [] ["name".toList]).get? "name".toList := by
  decide

end ColumnRules
end DataOps

import DataOps.ValidateEngine
/-!
# ValidateMirror — the validator accepts what the remediator proposes

Each validation rule works the proposal out again from the original value and the column's configuration.  Only the
whitespace actions take their proposal from the issue, so what a whitespace rule suggests is carried along
(`SuggestsRepair`).
-/
namespace DataOps
namespace Validation

open Detection (DetectionDataset DetectionLimits Finding detectIssues)
open Remediation (RemediationIssueInput RemediationColumnConfig RemediationDatasetConfigInput RemediationLimits
  RemediationChangeProposal RuleOutcome columnConfigOf)

/-- An issue as remediation reads it. -/
def Describes (issue : RemediationIssueInput) (f : Finding) : Prop :=
  issue.rowNumber = f.rowNumber ∧ issue.columnName = f.columnName ∧ issue.issueType = f.issueType ∧
    issue.originalValue = f.originalValue ∧ issue.suggestedFix = f.suggestedFix

/-- A change as validation reads it. -/
def Carries (change : ValidationChangeInput) (p : RemediationChangeProposal) : Prop :=
  change.sourceIssueId = p.sourceIssueId ∧ change.rowNumber = p.rowNumber ∧ change.columnName = p.columnName ∧
    change.action = p.action ∧ change.originalValue = p.originalValue ∧ change.proposedValue = p.proposedValue

/-- The column configuration that validation reads again from the same tables. -/
def forValidation (config : RemediationColumnConfig) : ValidationColumnConfig where
  sourceDateFormat := config.sourceDateFormat
  targetDateFormat := config.targetDateFormat
  defaultCountry := config.defaultCountry
  capitalizationTarget := config.capitalizationTarget
  allowedValues := config.allowedValues

/-! ## What the whitespace rules suggest -/

/-- A whitespace issue suggests the repair of its type. -/
def SuggestsRepair (issue : RemediationIssueInput) : Prop :=
  (issue.issueType = .leadingWhitespace →
    ∃ value, issue.originalValue = some value ∧ issue.suggestedFix = some value.lstrip) ∧
  (issue.issueType = .trailingWhitespace →
    ∃ value, issue.originalValue = some value ∧ issue.suggestedFix = some value.rstrip) ∧
  (issue.issueType = .multipleInternalSpaces →
    ∃ value, issue.originalValue = some value ∧ issue.suggestedFix = some value.collapse)

section
variable {py : Python} {d : DetectionDataset py}

theorem mem_whitespaceRule {issueType : Detection.IssueType} {flags : Str → Bool} {repair : Str → Str} {f : Finding}
    (h : f ∈ (Detection.whitespaceRule issueType flags repair).detect d) :
    ∃ value, f.originalValue = some value ∧ f.suggestedFix = some (repair value) := by
  obtain ⟨i, c, -, -, rfl⟩ := Detection.mem_cellRule.1 h
  exact ⟨d.cell i c, rfl, rfl⟩

theorem Describes.suggestsRepair {issue : RemediationIssueInput} {f : Finding} (h : Describes issue f)
    (hf : f ∈ Detection.allFindings d) : SuggestsRepair issue := by
  obtain ⟨-, -, htype, horiginal, hfix⟩ := h
  have hrule : ∀ rule ∈ Detection.detectionRules, issue.issueType = rule.issueType → f ∈ rule.detect d :=
    fun rule hrule heq => (Detection.mem_allFindings_of_rule hrule).1 ⟨hf, htype.symm.trans heq⟩
  rw [SuggestsRepair, horiginal, hfix]
  refine ⟨fun heq => ?_, fun heq => ?_, fun heq => ?_⟩
  · exact mem_whitespaceRule (hrule Detection.leadingWhitespaceRule (by simp [Detection.detectionRules]) heq)
  · exact mem_whitespaceRule (hrule Detection.trailingWhitespaceRule (by simp [Detection.detectionRules]) heq)
  · exact mem_whitespaceRule (hrule Detection.multipleInternalSpacesRule (by simp [Detection.detectionRules]) heq)

end

/-! ## What an action proposes -/

section
open Remediation

theorem proposeCanonical_changed {action : Action} {value canonical : Str} {v : Option Str} {reason : String}
    (h : proposeCanonical action value canonical = .changed v reason) : v = some canonical := by
  unfold proposeCanonical at h
  split at h
  · cases h
  · cases h
    rfl

theorem proposeStandardized_changed {action : Action} {standardized : Str × Option Standardization.RuleName}
    {v : Option Str} {reason : String} (h : proposeStandardized action standardized = .changed v reason) :
    (∃ name, standardized.2 = some name) ∧ v = some standardized.1 := by
  unfold proposeStandardized at h
  split at h
  · cases h
  · rename_i name hname
    cases h
    exact ⟨⟨name, hname⟩, rfl⟩

theorem given_eq_some {value : Option Str} {s : Str} (h : Str.given value = some s) : value = some s :=
  (Option.filter_eq_some_iff.1 h).1

theorem proposeSuggestedFix_changed {action : Action} {issue : RemediationIssueInput} {v : Option Str} {reason : String}
    (h : proposeSuggestedFix action issue = .changed v reason) : v = issue.suggestedFix := by
  unfold proposeSuggestedFix at h
  split at h
  · cases h
  · rename_i fix hfix
    split at h
    · cases h
    · cases h
      exact (given_eq_some hfix).symm

theorem proposeRemoval_changed {action : Action} {enabled : Bool} {v : Option Str} {reason : String}
    (h : proposeRemoval action enabled = .changed v reason) : v = none := by
  unfold proposeRemoval at h
  split at h
  · cases h
    rfl
  · cases h

end

/-! ## What the validator makes of it -/

section
variable {py : Python} {change : ValidationChangeInput}

theorem compareProposal_passed {expected : Str} (h : change.proposedValue = some expected) :
    (compareProposal expected change).outcome = .passed := by
  unfold compareProposal
  rw [if_pos h]

theorem compareStandardized_passed {standardized : Str × Option Standardization.RuleName}
    (hname : ∃ name, standardized.2 = some name) (h : change.proposedValue = some standardized.1) :
    (compareStandardized standardized change).outcome = .passed := by
  obtain ⟨name, hname⟩ := hname
  unfold compareStandardized
  rw [hname]
  exact compareProposal_passed h

theorem config_bind {γ : Type} (config : Option RemediationColumnConfig) (f : RemediationColumnConfig → Option γ)
    (g : ValidationColumnConfig → Option γ) (hfg : ∀ c, g (forValidation c) = f c) :
    (config.map forValidation).bind g = config.bind f := by
  cases config with
  | none => rfl
  | some c => exact hfg c

variable {issue : RemediationIssueInput} {config : Option RemediationColumnConfig} {v : Option Str} {reason : String}

theorem validateTrim_passed (hfix : SuggestsRepair issue)
    (htype : issue.issueType = .leadingWhitespace ∨ issue.issueType = .trailingWhitespace)
    (horiginal : change.originalValue = issue.originalValue) (hproposed : change.proposedValue = v)
    (h : Remediation.proposeTrim issue = .changed v reason) : (validateTrim change).outcome = .passed := by
  have hv := proposeSuggestedFix_changed h
  have hcases : ∃ value, issue.originalValue = some value ∧
      (issue.suggestedFix = some value.lstrip ∨ issue.suggestedFix = some value.rstrip) := by
    rcases htype with htype | htype
    · obtain ⟨value, hvalue, hrepair⟩ := hfix.1 htype
      exact ⟨value, hvalue, .inl hrepair⟩
    · obtain ⟨value, hvalue, hrepair⟩ := hfix.2.1 htype
      exact ⟨value, hvalue, .inr hrepair⟩
  obtain ⟨value, hvalue, hrepair⟩ := hcases
  unfold validateTrim
  rw [horiginal, hvalue, hproposed, hv]
  dsimp only
  rw [if_pos hrepair]

theorem validateCollapse_passed (hfix : SuggestsRepair issue) (htype : issue.issueType = .multipleInternalSpaces)
    (horiginal : change.originalValue = issue.originalValue) (hproposed : change.proposedValue = v)
    (h : Remediation.proposeCollapse issue = .changed v reason) : (validateCollapse change).outcome = .passed := by
  have hv := proposeSuggestedFix_changed h
  obtain ⟨value, hvalue, hrepair⟩ := hfix.2.2 htype
  unfold validateCollapse
  rw [horiginal, hvalue]
  exact compareProposal_passed (hproposed.trans (hv.trans hrepair))

theorem validateCapitalization_passed (horiginal : change.originalValue = issue.originalValue)
    (hproposed : change.proposedValue = v)
    (h : Remediation.proposeStandardizeCapitalization py issue config = .changed v reason) :
    (validateCapitalization py change (config.map forValidation)).outcome = .passed := by
  have hconfig := config_bind config (fun c => c.capitalizationTarget) (fun c => c.capitalizationTarget)
    (fun _ => rfl)
  unfold Remediation.proposeStandardizeCapitalization at h
  unfold validateCapitalization
  rw [hconfig, horiginal]
  cases htarget : config.bind (fun c => c.capitalizationTarget) with
  | none => rw [htarget] at h; cases h
  | some target =>
    rw [htarget] at h
    cases hvalue : Str.given issue.originalValue with
    | none => rw [hvalue] at h; cases h
    | some value =>
      rw [hvalue] at h
      have hv := proposeCanonical_changed h
      have happly : Remediation.applyTarget py target value = applyTarget py target value := by cases target <;> rfl
      exact compareProposal_passed (hproposed.trans (hv.trans (congrArg some happly)))

theorem validateDate_passed (horiginal : change.originalValue = issue.originalValue)
    (hproposed : change.proposedValue = v) (h : Remediation.proposeNormalizeDate py issue config = .changed v reason) :
    (validateDate py change (config.map forValidation)).outcome = .passed := by
  have hsource := config_bind config (fun c => c.sourceDateFormat) (fun c => c.sourceDateFormat)
    (fun _ => rfl)
  have htarget := config_bind config (fun c => c.targetDateFormat) (fun c => c.targetDateFormat)
    (fun _ => rfl)
  unfold Remediation.proposeNormalizeDate at h
  unfold validateDate
  rw [hsource, htarget, horiginal]
  cases hs : Str.given (config.bind (fun c => c.sourceDateFormat)) with
  | none => rw [hs] at h; cases h
  | some sourceFormat =>
    cases ht : Str.given (config.bind (fun c => c.targetDateFormat)) with
    | none => rw [hs, ht] at h; cases h
    | some targetFormat =>
      cases hvalue : Str.given issue.originalValue with
      | none => rw [hs, ht, hvalue] at h; cases h
      | some value =>
        rw [hs, ht, hvalue] at h
        dsimp only at h ⊢
        cases hparsed : py.strptime value sourceFormat with
        | none => rw [hparsed] at h; cases h
        | some parsed =>
          rw [hparsed] at h
          exact compareProposal_passed (hproposed.trans (proposeCanonical_changed h))

theorem validatePhone_passed (horiginal : change.originalValue = issue.originalValue)
    (hproposed : change.proposedValue = v) (h : Remediation.proposeNormalizePhone py issue config = .changed v reason) :
    (validatePhone py change (config.map forValidation)).outcome = .passed := by
  have hcountry := config_bind config (fun c => c.defaultCountry) (fun c => c.defaultCountry) (fun _ => rfl)
  unfold Remediation.proposeNormalizePhone at h
  unfold validatePhone
  rw [hcountry, horiginal]
  cases hc : Str.given (config.bind (fun c => c.defaultCountry)) with
  | none => rw [hc] at h; cases h
  | some country =>
    rw [hc] at h
    obtain ⟨hname, hv⟩ := proposeStandardized_changed h
    exact compareStandardized_passed hname (hproposed.trans hv)

theorem validateEnumValue_passed (horiginal : change.originalValue = issue.originalValue)
    (hproposed : change.proposedValue = v)
    (h : Remediation.proposeNormalizeEnumValue py issue config = .changed v reason) :
    (validateEnumValue py change (config.map forValidation)).outcome = .passed := by
  have hallowed := config_bind config (fun c => c.allowedValues) (fun c => c.allowedValues) (fun _ => rfl)
  unfold Remediation.proposeNormalizeEnumValue at h
  unfold validateEnumValue
  rw [hallowed, horiginal]
  cases ha : config.bind (fun c => c.allowedValues) with
  | none => rw [ha] at h; cases h
  | some allowedValues =>
    cases allowedValues with
    | nil => rw [ha] at h; cases h
    | cons a rest =>
      rw [ha] at h
      dsimp only at h ⊢
      cases hvalue : Str.given issue.originalValue with
      | none => rw [hvalue] at h; cases h
      | some value =>
        rw [hvalue] at h
        dsimp only at h ⊢
        have hmatching : Remediation.matchingAllowed py (a :: rest) value = matchingAllowed py (a :: rest) value := rfl
        rw [hmatching] at h
        cases hm : matchingAllowed py (a :: rest) value with
        | nil => rw [hm] at h; cases h
        | cons canonical others =>
          cases others with
          | nil =>
            rw [hm] at h
            exact compareProposal_passed (hproposed.trans (proposeCanonical_changed h))
          | cons _ _ => rw [hm] at h; cases h

/-- **The rule of an action accepts what the action proposes.** -/
theorem rule_accepts {rule : Remediation.RemediationRule} {datasetConfig : RemediationDatasetConfigInput}
    (hrule : Remediation.getRuleForIssueType py issue.issueType = some rule) (hfix : SuggestsRepair issue)
    (haction : change.action = rule.action) (horiginal : change.originalValue = issue.originalValue)
    (hproposed : change.proposedValue = v) (h : rule.propose issue config datasetConfig = .changed v reason) :
    ∃ accepting, getRuleForAction py change.action = some accepting ∧
      (accepting.validate change (config.map forValidation)).outcome = .passed := by
  obtain ⟨hmem, htype⟩ := Remediation.getRuleForIssueType_action hrule
  rw [haction]
  simp only [Remediation.remediationRules, List.mem_cons, List.not_mem_nil, or_false] at hmem
  rcases hmem with rfl | rfl | rfl | rfl | rfl | rfl | rfl | rfl | rfl | rfl
  · exact ⟨_, rfl, validateTrim_passed hfix (by simpa using htype) horiginal hproposed h⟩
  · exact ⟨_, rfl, validateCollapse_passed hfix (by simpa using htype) horiginal hproposed h⟩
  · exact ⟨_, rfl, validateCapitalization_passed horiginal hproposed h⟩
  · obtain ⟨hname, hv⟩ := proposeStandardized_changed h
    rw [← horiginal] at hname hv
    exact ⟨_, rfl, compareStandardized_passed hname (hproposed.trans hv)⟩
  · exact ⟨_, rfl, validateDate_passed horiginal hproposed h⟩
  · exact ⟨_, rfl, validatePhone_passed horiginal hproposed h⟩
  · obtain ⟨hname, hv⟩ := proposeStandardized_changed h
    rw [← horiginal] at hname hv
    exact ⟨_, rfl, compareStandardized_passed hname (hproposed.trans hv)⟩
  · exact ⟨_, rfl, validateEnumValue_passed horiginal hproposed h⟩
  · have hnone : change.proposedValue = none := hproposed.trans (proposeRemoval_changed h)
    exact ⟨_, rfl, by simp [validateDuplicateRemoval, hnone]⟩
  · have hnone : change.proposedValue = none := hproposed.trans (proposeRemoval_changed h)
    exact ⟨_, rfl, by simp [validateDuplicateRemoval, hnone]⟩

end

/-- **Every change the remediator proposes passes validation**, when validation resolves the same column configuration
and its ceiling is not hit. -/
theorem proposals_pass (py : Python) (d : DetectionDataset py) (detectionLimits : DetectionLimits)
    (issues : List RemediationIssueInput) (columnConfig : Dict Str RemediationColumnConfig)
    (datasetConfig : RemediationDatasetConfigInput) (remediationLimits : RemediationLimits)
    (changes : List ValidationChangeInput) (validationConfig : Dict Str ValidationColumnConfig)
    (limits : ValidationLimits)
    (hissues : ∀ issue ∈ issues, ∃ f ∈ (detectIssues d detectionLimits).findings, Describes issue f)
    (hchanges : ∀ change ∈ changes, ∃ p ∈
      (Remediation.remediate py d.toTable issues columnConfig datasetConfig remediationLimits).changes, Carries change p)
    (hconfig : ∀ name, columnConfigOf validationConfig name = (columnConfigOf columnConfig name).map forValidation)
    (hlimit : changes.length ≤ limits.maxPersistedResults) :
    ((validate py changes validationConfig limits).results.map (fun item => item.changeId)).Perm
        (changes.map (fun change => change.changeId)) ∧
      ∀ item ∈ (validate py changes validationConfig limits).results, item.outcome = .passed := by
  refine ⟨map_changeId_results py changes validationConfig limits, fun item hitem => ?_⟩
  rw [results_eq] at hitem
  obtain ⟨⟨change, position⟩, hmem, rfl⟩ := List.mem_map.1 hitem
  have hchange : change ∈ changes := (sortChanges_perm changes).mem_iff.1 (List.fst_mem_of_mem_zipIdx hmem)
  have hposition : position < changes.length := by
    rw [← (sortChanges_perm changes).length_eq]
    exact List.snd_lt_of_mem_zipIdx hmem
  obtain ⟨p, hp, -, -, hcolumn, haction, horiginal, hproposed⟩ := hchanges change hchange
  obtain ⟨issue, hissue, rule, v, reason, hrule, -, -, hpropose, rfl⟩ := Remediation.mem_changes hp
  obtain ⟨f, hf, hdescribes⟩ := hissues issue hissue
  have hfix := hdescribes.suggestsRepair (Detection.mem_allFindings_of_mem hf)
  obtain ⟨accepting, haccepting, hpassed⟩ := rule_accepts hrule hfix haction horiginal hproposed hpropose
  have hsame : columnConfigOf validationConfig change.columnName =
      (columnConfigOf columnConfig issue.columnName).map forValidation := by
    rw [hcolumn]
    exact hconfig _
  unfold validateChange
  rw [haccepting]
  dsimp only
  rw [if_neg (by omega), hsame]
  exact hpassed

/-- A cell with a leading blank, reported, repaired and validated. -/
def blankName : DetectionDataset asciiPython where
  headers := ["name".toList]
  rows := [[" Ann".toList]]
  width := by simp

theorem proposals_pass_blankName :
    ((validate asciiPython [⟨5, 3, 2, some "name".toList, .trimWhitespace, some " Ann".toList, some "Ann".toList⟩] []
        ⟨1⟩).results.map (fun item => item.changeId)).Perm [5] ∧
      ∀ item ∈ (validate asciiPython
          [⟨5, 3, 2, some "name".toList, .trimWhitespace, some " Ann".toList, some "Ann".toList⟩] [] ⟨1⟩).results,
        item.outcome = .passed := by
  refine proposals_pass asciiPython blankName ⟨10⟩
    [⟨3, 2, some "name".toList, .leadingWhitespace, some " Ann".toList, some "Ann".toList⟩] [] {} ⟨10⟩ _ [] ⟨1⟩ ?_ ?_
    (fun name => by simp [columnConfigOf, Dict.get?]) (by decide)
  · intro issue hissue
    rw [List.mem_singleton.1 hissue]
    exact ⟨⟨2, some "name".toList, .leadingWhitespace, .info, some " Ann".toList, some "Ann".toList⟩, by decide, rfl, rfl,
      rfl, rfl, rfl⟩
  · intro change hchange
    rw [List.mem_singleton.1 hchange]
    exact ⟨⟨3, 2, some "name".toList, .trimWhitespace, some " Ann".toList, some "Ann".toList,
      Remediation.Action.trimWhitespace.changeReason⟩, by decide, rfl, rfl, rfl, rfl, rfl, rfl⟩

end Validation
end DataOps

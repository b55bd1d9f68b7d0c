import Mathlib.Data.List.Perm.Basic
import DataOps.DetectCells
import DataOps.ValidateMirror
/-!
# RemediateClears — does a proposed value clear its issue

One cell is replaced by what was proposed for it, and detection runs again.  Stripping clears what it was proposed for;
one pass over the runs of blanks leaves a run beside a single character; a number is accepted when its separators were the
problem; and a boolean or a casing has to be the most frequent form of its column (`clears_iff`).
-/
namespace DataOps
namespace Remediation

open Detection (DetectionDataset DetectionLimits Finding detectIssues csvRowNumber valueIssueTypes Flags Reported Deviates
  familyOf classifyCasing familiesByName patternPriority)
open Validation (Describes SuggestsRepair)
open Standardization (standardizeBoolean standardizeNumeric ungrouped)

/-! ## Replacing a cell -/

section
variable {py : Python}

/-- **The dataset with just one cell replaced.** -/
def replaceCell (d : DetectionDataset py) (row : d.RowIndex) (column : d.ColIndex) (value : Str) : DetectionDataset py :=
  { d with
    rows := d.rows.set row ((d.row row).set column value)
    width := by
      intro cells hcells
      rcases List.mem_or_eq_of_mem_set hcells with hcells | rfl
      · exact d.width cells hcells
      · rw [List.length_set]
        exact d.row_length row }

variable {d : DetectionDataset py} {row : d.RowIndex} {column : d.ColIndex} {value : Str}

theorem column_eq (d : DetectionDataset py) (c : d.ColIndex) :
    d.column c = d.rows.map (fun cells => cells[(c : Nat)]?.getD []) := d.map_cell c

theorem column_getElem (d : DetectionDataset py) (i : d.RowIndex) (c : d.ColIndex) :
    (d.column c)[(i : Nat)]? = some (d.cell i c) := by
  unfold DetectionDataset.column
  rw [List.getElem?_map, List.getElem?_eq_getElem (by simp)]
  simp

/-- **Replacing a cell replaces it in its column**, and leaves the other columns. -/
theorem column_replaceCell (c : d.ColIndex) : (replaceCell d row column value).column c =
    if c = column then (d.column c).set row value else d.column c := by
  have hcell : ((d.row row).set column value)[(c : Nat)]?.getD [] = if c = column then value else d.cell row c := by
    have hlen := d.row_length row
    have hc : (c : Nat) < (d.row row).length := by rw [hlen]; exact c.isLt
    rw [List.getElem?_set]
    by_cases heq : c = column
    · subst heq
      simp [hc]
    · rw [if_neg (fun h => heq (Fin.ext h.symm)), if_neg heq, List.getElem?_eq_getElem hc]
      rfl
  have hmap : (replaceCell d row column value).column c =
      (d.column c).set row (if c = column then value else d.cell row c) := by
    have hnew : (replaceCell d row column value).column c =
        (d.rows.set row ((d.row row).set column value)).map (fun cells => cells[(c : Nat)]?.getD []) :=
      column_eq (replaceCell d row column value) c
    rw [hnew, column_eq d, ← hcell]
    exact List.map_set
  rw [hmap]
  split
  · rfl
  · have hrow : (row : Nat) < (d.column c).length := by simp [DetectionDataset.column]
    have hget : (d.column c)[(row : Nat)] = d.cell row c :=
      Option.some.inj ((List.getElem?_eq_getElem hrow).symm.trans (column_getElem d row c))
    rw [← hget, List.set_getElem_self]

/-- The replaced row. -/
def replacedRow (d : DetectionDataset py) (row : d.RowIndex) (column : d.ColIndex) (value : Str) :
    (replaceCell d row column value).RowIndex := ⟨row, by simp [replaceCell]⟩

theorem cell_replaceCell (c : d.ColIndex) :
    (replaceCell d row column value).cell (replacedRow d row column value) c =
      if c = column then value else d.cell row c := by
  have hget := column_getElem (replaceCell d row column value) (replacedRow d row column value) c
  rw [column_replaceCell] at hget
  split at hget
  · rename_i heq
    have hrow : (row : Nat) < (d.column c).length := by simp [DetectionDataset.column]
    rw [if_pos heq]
    rw [show ((replacedRow d row column value : (replaceCell d row column value).RowIndex) : Nat) = row from rfl,
      List.getElem?_set_self hrow] at hget
    exact (Option.some.inj hget).symm
  · rename_i hne
    rw [if_neg hne]
    exact (Option.some.inj ((column_getElem d row c).symm.trans hget)).symm

/-- What is flagged in the replaced row. -/
theorem flags_replaceCell {issueType : Detection.IssueType} (c : d.ColIndex) :
    Flags py issueType ((replaceCell d row column value).ruleOf c) ((replaceCell d row column value).column c)
        ((replaceCell d row column value).cell (replacedRow d row column value) c) ↔
      if c = column then Flags py issueType (d.ruleOf c) ((d.column c).set row value) value
      else Flags py issueType (d.ruleOf c) (d.column c) (d.cell row c) := by
  have hrule : (replaceCell d row column value).ruleOf c = d.ruleOf c := rfl
  rw [cell_replaceCell, column_replaceCell, hrule]
  split <;> exact Iff.rfl

end
/-! ## What is flagged after the replacement -/

section
variable {py : Python}

/-- **A form deviates in its column unless it prevails over the other cells.** -/
theorem deviates_set {κ : Type} [DecidableEq κ] (priority : List κ) (hranked : ∀ form, form ∈ priority)
    {formOf : Str → Option κ} {column : List Str} {k : Nat} (hk : k < column.length) {value : Str} {form : κ}
    (hform : formOf value = some form) : Deviates priority formOf (column.set k value) value ↔
      ¬ Dict.Prevails priority ((column.eraseIdx k).filterMap formOf) form := by
  have hperm : ((column.set k value).filterMap formOf).Perm (form :: (column.eraseIdx k).filterMap formOf) := by
    have hset := (List.set_perm_cons_eraseIdx hk value).filterMap formOf
    rwa [List.filterMap_cons_some hform] at hset
  have hprevails := Dict.mostFrequent_cons_iff priority ((column.eraseIdx k).filterMap formOf)
    (fun k _ => hranked k) (hranked form)
  unfold Deviates
  rw [Dict.mostFrequent_perm hperm, ← hprevails]
  constructor
  · rintro ⟨form', hform', hne⟩
    rwa [Option.some.inj (hform'.symm.trans hform)] at hne
  · exact fun hne => ⟨form, hform, hne⟩

theorem standardizeBoolean_form {value canonical : Str} {name : Standardization.RuleName}
    (h : standardizeBoolean py value none = (canonical, some name)) :
    canonical ≠ [] ∧ (∃ parsed, Detection.classifyBooleanToken py canonical = some (.trueFalse, parsed)) := by
  have htoken : canonical = "true".toList ∨ canonical = "false".toList := by
    unfold standardizeBoolean at h
    split at h
    · cases h
    · simp only [Option.getD_none] at h
      split at h
      · cases h
      · rename_i hcanonical
        split at h
        · cases h
        · cases h
          split at hcanonical
          · exact .inl (Option.some.inj hcanonical).symm
          · split at hcanonical
            · exact .inr (Option.some.inj hcanonical).symm
            · cases hcanonical
  have htrue : Str.strip "true".toList = ['t', 'r', 'u', 'e'] := by decide
  have hfalse : Str.strip "false".toList = ['f', 'a', 'l', 's', 'e'] := by decide
  unfold Detection.classifyBooleanToken
  rcases htoken with rfl | rfl
  · rw [htrue, py.casefold_true]
    exact ⟨by decide, true, by decide⟩
  · rw [hfalse, py.casefold_false]
    exact ⟨by decide, false, by decide⟩

/-- The separators were the problem: without the grouping ones the text is a number. -/
def NumberOnceUngrouped (py : Python) (value : Str) : Prop :=
  value.strip = [] ∨
    (',' ∈ value.strip ∧ '.' ∈ value.strip ∧ py.isFiniteDecimal (ungrouped value.strip).strip = true)

theorem isValidNumeric_of_no_comma {value : Str} (h : ',' ∉ value.strip) :
    Detection.isValidNumeric py value = (!decide (value.strip = []) && py.isFiniteDecimal value.strip) := by
  unfold Detection.isValidNumeric
  simp [h]

theorem comma_notMem_ungrouped (s : Str) : ',' ∉ ungrouped s := by
  unfold ungrouped
  split
  · simp [Detection.without]
  · simp only [Standardization.replaceChar, List.mem_map, not_exists, not_and]
    intro x _
    split
    · decide
    · assumption

theorem dot_mem_ungrouped {s : Str} (hcomma : ',' ∈ s) (hdot : '.' ∈ s) : '.' ∈ ungrouped s := by
  unfold ungrouped
  split
  · exact List.mem_filter.2 ⟨hdot, by decide⟩
  · exact List.mem_map.2 ⟨',', List.mem_filter.2 ⟨hcomma, by decide⟩, by decide⟩

theorem mem_intercalate {x sep : Char} : ∀ {gs : List Str}, x ∈ [sep].intercalate gs → x = sep ∨ ∃ g ∈ gs, x ∈ g
  | [], h => by simp [List.intercalate] at h
  | [g], h => by
    right
    exact ⟨g, List.mem_singleton_self g, by simpa [List.intercalate] using h⟩
  | g :: g' :: gs, h => by
    rw [List.intercalate_cons_cons, List.mem_append, List.mem_append, List.mem_singleton] at h
    rcases h with (h | h) | h
    · exact .inr ⟨g, List.mem_cons_self, h⟩
    · exact .inl h
    · rcases mem_intercalate h with h | ⟨g'', hg'', h⟩
      · exact .inl h
      · exact .inr ⟨g'', List.mem_cons_of_mem _ hg'', h⟩

/-- A grouped number: a sign or none, one to three digits, and groups of three digits. -/
theorem exists_groups {sep : Char} {s : Str} (h : Detection.groupedBy py sep s = true) :
    ∃ unsigned, (s = unsigned ∨ s = '-' :: unsigned) ∧ ∃ g gs, unsigned.splitOn sep = g :: gs ∧ g ≠ [] ∧
      (∀ g' ∈ g :: gs, ∀ x ∈ g', py.isDigit x = true) ∧ g.length ≤ 3 ∧ ∀ g' ∈ gs, g'.length = 3 := by
  unfold Detection.groupedBy at h
  dsimp only at h
  generalize hparts : List.splitOn sep _ = parts at h
  obtain ⟨unsigned, hs, hunsigned⟩ :
      ∃ unsigned, (s = unsigned ∨ s = '-' :: unsigned) ∧ unsigned.splitOn sep = parts := by
    split at hparts
    · rename_i unsigned
      exact ⟨unsigned, .inr rfl, hparts⟩
    · exact ⟨s, .inl rfl, hparts⟩
  refine ⟨unsigned, hs, ?_⟩
  rw [hunsigned]
  cases parts with
  | nil => cases h
  | cons g gs =>
    obtain ⟨hlen, hshort, hg, -, hrest⟩ := of_decide_eq_true h
    refine ⟨g, gs, rfl, List.ne_nil_of_length_pos hlen, fun g' hg' x hx => ?_, hshort, fun g' hg' => (hrest g' hg').1⟩
    rcases List.mem_cons.1 hg' with rfl | hg'
    · exact List.all_eq_true.1 hg x hx
    · exact List.all_eq_true.1 (hrest g' hg').2 x hx

/-- A grouped number does not consist of separators. -/
theorem groupedBy_without {s : Str} (h : Detection.groupedBy py ',' s = true) : Detection.without ',' s ≠ [] := by
  obtain ⟨unsigned, hs, g, gs, hsplit, hg, -⟩ := exists_groups h
  have hfirst : ∃ x ∈ unsigned, x ≠ ',' := by
    cases unsigned with
    | nil =>
      rw [List.splitOn_nil] at hsplit
      exact absurd (List.cons.inj hsplit).1.symm hg
    | cons x unsigned =>
      refine ⟨x, List.mem_cons_self, fun hx => ?_⟩
      have hempty : (x :: unsigned).splitOn ',' = [] :: unsigned.splitOn ',' := by
        rw [hx]
        exact List.splitOn_append_cons_self [] unsigned
      rw [hsplit] at hempty
      exact hg (List.cons.inj hempty).1
  obtain ⟨x, hx, hne⟩ := hfirst
  have hmem : x ∈ s := by
    rcases hs with rfl | rfl
    · exact hx
    · exact List.mem_cons_of_mem _ hx
  exact List.ne_nil_of_mem (List.mem_filter.2 ⟨hmem, by simpa using hne⟩)

/-- A grouped number has no blanks. -/
theorem groupedBy_noSpace {s : Str} (h : Detection.groupedBy py ',' s = true) : ∀ x ∈ s, Str.isSpace x = false := by
  obtain ⟨unsigned, hs, g, gs, hsplit, -, hdigits, -⟩ := exists_groups h
  have hunsigned : ∀ x ∈ unsigned, Str.isSpace x = false := by
    intro x hx
    have hjoin : List.intercalate [','] (unsigned.splitOn ',') = unsigned := List.intercalate_splitOn _
    rw [← hjoin, hsplit] at hx
    rcases mem_intercalate hx with rfl | ⟨g', hg', hxg⟩
    · decide
    · exact py.isDigit_not_space x (hdigits g' hg' x hxg)
  intro x hx
  rcases hs with rfl | rfl
  · exact hunsigned x hx
  · rcases List.mem_cons.1 hx with rfl | hx
    · decide
    · exact hunsigned x hx

/-- **What a reported text has to be for its standardized form to be a number.** -/
theorem standardizeNumeric_invalid {value canonical : Str} {name : Standardization.RuleName} (hne : value ≠ [])
    (hinvalid : Detection.isValidNumeric py value = false)
    (h : standardizeNumeric py value none = (canonical, some name)) :
    (canonical ≠ [] ∧ Detection.isValidNumeric py canonical = false) ↔ ¬ NumberOnceUngrouped py value := by
  have hdot : Str.isSpace '.' = false := by decide
  -- a text without commas is standardized to its stripped form, which is no more of a number
  have hstripped : ',' ∉ value.strip → ((value.strip ≠ [] ∧ Detection.isValidNumeric py value.strip = false) ↔
      ¬ NumberOnceUngrouped py value) := by
    intro hcomma
    have hcomma' : ',' ∉ value.strip.strip := by rwa [Str.strip_strip]
    rw [isValidNumeric_of_no_comma hcomma, ← Str.strip_strip, ← isValidNumeric_of_no_comma hcomma'] at hinvalid
    unfold NumberOnceUngrouped
    simp [hcomma, hinvalid]
  unfold standardizeNumeric at h
  rw [if_neg hne] at h
  dsimp only at h
  by_cases hcomma : ',' ∈ value.strip
  · have hnonempty : value.strip ≠ [] := List.ne_nil_of_mem hcomma
    by_cases hdots : '.' ∈ value.strip
    · rw [if_pos ⟨hcomma, hdots⟩] at h
      dsimp only at h
      split at h
      · cases h
      · cases h
        have hin : '.' ∈ (ungrouped value.strip).strip := Str.mem_strip (dot_mem_ungrouped hcomma hdots) hdot
        have hno : ',' ∉ (ungrouped value.strip).strip := fun hin => comma_notMem_ungrouped _ (Str.mem_of_mem_strip hin)
        rw [isValidNumeric_of_no_comma hno]
        unfold NumberOnceUngrouped
        simp [hcomma, hdots, hnonempty, List.ne_nil_of_mem hin, List.ne_nil_of_mem (dot_mem_ungrouped hcomma hdots)]
    · rw [if_neg (fun h => hdots h.2), if_pos hcomma] at h
      by_cases hgrouped : Detection.groupedBy py ',' value.strip = true
      · rw [if_pos hgrouped] at h
        dsimp only at h
        split at h
        · cases h
        · cases h
          have hspace : ∀ x ∈ Detection.without ',' value.strip, Str.isSpace x = false :=
            fun x hx => groupedBy_noSpace hgrouped x (List.mem_filter.1 hx).1
          have hself := Str.strip_eq_self hspace
          have hno : ',' ∉ (Detection.without ',' value.strip).strip := by
            rw [hself]
            simp [Detection.without]
          have hfinite : py.isFiniteDecimal (Detection.without ',' value.strip) = false := by
            unfold Detection.isValidNumeric at hinvalid
            simpa [hcomma, hdots, hgrouped, hnonempty] using hinvalid
          have hkept : Detection.without ',' value.strip ≠ [] := groupedBy_without hgrouped
          rw [isValidNumeric_of_no_comma hno, hself]
          unfold NumberOnceUngrouped
          simp [hdots, hnonempty, hkept, hfinite]
      · rw [if_neg hgrouped] at h
        simp at h
  · rw [if_neg (fun h => hcomma h.1), if_neg hcomma] at h
    have hcanonical : canonical = value.strip := by
      simp at h
      split at h <;> simp_all
    rw [hcanonical]
    exact hstripped hcomma

end
/-! ## A proposed value -/

/-- **A replacement proposed for an issue of a value rule**: detection reported the issue at the cell, remediation
considered it among others, and proposed the value. -/
structure ValueRepair (py : Python) where
  dataset         : DetectionDataset py
  detectionLimits : DetectionLimits
  issues          : List RemediationIssueInput
  issues_reported : ∀ issue ∈ issues, ∃ f ∈ (detectIssues dataset detectionLimits).findings, Describes issue f
  issues_nodup    : (issues.map (fun issue => issue.issueId)).Nodup
  columnConfig    : Dict Str RemediationColumnConfig
  datasetConfig   : RemediationDatasetConfigInput
  limits          : RemediationLimits
  issue           : RemediationIssueInput
  issue_mem       : issue ∈ issues
  issue_value     : issue.issueType ∈ valueIssueTypes
  row             : dataset.RowIndex
  column          : dataset.ColIndex
  at_row          : issue.rowNumber = csvRowNumber row
  at_column       : issue.columnName = some (dataset.header column)
  at_cell         : issue.originalValue = some (dataset.cell row column)
  change          : RemediationChangeProposal
  change_mem      : change ∈ (remediate py dataset.toTable issues columnConfig datasetConfig limits).changes
  change_source   : change.sourceIssueId = issue.issueId
  value           : Str
  proposed        : change.proposedValue = some value

namespace ValueRepair

section
variable {py : Python} (r : ValueRepair py)

/-- The text the value was proposed for. -/
def original : Str := r.dataset.cell r.row r.column

/-- **Detection no longer reports the issue type at the cell** when just the cell is replaced. -/
def Clears : Prop :=
  ∀ limits, ∀ f ∈ (detectIssues (replaceCell r.dataset r.row r.column r.value) limits).findings,
    ¬ (f.issueType = r.issue.issueType ∧ f.rowNumber = csvRowNumber r.row ∧
      f.columnName = some (r.dataset.header r.column))

/-- Another column of the same name has the issue in the same row. -/
def OtherColumn : Prop :=
  ∃ c, c ≠ r.column ∧ r.dataset.header c = r.dataset.header r.column ∧
    Flags py r.issue.issueType (r.dataset.ruleOf c) (r.dataset.column c) (r.dataset.cell r.row c)

/-- The forms of the other cells of the column. -/
def otherForms {κ : Type} (formOf : Str → Option κ) : List κ :=
  ((r.dataset.column r.column).eraseIdx r.row).filterMap formOf

def capitalizationTarget : Option CapitalizationTarget :=
  (columnConfigOf r.columnConfig r.issue.columnName).bind (fun config => config.capitalizationTarget)

/-- A single character stands between two runs of blanks. -/
def LoneCharacter : Prop := r.issue.issueType = .multipleInternalSpaces ∧ r.original.searchLone = true

/-- **The standardized form is one its rule accepts**: a number, or the most frequent form of the column. -/
def FormAccepted : Prop :=
  match r.issue.issueType with
  | .invalidNumeric             => NumberOnceUngrouped py r.original
  | .booleanInconsistency       => Dict.Prevails familiesByName (r.otherForms (familyOf py)) .trueFalse
  | .inconsistentCapitalization => ∀ target, r.capitalizationTarget = some target → ∀ form,
    classifyCasing py (applyTarget py target r.original) = some form →
      Dict.Prevails patternPriority (r.otherForms (classifyCasing py)) form
  | _                           => True

/-- The action of the issue's type proposed the value. -/
theorem exists_propose : ∃ rule reason, getRuleForIssueType py r.issue.issueType = some rule ∧
    rule.propose r.issue (columnConfigOf r.columnConfig r.issue.columnName) r.datasetConfig =
      .changed (some r.value) reason := by
  obtain ⟨issue, hissue, rule, v, reason, hrule, -, -, hpropose, heq⟩ := mem_changes r.change_mem
  have hsame : issue = r.issue := by
    refine List.inj_on_of_nodup_map r.issues_nodup hissue r.issue_mem ?_
    rw [← r.change_source, heq]
  have hv : v = some r.value := by
    rw [← r.proposed, heq]
  exact ⟨rule, reason, hsame ▸ hrule, by rw [← hv, ← hsame]; exact hpropose⟩

/-- The issue was reported for its text. -/
theorem flags_original : ∃ c, Flags py r.issue.issueType (r.dataset.ruleOf r.column) (r.dataset.column c) r.original := by
  obtain ⟨f, hf, -, hcolumn, htype, horiginal, -⟩ := r.issues_reported r.issue r.issue_mem
  obtain ⟨i, c, hflags, -, hc, hcell⟩ :=
    Detection.exists_flagged r.issue_value (Detection.mem_allFindings_of_mem hf) htype.symm
  have hheader : r.dataset.header c = r.dataset.header r.column := by
    rw [r.at_column, hc] at hcolumn
    exact (Option.some.inj hcolumn).symm
  have hvalue : r.dataset.cell i c = r.original := by
    rw [r.at_cell, hcell] at horiginal
    exact (Option.some.inj horiginal).symm
  refine ⟨c, ?_⟩
  have hrule : r.dataset.ruleOf c = r.dataset.ruleOf r.column := congrArg r.dataset.columnRules.get? hheader
  rwa [hrule, hvalue] at hflags

theorem suggestsRepair : SuggestsRepair r.issue := by
  obtain ⟨f, hf, hdescribes⟩ := r.issues_reported r.issue r.issue_mem
  exact hdescribes.suggestsRepair (Detection.mem_allFindings_of_mem hf)

theorem row_lt_column : (r.row : Nat) < (r.dataset.column r.column).length := by
  simp [DetectionDataset.column]

/-- A suggested fix is proposed verbatim. -/
theorem value_eq_fix {action : Action} {reason : String} {value fix : Str}
    (hpropose : proposeSuggestedFix action r.issue = .changed (some r.value) reason)
    (horiginal : r.issue.originalValue = some value) (hfix : r.issue.suggestedFix = some fix) :
    value = r.original ∧ r.value = fix := by
  have hvalue := Validation.proposeSuggestedFix_changed hpropose
  rw [hfix] at hvalue
  exact ⟨Option.some.inj (horiginal.symm.trans r.at_cell), Option.some.inj hvalue⟩

/-- A recased text is the column's target applied to the original. -/
theorem value_eq_recased {reason : String} (hpropose : proposeStandardizeCapitalization py r.issue
    (columnConfigOf r.columnConfig r.issue.columnName) = .changed (some r.value) reason) :
    ∃ target, r.capitalizationTarget = some target ∧ r.value = applyTarget py target r.original := by
  unfold proposeStandardizeCapitalization at hpropose
  split at hpropose
  · cases hpropose
  · rename_i target htarget
    split at hpropose
    · cases hpropose
    · rename_i value hvalue
      have horiginal : value = r.original :=
        Option.some.inj ((Validation.given_eq_some hvalue).symm.trans r.at_cell)
      have hv := Validation.proposeCanonical_changed hpropose
      exact ⟨target, htarget, by rw [← horiginal]; exact Option.some.inj hv⟩

/-- **When the replaced cell is flagged again.** -/
theorem flags_value : Flags py r.issue.issueType (r.dataset.ruleOf r.column)
    ((r.dataset.column r.column).set r.row r.value) r.value ↔ r.LoneCharacter ∨ ¬ r.FormAccepted := by
  obtain ⟨rule, reason, hrule, hpropose⟩ := r.exists_propose
  obtain ⟨c, hflagged⟩ := r.flags_original
  obtain ⟨hleading, htrailing, hspaces⟩ := r.suggestsRepair
  have horiginal : r.issue.originalValue = some r.original := r.at_cell
  have hvalue := r.issue_value
  unfold LoneCharacter FormAccepted
  simp only [valueIssueTypes, List.mem_cons, List.not_mem_nil, or_false] at hvalue
  rcases hvalue with htype | htype | htype | htype | htype | htype <;> rw [htype] at hrule hflagged ⊢ <;> cases hrule
  · obtain ⟨value, hin, hfix⟩ := hleading htype
    obtain ⟨rfl, hv⟩ := r.value_eq_fix hpropose hin hfix
    simp [Flags, hv, Str.lstrip_lstrip]
  · obtain ⟨value, hin, hfix⟩ := htrailing htype
    obtain ⟨rfl, hv⟩ := r.value_eq_fix hpropose hin hfix
    simp [Flags, hv, Str.rstrip_rstrip]
  · obtain ⟨value, hin, hfix⟩ := hspaces htype
    obtain ⟨rfl, hv⟩ := r.value_eq_fix hpropose hin hfix
    have hnonempty : r.original.searchLone = true → r.original.collapse ≠ [] := by
      intro hlone hempty
      rw [← Str.searchRun_collapse, hempty] at hlone
      cases hlone
    simp only [Flags, hv, Str.searchRun_collapse, true_and, not_true_eq_false, or_false]
    exact ⟨fun h => h.2, fun h => ⟨hnonempty h, h⟩⟩
  · obtain ⟨hgoverns, hne, hinvalid⟩ := hflagged
    obtain ⟨⟨name, hname⟩, hv⟩ := Validation.proposeStandardized_changed hpropose
    rw [horiginal, Option.getD_some] at hname hv
    have hnumeric := standardizeNumeric_invalid hne hinvalid (Prod.ext (Option.some.inj hv).symm hname)
    simp only [Flags, hgoverns, true_and, reduceCtorEq, false_and, false_or]
    exact hnumeric
  · obtain ⟨hgoverns, -⟩ := hflagged
    obtain ⟨⟨name, hname⟩, hv⟩ := Validation.proposeStandardized_changed hpropose
    rw [horiginal, Option.getD_some] at hname hv
    obtain ⟨hne, parsed, htoken⟩ := standardizeBoolean_form (Prod.ext (Option.some.inj hv).symm hname)
    have hform : familyOf py r.value = some .trueFalse := by
      unfold familyOf
      rw [if_neg hne, htoken]
      rfl
    have hdeviates := deviates_set familiesByName (fun form => by cases form <;> decide) r.row_lt_column hform
    simp only [Flags, hgoverns, true_and, htoken, reduceCtorEq, and_false, false_and, false_or]
    exact hdeviates
  · obtain ⟨hgoverns, -⟩ := hflagged
    obtain ⟨target, htarget, hv⟩ := r.value_eq_recased hpropose
    simp only [Flags, hgoverns, true_and, htarget, Option.some.injEq, forall_eq', ← hv, reduceCtorEq, false_and, false_or]
    cases hform : classifyCasing py r.value with
    | none => simp [Deviates, hform]
    | some form =>
      have hdeviates := deviates_set patternPriority (fun form => by cases form <;> decide) r.row_lt_column hform
      simp only [Option.some.injEq, forall_eq']
      exact hdeviates

theorem reported_replaceCell :
    Reported (replaceCell r.dataset r.row r.column r.value) r.issue.issueType (csvRowNumber r.row)
        (r.dataset.header r.column) ↔
      r.OtherColumn ∨ Flags py r.issue.issueType (r.dataset.ruleOf r.column)
        ((r.dataset.column r.column).set r.row r.value) r.value := by
  have hiff := Detection.reported_iff r.issue_value (replacedRow r.dataset r.row r.column r.value)
    (r.dataset.header r.column)
  refine Iff.trans hiff ?_
  constructor
  · rintro ⟨c, hheader, hflags⟩
    have hflags := (flags_replaceCell (d := r.dataset) c).1 hflags
    split at hflags
    · rename_i hc
      exact .inr (hc ▸ hflags)
    · rename_i hc
      exact .inl ⟨c, hc, hheader, hflags⟩
  · rintro (⟨c, hc, hheader, hflags⟩ | hflags)
    · refine ⟨c, hheader, (flags_replaceCell c).2 ?_⟩
      rwa [if_neg hc]
    · refine ⟨r.column, rfl, (flags_replaceCell r.column).2 ?_⟩
      rwa [if_pos rfl]

theorem clears_iff_not_reported : r.Clears ↔ ¬ Reported (replaceCell r.dataset r.row r.column r.value)
    r.issue.issueType (csvRowNumber r.row) (r.dataset.header r.column) := by
  constructor
  · rintro hclears ⟨f, hf, hat⟩
    obtain ⟨limits, hlimits⟩ := Detection.exists_limits (replaceCell r.dataset r.row r.column r.value)
    refine hclears limits f ?_ hat
    rw [hlimits]
    exact Detection.mem_sortedFindings.2 hf
  · intro hnot limits f hf hat
    exact hnot ⟨f, Detection.mem_allFindings_of_mem hf, hat⟩

/-- What one pass leaves beside a single character stays reported. -/
theorem clears_iff : r.Clears ↔ ¬ r.OtherColumn ∧ ¬ r.LoneCharacter ∧ r.FormAccepted := by
  rw [r.clears_iff_not_reported, r.reported_replaceCell, not_or, r.flags_value, not_or, not_not]

/-- **When the proposed value clears its issue.** -/
theorem proposed_clears_iff (hlone : ¬ r.LoneCharacter) : r.Clears ↔ ¬ r.OtherColumn ∧ r.FormAccepted := by
  rw [r.clears_iff]
  exact and_congr_right (fun _ => and_iff_right hlone)

end

/-! ## Two cells -/

def wideGap : ValueRepair asciiPython where
  dataset := { headers := ["name".toList], rows := [["a  b".toList]], width := by simp }
  detectionLimits := ⟨10⟩
  issues := [⟨1, 2, some "name".toList, .multipleInternalSpaces, some "a  b".toList, some "a b".toList⟩]
  issues_reported := by
    intro issue hissue
    rw [List.mem_singleton.1 hissue]
    exact ⟨⟨2, some "name".toList, .multipleInternalSpaces, .info, some "a  b".toList, some "a b".toList⟩, by decide, rfl,
      rfl, rfl, rfl, rfl⟩
  issues_nodup := by decide
  columnConfig := []
  datasetConfig := {}
  limits := ⟨10⟩
  issue := ⟨1, 2, some "name".toList, .multipleInternalSpaces, some "a  b".toList, some "a b".toList⟩
  issue_mem := by decide
  issue_value := by decide
  row := ⟨0, by decide⟩
  column := ⟨0, by decide⟩
  at_row := rfl
  at_column := rfl
  at_cell := rfl
  change := ⟨1, 2, some "name".toList, .collapseMultipleSpaces, some "a  b".toList, some "a b".toList,
    Action.collapseMultipleSpaces.changeReason⟩
  change_mem := by decide
  change_source := rfl
  value := "a b".toList
  proposed := rfl

theorem proposed_clears_wideGap : ¬ wideGap.LoneCharacter ∧ wideGap.Clears := by
  have hlone : ¬ wideGap.LoneCharacter := fun h => absurd h.2 (by decide)
  refine ⟨hlone, (wideGap.proposed_clears_iff hlone).2 ⟨?_, trivial⟩⟩
  rintro ⟨c, hc, -⟩
  exact hc (Fin.ext (by have := c.isLt; simp [wideGap] at this ⊢; omega))

/-- A column of `yes` and `no`, with a `1`. -/
def yesNoColumn : ValueRepair asciiPython where
  dataset := { headers := ["paid".toList], rows := [["yes".toList], ["no".toList], ["1".toList]], width := by simp
               columnRules := [("paid".toList, { expectedType := some .boolean })] }
  detectionLimits := ⟨10⟩
  issues := [⟨1, 4, some "paid".toList, .booleanInconsistency, some "1".toList, none⟩]
  issues_reported := by
    intro issue hissue
    rw [List.mem_singleton.1 hissue]
    exact ⟨⟨4, some "paid".toList, .booleanInconsistency, .medium, some "1".toList, none⟩, by decide, rfl, rfl, rfl, rfl,
      rfl⟩
  issues_nodup := by decide
  columnConfig := []
  datasetConfig := {}
  limits := ⟨10⟩
  issue := ⟨1, 4, some "paid".toList, .booleanInconsistency, some "1".toList, none⟩
  issue_mem := by decide
  issue_value := by decide
  row := ⟨2, by decide⟩
  column := ⟨0, by decide⟩
  at_row := rfl
  at_column := rfl
  at_cell := rfl
  change := ⟨1, 4, some "paid".toList, .normalizeBoolean, some "1".toList, some "true".toList,
    Action.normalizeBoolean.changeReason⟩
  change_mem := by decide
  change_source := rfl
  value := "true".toList
  proposed := rfl

/-- **`true` is reported again, as no `yes` or `no`.** -/
theorem yesNoColumn_reported : ¬ yesNoColumn.Clears := by
  intro h
  refine h ⟨10⟩ ⟨4, some "paid".toList, .booleanInconsistency, .medium, some "true".toList, none⟩ ?_ ⟨rfl, rfl, rfl⟩
  decide

end ValueRepair
end Remediation
end DataOps

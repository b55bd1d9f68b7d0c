import Mathlib.Algebra.Order.BigOperators.Group.List
import DataOps.ProfileReconcile
import DataOps.QualityRowCount
/-!
# QualityBaseline — the effective totals and the remediated table

The handler subtracts the removals from the profile's duplicate rows and nothing from its blank cells; it does not profile
the table again.  Its totals describe the remediated table exactly when the changes neither take away nor make blank cells
on balance, and lose as many row contents as they should (`describesRemediated_iff`).
-/
namespace DataOps
namespace Quality

open Detection (csvRowNumber)
open Remediation (Action)

section
variable {py : Python} {c : Chain py}

/-! ## The remediated table -/

/-- The columns a change names, where its cell is still the value the change was proposed for. -/
def Targets (t : Table) (change : RemediationChangeRow) (i : t.RowIndex) (k : t.ColIndex) : Prop :=
  change.rowNumber = csvRowNumber i ∧ change.columnName = some (t.headers.get k) ∧
    change.originalValue = some (t.cell i k)

instance (t : Table) (change : RemediationChangeRow) (i : t.RowIndex) (k : t.ColIndex) :
    Decidable (Targets t change i k) := inferInstanceAs (Decidable (_ ∧ _ ∧ _))

/-- A cell after the passed changes; of several replacements the last one stays. -/
def Reads.newCell (r : Reads c) (i : c.dataset.RowIndex) (k : c.dataset.ColIndex) : Str :=
  ((r.applied.filterMap (fun change =>
    if Targets c.dataset.toTable change i k then change.proposedValue else none)).getLast?).getD (c.dataset.cell i k)

def Reads.Removed (r : Reads c) (i : c.dataset.RowIndex) : Prop := csvRowNumber i ∈ r.removedRowNumbers

instance (r : Reads c) (i : c.dataset.RowIndex) : Decidable (r.Removed i) := inferInstanceAs (Decidable (_ ∈ _))

def Reads.keptRows (r : Reads c) : List c.dataset.RowIndex :=
  (List.finRange c.dataset.rows.length).filter (fun i => ¬ r.Removed i)

/-- **The table with exactly the passed changes applied**: the targeted rows removed, the targeted cells replaced. -/
def Reads.remediated (r : Reads c) : Table where
  headers := c.dataset.headers
  rows := r.keptRows.map (fun i => (List.finRange c.dataset.headers.length).map (r.newCell i))
  width := by
    intro row hrow
    obtain ⟨i, -, rfl⟩ := List.mem_map.1 hrow
    rw [List.length_map, List.length_finRange]

/-- **The effective totals are what the profile of the remediated table reports.** -/
def DescribesRemediated (r : Reads c) : Prop :=
  r.stats.effectiveMissingValueTotal = (profileCsv r.remediated).missingValueTotal ∧
    r.stats.effectiveDuplicateRowCount = (profileCsv r.remediated).duplicateRowCount ∧
    r.stats.effectiveMissingValueTotal ≤ (profileCsv r.remediated).rowCount * (profileCsv r.remediated).columnCount

/-! ## The condition -/

/-- The cells of a table that satisfy a predicate. -/
def countCells (t : Table) (P : t.RowIndex → t.ColIndex → Prop) [∀ i k, Decidable (P i k)] : Nat :=
  ((List.finRange t.headers.length).map (fun k => (List.finRange t.rows.length).countP (fun i => P i k))).sum

/-- **As many blank cells go**, in the rows removed and the cells filled, **as are made.** -/
def BlanksBalance (r : Reads c) : Prop :=
  countCells c.dataset.toTable (fun i k => r.Removed i ∧ isBlank (c.dataset.cell i k)) +
      countCells c.dataset.toTable
        (fun i k => ¬ r.Removed i ∧ isBlank (c.dataset.cell i k) ∧ ¬ isBlank (r.newCell i k)) =
    countCells c.dataset.toTable (fun i k => ¬ r.Removed i ∧ ¬ isBlank (c.dataset.cell i k) ∧ isBlank (r.newCell i k))

/-- The contents of the rows, as `profile_csv` compares them. -/
def contents (t : Table) : Finset (List Str) := (t.rows.map normalizedRow).toFinset

/-- The passed row-removal changes. -/
def Reads.removalCount (r : Reads c) : Nat := r.applied.countP (fun change => change.action ∈ duplicateRemovalActions)

/-- The rows with a passed change of both removal actions. -/
def Reads.removedTwice (r : Reads c) : Nat := (r.rowsOf .removeDuplicateRow ∩ r.rowsOf .removeDuplicatePrimaryKey).card

/-- **While there are as many duplicates as removals, as many contents appear as vanish and rows are removed twice**;
beyond that, no two rows are left equal. -/
def DuplicatesBalance (r : Reads c) : Prop :=
  if r.removalCount ≤ (profileCsv c.dataset.toTable).duplicateRowCount then
    (contents r.remediated \ contents c.dataset.toTable).card =
      (contents c.dataset.toTable \ contents r.remediated).card + r.removedTwice
  else (r.remediated.rows.map normalizedRow).Nodup

/-! ## Counting cells -/

variable {t : Table}

theorem countP_add {α : Type} {p q p' q' : α → Prop} [DecidablePred p] [DecidablePred q] [DecidablePred p']
    [DecidablePred q'] {l : List α}
    (h : ∀ a ∈ l, (if p a then 1 else 0) + (if q a then 1 else 0) = (if p' a then 1 else 0) + (if q' a then 1 else 0)) :
    l.countP (fun a => p a) + l.countP (fun a => q a) = l.countP (fun a => p' a) + l.countP (fun a => q' a) := by
  induction l with
  | nil => rfl
  | cons a l ih =>
    have hhead := h a List.mem_cons_self
    have htail := ih (fun a' ha' => h a' (List.mem_cons_of_mem _ ha'))
    simp only [List.countP_cons, decide_eq_true_eq]
    omega

/-- **Counts of cells add up when they do in each cell.** -/
theorem countCells_add {P Q R S : t.RowIndex → t.ColIndex → Prop} [∀ i k, Decidable (P i k)]
    [∀ i k, Decidable (Q i k)] [∀ i k, Decidable (R i k)] [∀ i k, Decidable (S i k)]
    (h : ∀ i k, (if P i k then 1 else 0) + (if Q i k then 1 else 0) =
      (if R i k then 1 else 0) + (if S i k then 1 else 0)) :
    countCells t P + countCells t Q = countCells t R + countCells t S := by
  unfold countCells
  rw [← List.sum_map_add, ← List.sum_map_add]
  refine congrArg List.sum (List.map_congr_left (fun k _ => ?_))
  exact countP_add (fun i _ => h i k)

/-- A column's blank cells, row by row. -/
theorem missingCount_eq (t : Table) (k : t.ColIndex) :
    missingCount t k = t.rows.countP (fun row => isBlank (row[(k : Nat)]?.getD [])) := by
  have hcells := congrArg (List.countP isBlank) (t.map_cell k)
  rwa [List.countP_map, List.countP_map] at hcells

/-- **The blank cells of the remediated table.** -/
theorem Reads.missing_remediated (r : Reads c) : (profileCsv r.remediated).missingValueTotal =
    countCells c.dataset.toTable (fun i k => ¬ r.Removed i ∧ isBlank (r.newCell i k)) := by
  refine congrArg List.sum (List.map_congr_left (fun k _ => ?_))
  rw [missingCount_eq]
  unfold Reads.remediated Reads.keptRows
  rw [List.countP_map, List.countP_filter]
  refine List.countP_congr (fun i _ => ?_)
  have hk : (k : Nat) < ((List.finRange c.dataset.headers.length).map (r.newCell i)).length := by
    rw [List.length_map, List.length_finRange]
    exact k.isLt
  simp only [Function.comp_apply, List.getElem?_eq_getElem hk, Option.getD_some, List.getElem_map, List.getElem_finRange]
  rw [Bool.and_comm]
  simp only [decide_not, Bool.decide_and, Bool.decide_eq_true]
  rfl

/-- **The blank cells before, after, taken away and made.** -/
theorem Reads.missing_balance (r : Reads c) :
    (profileCsv c.dataset.toTable).missingValueTotal +
        countCells c.dataset.toTable
          (fun i k => ¬ r.Removed i ∧ ¬ isBlank (c.dataset.cell i k) ∧ isBlank (r.newCell i k)) =
      (profileCsv r.remediated).missingValueTotal +
        (countCells c.dataset.toTable (fun i k => r.Removed i ∧ isBlank (c.dataset.cell i k)) +
          countCells c.dataset.toTable
            (fun i k => ¬ r.Removed i ∧ isBlank (c.dataset.cell i k) ∧ ¬ isBlank (r.newCell i k))) := by
  -- the cells are split by whether their row stays
  have hbefore := countCells_add (t := c.dataset.toTable) (P := fun i k => isBlank (c.dataset.cell i k) = true)
    (Q := fun _ _ => False) (R := fun i k => r.Removed i ∧ isBlank (c.dataset.cell i k))
    (S := fun i k => ¬ r.Removed i ∧ isBlank (c.dataset.cell i k))
    (fun i k => by by_cases h : r.Removed i <;> simp [h])
  have hafter := countCells_add (t := c.dataset.toTable) (P := fun i k => ¬ r.Removed i ∧ isBlank (c.dataset.cell i k))
    (Q := fun i k => ¬ r.Removed i ∧ ¬ isBlank (c.dataset.cell i k) ∧ isBlank (r.newCell i k))
    (R := fun i k => ¬ r.Removed i ∧ isBlank (r.newCell i k))
    (S := fun i k => ¬ r.Removed i ∧ isBlank (c.dataset.cell i k) ∧ ¬ isBlank (r.newCell i k))
    (fun i k => by by_cases h : r.Removed i <;> by_cases h1 : isBlank (c.dataset.cell i k) <;>
      by_cases h2 : isBlank (r.newCell i k) <;> simp [h, h1, h2])
  have hnone : countCells c.dataset.toTable (fun _ _ => False) = 0 := by simp [countCells]
  have hprofile : (profileCsv c.dataset.toTable).missingValueTotal =
      countCells c.dataset.toTable (fun i k => isBlank (c.dataset.cell i k) = true) := by
    refine congrArg List.sum (List.map_congr_left (fun k _ => ?_))
    unfold missingCount
    simp only [Bool.decide_eq_true]
  rw [r.missing_remediated]
  omega

/-- A table has at most as many blank cells as cells. -/
theorem missing_le (t : Table) :
    (profileCsv t).missingValueTotal ≤ (profileCsv t).rowCount * (profileCsv t).columnCount := by
  have hle := List.sum_le_card_nsmul ((List.finRange t.headers.length).map (missingCount t)) t.rows.length (by
    intro n hn
    obtain ⟨k, -, rfl⟩ := List.mem_map.1 hn
    exact Nat.le_trans List.countP_le_length (Nat.le_of_eq List.length_finRange))
  rw [List.length_map, List.length_finRange] at hle
  refine Nat.le_trans hle (Nat.le_of_eq ?_)
  exact Nat.mul_comm t.headers.length t.rows.length

/-! ## No passed change fills a missing value -/

/-- A result's source issue is that of its change. -/
theorem Reads.exists_source (r : Reads c) {row : ValidationResultRow} (h : row ∈ r.results) :
    ∃ change ∈ c.changes, change.sourceIssueId = row.sourceIssueId := by
  have hmap : c.results.map (fun row => row.sourceIssueId) =
      (Validation.validate py (c.approvedChanges.map RemediationChangeRow.input) c.validationConfig
        c.validationLimits).results.map (fun item => item.sourceIssueId) :=
    map_eq_of_forall₂ (fun _ _ hwrites => hwrites.2.1) c.results_written
  have hperm : ((Validation.validate py (c.approvedChanges.map RemediationChangeRow.input) c.validationConfig
      c.validationLimits).results.map (fun item => item.sourceIssueId)).Perm
        ((c.approvedChanges.map RemediationChangeRow.input).map (fun change => change.sourceIssueId)) :=
    Validation.map_results (fun position change => (Validation.validateChange_changeId position change).2)
  rw [← hmap, List.map_map] at hperm
  obtain ⟨change, hchange, hsource⟩ :=
    List.mem_map.1 (hperm.mem_iff.1 (List.mem_map_of_mem (r.results_perm.mem_iff.1 h)))
  exact ⟨change, (List.mem_filter.1 hchange).1, hsource⟩

theorem unhandled_missing {rule : Remediation.RemediationRule} (h : rule ∈ Remediation.remediationRules py)
    {issueType : Detection.IssueType} (hmissing : issueType ∈ missingValueIssueTypes) : issueType ∉ rule.issueTypes := by
  simp only [missingValueIssueTypes, List.mem_cons, List.not_mem_nil, or_false] at hmissing
  simp only [Remediation.remediationRules, List.mem_cons, List.not_mem_nil, or_false] at h
  rcases hmissing with rfl | rfl | rfl <;>
    rcases h with rfl | rfl | rfl | rfl | rfl | rfl | rfl | rfl | rfl | rfl <;> simp

/-- **No action handles a missing value.** -/
theorem Reads.missingFixCount_eq (r : Reads c) :
    missingFixCount r.results (Dict.index (fun row => row.id) r.issues) = 0 := by
  unfold missingFixCount
  rw [List.countP_eq_zero]
  intro row hrow hmissing
  obtain ⟨change, hchange, hsource⟩ := r.exists_source (List.mem_filter.1 hrow).1
  obtain ⟨issue, hissue, rule, v, reason, hrule, -, heq⟩ := c.exists_issue hchange
  have hid : issue.id = row.sourceIssueId := by
    rw [← hsource, heq]
  rw [← hid, r.get?_issue hissue] at hmissing
  have hnot : issue.issueType ∉ missingValueIssueTypes := fun htype => by
    obtain ⟨hmem, hhandled⟩ := Remediation.getRuleForIssueType_action hrule
    exact unhandled_missing hmem htype hhandled
  exact hnot (by simpa using hmissing)

/-! ## The duplicates -/

theorem distinctRowCount_eq (t : Table) : distinctRowCount t = (contents t).card :=
  (List.card_toFinset _).symm

theorem distinctRowCount_le (t : Table) : distinctRowCount t ≤ t.rows.length := by
  unfold distinctRowCount
  have hle := (List.dedup_sublist (t.rows.map normalizedRow)).length_le
  rwa [List.length_map] at hle

theorem distinct_eq_length_iff (t : Table) :
    distinctRowCount t = t.rows.length ↔ (t.rows.map normalizedRow).Nodup := by
  unfold distinctRowCount
  rw [← List.dedup_eq_self]
  constructor
  · intro h
    exact (List.dedup_sublist _).eq_of_length (by rw [h, List.length_map])
  · intro h
    rw [h, List.length_map]

/-- **The rows left and the rows removed are all the rows.** -/
theorem Reads.length_remediated (r : Reads c) :
    r.remediated.rows.length + r.removedRowNumbers.length = c.dataset.rows.length := by
  have hremoved : ((List.finRange c.dataset.rows.length).filter (fun i => r.Removed i)).length =
      r.removedRowNumbers.length := by
    have hperm : (((List.finRange c.dataset.rows.length).filter (fun i => r.Removed i)).map
        (fun i : c.dataset.RowIndex => csvRowNumber i)).Perm r.removedRowNumbers := by
      refine (List.perm_ext_iff_of_nodup ?_ (List.nodup_dedup _)).2 (fun n => ?_)
      · refine List.Nodup.map (fun i j hij => Fin.ext ?_) ((List.nodup_finRange _).filter _)
        exact Nat.add_right_cancel hij
      · rw [List.mem_map]
        constructor
        · rintro ⟨i, hi, rfl⟩
          exact of_decide_eq_true (List.mem_filter.1 hi).2
        · intro hn
          obtain ⟨hlow, hhigh⟩ := r.removed_range hn
          refine ⟨⟨n - 2, by omega⟩, ?_, by simp only [csvRowNumber]; omega⟩
          rw [List.mem_filter]
          refine ⟨List.mem_finRange _, decide_eq_true ?_⟩
          unfold Reads.Removed csvRowNumber
          dsimp only
          rwa [Nat.sub_add_cancel (by omega)]
    rw [← hperm.length_eq, List.length_map]
  have hsplit : (List.finRange c.dataset.rows.length).length = _ :=
    List.length_eq_length_filter_add (fun i : c.dataset.RowIndex => decide (r.Removed i))
  rw [List.length_finRange] at hsplit
  have hkept : r.remediated.rows.length =
      ((List.finRange c.dataset.rows.length).filter (fun i : c.dataset.RowIndex => !decide (r.Removed i))).length := by
    unfold Reads.remediated Reads.keptRows
    rw [List.length_map]
    simp only [decide_not]
  omega

/-- **The contents that appear, vanish and stay.** -/
theorem card_contents (before after : Table) : (contents after).card + (contents before \ contents after).card =
    (contents before).card + (contents after \ contents before).card := by
  have hbefore := Finset.card_sdiff_add_card_inter (contents before) (contents after)
  have hafter := Finset.card_sdiff_add_card_inter (contents after) (contents before)
  rw [Finset.inter_comm] at hafter
  omega

/-- The duplicates the handler is left with are those of the remediated table. -/
theorem Reads.duplicates_iff (r : Reads c) :
    r.stats.effectiveDuplicateRowCount = (profileCsv r.remediated).duplicateRowCount ↔ DuplicatesBalance r := by
  have hstats : r.stats.effectiveDuplicateRowCount =
      (profileCsv c.dataset.toTable).duplicateRowCount - r.removalCount := rfl
  have hprofile : ∀ t : Table, (profileCsv t).duplicateRowCount = t.rows.length - (contents t).card :=
    fun t => congrArg (t.rows.length - ·) (distinctRowCount_eq t)
  have hle : ∀ t : Table, (contents t).card ≤ t.rows.length := fun t => distinctRowCount_eq t ▸ distinctRowCount_le t
  have hbefore := hle c.dataset.toTable
  have hafter := hle r.remediated
  have hlength := r.length_remediated
  have hremovals : r.removedRowNumbers.length + r.removedTwice = r.removalCount := r.removed_length
  have hcontents := card_contents c.dataset.toTable r.remediated
  unfold DuplicatesBalance
  rw [hstats, hprofile, hprofile]
  split
  · omega
  · rw [← distinct_eq_length_iff, distinctRowCount_eq]
    omega

/-- The blanks the handler is left with are those of the remediated table. -/
theorem Reads.missing_iff (r : Reads c) :
    r.stats.effectiveMissingValueTotal = (profileCsv r.remediated).missingValueTotal ↔ BlanksBalance r := by
  have hstats : r.stats.effectiveMissingValueTotal = (profileCsv c.dataset.toTable).missingValueTotal := by
    change (profileCsv c.dataset.toTable).missingValueTotal - missingFixCount r.results _ = _
    rw [r.missingFixCount_eq, Nat.sub_zero]
  have hbalance := r.missing_balance
  unfold BlanksBalance
  rw [hstats]
  omega

/-- **The effective totals describe the remediated table exactly when blank cells and duplicates balance.** -/
theorem describesRemediated_iff (r : Reads c) : DescribesRemediated r ↔ BlanksBalance r ∧ DuplicatesBalance r := by
  rw [← r.missing_iff, ← r.duplicates_iff]
  constructor
  · rintro ⟨h1, h2, -⟩
    exact ⟨h1, h2⟩
  · rintro ⟨h1, h2⟩
    exact ⟨h1, h2, h1 ▸ missing_le r.remediated⟩

/-! ## Changes that keep the totals right -/

theorem countCells_eq_zero {P : t.RowIndex → t.ColIndex → Prop} [∀ i k, Decidable (P i k)] (h : ∀ i k, ¬ P i k) :
    countCells t P = 0 := by
  unfold countCells
  rw [List.sum_eq_zero_iff]
  rintro n hn
  obtain ⟨k, -, rfl⟩ := List.mem_map.1 hn
  rw [List.countP_eq_zero]
  simpa using fun i => h i k

/-- A row, read off its cells. -/
theorem map_cells (t : Table) (i : t.RowIndex) : (List.finRange t.headers.length).map (t.cell i) = t.row i := by
  refine List.ext_getElem (by rw [List.length_map, List.length_finRange, t.row_length]) (fun n hn hn' => ?_)
  simp [Table.cell]

/-- **The passed changes only strip cells and remove, once each, rows without blanks whose content stays in another
row.** -/
structure OnlyTidies (r : Reads c) : Prop where
  strips : ∀ i k, (r.newCell i k).strip = (c.dataset.cell i k).strip
  filled : ∀ i, r.Removed i → ∀ k, ¬ isBlank (c.dataset.cell i k)
  stays  : ∀ i, r.Removed i → ∃ j, ¬ r.Removed j ∧ normalizedRow (c.dataset.row j) = normalizedRow (c.dataset.row i)
  once   : r.removedTwice = 0

theorem OnlyTidies.normalizedRow_new {r : Reads c} (h : OnlyTidies r) (i : c.dataset.RowIndex) :
    normalizedRow ((List.finRange c.dataset.headers.length).map (r.newCell i)) =
      normalizedRow (c.dataset.row i) := by
  unfold normalizedRow
  rw [← map_cells c.dataset.toTable i, List.map_map, List.map_map]
  exact List.map_congr_left (fun k _ => h.strips i k)

/-- No content appears, and none vanishes. -/
theorem OnlyTidies.contents_eq {r : Reads c} (h : OnlyTidies r) : contents r.remediated = contents c.dataset.toTable := by
  ext content
  unfold contents Reads.remediated Reads.keptRows
  simp only [List.mem_toFinset, List.mem_map, List.mem_filter, List.mem_finRange, true_and, decide_eq_true_eq]
  constructor
  · rintro ⟨-, ⟨i, -, rfl⟩, rfl⟩
    exact ⟨_, List.getElem_mem i.isLt, (h.normalizedRow_new i).symm⟩
  · rintro ⟨row, hrow, rfl⟩
    obtain ⟨i, hi, rfl⟩ := List.getElem_of_mem hrow
    by_cases hremoved : r.Removed ⟨i, hi⟩
    · obtain ⟨j, hkept, hsame⟩ := h.stays ⟨i, hi⟩ hremoved
      exact ⟨_, ⟨j, hkept, rfl⟩, (h.normalizedRow_new j).trans hsame⟩
    · exact ⟨_, ⟨⟨i, hi⟩, hremoved, rfl⟩, h.normalizedRow_new ⟨i, hi⟩⟩

/-- **Then the effective totals describe the remediated table.** -/
theorem OnlyTidies.describesRemediated {r : Reads c} (h : OnlyTidies r) : DescribesRemediated r := by
  have hblank : ∀ i k, isBlank (r.newCell i k) = isBlank (c.dataset.cell i k) := by
    intro i k
    unfold isBlank
    rw [h.strips]
  have hblanks : BlanksBalance r := by
    unfold BlanksBalance
    rw [countCells_eq_zero, countCells_eq_zero, countCells_eq_zero]
    · rintro i k ⟨-, hfull, hnew⟩
      exact hfull (hblank i k ▸ hnew)
    · rintro i k ⟨-, hold, hnew⟩
      exact hnew (hblank i k ▸ hold)
    · rintro i k ⟨hremoved, hold⟩
      exact h.filled i hremoved k hold
  have hduplicates : DuplicatesBalance r := by
    have hlength := r.length_remediated
    have hremovals : r.removedRowNumbers.length + r.removedTwice = r.removalCount := r.removed_length
    have honce := h.once
    have hkept : (contents r.remediated).card ≤ r.remediated.rows.length :=
      distinctRowCount_eq r.remediated ▸ distinctRowCount_le r.remediated
    have hprofile : (profileCsv c.dataset.toTable).duplicateRowCount =
        c.dataset.rows.length - (contents c.dataset.toTable).card :=
      congrArg (c.dataset.rows.length - ·) (distinctRowCount_eq c.dataset.toTable)
    have hle : (contents c.dataset.toTable).card ≤ c.dataset.rows.length :=
      distinctRowCount_eq c.dataset.toTable ▸ distinctRowCount_le c.dataset.toTable
    rw [h.contents_eq] at hkept
    unfold DuplicatesBalance
    rw [if_pos (by omega), h.contents_eq, honce, Finset.sdiff_self, Finset.card_empty]
  have hmissing := r.missing_iff.2 hblanks
  exact ⟨hmissing, r.duplicates_iff.2 hduplicates, hmissing ▸ missing_le r.remediated⟩

end

/-! ## The profile the chain reads -/

/-- A column's blank cells are those its profile does not count. -/
theorem blanks_split (loaded : Profiling.LoadedCsv) (index : Nat) :
    loaded.rows.countP (fun row => isBlank (row[index]?.getD [])) +
      (Profiling.nonBlank (Profiling.columnValues loaded index)).length =
        (Profiling.columnValues loaded index).length := by
  have hlength := List.length_eq_countP_add_countP (fun v : Str => decide (v = []))
    (l := Profiling.columnValues loaded index)
  rw [Profiling.nonBlank, ← List.countP_eq_length_filter, hlength, Profiling.columnValues]
  simp only [List.countP_map, Function.comp_def, isBlank, decide_eq_true_eq, ne_eq]

/-- **The totals of a persisted profile are these**, of the table that was loaded. -/
theorem profileCsv_eq {py : PythonValues} {round4 : py.Float → py.Float} {limits : Profiling.ProfileLimits}
    {loaded : Profiling.LoadedCsv} (hwidth : ∀ row ∈ loaded.rows, row.length = loaded.headers.length)
    {profile : Profiling.ProfileResult py.toPython}
    (h : Profiling.profileCsv py round4 loaded limits = some profile) :
    profileCsv ⟨loaded.headers, loaded.rows, hwidth⟩ =
      ⟨profile.rowCount, profile.columnCount, profile.duplicateRowCount, profile.missingValueTotal⟩ := by
  obtain ⟨profile', hprofile, hrows, hduplicates, hlength, htotal, hcolumns⟩ :=
    Profiling.profileCsv_some round4 limits hwidth
  cases Option.some.inj (h.symm.trans hprofile)
  have hcount : profile.columnCount = loaded.headers.length := by
    unfold Profiling.profileCsv at h
    dsimp only at h
    split at h
    · cases h
    · cases h
      rfl
  have hmissing : ((List.finRange loaded.headers.length).map (missingCount ⟨loaded.headers, loaded.rows, hwidth⟩)) =
      profile.columnProfiles.map (fun column => column.missingCount) := by
    refine List.ext_getElem? (fun index => ?_)
    rw [List.getElem?_map, List.getElem?_map]
    by_cases hindex : index < loaded.headers.length
    · obtain ⟨column, hcolumn, -, -, hreconciled⟩ := hcolumns index hindex
      have hmissing := hreconciled.missing
      have hsplit := blanks_split loaded index
      rw [hcolumn, List.getElem?_eq_getElem (by rwa [List.length_finRange]), List.getElem_finRange, Option.map_some,
        Option.map_some, missingCount_eq]
      refine congrArg some ?_
      dsimp only [Fin.val_cast]
      rw [hreconciled.nonNull] at hmissing
      omega
    · rw [List.getElem?_eq_none (by rwa [List.length_finRange, Nat.not_lt.symm]), List.getElem?_eq_none (by omega)]
      rfl
  unfold profileCsv
  rw [hrows, hcount, hduplicates, htotal, hmissing]
  rfl

/-! ## Blank cells in removed rows -/

/-- Three equal rows, each with a blank cell. -/
def blankTriplets : Detection.DetectionDataset asciiPython where
  headers := ["a".toList, "b".toList]
  rows := [["1".toList, []], ["1".toList, []], ["1".toList, []]]
  width := by simp
  columnRules := []

/-- Both later rows are removed. -/
def tripletsChain : Chain asciiPython where
  dataset := blankTriplets
  detectionLimits := ⟨10⟩
  issues := [⟨⟨2, some "b".toList, .emptyString, .low, some [], none⟩, 1⟩,
    ⟨⟨3, none, .duplicateRow, .medium, none, none⟩, 2⟩,
    ⟨⟨3, some "b".toList, .emptyString, .low, some [], none⟩, 3⟩,
    ⟨⟨4, none, .duplicateRow, .medium, none, none⟩, 4⟩,
    ⟨⟨4, some "b".toList, .emptyString, .low, some [], none⟩, 5⟩]
  issues_written := by decide
  issues_nodup := by decide
  columnConfig := []
  datasetConfig := ⟨true, false⟩
  remediationLimits := ⟨10⟩
  changes := [⟨⟨2, 3, none, .removeDuplicateRow, none, none, Action.removeDuplicateRow.changeReason⟩, 1⟩,
    ⟨⟨4, 4, none, .removeDuplicateRow, none, none, Action.removeDuplicateRow.changeReason⟩, 2⟩]
  changes_written := by decide
  changes_nodup := by decide
  approved := fun _ => true
  validationConfig := []
  validationLimits := ⟨10⟩
  results := [⟨1, 1, 2, some .validateRemoveDuplicateRow, .passed, .duplicateRemovalCorrectlyFormed, none, none, "1.0"⟩,
    ⟨2, 2, 4, some .validateRemoveDuplicateRow, .passed, .duplicateRemovalCorrectlyFormed, none, none, "1.0"⟩]
  results_written := .cons ⟨rfl, rfl, rfl, rfl, rfl, rfl, rfl, rfl⟩ (.cons ⟨rfl, rfl, rfl, rfl, rfl, rfl, rfl, rfl⟩ .nil)
  results_nodup := by decide

def tripletsReads : Reads tripletsChain where
  issues := tripletsChain.issues
  issues_perm := List.Perm.refl _
  changes := tripletsChain.changes
  changes_perm := List.Perm.refl _
  results := tripletsChain.results
  results_perm := List.Perm.refl _

/-- **One row of two cells is left, with one blank, and the effective total is three.** -/
theorem tripletsReads_missing : tripletsReads.stats.effectiveMissingValueTotal = 3 ∧
    (profileCsv tripletsReads.remediated).missingValueTotal = 1 ∧
    (profileCsv tripletsReads.remediated).rowCount * (profileCsv tripletsReads.remediated).columnCount = 2 ∧
    ¬ DescribesRemediated tripletsReads := by
  have hstats : tripletsReads.stats.effectiveMissingValueTotal = 3 := by decide
  have hprofile : (profileCsv tripletsReads.remediated).missingValueTotal = 1 := by decide
  refine ⟨hstats, hprofile, by decide, fun h => ?_⟩
  have heq := h.1
  rw [hstats, hprofile] at heq
  cases heq

end Quality
end DataOps

import Mathlib.Algebra.Order.Ring.Rat
import Mathlib.Tactic.Positivity
import DataOps.CleaningRules
import DataOps.CsvTable
import DataOps.LibDict
/-!
# MatchComparison — rule sets, blocking and the comparison of one pair

Weights, scores and thresholds are exact rationals, and `casefold` is any function of strings.  A rule set carries the
constraints of its table, so a score is at most one; and a score depends on the two rows only, whichever comes first.
-/
namespace DataOps
namespace Matching

inductive ComparisonType
  | exact | normalizedExact
deriving DecidableEq, Repr

/-- One configured field (`ck_match_rule_fields_weight_positive`). -/
structure MatchRuleFieldSpec where
  columnName     : Str
  comparisonType : ComparisonType
  weight         : ℚ
  weight_pos     : 0 < weight

/-- A resolved rule set (`ck_match_rule_sets_threshold_order`). -/
structure MatchRuleSetConfig where
  duplicateThreshold       : ℚ
  reviewThreshold          : ℚ
  fields                   : List MatchRuleFieldSpec
  reviewThreshold_nonneg   : 0 ≤ reviewThreshold
  reviewThreshold_lt       : reviewThreshold < duplicateThreshold
  duplicateThreshold_le    : duplicateThreshold ≤ 1

structure FieldComparison where
  valueA       : Str
  valueB       : Str
  matched      : Bool
  weight       : ℚ
  contribution : ℚ
deriving DecidableEq

variable (casefold : Str → Str)

/-! ## Blocking -/

def normalizeBlockingValue (value : Str) : Str := casefold (Cleaning.trimWhitespace value).1

/-- The heaviest field, the first one on a tie. -/
def selectBlockingField (best : MatchRuleFieldSpec) (candidates : List MatchRuleFieldSpec) : MatchRuleFieldSpec :=
  candidates.foldl (fun best candidate => if best.weight < candidate.weight then candidate else best) best

/-- `_column_index`. -/
def columnIndex (t : Table) (columnName : Str) : Option t.ColIndex :=
  t.headers.findFinIdx? (fun header => casefold (Str.strip header) = casefold (Str.strip columnName))

/-- `rows[i][col_index] if col_index is not None else ""`. -/
def valueAt (t : Table) (i : t.RowIndex) (col : Option t.ColIndex) : Str :=
  match col with
  | some c => t.cell i c
  | none   => []

/-- The normalized value a row is blocked by. -/
def blockingValue (t : Table) (field : MatchRuleFieldSpec) (i : t.RowIndex) : Str :=
  normalizeBlockingValue casefold (valueAt t i (columnIndex casefold t field.columnName))

def buildBlocks (t : Table) (candidates : List t.RowIndex) (field : MatchRuleFieldSpec) : Dict Str (List t.RowIndex) :=
  candidates.foldl (fun blocks i =>
    if blockingValue casefold t field i = [] then blocks
    else Dict.push blocks (blockingValue casefold t field i) i) []

/-! ## The comparison of one pair -/

def compareField (valueA valueB : Str) (comparisonType : ComparisonType) : Bool × Str × Str :=
  match comparisonType with
  | .normalizedExact =>
    let normA := normalizeBlockingValue casefold valueA
    let normB := normalizeBlockingValue casefold valueB
    (normA = normB, normA, normB)
  | .exact => (valueA = valueB, valueA, valueB)

/-- The loop's variables: `field_comparisons`, `total_weight` and `matched_weight`. -/
structure PairTotals where
  fieldComparisons : Dict Str FieldComparison
  totalWeight      : ℚ
  matchedWeight    : ℚ

def comparePairStep (t : Table) (a b : t.RowIndex) (acc : PairTotals) (spec : MatchRuleFieldSpec) : PairTotals :=
  let col := columnIndex casefold t spec.columnName
  let (matched, normA, normB) := compareField casefold (valueAt t a col) (valueAt t b col) spec.comparisonType
  let contribution := if matched then spec.weight else 0
  { fieldComparisons := Dict.set acc.fieldComparisons spec.columnName ⟨normA, normB, matched, spec.weight, contribution⟩
    totalWeight := acc.totalWeight + spec.weight
    matchedWeight := acc.matchedWeight + contribution }

def comparePair (t : Table) (a b : t.RowIndex) (fields : List MatchRuleFieldSpec) : Dict Str FieldComparison × ℚ :=
  let acc := fields.foldl (comparePairStep casefold t a b) ⟨[], 0, 0⟩
  (acc.fieldComparisons, if 0 < acc.totalWeight then acc.matchedWeight / acc.totalWeight else 0)

/-! ## What a score depends on -/

/-- Whether the two rows match in a field. -/
def fieldMatched (t : Table) (a b : t.RowIndex) (spec : MatchRuleFieldSpec) : Bool :=
  (compareField casefold (valueAt t a (columnIndex casefold t spec.columnName))
    (valueAt t b (columnIndex casefold t spec.columnName)) spec.comparisonType).1

def totalWeight (fields : List MatchRuleFieldSpec) : ℚ := (fields.map (·.weight)).sum

def matchedWeight (t : Table) (a b : t.RowIndex) (fields : List MatchRuleFieldSpec) : ℚ :=
  (fields.map (fun spec => if fieldMatched casefold t a b spec then spec.weight else 0)).sum

variable {casefold} {t : Table} {a b : t.RowIndex}

theorem comparePair_fold (fields : List MatchRuleFieldSpec) (acc : PairTotals) :
    (fields.foldl (comparePairStep casefold t a b) acc).totalWeight = acc.totalWeight + totalWeight fields ∧
      (fields.foldl (comparePairStep casefold t a b) acc).matchedWeight =
        acc.matchedWeight + matchedWeight casefold t a b fields := by
  induction fields generalizing acc with
  | nil => simp [totalWeight, matchedWeight]
  | cons spec fields ih =>
    rw [List.foldl_cons, (ih _).1, (ih _).2]
    simp only [totalWeight, matchedWeight, List.map_cons, List.sum_cons, ← add_assoc]
    exact ⟨rfl, rfl⟩

/-- **A score is the matched weight over the whole weight.** -/
theorem comparePair_score (fields : List MatchRuleFieldSpec) :
    (comparePair casefold t a b fields).2 =
      if 0 < totalWeight fields then matchedWeight casefold t a b fields / totalWeight fields else 0 := by
  have h := @comparePair_fold casefold t a b fields ⟨[], 0, 0⟩
  simp only [comparePair, h.1, h.2, zero_add]

theorem fieldMatched_symm (spec : MatchRuleFieldSpec) :
    fieldMatched casefold t a b spec = fieldMatched casefold t b a spec := by
  unfold fieldMatched compareField
  cases spec.comparisonType <;> simp [eq_comm]

theorem comparePair_symm (fields : List MatchRuleFieldSpec) :
    (comparePair casefold t a b fields).2 = (comparePair casefold t b a fields).2 := by
  rw [comparePair_score, comparePair_score]
  unfold matchedWeight
  simp only [fieldMatched_symm (a := a) (b := b)]

theorem valueAt_congr {a' : t.RowIndex} (h : t.row a = t.row a') (col : Option t.ColIndex) :
    valueAt t a col = valueAt t a' col := by
  cases col with
  | none => rfl
  | some c => exact Table.cell_congr h c

/-- A score depends on what the rows hold only. -/
theorem comparePair_congr {a' b' : t.RowIndex} (ha : t.row a = t.row a') (hb : t.row b = t.row b')
    (fields : List MatchRuleFieldSpec) :
    (comparePair casefold t a b fields).2 = (comparePair casefold t a' b' fields).2 := by
  rw [comparePair_score, comparePair_score]
  unfold matchedWeight fieldMatched
  simp only [valueAt_congr ha, valueAt_congr hb]

theorem blockingValue_congr {a' : t.RowIndex} (h : t.row a = t.row a') (field : MatchRuleFieldSpec) :
    blockingValue casefold t field a = blockingValue casefold t field a' := by
  unfold blockingValue
  rw [valueAt_congr h]

theorem matchedWeight_le (fields : List MatchRuleFieldSpec) :
    0 ≤ matchedWeight casefold t a b fields ∧ matchedWeight casefold t a b fields ≤ totalWeight fields := by
  unfold matchedWeight totalWeight
  induction fields with
  | nil => simp
  | cons spec fields ih =>
    have hpos := spec.weight_pos
    simp only [List.map_cons, List.sum_cons]
    constructor
    · refine add_nonneg ?_ ih.1
      split
      · exact hpos.le
      · exact le_refl 0
    · refine add_le_add ?_ ih.2
      split
      · exact le_refl _
      · exact hpos.le

/-- **Every score is between zero and one.** -/
theorem comparePair_bounds (fields : List MatchRuleFieldSpec) :
    0 ≤ (comparePair casefold t a b fields).2 ∧ (comparePair casefold t a b fields).2 ≤ 1 := by
  rw [comparePair_score]
  obtain ⟨h0, h1⟩ := @matchedWeight_le casefold t a b fields
  split
  · rename_i hpos
    exact ⟨div_nonneg h0 hpos.le, (div_le_one hpos).2 h1⟩
  · exact ⟨le_refl 0, zero_le_one⟩

end Matching
end DataOps

import DataOps.CleaningRules
import DataOps.CsvTable
import DataOps.LibDict
/-!
# CleaningEngine — cell by cell

`clean` runs the three rules over every cell, in order, and records each change; a rule that raises ends the run.
-/
namespace DataOps
namespace Cleaning

structure CleaningLimits where
  maxPersistedChanges : Nat
deriving Repr

structure Change where
  rowIndex      : Nat
  columnName    : Str
  originalValue : Str
  cleanedValue  : Str
  ruleName      : RuleName
  reason        : String
  confidence    : Rat
deriving DecidableEq, Repr

structure CleaningResult where
  cleanedRows       : List (List Str)
  changes           : List Change
  totalChangesCount : Nat
  changesByRule     : Dict RuleName Nat
  duplicateRowCount : Nat
  confidenceScore   : Rat
deriving DecidableEq, Repr

/-- `changes` and `changes_by_rule`. -/
structure Log where
  changes       : List Change
  changesByRule : Dict RuleName Nat

/-- `_record`. -/
def Log.record (log : Log) (rowIndex : Nat) (columnName before after : Str) (ruleName : Option RuleName) : Log :=
  match ruleName with
  | none          => log
  | some ruleName =>
    if before = after then log
    else
      { changes := log.changes ++
          [⟨rowIndex, columnName, before, after, ruleName, ruleReason ruleName, ruleConfidence ruleName⟩]
        changesByRule := log.changesByRule.increment ruleName }

/-- `_count_duplicates`; `seen` are the rows before. -/
def countDuplicates (seen : List (List Str)) : List (List Str) → Nat
  | []          => 0
  | row :: rows => (if row ∈ seen then 1 else 0) + countDuplicates (row :: seen) rows

section
variable (py : PythonValues)

/-- The three rules on one cell. -/
def cleanCell (inferredType : InferredType) (rowIndex : Nat) (columnName : Str) (log : Log) (rawValue : Str) :
    Option (Log × Str) :=
  let trimmed := trimWhitespace rawValue
  let log := log.record rowIndex columnName rawValue trimmed.1 trimmed.2
  let normalized := normalizeBlank py trimmed.1
  let log := log.record rowIndex columnName trimmed.1 normalized.1 normalized.2
  match coerceType py normalized.1 inferredType with
  | none         => none
  | some coerced => some (log.record rowIndex columnName normalized.1 coerced.1 coerced.2, coerced.1)

/-- One row, its columns given by header and type; a column without either raises. -/
def cleanRow (rowIndex : Nat) : List (Str × InferredType) → Log → List Str → Option (Log × List Str)
  | _, log, []                                 => some (log, [])
  | [], _, _ :: _                              => none
  | (columnName, inferredType) :: columns, log, rawValue :: row =>
    match cleanCell py inferredType rowIndex columnName log rawValue with
    | none              => none
    | some (log, value) => (cleanRow rowIndex columns log row).map (fun (log, row) => (log, value :: row))

def cleanRows (columns : List (Str × InferredType)) : Nat → Log → List (List Str) → Option (Log × List (List Str))
  | _, log, []               => some (log, [])
  | rowIndex, log, row :: rows =>
    match cleanRow py rowIndex columns log row with
    | none            => none
    | some (log, row) => (cleanRows columns (rowIndex + 1) log rows).map (fun (log, rows) => (log, row :: rows))

def clean (rows : List (List Str)) (headers : List Str) (columnTypes : List InferredType) (limits : CleaningLimits) :
    Option CleaningResult :=
  match cleanRows py (headers.zip columnTypes) 0 ⟨[], []⟩ rows with
  | none                    => none
  | some (log, cleanedRows) =>
    some { cleanedRows := cleanedRows
           changes := log.changes.take limits.maxPersistedChanges
           totalChangesCount := log.changes.length
           changesByRule := log.changesByRule
           duplicateRowCount := countDuplicates [] cleanedRows
           confidenceScore := ((log.changes.map (·.confidence)).min?).getD 1 }

end

/-! ## What a run consists of -/

section
variable {py : PythonValues} {rowIndex : Nat} {log log' : Log}

/-- The first cell of a row, and the rest of it. -/
theorem cleanRow_cons {columnName : Str} {inferredType : InferredType} {columns : List (Str × InferredType)}
    {rawValue : Str} {row out : List Str}
    (h : cleanRow py rowIndex ((columnName, inferredType) :: columns) log (rawValue :: row) = some (log', out)) :
    ∃ mid value rest, cleanCell py inferredType rowIndex columnName log rawValue = some (mid, value) ∧
      cleanRow py rowIndex columns mid row = some (log', rest) ∧ out = value :: rest := by
  rw [cleanRow] at h
  split at h
  · cases h
  · rename_i mid value hcell
    obtain ⟨⟨last, rest⟩, hrow, heq⟩ := Option.map_eq_some_iff.1 h
    cases heq
    exact ⟨mid, value, rest, hcell, hrow, rfl⟩

/-- The first row, and the rest of them. -/
theorem cleanRows_cons {columns : List (Str × InferredType)} {row : List Str} {rows out : List (List Str)}
    (h : cleanRows py columns rowIndex log (row :: rows) = some (log', out)) :
    ∃ mid cleaned rest, cleanRow py rowIndex columns log row = some (mid, cleaned) ∧
      cleanRows py columns (rowIndex + 1) mid rows = some (log', rest) ∧ out = cleaned :: rest := by
  rw [cleanRows] at h
  split at h
  · cases h
  · rename_i mid cleaned hrow
    obtain ⟨⟨last, rest⟩, hrows, heq⟩ := Option.map_eq_some_iff.1 h
    cases heq
    exact ⟨mid, cleaned, rest, hrow, hrows, rfl⟩

/-- The rows of a result, and the log its numbers are read off. -/
theorem clean_ok {rows : List (List Str)} {headers : List Str} {columnTypes : List InferredType} {limits : CleaningLimits}
    {result : CleaningResult} (h : clean py rows headers columnTypes limits = some result) :
    ∃ log, cleanRows py (headers.zip columnTypes) 0 ⟨[], []⟩ rows = some (log, result.cleanedRows) ∧
      result.changes = log.changes.take limits.maxPersistedChanges ∧ result.totalChangesCount = log.changes.length ∧
      result.changesByRule = log.changesByRule ∧ result.duplicateRowCount = countDuplicates [] result.cleanedRows := by
  unfold clean at h
  split at h
  · cases h
  · rename_i log cleanedRows hrows
    cases h
    exact ⟨log, hrows, rfl, rfl, rfl, rfl⟩

end

end Cleaning
end DataOps

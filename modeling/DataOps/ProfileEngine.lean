import DataOps.CleaningRules
import DataOps.CsvLoader
import DataOps.LibLists
/-!
# ProfileEngine — profiling a loaded table

`profile_csv`: the type and the missing cells of each column, its distinct values up to a limit, and how many rows repeat
an earlier one.
-/
namespace DataOps
namespace Profiling

open Cleaning (InferredType isIntegerText replaceZulu)

/-- The limits, with those on what a profile lists. -/
structure ProfileLimits extends CsvLimits where
  maxDistinctValues : Nat
  maxSampleValues   : Nat
deriving Repr

/-- `_BOOLEAN_VALUES`. -/
def booleanValues : List Str := ["true".toList, "false".toList, "yes".toList, "no".toList, "y".toList, "n".toList]

/-- `_TYPE_PRIORITY`. -/
def typePriority : List InferredType := [.boolean, .integer, .decimal, .datetime, .date, .string]

def typeName : InferredType → Str
  | .boolean  => "boolean".toList
  | .integer  => "integer".toList
  | .decimal  => "decimal".toList
  | .datetime => "datetime".toList
  | .date     => "date".toList
  | .string   => "string".toList
  | .null     => "null".toList
  | .mixed    => "mixed".toList

inductive ProfileIssue
  -- what the loader found
  | loaded (issue : StructuralIssue)
  | inconsistentColumnType (columnIndex : Nat) (columnName : Str) (inferredType : InferredType)
      (dominantType : Option InferredType) (inconsistentValueCount : Nat)
deriving DecidableEq, Repr

structure ColumnProfile (py : Python) where
  name                    : Str
  position                : Nat
  inferredType            : InferredType
  nonNullCount            : Nat
  missingCount            : Nat
  missingPercentage       : py.Float
  distinctCount           : Nat
  sampleValues            : List Str
  retainedDistinctValues  : List Str
  distinctValuesTruncated : Bool
  inconsistentValueCount  : Nat
  observedTypeCounts      : Dict InferredType Nat

structure ProfileResult (py : Python) where
  sourceSizeBytes   : Nat
  sourceSha256      : String
  detectedEncoding  : String
  delimiter         : Char
  rowCount          : Nat
  columnCount       : Nat
  duplicateRowCount : Nat
  missingValueTotal : Nat
  columnProfiles    : List (ColumnProfile py)
  structuralIssues  : List ProfileIssue
  limitsApplied     : ProfileLimits

/-- `[value for value in values if value]`. -/
def nonBlank (values : List Str) : List Str := values.filter (fun value => value ≠ [])

/-- `_bounded_unique`; `retained` is also what was seen. -/
def boundedUnique (limit : Nat) (retained : List Str) : List Str → List Str
  | []              => retained
  | value :: values =>
    if value ∈ retained then boundedUnique limit retained values
    else if limit ≤ retained.length + 1 then retained ++ [value]
    else boundedUnique limit (retained ++ [value]) values

/-- The order of `ranked`: by count, and among equal counts by priority. -/
def rankedBefore (a b : InferredType × Nat) : Prop :=
  b.2 < a.2 ∨ (a.2 = b.2 ∧ typePriority.idxOf a.1 ≤ typePriority.idxOf b.1)

instance : DecidableRel rankedBefore := fun a b =>
  inferInstanceAs (Decidable (b.2 < a.2 ∨ (a.2 = b.2 ∧ typePriority.idxOf a.1 ≤ typePriority.idxOf b.1)))

section
variable (py : PythonValues)

def valueType (value : Str) : InferredType :=
  let stripped := value.strip
  if stripped = [] then .null
  else if py.casefold stripped ∈ booleanValues then .boolean
  else if isIntegerText py stripped then .integer
  else if (py.decimal stripped).isSome then .decimal
  else if (py.datetimeFromIso (replaceZulu stripped)).isSome ∧ ('T' ∈ stripped ∨ ' ' ∈ stripped) then .datetime
  else if (py.dateFromIso stripped).isSome then .date
  else .string

/-- `_dominant_type`: the reported and the dominant type.  A type without a priority raises. -/
def dominantType (typeCounts : Dict InferredType Nat) : Option (InferredType × Option InferredType) :=
  if ∃ item ∈ typeCounts, item.1 ∉ typePriority then none
  else
    match typeCounts.insertionSort rankedBefore with
    | []                        => some (.null, none)
    | (dominant, count) :: rest =>
      let total := typeCounts.values.sum
      let tied := rest.head?.any (fun second => second.2 = count)
      if tied || py.lt (py.ratio count total) (py.float "0.8".toList) then some (.mixed, some dominant)
      else some (dominant, some dominant)

variable (round4 : py.Float → py.Float)

/-- One column, from its stripped cells: its profile and the issue it adds. -/
def profileValues (limits : ProfileLimits) (rowCount index : Nat) (name : Str) (values : List Str) :
    Option (ColumnProfile py.toPython × Option ProfileIssue) :=
  let nonNullValues := nonBlank values
  let missingCount := rowCount - nonNullValues.length
  let typeCounts := Dict.tally (nonNullValues.map (valueType py))
  match dominantType py typeCounts with
  | none                          => none
  | some (inferredType, dominant) =>
    let others := match dominant with
      | none          => 0
      | some dominant => (Dict.values (typeCounts.filter (fun item => item.1 ≠ dominant))).sum
    let inconsistentCount := if inferredType = .mixed then nonNullValues.length else others
    let distinctCount := nonNullValues.toFinset.card
    let retainedDistinct := boundedUnique limits.maxDistinctValues [] nonNullValues
    some
      ({ name := name
         position := index
         inferredType := inferredType
         nonNullCount := nonNullValues.length
         missingCount := missingCount
         missingPercentage :=
          if rowCount = 0 then py.ofNat 0 else round4 (py.mul (py.ratio missingCount rowCount) (py.ofNat 100))
         distinctCount := distinctCount
         sampleValues := boundedUnique limits.maxSampleValues [] nonNullValues
         retainedDistinctValues := retainedDistinct
         distinctValuesTruncated := decide (retainedDistinct.length < distinctCount)
         inconsistentValueCount := inconsistentCount
         observedTypeCounts := typeCounts.insertionSort (fun a b => typeName a.1 ≤ typeName b.1) },
       if inconsistentCount = 0 then none
       else some (.inconsistentColumnType index name inferredType dominant inconsistentCount))

/-- A row without a cell in the column raises. -/
def profileColumn (limits : ProfileLimits) (rows : List (List Str)) (header : Str × Nat) :
    Option (ColumnProfile py.toPython × Option ProfileIssue) :=
  match rows.mapM (fun row => row[header.2]?.map Str.strip) with
  | none        => none
  | some values => profileValues py round4 limits rows.length header.2 header.1 values

def profileCsv (loaded : LoadedCsv) (limits : ProfileLimits) : Option (ProfileResult py.toPython) :=
  let normalizedRows := loaded.rows.map (fun row => row.map Str.strip)
  match loaded.headers.zipIdx.mapM (profileColumn py round4 limits loaded.rows) with
  | none         => none
  | some columns =>
    some
      { sourceSizeBytes := loaded.sourceSizeBytes
        sourceSha256 := loaded.sourceSha256
        detectedEncoding := loaded.detectedEncoding
        delimiter := loaded.delimiter
        rowCount := loaded.rows.length
        columnCount := loaded.headers.length
        duplicateRowCount := loaded.rows.length - normalizedRows.toFinset.card
        missingValueTotal := (columns.map (fun column => column.1.missingCount)).sum
        columnProfiles := columns.map Prod.fst
        structuralIssues := loaded.structuralIssues.map .loaded ++ columns.filterMap Prod.snd
        limitsApplied := limits }

end

/-! ## Distinct values -/

/-- **The values retained** are those before, and the first of each new one up to the limit. -/
theorem boundedUnique_eq {limit : Nat} : ∀ {values retained : List Str}, retained.length < limit →
    boundedUnique limit retained values =
      retained ++ ((values.filter (fun v => v ∉ retained)).eraseDups).take (limit - retained.length)
  | [], retained, _ => by simp [boundedUnique]
  | value :: values, retained, hlimit => by
    rw [boundedUnique]
    by_cases hmem : value ∈ retained
    · rw [if_pos hmem, boundedUnique_eq hlimit, List.filter_cons_of_neg (by simpa using hmem)]
    · have hrest : ((value :: values).filter (fun v => v ∉ retained)).eraseDups =
          value :: (values.filter (fun v => v ∉ retained ++ [value])).eraseDups := by
        rw [List.filter_cons_of_pos (by simpa using hmem), List.eraseDups_cons, List.filter_filter]
        congr 3
        funext v
        by_cases hv : v = value <;> simp [hv]
      have hroom : limit - retained.length = (limit - (retained.length + 1)) + 1 := by omega
      rw [if_neg hmem, hrest, hroom, List.take_succ_cons]
      by_cases hfull : limit ≤ retained.length + 1
      · rw [if_pos hfull, Nat.sub_eq_zero_of_le hfull, List.take_zero]
      · have hlonger : (retained ++ [value]).length < limit := by simpa using Nat.not_le.1 hfull
        rw [if_neg hfull, boundedUnique_eq hlonger, List.length_append, List.length_singleton, List.append_assoc,
          List.singleton_append]

/-- Even a limit of zero retains one. -/
theorem boundedUnique_nil (limit : Nat) (values : List Str) :
    boundedUnique limit [] values = values.eraseDups.take (max 1 limit) := by
  by_cases hlimit : limit = 0
  · subst hlimit
    cases values with
    | nil => rfl
    | cons value values => simp [boundedUnique, List.eraseDups_cons]
  · rw [boundedUnique_eq (Nat.pos_of_ne_zero hlimit), Nat.max_eq_right (Nat.pos_of_ne_zero hlimit)]
    simp

end Profiling
end DataOps

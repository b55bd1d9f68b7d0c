import DataOps.CleaningEngine
import DataOps.StandardizationEngine
/-!
# ChangeOrder — the change logs come in row order

Both engines go through the rows in order and append what they change (`clean_inOrder`, `standardize_inOrder`).
-/
namespace DataOps

/-- The changes so far, in row order and none after row `i`. -/
structure InOrder {α : Type} (rowIndex : α → Nat) (changes : List α) (i : Nat) : Prop where
  sorted : changes.Pairwise (fun a b => rowIndex a ≤ rowIndex b)
  upto   : ∀ c ∈ changes, rowIndex c ≤ i

section
variable {α : Type} {rowIndex : α → Nat} {changes : List α} {i : Nat}

theorem InOrder.nil : InOrder rowIndex [] i := ⟨List.Pairwise.nil, fun _ h => absurd h List.not_mem_nil⟩

theorem InOrder.append (h : InOrder rowIndex changes i) {c : α} (hc : rowIndex c = i) :
    InOrder rowIndex (changes ++ [c]) i := by
  constructor
  · refine List.pairwise_append.2 ⟨h.sorted, List.pairwise_singleton _ c, fun a ha b hb => ?_⟩
    rw [List.mem_singleton.1 hb, hc]
    exact h.upto a ha
  · intro a ha
    rcases List.mem_append.1 ha with ha | ha
    · exact h.upto a ha
    · rw [List.mem_singleton.1 ha, hc]

theorem InOrder.next (h : InOrder rowIndex changes i) : InOrder rowIndex changes (i + 1) :=
  ⟨h.sorted, fun c hc => Nat.le_succ_of_le (h.upto c hc)⟩

end

namespace Cleaning

section
variable {py : PythonValues} {rowIndex : Nat} {log log' : Log}

/-- The log of a run up to a row. -/
def Log.InOrder (log : Log) (rowIndex : Nat) : Prop := DataOps.InOrder Change.rowIndex log.changes rowIndex

theorem Log.InOrder.record (h : log.InOrder rowIndex) (columnName before after : Str) (ruleName : Option RuleName) :
    (log.record rowIndex columnName before after ruleName).InOrder rowIndex := by
  unfold Log.record
  split
  · exact h
  · split
    · exact h
    · exact h.append rfl

theorem cleanCell_inOrder (h : log.InOrder rowIndex) {inferredType : InferredType} {columnName rawValue value : Str}
    (hcell : cleanCell py inferredType rowIndex columnName log rawValue = some (log', value)) : log'.InOrder rowIndex := by
  unfold cleanCell at hcell
  dsimp only at hcell
  split at hcell
  · cases hcell
  · cases hcell
    exact ((h.record _ _ _ _).record _ _ _ _).record _ _ _ _

theorem cleanRow_inOrder : ∀ {columns : List (Str × InferredType)} {log log' : Log} {row row' : List Str},
    log.InOrder rowIndex →
    cleanRow py rowIndex columns log row = some (log', row') → log'.InOrder rowIndex
  | columns, log, log', [], row', h, hrow => by
    cases columns <;>
    · cases hrow
      exact h
  | [], log, log', _ :: _, row', _, hrow => by cases hrow
  | (columnName, inferredType) :: columns, log, log', rawValue :: row, row', h, hrow => by
    obtain ⟨mid, value, rest, hcell, hrest, -⟩ := cleanRow_cons hrow
    exact cleanRow_inOrder (cleanCell_inOrder h hcell) hrest

theorem cleanRows_inOrder {columns : List (Str × InferredType)} : ∀ {rows : List (List Str)} {rowIndex : Nat}
    {log log' : Log} {rows' : List (List Str)}, log.InOrder rowIndex →
      cleanRows py columns rowIndex log rows = some (log', rows') →
      ∃ last, log'.InOrder last
  | [], rowIndex, log, log', rows', h, hrows => by
    cases hrows
    exact ⟨rowIndex, h⟩
  | row :: rows, rowIndex, log, log', rows', h, hrows => by
    obtain ⟨mid, cleaned, rest, hrow, hrest, -⟩ := cleanRows_cons hrows
    exact cleanRows_inOrder (cleanRow_inOrder h hrow).next hrest

/-- **The changes of a cleaning run come in row order.** -/
theorem clean_inOrder {rows : List (List Str)} {headers : List Str} {columnTypes : List InferredType}
    {limits : CleaningLimits} {result : CleaningResult} (h : clean py rows headers columnTypes limits = some result) :
    result.changes.Pairwise (fun a b => a.rowIndex ≤ b.rowIndex) := by
  obtain ⟨log, hrows, hchanges, -⟩ := clean_ok h
  obtain ⟨last, hlog⟩ := cleanRows_inOrder (show Log.InOrder ⟨[], []⟩ 0 from InOrder.nil) hrows
  rw [hchanges]
  exact hlog.sorted.sublist (List.take_sublist _ _)

end
end Cleaning

namespace Standardization

section
variable {py : PythonValues} {lookupTables : LookupTables} {config : StandardizationConfig}
  {rowIndex : Nat} {log log' : Log}

/-- The log of a run up to a row. -/
def Log.InOrder (log : Log) (rowIndex : Nat) : Prop := DataOps.InOrder Change.rowIndex log.changes rowIndex

theorem Log.InOrder.record (h : log.InOrder rowIndex) (columnName : Str) (fieldType : FieldType) (before after : Str)
    (ruleName : Option RuleName) : (log.record rowIndex columnName fieldType before after ruleName).InOrder rowIndex := by
  unfold Log.record
  split
  · exact h
  · split
    · exact h
    · exact h.append rfl

theorem standardizeCell_inOrder (h : log.InOrder rowIndex) (rowCountry : Option Str)
    (columnName : Str) (fieldType : FieldType) (rawValue : Str) :
    (standardizeCell py lookupTables config rowCountry rowIndex columnName fieldType log rawValue).1.InOrder rowIndex := by
  unfold standardizeCell
  dsimp only
  split
  · exact ((h.record _ _ _ _ _).record _ _ _ _ _).record _ _ _ _ _
  · split
    · exact ((h.record _ _ _ _ _).record _ _ _ _ _).record _ _ _ _ _
    · exact (h.record _ _ _ _ _).record _ _ _ _ _

theorem standardizeCells_inOrder {countryColumnIndex : Option Nat} {rowCountry : Option Str} : ∀ {columnIndex : Nat}
    {columns : List (Str × Option FieldType)} {log log' : Log} {row row' : List Str}, log.InOrder rowIndex →
    standardizeCells py lookupTables config countryColumnIndex rowCountry rowIndex columnIndex columns log row =
      some (log', row') → log'.InOrder rowIndex
  | _, columns, log, log', [], row', h, hrow => by
    cases columns <;>
    · cases hrow
      exact h
  | _, [], log, log', _ :: _, row', _, hrow => by cases hrow
  | columnIndex, (columnName, fieldType) :: columns, log, log', rawValue :: row, row', h, hrow => by
    unfold standardizeCells at hrow
    dsimp only at hrow
    obtain ⟨p, hrest, heq⟩ := Option.map_eq_some_iff.1 hrow
    cases heq
    refine standardizeCells_inOrder ?_ hrest
    cases fieldType with
    | none => exact h
    | some fieldType =>
      dsimp only
      split
      · exact h
      · exact standardizeCell_inOrder h rowCountry columnName fieldType rawValue

theorem standardizeRow_inOrder (h : log.InOrder rowIndex) {columns : List (Str × Option FieldType)}
    {countryColumnIndex : Option Nat} {row row' : List Str}
    (hrow : standardizeRow py lookupTables config columns countryColumnIndex rowIndex log row = some (log', row')) :
    log'.InOrder rowIndex := by
  unfold standardizeRow at hrow
  split at hrow
  · exact standardizeCells_inOrder h hrow
  · split at hrow
    · exact standardizeCells_inOrder ((h.record _ _ _ _ _).record _ _ _ _ _) hrow
    · cases hrow

theorem standardizeRows_inOrder {columns : List (Str × Option FieldType)} {countryColumnIndex : Option Nat} :
    ∀ {rows : List (List Str)} {rowIndex : Nat} {log log' : Log} {rows' : List (List Str)}, log.InOrder rowIndex →
      standardizeRows py lookupTables config columns countryColumnIndex rowIndex log rows = some (log', rows') →
        ∃ last, log'.InOrder last
  | [], rowIndex, log, log', rows', h, hrows => by
    cases hrows
    exact ⟨rowIndex, h⟩
  | row :: rows, rowIndex, log, log', rows', h, hrows => by
    obtain ⟨mid, rowOut, rest, hrow, hrest, -⟩ := standardizeRows_cons hrows
    exact standardizeRows_inOrder (standardizeRow_inOrder h hrow).next hrest

/-- **The changes of a standardization run come in row order.** -/
theorem standardize_inOrder {rows : List (List Str)} {headers : List Str} {fieldTypes : List (Option FieldType)}
    {limits : StandardizationLimits} {result : StandardizationResult}
    (h : standardize py lookupTables config rows headers fieldTypes limits = some result) :
    result.changes.Pairwise (fun a b => a.rowIndex ≤ b.rowIndex) := by
  obtain ⟨log, hrows, hchanges, -⟩ := standardize_ok h
  obtain ⟨last, hlog⟩ := standardizeRows_inOrder (show Log.InOrder ⟨[], []⟩ 0 from InOrder.nil) hrows
  rw [hchanges]
  exact hlog.sorted.sublist (List.take_sublist _ _)

end
end Standardization
end DataOps

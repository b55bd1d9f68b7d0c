import DataOps.LibDict
import DataOps.LibLists
import DataOps.LibText
/-!
# ExportEngine — materializing duplicate groups

Every group leaves its canonical row in the output and takes its other members out.  `excludedByRow_get?` says which
rows those are, and `materialize_spec` what the loop over the rows makes of it.
-/
namespace DataOps
namespace Export

structure ExportLimits where
  maxPersistedExclusions : Nat
deriving Repr

structure GroupInput where
  matchGroupId      : Nat
  canonicalRowIndex : Nat
  recordCount       : Nat
  memberRowIndices  : List Nat
deriving DecidableEq, Repr

structure RowExclusion where
  rowIndex          : Nat
  matchGroupId      : Nat
  canonicalRowIndex : Nat
  reason            : String
deriving DecidableEq, Repr

structure MaterializeResult where
  outputHeaders                    : List Str
  outputRows                       : List (List Str)
  rowCount                         : Nat
  excludedRowCount                 : Nat
  duplicateGroupsMaterializedCount : Nat
  exclusions                       : List RowExclusion
  outputColumnCount                : Nat
deriving DecidableEq

def reservedCanonicalRecordColumn : Str := "__aiops_canonical_record".toList
def reservedSourceRowIndexColumn : Str := "__aiops_source_row_index".toList
def reservedColumns : List Str := [reservedCanonicalRecordColumn, reservedSourceRowIndexColumn]

/-- `find_reserved_column_collisions`. -/
def findReservedColumnCollisions (headers : List Str) : List Str := headers.filter (· ∈ reservedColumns)

def excludeMember (group : GroupInput) (excluded : Dict Nat GroupInput) (member : Nat) : Dict Nat GroupInput :=
  if member ≠ group.canonicalRowIndex then Dict.set excluded member group else excluded

def excludeMembers (excluded : Dict Nat GroupInput) (group : GroupInput) : Dict Nat GroupInput :=
  group.memberRowIndices.foldl (excludeMember group) excluded

/-- `excluded_by_row`. -/
def excludedByRow (groups : List GroupInput) : Dict Nat GroupInput := groups.foldl excludeMembers []

def exclusionReason (rowIndex : Nat) (group : GroupInput) : String :=
  "row " ++ toString rowIndex ++ " excluded: member of duplicate group (canonical row_index=" ++
    toString group.canonicalRowIndex ++ ", " ++ toString group.recordCount ++ " members)"

def rowExclusion (rowIndex : Nat) (group : GroupInput) : RowExclusion where
  rowIndex := rowIndex
  matchGroupId := group.matchGroupId
  canonicalRowIndex := group.canonicalRowIndex
  reason := exclusionReason rowIndex group

/-- A surviving row, with its provenance. -/
def outputRow (row : List Str) (rowIndex : Nat) : List Str := row ++ ["True".toList, (toString rowIndex).toList]

/-- One row; `acc` is `output_rows` and `exclusions`. -/
def materializeRow (excluded : Dict Nat GroupInput) (limits : ExportLimits)
    (acc : List (List Str) × List RowExclusion) (p : List Str × Nat) : List (List Str) × List RowExclusion :=
  match Dict.get? excluded p.2 with
  | some group =>
    if acc.2.length < limits.maxPersistedExclusions then (acc.1, acc.2 ++ [rowExclusion p.2 group]) else acc
  | none => (acc.1 ++ [outputRow p.1 p.2], acc.2)

def materialize (rows : List (List Str)) (headers : List Str) (groups : List GroupInput) (limits : ExportLimits) :
    MaterializeResult :=
  let (outputRows, exclusions) := rows.zipIdx.foldl (materializeRow (excludedByRow groups) limits) ([], [])
  { outputHeaders := headers ++ reservedColumns
    outputRows := outputRows
    rowCount := outputRows.length
    excludedRowCount := rows.length - outputRows.length
    duplicateGroupsMaterializedCount := groups.length
    exclusions := exclusions
    outputColumnCount := (headers ++ reservedColumns).length }

theorem materialize_rowCount (rows : List (List Str)) (headers : List Str) (groups : List GroupInput)
    (limits : ExportLimits) :
    (materialize rows headers groups limits).rowCount = (materialize rows headers groups limits).outputRows.length :=
  rfl

theorem materialize_excludedRowCount (rows : List (List Str)) (headers : List Str) (groups : List GroupInput)
    (limits : ExportLimits) :
    (materialize rows headers groups limits).excludedRowCount =
      rows.length - (materialize rows headers groups limits).outputRows.length :=
  rfl

/-! ## The excluded rows -/

/-- A member of a group other than its canonical row. -/
def GroupInput.Excludes (group : GroupInput) (row : Nat) : Prop :=
  row ∈ group.memberRowIndices ∧ row ≠ group.canonicalRowIndex

instance (group : GroupInput) (row : Nat) : Decidable (group.Excludes row) := inferInstanceAs (Decidable (_ ∧ _))

theorem excludeMember_foldl_get? (group : GroupInput) (row : Nat) (members : List Nat)
    (excluded : Dict Nat GroupInput) :
    Dict.get? (members.foldl (excludeMember group) excluded) row =
      if row ∈ members ∧ row ≠ group.canonicalRowIndex then some group else Dict.get? excluded row := by
  induction members generalizing excluded with
  | nil => simp
  | cons member members ih =>
    rw [List.foldl_cons, ih]
    unfold excludeMember
    by_cases hmem : row ∈ members ∧ row ≠ group.canonicalRowIndex
    · simp [hmem.1, hmem.2]
    · rw [if_neg hmem]
      by_cases hc : member = group.canonicalRowIndex
      · have hrow : ¬ (row ∈ member :: members ∧ row ≠ group.canonicalRowIndex) := by
          rintro ⟨h, hne⟩
          rcases List.mem_cons.1 h with rfl | h
          · exact hne hc
          · exact hmem ⟨h, hne⟩
        rw [if_neg (not_not.2 hc), if_neg hrow]
      · rw [if_pos hc, Dict.get?_set]
        by_cases heq : member = row
        · subst heq
          simp [hc]
        · have heq' : ¬ row = member := fun h => heq h.symm
          have hrow : ¬ (row ∈ member :: members ∧ row ≠ group.canonicalRowIndex) := by
            simpa [heq'] using hmem
          rw [if_neg heq, if_neg hrow]

theorem excludeMembers_get? (group : GroupInput) (row : Nat) (excluded : Dict Nat GroupInput) :
    Dict.get? (excludeMembers excluded group) row =
      if group.Excludes row then some group else Dict.get? excluded row := by
  unfold excludeMembers
  rw [excludeMember_foldl_get?]
  exact if_congr Iff.rfl rfl rfl

/-- **What is recorded against a row**: one of the groups that exclude it, and nothing when none does. -/
theorem excludedByRow_get? (groups : List GroupInput) (row : Nat) :
    (∀ g, Dict.get? (excludedByRow groups) row = some g → g ∈ groups ∧ g.Excludes row) ∧
      (Dict.get? (excludedByRow groups) row = none ↔ ∀ g ∈ groups, ¬ g.Excludes row) := by
  unfold excludedByRow
  induction groups using List.reverseRecOn with
  | nil => simp [Dict.get?]
  | append_singleton groups group ih =>
    obtain ⟨hsome, hnone⟩ := ih
    rw [List.foldl_append, List.foldl_cons, List.foldl_nil, excludeMembers_get?]
    by_cases hex : group.Excludes row
    · rw [if_pos hex]
      refine ⟨fun g hg => ?_, ?_⟩
      · cases hg
        exact ⟨by simp, hex⟩
      · simp [hex]
    · rw [if_neg hex]
      refine ⟨fun g hg => ?_, ?_⟩
      · obtain ⟨hmem, hexg⟩ := hsome g hg
        exact ⟨List.mem_append_left _ hmem, hexg⟩
      · rw [hnone]
        simp [or_imp, forall_and, hex]

/-! ## The loop over the rows -/

theorem materializeRow_foldl (excluded : Dict Nat GroupInput) (limits : ExportLimits) (l : List (List Str × Nat)) :
    l.foldl (materializeRow excluded limits) ([], []) =
      ((l.filter (fun p => (Dict.get? excluded p.2).isNone)).map (fun p => outputRow p.1 p.2),
        (l.filterMap (fun p => (Dict.get? excluded p.2).map (rowExclusion p.2))).take
          limits.maxPersistedExclusions) := by
  induction l using List.reverseRecOn with
  | nil => simp
  | append_singleton l p ih =>
    rw [List.foldl_append, List.foldl_cons, List.foldl_nil, ih, List.filter_append, List.filterMap_append]
    unfold materializeRow
    cases hg : Dict.get? excluded p.2 with
    | none => simp [hg]
    | some group =>
      have hlast : [p].filterMap (fun p => (Dict.get? excluded p.2).map (rowExclusion p.2)) =
          [rowExclusion p.2 group] := by simp [hg]
      rw [hlast, take_concat_eq]
      dsimp only
      split <;> simp [hg]

/-- **What `materialize` returns**: the rows that no group excludes, in order and unchanged, and the first exclusions in
the order of the rows. -/
theorem materialize_spec (rows : List (List Str)) (headers : List Str) (groups : List GroupInput)
    (limits : ExportLimits) :
    (materialize rows headers groups limits).outputRows =
        (rows.zipIdx.filter (fun p => ∀ g ∈ groups, ¬ g.Excludes p.2)).map (fun p => outputRow p.1 p.2) ∧
      (materialize rows headers groups limits).exclusions =
        (rows.zipIdx.filterMap (fun p => (Dict.get? (excludedByRow groups) p.2).map (rowExclusion p.2))).take
          limits.maxPersistedExclusions := by
  have hfold := materializeRow_foldl (excludedByRow groups) limits rows.zipIdx
  have hkept : ∀ p : List Str × Nat, (Dict.get? (excludedByRow groups) p.2).isNone =
      decide (∀ g ∈ groups, ¬ g.Excludes p.2) := by
    intro p
    rw [Bool.eq_iff_iff, Option.isNone_iff_eq_none, decide_eq_true_eq]
    exact (excludedByRow_get? groups p.2).2
  unfold materialize
  rw [hfold]
  simp only [hkept]
  exact ⟨trivial, trivial⟩

end Export
end DataOps

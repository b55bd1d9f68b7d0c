import Mathlib.Data.List.Sort
import Mathlib.Data.Rat.Floor
import DataOps.MatchComparison
import DataOps.MatchUnionFind
/-!
# MatchEngine — the matching pipeline

Exact duplicates are linked first, in chains; then one representative of each set of identical rows is blocked and
compared; and the pairs found are clustered.  `MatchState` holds the locals of `match` that its loops change.
-/
namespace DataOps
namespace Matching

structure MatchLimits where
  maxBlockSize          : Nat
  maxPersistedDecisions : Nat
  maxSkippedRowSample   : Nat
deriving Repr

def matchEngineVersion : String := "1.0"

def ruleExactRow : String := "exact_row_match"
def ruleNormalizedExact : String := "normalized_exact_match"
def ruleCompositeWeighted : String := "composite_weighted_match"

inductive DecisionLabel
  | duplicate | ambiguous
deriving DecidableEq, Repr

structure Decision (n : Nat) where
  recordARowIndex  : Fin n
  recordBRowIndex  : Fin n
  blockingKey      : Option Str
  ruleName         : String
  fieldComparisons : Dict Str FieldComparison
  totalScore       : ℚ
  thresholdUsed    : ℚ
  decision         : DecisionLabel
  confidenceScore  : ℚ
  reason           : String
  ruleVersion      : String
  groupIndex       : Option Nat

structure Group (n : Nat) where
  canonicalRowIndex : Fin n
  memberRowIndices  : List (Fin n)
  confidenceScore   : ℚ

def Group.recordCount {n : Nat} (g : Group n) : Nat := g.memberRowIndices.length

structure SkippedBlock (n : Nat) where
  blockingKey      : Str
  blockSize        : Nat
  sampleRowIndices : List (Fin n)

structure MatchResult (n : Nat) where
  groups                : List (Group n)
  decisions             : List (Decision n)
  skippedBlocks         : List (SkippedBlock n)
  rowCount              : Nat
  totalComparisonsCount : Nat
  duplicateGroupCount   : Nat
  duplicatePairsCount   : Nat
  ambiguousPairsCount   : Nat
  skippedBlockCount     : Nat
  decisionsByRule       : Dict String Nat
  confidenceScore       : ℚ

/-- A pair united as duplicates, with its confidence. -/
structure DuplicateEdge (n : Nat) where
  a          : Fin n
  b          : Fin n
  confidence : ℚ

structure MatchState (n : Nat) where
  uf                            : UnionFind n
  decisions                     : List (Decision n)
  decisionsByRule               : Dict String Nat
  duplicatePairsCount           : Nat
  ambiguousPairsCount           : Nat
  totalComparisonsCount         : Nat
  skippedBlocks                 : List (SkippedBlock n)
  duplicateEdges                : List (DuplicateEdge n)
  pendingDuplicateEdgePositions : List Nat

def MatchState.start (n : Nat) : MatchState n := ⟨UnionFind.init n, [], [], 0, 0, 0, [], [], []⟩

/-- `record_decision`: every decision is counted, and the first ones are kept. -/
def MatchState.recordDecision {n : Nat} (limits : MatchLimits) (s : MatchState n) (d : Decision n) : MatchState n :=
  let s := { s with
    decisionsByRule := Dict.set s.decisionsByRule d.ruleName ((Dict.get? s.decisionsByRule d.ruleName).getD 0 + 1)
    duplicatePairsCount := if d.decision = .duplicate then s.duplicatePairsCount + 1 else s.duplicatePairsCount
    ambiguousPairsCount := if d.decision = .duplicate then s.ambiguousPairsCount else s.ambiguousPairsCount + 1 }
  if s.decisions.length < limits.maxPersistedDecisions then
    { s with
      decisions := s.decisions ++ [d]
      pendingDuplicateEdgePositions :=
        if d.decision = .duplicate then s.pendingDuplicateEdgePositions ++ [s.decisions.length]
        else s.pendingDuplicateEdgePositions }
  else s

/-- `uf.union(a, b)`, and the edge. -/
def MatchState.uniteDuplicates {n : Nat} (s : MatchState n) (a b : Fin n) (confidence : ℚ) : MatchState n :=
  { s with uf := s.uf.union a b, duplicateEdges := s.duplicateEdges ++ [⟨a, b, confidence⟩] }

/-! ## The reasons -/

/-- A rational rounded to an integer, ties to even. -/
def roundHalfEven (q : ℚ) : Int :=
  let down := ⌊q⌋
  if q - down < 1 / 2 then down
  else if 1 / 2 < q - down then down + 1
  else if down % 2 = 0 then down else down + 1

/-- `f"{q:.4f}"` of a non-negative number. -/
def fixed4 (q : ℚ) : String :=
  let m := (roundHalfEven (q * 10000)).toNat
  let digits := toString (m % 10000)
  toString (m / 10000) ++ "." ++ String.ofList (List.replicate (4 - digits.length) '0') ++ digits

def exactReason (groupSize : Nat) : String :=
  "identical row (Stage 1 exact match, chain-linked within a " ++ toString groupSize ++ "-row duplicate group)"

def duplicateReason (matchedCount totalFields : Nat) (score threshold : ℚ) : String :=
  toString matchedCount ++ " of " ++ toString totalFields ++ " configured fields matched (score " ++ fixed4 score ++
    " >= threshold " ++ fixed4 threshold ++ ")"

def ambiguousReason (matchedCount totalFields : Nat) (score review threshold : ℚ) : String :=
  toString matchedCount ++ " of " ++ toString totalFields ++ " configured fields matched (score " ++ fixed4 score ++
    " is between the review threshold " ++ fixed4 review ++ " and the duplicate threshold " ++ fixed4 threshold ++
    ") -- flagged for manual review, not grouped"

/-! ## Stage 1: exact duplicates -/

/-- Rows by their contents. -/
def exactGroups (t : Table) : Dict (List Str) (List t.RowIndex) := Dict.collect t.row (List.finRange t.rows.length)

/-- `{header: .. for col, header in enumerate(headers)}`: the last of two columns with one header. -/
def exactComparisons (t : Table) (a b : t.RowIndex) : Dict Str FieldComparison :=
  (List.finRange t.headers.length).foldl
    (fun d c => Dict.set d (t.headers.get c) ⟨t.cell a c, t.cell b c, true, 1, 1⟩) []

def exactDecision (t : Table) (groupSize : Nat) (a b : t.RowIndex) : Decision t.rows.length where
  recordARowIndex := a
  recordBRowIndex := b
  blockingKey := none
  ruleName := ruleExactRow
  fieldComparisons := exactComparisons t a b
  totalScore := 1
  thresholdUsed := 1
  decision := .duplicate
  confidenceScore := 1
  reason := exactReason groupSize
  ruleVersion := matchEngineVersion
  groupIndex := none

def chainLink (t : Table) (limits : MatchLimits) (groupSize : Nat) (s : MatchState t.rows.length)
    (p : t.RowIndex × t.RowIndex) : MatchState t.rows.length :=
  let s := s.uniteDuplicates p.1 p.2 1
  { s with totalComparisonsCount := s.totalComparisonsCount + 1 }.recordDecision limits
    (exactDecision t groupSize p.1 p.2)

/-- One set of identical rows; `representatives` maps each of its rows to the least. -/
def exactGroupStep (t : Table) (limits : MatchLimits)
    (acc : MatchState t.rows.length × (t.RowIndex → Option t.RowIndex)) (indices : List t.RowIndex) :
    MatchState t.rows.length × (t.RowIndex → Option t.RowIndex) :=
  if indices.length < 2 then acc
  else
    let indices := indices.insertionSort (· ≤ ·)
    ((indices.zip indices.tail).foldl (chainLink t limits indices.length) acc.1,
      fun i => if i ∈ indices then indices.head? else acc.2 i)

def stage1 (t : Table) (limits : MatchLimits) : MatchState t.rows.length × (t.RowIndex → Option t.RowIndex) :=
  (Dict.values (exactGroups t)).foldl (exactGroupStep t limits) (MatchState.start _, fun _ => none)

/-! ## Stage 2: blocking and comparison -/

/-- `candidate_indices` and `seen_representatives`. -/
def candidateStep {n : Nat} (representativeFor : Fin n → Option (Fin n)) (acc : List (Fin n) × List (Fin n))
    (i : Fin n) : List (Fin n) × List (Fin n) :=
  match representativeFor i with
  | none     => (acc.1 ++ [i], acc.2)
  | some rep => if rep ∈ acc.2 then acc else (acc.1 ++ [rep], acc.2 ++ [rep])

def candidateIndices {n : Nat} (representativeFor : Fin n → Option (Fin n)) : List (Fin n) :=
  ((List.finRange n).foldl (candidateStep representativeFor) ([], [])).1.insertionSort (· ≤ ·)

/-- `for i in range(len(l)): for j in range(i + 1, len(l))`. -/
def pairsOf {α : Type} : List α → List (α × α)
  | []     => []
  | a :: l => l.map (fun b => (a, b)) ++ pairsOf l

variable (casefold : Str → Str)

/-- The decision on a pair, if its score reaches a threshold. -/
def scoredDecision (t : Table) (ruleSet : MatchRuleSetConfig) (key : Str) (a b : t.RowIndex) :
    Option (Decision t.rows.length) :=
  let (fieldComparisons, score) := comparePair casefold t a b ruleSet.fields
  let matchedCount := (Dict.values fieldComparisons).countP (·.matched)
  let totalFields := fieldComparisons.length
  let decision (label : DecisionLabel) (reason : String) : Decision t.rows.length :=
    { recordARowIndex := a
      recordBRowIndex := b
      blockingKey := some key
      ruleName := if ruleSet.fields.length = 1 then ruleNormalizedExact else ruleCompositeWeighted
      fieldComparisons := fieldComparisons
      totalScore := score
      thresholdUsed := ruleSet.duplicateThreshold
      decision := label
      confidenceScore := score
      reason := reason
      ruleVersion := matchEngineVersion
      groupIndex := none }
  if ruleSet.duplicateThreshold ≤ score then
    some (decision .duplicate (duplicateReason matchedCount totalFields score ruleSet.duplicateThreshold))
  else if ruleSet.reviewThreshold ≤ score then
    some (decision .ambiguous
      (ambiguousReason matchedCount totalFields score ruleSet.reviewThreshold ruleSet.duplicateThreshold))
  else none

def comparePairOf (t : Table) (ruleSet : MatchRuleSetConfig) (limits : MatchLimits) (key : Str)
    (s : MatchState t.rows.length) (p : t.RowIndex × t.RowIndex) : MatchState t.rows.length :=
  let s := { s with totalComparisonsCount := s.totalComparisonsCount + 1 }
  match scoredDecision casefold t ruleSet key p.1 p.2 with
  | some d =>
    match d.decision with
    | .duplicate => (s.uniteDuplicates p.1 p.2 d.totalScore).recordDecision limits d
    | .ambiguous => s.recordDecision limits d
  | none => s

/-- One block, in the order of its keys. -/
def blockStep (t : Table) (ruleSet : MatchRuleSetConfig) (limits : MatchLimits)
    (blocks : Dict Str (List t.RowIndex)) (s : MatchState t.rows.length) (key : Str) : MatchState t.rows.length :=
  let members := ((Dict.get? blocks key).getD []).insertionSort (· ≤ ·)
  if limits.maxBlockSize < members.length then
    { s with skippedBlocks := s.skippedBlocks ++ [⟨key, members.length, members.take limits.maxSkippedRowSample⟩] }
  else (pairsOf members).foldl (comparePairOf casefold t ruleSet limits key) s

def stage2 (t : Table) (ruleSet : Option MatchRuleSetConfig) (limits : MatchLimits)
    (representativeFor : t.RowIndex → Option t.RowIndex) (s : MatchState t.rows.length) : MatchState t.rows.length :=
  match ruleSet with
  | none => s
  | some ruleSet =>
    match ruleSet.fields with
    | [] => s
    | field :: fields =>
      let blocks := buildBlocks casefold t (candidateIndices representativeFor) (selectBlockingField field fields)
      (blocks.keys.insertionSort (· ≤ ·)).foldl (blockStep casefold t ruleSet limits blocks) s

/-! ## Stage 3: clustering -/

/-- `select_canonical`: the least member. -/
def selectCanonical {n : Nat} (members : List (Fin n)) : Option (Fin n) := members.min?

/-- The components of at least two rows, by their least row, with the root each has. -/
def duplicateComponents {n : Nat} (uf : UnionFind n) : List (Fin n × List (Fin n)) :=
  (uf.components.insertionSort (fun c c' => (c.2.min?.map Fin.val).getD 0 ≤ (c'.2.min?.map Fin.val).getD 0)).filter
    (fun c => 2 ≤ c.2.length)

/-- `confidences_by_root`. -/
def confidencesByRoot {n : Nat} (uf : UnionFind n) (edges : List (DuplicateEdge n)) : Dict (Fin n) (List ℚ) :=
  edges.foldl (fun d e => Dict.push d (uf.root e.a) e.confidence) []

/-- `min(confidences_by_root.get(uf.find(canonical), [1.0]))`. -/
def groupConfidence {n : Nat} (s : MatchState n) (canonical : Fin n) : ℚ :=
  (((Dict.get? (confidencesByRoot s.uf s.duplicateEdges) (s.uf.root canonical)).getD [1]).min?).getD 1

def groupOf {n : Nat} (s : MatchState n) (members : List (Fin n)) : Option (Group n) :=
  (selectCanonical members).map (fun canonical =>
    { canonicalRowIndex := canonical
      memberRowIndices := members.insertionSort (· ≤ ·)
      confidenceScore := groupConfidence s canonical })

/-- A persisted duplicate decision with the group its pair ended up in. -/
def wireGroup {n : Nat} (s : MatchState n) (rootToGroupIndex : Dict (Fin n) Nat) (decisions : List (Decision n))
    (pos : Nat) : List (Decision n) :=
  decisions.modify pos (fun d => { d with groupIndex := Dict.get? rootToGroupIndex (s.uf.root d.recordARowIndex) })

def matchResult {n : Nat} (s : MatchState n) : MatchResult n :=
  let components := duplicateComponents s.uf
  let rootToGroupIndex : Dict (Fin n) Nat := components.zipIdx.map (fun c => (c.1.1, c.2))
  let groups := components.filterMap (fun c => groupOf s c.2)
  { groups := groups
    decisions := s.pendingDuplicateEdgePositions.foldl (wireGroup s rootToGroupIndex) s.decisions
    skippedBlocks := s.skippedBlocks
    rowCount := n
    totalComparisonsCount := s.totalComparisonsCount
    duplicateGroupCount := groups.length
    duplicatePairsCount := s.duplicatePairsCount
    ambiguousPairsCount := s.ambiguousPairsCount
    skippedBlockCount := s.skippedBlocks.length
    decisionsByRule := s.decisionsByRule
    confidenceScore := ((groups.map (·.confidenceScore)).min?).getD 1 }

/-- `match`. -/
def matchRows (t : Table) (ruleSet : Option MatchRuleSetConfig) (limits : MatchLimits) : MatchResult t.rows.length :=
  let (s, representativeFor) := stage1 t limits
  matchResult (stage2 casefold t ruleSet limits representativeFor s)

end Matching
end DataOps

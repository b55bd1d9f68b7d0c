import Mathlib.Data.List.Range
import DataOps.ApiTables
import DataOps.LibTrace
import DataOps.MatchComparison
/-!
# MatchRuleSets — creating a version of a rule set

Any number of requests run `create_match_rule_set` at READ COMMITTED: each statement reads what is committed when it
starts.  A request counts the rule sets of its scope, reads the active one in a second statement, and flushes: the active
one is retired and the new one inserted, each waiting for the open transactions in its way.  The partial unique index
allows one active rule set in a scope, and the insert is what it stops.
-/
namespace DataOps
namespace RuleSets

open Api (OrganizationId UserId User HTTPException)
open Matching (MatchRuleSetConfig)

abbrev DataSourceId := Nat

/-- An organization, and one of its data sources or all of them. -/
abbrev Scope := OrganizationId × Option DataSourceId

/-- The payload, with its validated thresholds and fields. -/
structure MatchRuleSetCreate where
  dataSourceId : Option DataSourceId
  config       : MatchRuleSetConfig

/-- A request, and whether the data source it names is an active one of its organization. -/
structure Request where
  payload         : MatchRuleSetCreate
  currentUser     : User
  dataSourceFound : Bool

/-- `_validate_data_source_ref` raises nothing. -/
def Request.Found (r : Request) : Prop := r.payload.dataSourceId = none ∨ r.dataSourceFound = true

instance (r : Request) : Decidable r.Found := inferInstanceAs (Decidable (_ ∨ _))

/-- A rule set with its fields; its id is that of the request that created it. -/
structure MatchRuleSet (n : Nat) where
  id             : Fin n
  organizationId : OrganizationId
  dataSourceId   : Option DataSourceId
  version        : Nat
  config         : MatchRuleSetConfig
  isActive       : Bool
  createdBy      : UserId

def MatchRuleSet.scope {n : Nat} (row : MatchRuleSet n) : Scope := (row.organizationId, row.dataSourceId)

def dataSourceNotFound : HTTPException := ⟨404, "Data source not found"⟩
def conflict : HTTPException := ⟨409, "An active rule set for this scope was just created by another request"⟩

/-- What a request ends in: the new rule set, an answer, or an exception nothing catches. -/
inductive Answer
  | created
  | answered (exc : HTTPException)
  | multipleResultsFound
  | integrityError
deriving DecidableEq

/-- How far a request has come. -/
inductive Phase (n : Nat)
  | received
  | validated
  | counted (existingCount : Nat)
  | resolved (existingCount : Nat) (priorActive : Option (Fin n))
  | retired (existingCount : Nat) (priorActive : Option (Fin n))
  | flushed (existingCount : Nat) (priorActive : Option (Fin n))
  | ended (answer : Answer)
deriving DecidableEq

/-- The row an open transaction has updated. -/
def Phase.retires {n : Nat} : Phase n → Option (Fin n)
  | .retired _ priorActive => priorActive
  | .flushed _ priorActive => priorActive
  | _                      => none

def Phase.isFlushed {n : Nat} : Phase n → Bool
  | .flushed _ _ => true
  | _            => false

/-- The committed rule sets, in the order of their commits, and the requests. -/
structure World (n : Nat) where
  rows  : List (MatchRuleSet n)
  phase : Fin n → Phase n

def World.initial (n : Nat) : World n := ⟨[], fun _ => .received⟩

inductive Action
  | validate | count | readActive | retire | insert | commit
deriving DecidableEq, Repr

section
variable {n : Nat}

def World.setPhase (w : World n) (i : Fin n) (phase : Phase n) : World n :=
  { w with phase := Function.update w.phase i phase }

def World.rowsOf (w : World n) (scope : Scope) : List (MatchRuleSet n) := w.rows.filter (fun row => row.scope = scope)

def World.activeRows (w : World n) (scope : Scope) : List (MatchRuleSet n) :=
  (w.rowsOf scope).filter (fun row => row.isActive)

variable (requests : Fin n → Request)

def scopeOf (i : Fin n) : Scope := ((requests i).currentUser.organizationId, (requests i).payload.dataSourceId)

/-- Another open transaction has updated the row. -/
def World.rowLocked (w : World n) (i : Fin n) (priorActive : Option (Fin n)) : Prop :=
  ∃ j, j ≠ i ∧ priorActive.isSome ∧ (w.phase j).retires = priorActive

/-- An active row of the scope that the request does not retire. -/
def World.otherActive (w : World n) (i : Fin n) (priorActive : Option (Fin n)) : List (MatchRuleSet n) :=
  (w.activeRows (scopeOf requests i)).filter (fun row => priorActive ≠ some row.id)

/-- The index has to wait: another open transaction inserted a rule set of the scope, or is retiring the active one. -/
def World.insertWaits (w : World n) (i : Fin n) (priorActive : Option (Fin n)) : Prop :=
  ∃ j, j ≠ i ∧ (((w.phase j).isFlushed ∧ scopeOf requests j = scopeOf requests i) ∨
    ∃ row ∈ w.otherActive requests i priorActive, (w.phase j).retires = some row.id)

instance (w : World n) (i : Fin n) (priorActive : Option (Fin n)) : Decidable (w.rowLocked i priorActive) :=
  inferInstanceAs (Decidable (∃ j, j ≠ i ∧ priorActive.isSome ∧ (w.phase j).retires = priorActive))

instance (w : World n) (i : Fin n) (priorActive : Option (Fin n)) :
    Decidable (w.insertWaits requests i priorActive) :=
  inferInstanceAs (Decidable (∃ j, j ≠ i ∧ (((w.phase j).isFlushed ∧ scopeOf requests j = scopeOf requests i) ∨
    ∃ row ∈ w.otherActive requests i priorActive, (w.phase j).retires = some row.id)))

/-- The row a request inserts. -/
def newRow (i : Fin n) (existingCount : Nat) : MatchRuleSet n where
  id := i
  organizationId := (requests i).currentUser.organizationId
  dataSourceId := (requests i).payload.dataSourceId
  version := existingCount + 1
  config := (requests i).payload.config
  isActive := true
  createdBy := (requests i).currentUser.id

def retire (priorActive : Option (Fin n)) (row : MatchRuleSet n) : MatchRuleSet n :=
  if priorActive = some row.id then { row with isActive := false } else row

/-- `scalar_one_or_none()`. -/
def World.readActive (w : World n) (i : Fin n) (existingCount : Nat) : Phase n :=
  match w.activeRows (scopeOf requests i) with
  | []    => .resolved existingCount none
  | [row] => .resolved existingCount (some row.id)
  | _     => .ended .multipleResultsFound

/-- One statement of one request; a statement that has to wait, or is not the request's next, changes nothing.  The
flush is outside the `try`, and nothing its commit still sends can violate a constraint. -/
def step (w : World n) (l : Fin n × Action) : World n :=
  match l.2, w.phase l.1 with
  | .validate, .received                          =>
    w.setPhase l.1 (if (requests l.1).Found then .validated else .ended (.answered dataSourceNotFound))
  | .count, .validated                            =>
    w.setPhase l.1 (.counted (w.rowsOf (scopeOf requests l.1)).length)
  | .readActive, .counted existingCount           => w.setPhase l.1 (w.readActive requests l.1 existingCount)
  | .retire, .resolved existingCount priorActive  =>
    if w.rowLocked l.1 priorActive then w else w.setPhase l.1 (.retired existingCount priorActive)
  | .insert, .retired existingCount priorActive   =>
    if w.insertWaits requests l.1 priorActive then w
    else if w.otherActive requests l.1 priorActive = [] then w.setPhase l.1 (.flushed existingCount priorActive)
    else w.setPhase l.1 (.ended .integrityError)
  | .commit, .flushed existingCount priorActive   =>
    { rows := w.rows.map (retire priorActive) ++ [newRow requests l.1 existingCount]
      phase := Function.update w.phase l.1 (.ended .created) }
  | _, _                                          => w

/-! ## What versioning promises -/

/-- At most one active rule set; versions that increase in the order of the commits; the active one the greatest; and
every request that ends without a commit in the conflict answer. -/
structure Versioned (w : World n) (scope : Scope) : Prop where
  oneActive  : (w.activeRows scope).length ≤ 1
  increasing : ((w.rowsOf scope).map (fun row => row.version)).Pairwise (· < ·)
  greatest   : ∀ active ∈ w.activeRows scope, ∀ row ∈ w.rowsOf scope, row.version ≤ active.version
  answers    : ∀ i answer, scopeOf requests i = scope → (requests i).Found → w.phase i = .ended answer →
    answer = .created ∨ answer = .answered conflict

/-- No rule set of the scope was committed since the request counted them, or read the active one. -/
def Undisturbed (w : World n) (l : Fin n × Action) : Prop :=
  (∀ existingCount priorActive, l.2 = .insert → w.phase l.1 = .retired existingCount priorActive →
    ¬ w.insertWaits requests l.1 priorActive → w.otherActive requests l.1 priorActive = []) ∧
  ∀ existingCount priorActive, l.2 = .commit → w.phase l.1 = .flushed existingCount priorActive →
    (w.rowsOf (scopeOf requests l.1)).length = existingCount

end
end RuleSets
end DataOps

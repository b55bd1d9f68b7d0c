import DataOps.StandardizeSettled
/-!
# StandardizeAddresses — abbreviations that do not expand again

A postal address is expanded token by token and then title-cased.  What an abbreviation stands for must itself be words,
with stable capitals, none of which is an abbreviation of anything else (`addressSettled_iff`).
-/
namespace DataOps
namespace Standardization

open Str (IsWord)

/-- A list that replacing each element by something does not change: each is replaced by itself. -/
theorem flatMap_eq_self {α : Type} {g : α → List α} (hne : ∀ x, g x ≠ []) : ∀ {l : List α}, l.flatMap g = l →
    ∀ x ∈ l, g x = [x]
  | [], _, _, hx => absurd hx List.not_mem_nil
  | y :: l, h, x, hx => by
    obtain ⟨z, zs, hz⟩ := List.exists_cons_of_ne_nil (hne y)
    rw [List.flatMap_cons, hz, List.cons_append, List.cons.injEq] at h
    obtain ⟨rfl, hrest⟩ := h
    -- a longer replacement would leave too little room for the others
    have hlength : l.length ≤ (l.flatMap g).length := by
      rw [List.length_flatMap]
      calc l.length = (l.map (fun _ => 1)).sum := by simp
        _ ≤ (l.map (fun x => (g x).length)).sum := List.sum_le_sum (fun x _ => List.length_pos_of_ne_nil (hne x))
    have hzs : zs = [] := by
      have hsum := congrArg List.length hrest
      rw [List.length_append] at hsum
      exact List.eq_nil_of_length_eq_zero (by omega)
    rw [hzs, List.nil_append] at hrest
    rcases List.mem_cons.1 hx with rfl | hx
    · rw [hz, hzs]
    · exact flatMap_eq_self hne hrest x hx

section
variable (py : PythonValues) (lookup : Dict Str Str)

/-- What a token of an address is replaced by. -/
def replacedWord (token : Str) : Str := (lookup.get? (py.lower token)).getD token

/-- The words of an address whose tokens have been replaced. -/
def addressWords (value : Str) : List Str :=
  (value.splitOn ' ').flatMap (fun token => (replacedWord py lookup token).splitOn ' ')

/-- What an address needs to keep its canonical form. -/
def KeepsAddress (value : Str) : Prop :=
  value = [] ∨ addressWords py lookup value = [[]] ∨ ∀ w ∈ addressWords py lookup value,
    IsWord w ∧ StableCapital py.toPython w ∧ replacedWord py lookup (titleWord py.toPython w) = titleWord py.toPython w

/-- An address that its two rules leave. -/
structure AddressSettled (value : Str) : Prop where
  trimmed  : Str.trim value = value
  expanded : (expandAddressAbbreviations py value lookup).1 = value
  cased    : (titleCaseStep py value).1 = value

/-- The two rules. -/
def standardizeAddress (value : Str) : Str := (titleCaseStep py (expandAddressAbbreviations py value lookup).1).1

theorem expandAddressAbbreviations_fst {value : Str} (hne : value ≠ []) :
    (expandAddressAbbreviations py value lookup).1 =
      [' '].intercalate ((value.splitOn ' ').map (replacedWord py lookup)) := by
  unfold expandAddressAbbreviations
  rw [if_neg hne]
  dsimp only
  split
  · rfl
  · rename_i hnone
    have hkept : ∀ token ∈ value.splitOn ' ', replacedWord py lookup token = token := by
      intro token htoken
      have hget : lookup.get? (py.lower token) = none := by
        rw [List.any_eq_true] at hnone
        by_contra hsome
        exact hnone ⟨token, htoken, Option.isSome_iff_ne_none.2 hsome⟩
      unfold replacedWord
      rw [hget]
      rfl
    rw [List.map_congr_left hkept, List.map_id'', List.intercalate_splitOn]
    exact fun _ => rfl

theorem splitOn_expanded {value : Str} (hne : value ≠ []) :
    ((expandAddressAbbreviations py value lookup).1).splitOn ' ' = addressWords py lookup value := by
  rw [expandAddressAbbreviations_fst py lookup hne, Str.splitOn_intercalate (by simp)]
  unfold addressWords
  rw [List.flatMap_map]

variable {py lookup}

/-- An address is not expanded when each of its tokens stands for itself. -/
theorem expandAddressAbbreviations_eq_self_iff {value : Str} (hne : value ≠ []) :
    (expandAddressAbbreviations py value lookup).1 = value ↔
      ∀ token ∈ value.splitOn ' ', replacedWord py lookup token = token := by
  constructor
  · intro h token htoken
    have hsplit := splitOn_expanded py lookup hne
    rw [h] at hsplit
    have hself := flatMap_eq_self (fun t => List.splitOn_ne_nil ' ' (replacedWord py lookup t)) hsplit.symm token htoken
    have hjoin : [' '].intercalate ((replacedWord py lookup token).splitOn ' ') = replacedWord py lookup token :=
      List.intercalate_splitOn ' '
    rw [← hjoin, hself]
    simp
  · intro h
    rw [expandAddressAbbreviations_fst py lookup hne, List.map_congr_left h, List.map_id'', List.intercalate_splitOn]
    exact fun _ => rfl

theorem addressSettled_nil : AddressSettled py lookup [] := by
  refine ⟨rfl, ?_, ?_⟩
  · simp [expandAddressAbbreviations]
  · simp [titleCaseStep]

/-- **Addresses.** -/
theorem addressSettled_iff (casing : Casing py.toPython) {value : Str} :
    AddressSettled py lookup (standardizeAddress py lookup value) ↔ KeepsAddress py lookup value := by
  unfold standardizeAddress KeepsAddress
  by_cases hne : value = []
  · subst hne
    have hnil : (titleCaseStep py (expandAddressAbbreviations py [] lookup).1).1 = [] := by
      simp [expandAddressAbbreviations, titleCaseStep]
    rw [hnil]
    exact iff_of_true addressSettled_nil (.inl rfl)
  · rw [or_iff_right hne, titleCaseStep_fst]
    have hwords := splitOn_expanded py lookup hne
    generalize (expandAddressAbbreviations py value lookup).1 = expanded at hwords
    rw [← hwords]
    by_cases hempty : expanded = []
    · subst hempty
      exact iff_of_true addressSettled_nil (.inl (List.splitOn_nil ' '))
    · have hsplit : expanded.splitOn ' ' ≠ [[]] := by
        intro h
        apply hempty
        have hjoin : [' '].intercalate (expanded.splitOn ' ') = expanded := List.intercalate_splitOn ' '
        rw [← hjoin, h]
        rfl
      have hcasedNe : titleCase py.toPython expanded ≠ [] := mt (titleCase_eq_nil_iff casing).1 hempty
      have htrim : Str.trim (titleCase py.toPython expanded) = titleCase py.toPython expanded ↔
          ∀ w ∈ expanded.splitOn ' ', IsWord w := by
        rw [trim_titleCase_iff casing, Str.trim_eq_self_iff, or_iff_right hempty]
      have hexpand : (expandAddressAbbreviations py (titleCase py.toPython expanded) lookup).1 =
        titleCase py.toPython expanded ↔
          ∀ w ∈ expanded.splitOn ' ', replacedWord py lookup (titleWord py.toPython w) = titleWord py.toPython w := by
        rw [expandAddressAbbreviations_eq_self_iff hcasedNe, splitOn_titleCase casing, List.forall_mem_map]
      have hcased : (titleCaseStep py (titleCase py.toPython expanded)).1 = titleCase py.toPython expanded ↔
          ∀ w ∈ expanded.splitOn ' ', StableCapital py.toPython w := by
        rw [titleCaseStep_fst, titleCase_titleCase_iff casing]
      rw [or_iff_right hsplit]
      constructor
      · intro h w hw
        exact ⟨htrim.1 h.trimmed w hw, hcased.1 h.cased w hw, hexpand.1 h.expanded w hw⟩
      · intro h
        exact ⟨htrim.2 (fun w hw => (h w hw).1), hexpand.2 (fun w hw => (h w hw).2.2), hcased.2 (fun w hw => (h w hw).2.1)⟩

end

end Standardization
end DataOps

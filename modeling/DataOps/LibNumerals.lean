import DataOps.LibText
/-!
# LibNumerals — decimal numerals with grouped digits

A number as people write it: a sign, digits that a separator may group by threes, and decimals behind a second
separator.  The two conventions swap the separators.  What counts as a digit is a parameter.
-/
namespace DataOps
namespace Numerals

/-- Which separator groups: the comma with a decimal point, or the dot with a decimal comma. -/
inductive Convention
  | us | eu
deriving DecidableEq, Repr

namespace Convention

def group : Convention → Char
  | us => ','
  | eu => '.'

def decimal : Convention → Char
  | us => '.'
  | eu => ','

theorem group_ne_decimal (conv : Convention) : conv.group ≠ conv.decimal := by
  cases conv <;> decide

end Convention

/-- A digit that is not a separator. -/
def Digit (digit : Char → Bool) (c : Char) : Prop := digit c = true ∧ c ≠ ',' ∧ c ≠ '.'

/-- **A well-formed numeral**: `whole` are the digits up to the first grouping separator, `groups` the groups of three
behind it; without groups there may be any number of digits. -/
structure Numeral (digit : Char → Bool) where
  sign            : Option Char
  whole           : Str
  groups          : List Str
  decimals        : Option Str
  sign_mem        : ∀ c ∈ sign, c = '-' ∨ c = '+'
  whole_digits    : ∀ c ∈ whole, Digit digit c
  whole_ne_nil    : whole ≠ []
  whole_short     : groups ≠ [] → whole.length ≤ 3
  groups_digits   : ∀ g ∈ groups, g.length = 3 ∧ ∀ c ∈ g, Digit digit c
  decimals_digits : ∀ d ∈ decimals, d ≠ [] ∧ ∀ c ∈ d, Digit digit c

namespace Numeral

variable {digit : Char → Bool}

/-- The numeral as a convention writes it. -/
def text (conv : Convention) (n : Numeral digit) : Str :=
  n.sign.toList ++ (n.whole ++ n.groups.flatMap (fun g => conv.group :: g)) ++
    (n.decimals.map (fun d => conv.decimal :: d)).getD []

/-- The same numeral without groups. -/
def ungroup (n : Numeral digit) : Numeral digit where
  sign := n.sign
  whole := n.whole ++ n.groups.flatten
  groups := []
  decimals := n.decimals
  sign_mem := n.sign_mem
  whole_digits c hc := by
    rcases List.mem_append.1 hc with hc | hc
    · exact n.whole_digits c hc
    · obtain ⟨g, hg, hc⟩ := List.mem_flatten.1 hc
      exact (n.groups_digits g hg).2 c hc
  whole_ne_nil h := n.whole_ne_nil (List.append_eq_nil_iff.1 h).1
  whole_short h := absurd rfl h
  groups_digits g hg := by cases hg
  decimals_digits := n.decimals_digits

/-- **The plain decimal numeral**: no groups, and a decimal point. -/
def plain (n : Numeral digit) : Str := n.ungroup.text .us

/-! ## Separators -/

theorem sign_ne_separator (n : Numeral digit) {c : Char} (hc : c ∈ n.sign.toList) : c ≠ ',' ∧ c ≠ '.' := by
  rcases n.sign_mem c (Option.mem_toList.1 hc) with rfl | rfl <;> decide

theorem group_notMem_decimals (conv : Convention) (n : Numeral digit) :
    ∀ c ∈ (n.decimals.map (fun d => conv.decimal :: d)).getD [], c ≠ conv.group := by
  intro c hc
  cases hd : n.decimals with
  | none => simp [hd] at hc
  | some d =>
    rw [hd, Option.map_some, Option.getD_some] at hc
    rcases List.mem_cons.1 hc with rfl | hc
    · exact conv.group_ne_decimal.symm
    · have hdigit := (n.decimals_digits d hd).2 c hc
      cases conv
      · exact hdigit.2.1
      · exact hdigit.2.2

/-- Taking a convention's grouping separator out of its text leaves the digits together. -/
theorem filter_group_text (conv : Convention) (n : Numeral digit) :
    (n.text conv).filter (fun c => c ≠ conv.group) = n.ungroup.text conv := by
  have hsep : ∀ c, c ≠ ',' ∧ c ≠ '.' → c ≠ conv.group := fun c hc => by
    cases conv
    · exact hc.1
    · exact hc.2
  have hkeep : ∀ l : Str, (∀ c ∈ l, c ≠ conv.group) → l.filter (fun c => c ≠ conv.group) = l :=
    fun l hl => List.filter_eq_self.2 (fun c hc => by simpa using hl c hc)
  have hgroups : ∀ groups : List Str, (∀ g ∈ groups, ∀ c ∈ g, Digit digit c) →
      (groups.flatMap (fun g => conv.group :: g)).filter (fun c => c ≠ conv.group) = groups.flatten := by
    intro groups hdigits
    induction groups with
    | nil => rfl
    | cons g groups ih =>
      rw [List.flatMap_cons, List.filter_append, ih (fun g' hg' => hdigits g' (List.mem_cons_of_mem _ hg')),
        List.filter_cons_of_neg (by simp), hkeep g (fun c hc => hsep c (hdigits g List.mem_cons_self c hc).2),
        List.flatten_cons]
  unfold text
  rw [List.filter_append, List.filter_append, List.filter_append, hgroups _ (fun g hg => (n.groups_digits g hg).2),
    hkeep _ (fun c hc => hsep c (n.sign_ne_separator hc)), hkeep _ (fun c hc => hsep c (n.whole_digits c hc).2),
    hkeep _ (n.group_notMem_decimals conv)]
  simp [ungroup]

theorem filter_comma_text (n : Numeral digit) : (n.text .us).filter (fun c => c ≠ ',') = n.plain :=
  n.filter_group_text .us

/-- Without its dots, a European numeral differs from the plain one in the decimal comma only. -/
theorem map_comma_filter_text (n : Numeral digit) :
    ((n.text .eu).filter (fun c => c ≠ '.')).map (fun c => if c = ',' then '.' else c) = n.plain := by
  have hkeep : ∀ l : Str, (∀ c ∈ l, c ≠ ',') → l.map (fun c => if c = ',' then '.' else c) = l := by
    intro l hl
    refine (List.map_congr_left (fun c hc => ?_)).trans (List.map_id l)
    rw [if_neg (hl c hc), id]
  have hfilter := n.filter_group_text .eu
  unfold Convention.group at hfilter
  dsimp only at hfilter
  rw [hfilter]
  unfold plain text
  rw [List.map_append, List.map_append, hkeep _ (fun c hc => (n.ungroup.sign_ne_separator hc).1)]
  have hwhole : ∀ conv, n.ungroup.whole ++ n.ungroup.groups.flatMap (fun g => Convention.group conv :: g) =
    n.ungroup.whole :=
    fun conv => List.append_nil _
  rw [hwhole, hwhole, hkeep _ (fun c hc => (n.ungroup.whole_digits c hc).2.1)]
  have hdecimals : n.ungroup.decimals = n.decimals := rfl
  rw [hdecimals]
  cases hd : n.decimals with
  | none => rfl
  | some d =>
    have hdigits := hkeep d (fun c hc => ((n.decimals_digits d hd).2 c hc).2.1)
    simp [Convention.decimal, hdigits]

/-- A numeral is made of a sign, digits and separators. -/
theorem mem_text {conv : Convention} (n : Numeral digit) {c : Char} (hc : c ∈ n.text conv) :
    c = '-' ∨ c = '+' ∨ c = ',' ∨ c = '.' ∨ digit c = true := by
  have hsep : ∀ c, c = conv.group ∨ c = conv.decimal → c = ',' ∨ c = '.' := by
    rintro c (rfl | rfl) <;> cases conv <;> simp [Convention.group, Convention.decimal]
  have hdigit : digit c = true → c = '-' ∨ c = '+' ∨ c = ',' ∨ c = '.' ∨ digit c = true := by tauto
  have hsepc : c = ',' ∨ c = '.' → c = '-' ∨ c = '+' ∨ c = ',' ∨ c = '.' ∨ digit c = true := by tauto
  unfold text at hc
  rcases List.mem_append.1 hc with hc | hc
  · rcases List.mem_append.1 hc with hc | hc
    · rcases n.sign_mem c (Option.mem_toList.1 hc) with rfl | rfl <;> simp
    · rcases List.mem_append.1 hc with hc | hc
      · exact hdigit (n.whole_digits c hc).1
      · obtain ⟨g, hg, hc⟩ := List.mem_flatMap.1 hc
        rcases List.mem_cons.1 hc with hc | hc
        · exact hsepc (hsep c (.inl hc))
        · exact hdigit ((n.groups_digits g hg).2 c hc).1
  · cases hd : n.decimals with
    | none => simp [hd] at hc
    | some d =>
      rw [hd, Option.map_some, Option.getD_some] at hc
      rcases List.mem_cons.1 hc with hc | hc
      · exact hsepc (hsep c (.inr hc))
      · exact hdigit ((n.decimals_digits d hd).2 c hc).1

/-! ## What a text with one kind of separator is -/

/-- Groups of digits that a separator joins. -/
theorem intercalate_groups (sep : Char) (g : Str) : ∀ gs : List Str,
    [sep].intercalate (g :: gs) = g ++ gs.flatMap (fun g => sep :: g)
  | [] => by simp
  | g' :: gs => by
    rw [List.intercalate_cons_cons, intercalate_groups sep g' gs, List.flatMap_cons]
    simp

/-- What a text is split into contains no separator, and nothing the text does not. -/
theorem notMem_of_mem_splitOn {sep : Char} : ∀ {s : Str} {g : Str}, g ∈ s.splitOn sep → sep ∉ g ∧ ∀ x ∈ g, x ∈ s
  | [], g, h => by
    rw [List.splitOn_nil, List.mem_singleton] at h
    subst h
    exact ⟨List.not_mem_nil, fun _ hx => hx⟩
  | x :: s, g, h => by
    rw [List.splitOn_cons_eq_if_modifyHead] at h
    split at h
    · rcases List.mem_cons.1 h with rfl | h
      · exact ⟨List.not_mem_nil, fun _ hx => by cases hx⟩
      · have ih := notMem_of_mem_splitOn h
        exact ⟨ih.1, fun y hy => List.mem_cons_of_mem _ (ih.2 y hy)⟩
    · rename_i hne
      cases hsplit : s.splitOn sep with
      | nil => exact absurd hsplit (List.splitOn_ne_nil sep s)
      | cons g₀ gs =>
        rw [hsplit, List.modifyHead_cons] at h
        rcases List.mem_cons.1 h with rfl | h
        · have hmem : g₀ ∈ s.splitOn sep := hsplit ▸ List.mem_cons_self
          have ih := notMem_of_mem_splitOn hmem
          refine ⟨fun hmem => ?_, fun y hy => ?_⟩
          · rcases List.mem_cons.1 hmem with rfl | hmem
            · exact hne (beq_self_eq_true _)
            · exact ih.1 hmem
          · rcases List.mem_cons.1 hy with rfl | hy
            · exact List.mem_cons_self
            · exact List.mem_cons_of_mem _ (ih.2 y hy)
        · have hmem : g ∈ s.splitOn sep := hsplit ▸ List.mem_cons_of_mem _ h
          have ih := notMem_of_mem_splitOn hmem
          exact ⟨ih.1, fun y hy => List.mem_cons_of_mem _ (ih.2 y hy)⟩

end Numeral
end Numerals
end DataOps

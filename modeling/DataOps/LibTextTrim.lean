import DataOps.LibText
/-!
# LibTextTrim — trimmed texts

Stripping and collapsing the whitespace of a text, twice, is doing it once (`trim_trim`).
-/
namespace DataOps
namespace Str

/-- `re.sub(r"\s+", " ", s.strip())`. -/
def trim (s : Str) : Str := subWhitespace false (strip s)

theorem strip_eq_self_iff {s : Str} : strip s = s ↔
    (∀ x, s.head? = some x → isSpace x = false) ∧ ∀ x, s.getLast? = some x → isSpace x = false := by
  constructor
  · intro h
    refine ⟨fun x hx => head_of_stripped h hx, fun x hx => ?_⟩
    have hne : s ≠ [] := by
      rintro rfl
      cases hx
    have hlast : List.rdropWhile isSpace s = s := by
      have hdrop : s.dropWhile isSpace = s := by
        cases s with
        | nil => rfl
        | cons y s => rw [List.dropWhile_cons_of_neg (by simp [head_of_stripped h rfl])]
      unfold strip at h
      rwa [hdrop] at h
    have hget := List.rdropWhile_eq_self_iff.1 hlast hne
    rw [List.getLast?_eq_some_getLast hne] at hx
    cases hx
    simpa using hget
  · rintro ⟨hhead, hlast⟩
    have hdrop : s.dropWhile isSpace = s := by
      cases s with
      | nil => rfl
      | cons y s => rw [List.dropWhile_cons_of_neg (by simp [hhead y rfl])]
    unfold strip
    rw [hdrop, List.rdropWhile_eq_self_iff]
    intro hne
    simpa using hlast _ (List.getLast?_eq_some_getLast hne)

theorem subWhitespace_subWhitespace : ∀ (s : Str) (inRun : Bool),
    subWhitespace inRun (subWhitespace inRun s) = subWhitespace inRun s
  | [], _ => rfl
  | c :: cs, inRun => by
    have ih := subWhitespace_subWhitespace cs
    have hblank : isSpace ' ' = true := by decide
    by_cases hc : isSpace c = true
    · cases inRun with
      | true => simp [subWhitespace, hc, ih]
      | false => simp [subWhitespace, hc, hblank, ih]
    · simp [subWhitespace, hc, ih]

/-- Only runs of whitespace change. -/
theorem subWhitespace_eq_self : ∀ {s : Str} (inRun : Bool), (∀ c ∈ s, isSpace c = false) → subWhitespace inRun s = s
  | [], _, _ => rfl
  | c :: cs, inRun, h => by
    have hc := h c List.mem_cons_self
    have ih := subWhitespace_eq_self false (fun x hx => h x (List.mem_cons_of_mem c hx))
    simp [subWhitespace, hc, ih]

/-- A blank leaves a blank. -/
theorem no_space_of_subWhitespace : ∀ {s : Str}, (∀ c ∈ subWhitespace false s, isSpace c = false) →
    ∀ c ∈ s, isSpace c = false
  | [], _, c, hc => absurd hc List.not_mem_nil
  | x :: s, h, c, hc => by
    have hx : isSpace x = false := by
      by_contra hspace
      have htrue : isSpace x = true := by simpa using hspace
      have hhead : ' ' ∈ subWhitespace false (x :: s) := by simp [subWhitespace, htrue]
      exact absurd (h ' ' hhead) (by decide)
    have htail : subWhitespace false (x :: s) = x :: subWhitespace false s := by simp [subWhitespace, hx]
    rw [htail] at h
    rcases List.mem_cons.1 hc with rfl | hc
    · exact hx
    · exact no_space_of_subWhitespace (fun y hy => h y (List.mem_cons_of_mem _ hy)) c hc

theorem head?_subWhitespace {s : Str} (h : ∀ x, s.head? = some x → isSpace x = false) :
    (subWhitespace false s).head? = s.head? := by
  cases s with
  | nil => rfl
  | cons c s => simp [subWhitespace, h c rfl]

theorem getLast?_subWhitespace : ∀ {s : Str} {inRun : Bool}, (∀ x, s.getLast? = some x → isSpace x = false) → s ≠ [] →
    (subWhitespace inRun s).getLast? = s.getLast?
  | [], _, _, hne => absurd rfl hne
  | [c], inRun, h, _ => by
    have hc := h c rfl
    simp [subWhitespace, hc]
  | c :: d :: s, inRun, h, _ => by
    have hlast : (c :: d :: s).getLast? = (d :: s).getLast? := List.getLast?_cons_cons
    rw [hlast] at h ⊢
    have ih : ∀ b, (subWhitespace b (d :: s)).getLast? = (d :: s).getLast? :=
      fun b => getLast?_subWhitespace h (List.cons_ne_nil d s)
    have hsome : ∀ b x, (x :: subWhitespace b (d :: s)).getLast? = (d :: s).getLast? := by
      intro b x
      rw [List.getLast?_cons, ih b, List.getLast?_eq_some_getLast (List.cons_ne_nil d s)]
      rfl
    by_cases hc : isSpace c = true
    · cases inRun with
      | true => rw [subWhitespace, if_pos hc, if_pos rfl, ih]
      | false => rw [subWhitespace, if_pos hc, if_neg (by decide), hsome]
    · rw [subWhitespace, if_neg hc, hsome]

theorem strip_trim (s : Str) : strip (trim s) = trim s := by
  obtain ⟨hhead, hlast⟩ := strip_eq_self_iff.1 (strip_strip s)
  by_cases hne : strip s = []
  · unfold trim
    rw [hne]
    rfl
  · unfold trim
    rw [strip_eq_self_iff, head?_subWhitespace hhead, getLast?_subWhitespace hlast hne]
    exact ⟨hhead, hlast⟩

/-- **Trimming twice is trimming once.** -/
theorem trim_trim (s : Str) : trim (trim s) = trim s := by
  have hstrip := strip_trim s
  unfold trim at hstrip ⊢
  rw [hstrip, subWhitespace_subWhitespace]

theorem trim_eq_self {s : Str} (h : ∀ c ∈ s, isSpace c = false) : trim s = s := by
  unfold trim
  rw [strip_eq_self h, subWhitespace_eq_self false h]

/-! ## Blanks behind a text -/

theorem strip_eq_nil_iff {s : Str} : strip s = [] ↔ ∀ c ∈ s, isSpace c = true := by
  unfold strip
  rw [List.rdropWhile_eq_nil_iff]
  constructor
  · intro h c hc
    have happ : s.takeWhile isSpace ++ s.dropWhile isSpace = s := List.takeWhile_append_dropWhile
    rw [← happ, List.mem_append] at hc
    rcases hc with hc | hc
    · exact List.mem_takeWhile_imp hc
    · exact h c hc
  · exact fun h c hc => h c ((List.dropWhile_sublist _).subset hc)

theorem dropWhile_append_of_strip {s : Str} (hs : strip s = s) (hne : s ≠ []) (t : Str) :
    (s ++ t).dropWhile isSpace = s ++ t := by
  obtain ⟨c, s', rfl⟩ := List.exists_cons_of_ne_nil hne
  rw [List.cons_append, List.dropWhile_cons_of_neg (by simp [head_of_stripped hs rfl])]

theorem rdropWhile_append (p : Char → Bool) (s t : Str) :
    (s ++ t).rdropWhile p = if t.rdropWhile p = [] then s.rdropWhile p else s ++ t.rdropWhile p := by
  unfold List.rdropWhile
  rw [List.reverse_append, List.dropWhile_append]
  by_cases h : t.reverse.dropWhile p = []
  · simp [h]
  · simp [h]

theorem strip_append_blanks {s t : Str} (hs : strip s = s) (ht : strip t = []) : strip (s ++ t) = s := by
  by_cases hne : s = []
  · subst hne
    exact ht
  · have hright : s.rdropWhile isSpace = s := by
      have h := dropWhile_append_of_strip hs hne []
      rw [List.append_nil] at h
      unfold strip at hs
      rwa [h] at hs
    have hblank : t.rdropWhile isSpace = [] := List.rdropWhile_eq_nil_iff.2 (strip_eq_nil_iff.1 ht)
    unfold strip
    rw [dropWhile_append_of_strip hs hne, rdropWhile_append, if_pos hblank, hright]

/-- A text behind a stripped one and a space keeps both in place. -/
theorem exists_strip_append {s t : Str} (hs : strip s = s) (hne : s ≠ []) (ht : strip t ≠ []) :
    ∃ u, strip (s ++ ' ' :: t) = s ++ ' ' :: u := by
  have hkept : (' ' :: t).rdropWhile isSpace = ' ' :: t.rdropWhile isSpace := by
    have h := rdropWhile_append isSpace [' '] t
    have hvisible : t.rdropWhile isSpace ≠ [] := fun h => ht (strip_eq_nil_iff.2 (List.rdropWhile_eq_nil_iff.1 h))
    rwa [if_neg hvisible] at h
  refine ⟨t.rdropWhile isSpace, ?_⟩
  unfold strip
  rw [dropWhile_append_of_strip hs hne, rdropWhile_append, hkept, if_neg (List.cons_ne_nil _ _)]

end Str
end DataOps

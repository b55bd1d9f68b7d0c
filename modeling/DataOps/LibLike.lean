import Mathlib.Data.List.Infix
import DataOps.LibText
/-!
# LibLike — `LIKE` patterns

`%` stands for any text, `_` for any character, and a character after the escape for itself.  A pattern that ends with an
escape is an error.  Between wildcards, a text without metacharacters is searched for as it is (`around_accepts_iff`), and
any other text is not (`around_accepts_fill`, `not_infix_fill`).
-/
namespace DataOps
namespace Like

/-- What one place of a pattern stands for. -/
inductive Place
  | any | one | char (c : Char)
deriving DecidableEq, Repr

/-- The escape, where the pattern names no other. -/
def escape : Char := '\\'

def metacharacters : Str := ['%', '_', escape]

/-- The places of a pattern. -/
def places : Str → Option (List Place)
  | [] => some []
  | [c] =>
    if c = escape then none
    else if c = '%' then some [.any]
    else if c = '_' then some [.one]
    else some [.char c]
  | c :: d :: cs =>
    if c = escape then (places cs).map (Place.char d :: ·)
    else if c = '%' then (places (d :: cs)).map (Place.any :: ·)
    else if c = '_' then (places (d :: cs)).map (Place.one :: ·)
    else (places (d :: cs)).map (Place.char c :: ·)

def accepts : List Place → Str → Bool
  | [], s                 => s.isEmpty
  | .any :: ps, s         => s.tails.any (accepts ps)
  | .one :: _, []         => false
  | .one :: ps, _ :: s    => accepts ps s
  | .char _ :: _, []      => false
  | .char c :: ps, d :: s => d = c && accepts ps s

/-! ## Places -/

theorem places_cons {c : Char} (hc : c ∉ metacharacters) (s : Str) :
    places (c :: s) = (places s).map (Place.char c :: ·) := by
  simp only [metacharacters, List.mem_cons, List.not_mem_nil, or_false, not_or] at hc
  obtain ⟨hany, hone, hescape⟩ := hc
  cases s with
  | nil => simp [places, hany, hone, hescape]
  | cons d s => rw [places, if_neg hescape, if_neg hany, if_neg hone]

theorem places_any (s : Str) : places ('%' :: s) = (places s).map (Place.any :: ·) := by
  cases s with
  | nil => rfl
  | cons d s => rw [places, if_neg (by decide), if_pos rfl]

theorem places_one (s : Str) : places ('_' :: s) = (places s).map (Place.one :: ·) := by
  cases s with
  | nil => rfl
  | cons d s => rw [places, if_neg (by decide), if_neg (by decide), if_pos rfl]

theorem places_escape (d : Char) (s : Str) : places (escape :: d :: s) = (places s).map (Place.char d :: ·) := by
  rw [places, if_pos rfl]

theorem places_append {t : Str} (h : ∀ c ∈ t, c ∉ metacharacters) (s : Str) :
    places (t ++ s) = (places s).map (t.map Place.char ++ ·) := by
  induction t with
  | nil => exact Option.map_id'.symm
  | cons c t ih =>
    rw [List.cons_append, places_cons (h c List.mem_cons_self), ih (fun d hd => h d (List.mem_cons_of_mem c hd)),
      Option.map_map]
    rfl

/-! ## What a pattern accepts -/

theorem accepts_any_iff {ps : List Place} {s : Str} : accepts (.any :: ps) s ↔ ∃ u, u <:+ s ∧ accepts ps u := by
  rw [accepts, List.any_eq_true]
  exact exists_congr (fun u => and_congr_left' (List.mem_tails u s))

theorem accepts_any_any {ps : List Place} {s : Str} : accepts (.any :: .any :: ps) s ↔ accepts (.any :: ps) s := by
  simp only [accepts_any_iff]
  constructor
  · rintro ⟨u, hu, v, hv, h⟩
    exact ⟨v, hv.trans hu, h⟩
  · rintro ⟨u, hu, h⟩
    exact ⟨u, hu, u, List.suffix_rfl, h⟩

/-- Any text, to the end. -/
theorem accepts_any_nil (s : Str) : accepts [.any] s := accepts_any_iff.2 ⟨[], List.nil_suffix, rfl⟩

theorem accepts_chars_iff {t : Str} {ps : List Place} : ∀ {s : Str},
    accepts (t.map Place.char ++ ps) s ↔ ∃ u, s = t ++ u ∧ accepts ps u := by
  induction t with
  | nil => exact fun {s} => ⟨fun h => ⟨s, rfl, h⟩, fun ⟨u, hu, h⟩ => by rwa [show s = u from hu]⟩
  | cons c t ih =>
    intro s
    cases s with
    | nil => simp [accepts]
    | cons d s =>
      rw [List.map_cons, List.cons_append, accepts, Bool.and_eq_true, decide_eq_true_iff, ih]
      simp only [List.cons_append, List.cons.injEq]
      constructor
      · rintro ⟨hd, u, hu, h⟩
        exact ⟨u, ⟨hd, hu⟩, h⟩
      · rintro ⟨u, ⟨hd, hu⟩, h⟩
        exact ⟨hd, u, hu, h⟩

/-! ## Texts between wildcards -/

/-- `%%t%%`. -/
def around (t : Str) : Str := '%' :: '%' :: (t ++ ['%', '%'])

/-- **Without metacharacters, `%%t%%` accepts the texts that hold `t`.** -/
theorem around_accepts_iff {t : Str} (h : ∀ c ∈ t, c ∉ metacharacters) :
    ∃ ps, places (around t) = some ps ∧ ∀ s, accepts ps s ↔ t <:+: s := by
  refine ⟨.any :: .any :: (t.map Place.char ++ [.any, .any]), ?_, fun s => ?_⟩
  · rw [around, places_any, places_any, places_append h]
    rfl
  · rw [accepts_any_any, accepts_any_iff]
    constructor
    · rintro ⟨u, ⟨v, hv⟩, haccepts⟩
      obtain ⟨w, hw, -⟩ := accepts_chars_iff.1 haccepts
      exact ⟨v, w, by rw [List.append_assoc, ← hw, hv]⟩
    · rintro ⟨v, w, rfl⟩
      refine ⟨t ++ w, ⟨v, (List.append_assoc v t w).symm⟩, accepts_chars_iff.2 ⟨w, rfl, ?_⟩⟩
      exact accepts_any_any.2 (accepts_any_nil w)

/-- A shortest text that `t%%` accepts. -/
def fill : Str → Str
  | []  => []
  | [c] => if c = escape then ['%'] else if c = '%' then [] else if c = '_' then ['%'] else [c]
  | c :: d :: cs =>
    if c = escape then d :: fill cs
    else if c = '%' then fill (d :: cs)
    else if c = '_' then '%' :: fill (d :: cs)
    else c :: fill (d :: cs)

theorem fill_cons {c : Char} (hc : c ∉ metacharacters) (s : Str) : fill (c :: s) = c :: fill s := by
  simp only [metacharacters, List.mem_cons, List.not_mem_nil, or_false, not_or] at hc
  obtain ⟨hany, hone, hescape⟩ := hc
  cases s with
  | nil => simp [fill, hany, hone, hescape]
  | cons d s => rw [fill, if_neg hescape, if_neg hany, if_neg hone]

theorem fill_any (s : Str) : fill ('%' :: s) = fill s := by
  cases s with
  | nil => rfl
  | cons d s => rw [fill, if_neg (by decide), if_pos rfl]

theorem fill_one (s : Str) : fill ('_' :: s) = '%' :: fill s := by
  cases s with
  | nil => rfl
  | cons d s => rw [fill, if_neg (by decide), if_neg (by decide), if_pos rfl]

/-- A character is a wildcard, the escape or itself. -/
theorem place_cases (c : Char) : c = '%' ∨ c = '_' ∨ c = escape ∨ c ∉ metacharacters := by
  by_cases h : c ∈ metacharacters
  · simp only [metacharacters, List.mem_cons, List.not_mem_nil, or_false] at h
    tauto
  · exact .inr (.inr (.inr h))

/-- `t%%` is no error, and accepts `fill t`. -/
theorem fill_accepts : ∀ t : Str, ∃ ps, places (t ++ ['%', '%']) = some ps ∧ accepts ps (fill t)
  | []           => ⟨[.any, .any], rfl, accepts_any_any.2 (accepts_any_nil [])⟩
  | c :: t       => by
    rcases place_cases c with rfl | rfl | rfl | hc
    · obtain ⟨ps, hps, h⟩ := fill_accepts t
      refine ⟨.any :: ps, by rw [List.cons_append, places_any, hps]; rfl, ?_⟩
      rw [fill_any]
      exact accepts_any_iff.2 ⟨fill t, List.suffix_rfl, h⟩
    · obtain ⟨ps, hps, h⟩ := fill_accepts t
      refine ⟨.one :: ps, by rw [List.cons_append, places_one, hps]; rfl, ?_⟩
      rw [fill_one]
      exact h
    · cases t with
      | nil => exact ⟨[.char '%', .any], rfl, by decide⟩
      | cons d t =>
        obtain ⟨ps, hps, h⟩ := fill_accepts t
        refine ⟨.char d :: ps, by rw [List.cons_append, List.cons_append, places_escape, hps]; rfl, ?_⟩
        rw [fill, if_pos rfl, accepts, decide_eq_true rfl]
        exact h
    · obtain ⟨ps, hps, h⟩ := fill_accepts t
      refine ⟨.char c :: ps, by rw [List.cons_append, places_cons hc, hps]; rfl, ?_⟩
      rw [fill_cons hc, accepts, decide_eq_true rfl]
      exact h

theorem mem_fill : ∀ {t : Str} {c : Char}, c ∈ fill t → c ∈ t ∨ c = '%'
  | [], _, h          => absurd h List.not_mem_nil
  | d :: t, c, h => by
    rcases place_cases d with rfl | rfl | rfl | hd
    · rw [fill_any] at h
      exact (mem_fill h).imp_left (List.mem_cons_of_mem _)
    · rw [fill_one] at h
      rcases List.mem_cons.1 h with rfl | h
      · exact .inr rfl
      · exact (mem_fill h).imp_left (List.mem_cons_of_mem _)
    · cases t with
      | nil => exact .inr (List.mem_singleton.1 h)
      | cons e t =>
        rw [fill, if_pos rfl] at h
        rcases List.mem_cons.1 h with rfl | h
        · exact .inl (List.mem_cons_of_mem _ List.mem_cons_self)
        · exact (mem_fill h).imp_left (fun hc => List.mem_cons_of_mem _ (List.mem_cons_of_mem _ hc))
    · rw [fill_cons hd] at h
      rcases List.mem_cons.1 h with rfl | h
      · exact .inl List.mem_cons_self
      · exact (mem_fill h).imp_left (List.mem_cons_of_mem _)

/-- **What `fill` leaves of the metacharacters**: fewer escapes, and of the wildcards those that an escape stood before. -/
theorem count_escape_fill : ∀ t : Str, (fill t).count escape ≤ t.count escape ∧
    (escape ∈ t → (fill t).count escape < t.count escape)
  | []     => ⟨le_refl 0, fun h => absurd h List.not_mem_nil⟩
  | c :: t => by
    have ih := count_escape_fill t
    rcases place_cases c with rfl | rfl | rfl | hc
    · rw [fill_any, List.count_cons_of_ne (by decide), List.mem_cons, or_iff_right (by decide)]
      exact ih
    · rw [fill_one, List.count_cons_of_ne (by decide), List.count_cons_of_ne (by decide), List.mem_cons,
        or_iff_right (by decide)]
      exact ih
    · cases t with
      | nil => decide
      | cons d t =>
        have hle := (count_escape_fill t).1
        rw [fill, if_pos rfl, List.count_cons_self, List.count_cons, List.count_cons]
        exact ⟨by omega, fun _ => by omega⟩
    · have hne : c ≠ escape := fun heq => hc (by rw [heq]; decide)
      rw [fill_cons hc, List.count_cons_of_ne hne, List.count_cons_of_ne hne, List.mem_cons, or_iff_right hne.symm]
      exact ih

theorem mem_one_fill : ∀ {t : Str}, '_' ∈ fill t → escape ∈ t
  | [], h     => absurd h List.not_mem_nil
  | c :: t, h => by
    rcases place_cases c with rfl | rfl | rfl | hc
    · rw [fill_any] at h
      exact List.mem_cons_of_mem _ (mem_one_fill h)
    · rw [fill_one, List.mem_cons, or_iff_right (by decide)] at h
      exact List.mem_cons_of_mem _ (mem_one_fill h)
    · exact List.mem_cons_self
    · rw [fill_cons hc, List.mem_cons] at h
      exact List.mem_cons_of_mem _ (mem_one_fill (h.resolve_left (fun heq => hc (by rw [← heq]; decide))))

theorem mem_any_fill : ∀ {t : Str}, '%' ∈ fill t → escape ∈ t ∨ '_' ∈ t
  | [], h     => absurd h List.not_mem_nil
  | c :: t, h => by
    rcases place_cases c with rfl | rfl | rfl | hc
    · rw [fill_any] at h
      exact (mem_any_fill h).imp (List.mem_cons_of_mem _) (List.mem_cons_of_mem _)
    · exact .inr List.mem_cons_self
    · exact .inl List.mem_cons_self
    · rw [fill_cons hc, List.mem_cons] at h
      exact (mem_any_fill (h.resolve_left (fun heq => hc (by rw [← heq]; decide)))).imp (List.mem_cons_of_mem _)
        (List.mem_cons_of_mem _)

/-- **`%%t%%` accepts the text `fill t`.** -/
theorem around_accepts_fill (t : Str) : ∃ ps, places (around t) = some ps ∧ accepts ps (fill t) := by
  obtain ⟨ps, hps, hfill⟩ := fill_accepts t
  refine ⟨.any :: .any :: ps, by rw [around, places_any, places_any, hps]; rfl, ?_⟩
  exact accepts_any_any.2 (accepts_any_iff.2 ⟨fill t, List.suffix_rfl, hfill⟩)

/-- **It holds no text that has the metacharacters of `t`**, if there are any. -/
theorem not_infix_fill {t t' : Str} (hcount : ∀ c ∈ metacharacters, t'.count c = t.count c)
    (h : ∃ c ∈ t, c ∈ metacharacters) : ¬ t' <:+: fill t := by
  intro hwithin
  have hmem : ∀ c ∈ metacharacters, c ∈ t → c ∈ fill t := by
    intro c hc ht
    rw [← List.count_pos_iff] at ht
    exact hwithin.subset (List.count_pos_iff.1 (by rwa [hcount c hc]))
  have hescape : escape ∉ t := by
    intro ht
    have hlt := (count_escape_fill t).2 ht
    have hle := hwithin.sublist.count_le escape
    rw [hcount escape (by decide)] at hle
    omega
  have hone : '_' ∉ t := fun ht => hescape (mem_one_fill (hmem '_' (by decide) ht))
  have hany : '%' ∉ t := fun ht => (mem_any_fill (hmem '%' (by decide) ht)).elim hescape hone
  obtain ⟨c, hc, hmeta⟩ := h
  simp only [metacharacters, List.mem_cons, List.not_mem_nil, or_false] at hmeta
  rcases hmeta with rfl | rfl | rfl
  · exact hany hc
  · exact hone hc
  · exact hescape hc

end Like
end DataOps

import DataOps.LibTextTrim
/-!
# LibTextWords — the words of a trimmed text

A text is trimmed exactly when it is empty or what it is split into at the spaces is all words (`trim_eq_self_iff`).
-/
namespace DataOps
namespace Str

/-- Something, and no blank in it. -/
def IsWord (w : Str) : Prop := w ≠ [] ∧ ∀ c ∈ w, isSpace c = false

theorem isSpace_space : isSpace ' ' = true := by decide

theorem ne_space {c : Char} (h : isSpace c = false) : c ≠ ' ' := by
  rintro rfl
  cases h

theorem IsWord.notMem_space {w : Str} (h : IsWord w) : ' ' ∉ w := fun hmem => ne_space (h.2 ' ' hmem) rfl

/-! ## Splitting at the spaces -/

theorem splitOn_space_cons (s : Str) : (' ' :: s).splitOn ' ' = [] :: s.splitOn ' ' := by
  rw [List.splitOn_cons_eq_if_modifyHead, if_pos (beq_self_eq_true _)]

theorem splitOn_cons_of_ne {c : Char} (hc : c ≠ ' ') (s : Str) :
    (c :: s).splitOn ' ' = (s.splitOn ' ').modifyHead (List.cons c) := by
  rw [List.splitOn_cons_eq_if_modifyHead, if_neg (by simpa using hc)]

theorem exists_splitOn (s : Str) : ∃ w ws, s.splitOn ' ' = w :: ws :=
  List.exists_cons_of_ne_nil (List.splitOn_ne_nil ' ' s)

/-- Each character of a text is replaced, or deleted; the spaces stay where they are. -/
theorem splitOn_flatMap {f : Char → Str} (hspace : f ' ' = [' ']) (hother : ∀ c, c ≠ ' ' → ' ' ∉ f c) (s : Str) :
    (s.flatMap f).splitOn ' ' = (s.splitOn ' ').map (fun w => w.flatMap f) := by
  induction s with
  | nil => simp
  | cons c s ih =>
    rw [List.flatMap_cons]
    by_cases hc : c = ' '
    · rw [hc, hspace, List.singleton_append, splitOn_space_cons, splitOn_space_cons, ih]
      rfl
    · obtain ⟨w, ws, hsplit⟩ := exists_splitOn s
      rw [hsplit] at ih
      rw [splitOn_cons_of_ne hc, hsplit]
      have hwhole : ∀ t : Str, ' ' ∉ t → (t ++ s.flatMap f).splitOn ' ' =
          (t ++ w.flatMap f) :: ws.map (fun w => w.flatMap f) := by
        intro t ht
        induction t with
        | nil => exact ih
        | cons x t iht =>
          rw [List.mem_cons, not_or] at ht
          rw [List.cons_append, splitOn_cons_of_ne (Ne.symm ht.1), iht ht.2]
          rfl
      rw [hwhole (f c) (hother c hc)]
      simp

theorem splitOn_filter {p : Char → Bool} (hp : p ' ' = true) (s : Str) :
    (s.filter p).splitOn ' ' = (s.splitOn ' ').map (List.filter p) := by
  have hflat : ∀ t : Str, t.filter p = t.flatMap (fun c => if p c then [c] else []) := fun t => by
    induction t with
    | nil => rfl
    | cons c t ih => by_cases hc : p c <;> simp [hc, ih]
  rw [hflat, splitOn_flatMap (by simp [hp]) (fun c hc => by by_cases hpc : p c <;> simp [hpc, Ne.symm hc])]
  exact List.map_congr_left (fun w _ => (hflat w).symm)

theorem splitOn_map {f : Char → Char} (hspace : f ' ' = ' ') (hother : ∀ c, c ≠ ' ' → f c ≠ ' ') (s : Str) :
    (s.map f).splitOn ' ' = (s.splitOn ' ').map (List.map f) := by
  have hflat : ∀ t : Str, t.map f = t.flatMap (fun c => [f c]) := fun t => by
    induction t with
    | nil => rfl
    | cons c t ih => simp [ih]
  rw [hflat, splitOn_flatMap (by rw [hspace]) (fun c hc => by simpa using Ne.symm (hother c hc))]
  exact List.map_congr_left (fun w _ => (hflat w).symm)

/-- What is joined with spaces is split into the parts' own parts. -/
theorem splitOn_intercalate : ∀ {parts : List Str}, parts ≠ [] →
    ([' '].intercalate parts).splitOn ' ' = parts.flatMap (fun t => t.splitOn ' ')
  | [], h => absurd rfl h
  | [t], _ => by simp
  | t :: t' :: parts, _ => by
    have ih := splitOn_intercalate (List.cons_ne_nil t' parts)
    rw [List.intercalate_cons_cons, List.append_assoc, List.singleton_append, List.splitOn_append_cons_self, ih]
    simp

/-! ## Trimmed texts -/

/-- A trimmed text that is not empty, from the left. -/
inductive Spaced : Str → Prop
  | last  {c : Char} (hc : isSpace c = false) : Spaced [c]
  | inner {c : Char} {s : Str} (hc : isSpace c = false) (hs : Spaced s) : Spaced (c :: s)
  | space {c : Char} {s : Str} (hc : isSpace c = false) (hs : Spaced s) : Spaced (c :: ' ' :: s)

theorem Spaced.head {s : Str} (h : Spaced s) : ∃ c t, s = c :: t ∧ isSpace c = false := by
  cases h with
  | last hc => exact ⟨_, _, rfl, hc⟩
  | inner hc _ => exact ⟨_, _, rfl, hc⟩
  | space hc _ => exact ⟨_, _, rfl, hc⟩

theorem Spaced.getLast? {s : Str} (h : Spaced s) : ∀ x, s.getLast? = some x → isSpace x = false := by
  induction h with
  | last hc =>
    intro x hx
    cases hx
    exact hc
  | inner hc hs ih =>
    obtain ⟨d, t, rfl, -⟩ := hs.head
    intro x hx
    rw [List.getLast?_cons_cons] at hx
    exact ih x hx
  | space hc hs ih =>
    obtain ⟨d, t, rfl, -⟩ := hs.head
    intro x hx
    rw [List.getLast?_cons_cons, List.getLast?_cons_cons] at hx
    exact ih x hx

theorem Spaced.subWhitespace {s : Str} (h : Spaced s) (inRun : Bool) : subWhitespace inRun s = s := by
  induction h generalizing inRun with
  | last hc => simp [Str.subWhitespace, hc]
  | inner hc _ ih => simp [Str.subWhitespace, hc, ih]
  | space hc _ ih => simp [Str.subWhitespace, hc, isSpace_space, ih]

theorem Spaced.trim {s : Str} (h : Spaced s) : trim s = s := by
  have hstrip : strip s = s := by
    rw [strip_eq_self_iff]
    obtain ⟨c, t, rfl, hc⟩ := h.head
    refine ⟨fun x hx => ?_, h.getLast?⟩
    cases hx
    exact hc
  unfold Str.trim
  rw [hstrip, h.subWhitespace]

theorem length_subWhitespace_le : ∀ (s : Str) (inRun : Bool), (subWhitespace inRun s).length ≤ s.length
  | [], _ => le_refl 0
  | c :: s, inRun => by
    have htrue := length_subWhitespace_le s true
    have hfalse := length_subWhitespace_le s false
    rw [subWhitespace]
    split
    · split
      · simp
        omega
      · simpa using htrue
    · simpa using hfalse

/-- What neither stripping nor collapsing changes is spaced. -/
theorem spaced_of_subWhitespace : ∀ {s : Str}, (∀ x, s.head? = some x → isSpace x = false) →
    (∀ x, s.getLast? = some x → isSpace x = false) → subWhitespace false s = s → s ≠ [] → Spaced s
  | [], _, _, _, hne => absurd rfl hne
  | [c], hhead, _, _, _ => .last (hhead c rfl)
  | [c, d], hhead, hlast, _, _ => .inner (hhead c rfl) (.last (hlast d rfl))
  | c :: d :: e :: s, hhead, hlast, hsub, _ => by
    have hc := hhead c rfl
    rw [List.getLast?_cons_cons] at hlast
    rw [subWhitespace, if_neg (by simp [hc])] at hsub
    have hrest : subWhitespace false (d :: e :: s) = d :: e :: s := (List.cons.inj hsub).2
    by_cases hd : isSpace d = true
    · rw [subWhitespace, if_pos hd, if_neg (by decide)] at hrest
      obtain ⟨hspace, hrun⟩ := List.cons.inj hrest
      rw [List.getLast?_cons_cons] at hlast
      -- a second blank would have been dropped
      have he : isSpace e = false := by
        by_contra hblank
        rw [subWhitespace, if_pos (by simpa using hblank), if_pos rfl] at hrun
        have hlen := length_subWhitespace_le s true
        rw [hrun, List.length_cons] at hlen
        omega
      have hfalse : subWhitespace false (e :: s) = e :: s := by
        rw [subWhitespace, if_neg (by simp [he])] at hrun ⊢
        exact hrun
      subst hspace
      refine .space hc (spaced_of_subWhitespace (fun x hx => ?_) hlast hfalse (List.cons_ne_nil e s))
      cases hx
      exact he
    · refine .inner hc (spaced_of_subWhitespace (fun x hx => ?_) hlast hrest (List.cons_ne_nil d _))
      cases hx
      simpa using hd

theorem Spaced.words {s : Str} (h : Spaced s) : ∀ w ∈ s.splitOn ' ', IsWord w := by
  induction h with
  | @last c hc =>
    intro w hw
    rw [List.splitOn_eq_singleton (by simpa using Ne.symm (ne_space hc)), List.mem_singleton] at hw
    subst hw
    exact ⟨List.cons_ne_nil c [], fun x hx => by rw [List.mem_singleton.1 hx]; exact hc⟩
  | @inner c s hc hs ih =>
    obtain ⟨v, vs, hsplit⟩ := exists_splitOn s
    rw [splitOn_cons_of_ne (ne_space hc), hsplit]
    rw [hsplit] at ih
    intro w hw
    rcases List.mem_cons.1 hw with rfl | hw
    · refine ⟨List.cons_ne_nil c v, fun x hx => ?_⟩
      rcases List.mem_cons.1 hx with rfl | hx
      · exact hc
      · exact (ih v List.mem_cons_self).2 x hx
    · exact ih w (List.mem_cons_of_mem _ hw)
  | @space c s hc hs ih =>
    rw [splitOn_cons_of_ne (ne_space hc), splitOn_space_cons]
    intro w hw
    rcases List.mem_cons.1 hw with rfl | hw
    · exact ⟨List.cons_ne_nil c [], fun x hx => by rw [List.mem_singleton.1 hx]; exact hc⟩
    · exact ih w hw

theorem spaced_of_words : ∀ {s : Str}, (∀ w ∈ s.splitOn ' ', IsWord w) → Spaced s
  | [], h => absurd rfl (h [] (by simp)).1
  | c :: s, h => by
    by_cases hspace : c = ' '
    · rw [hspace, splitOn_space_cons] at h
      exact absurd rfl (h [] List.mem_cons_self).1
    · obtain ⟨w, ws, hsplit⟩ := exists_splitOn s
      rw [splitOn_cons_of_ne hspace, hsplit] at h
      have hfirst := h (c :: w) List.mem_cons_self
      have hc := hfirst.2 c List.mem_cons_self
      have hrest : ∀ v ∈ ws, IsWord v := fun v hv => h v (List.mem_cons_of_mem _ hv)
      cases w with
      | cons d w =>
        refine .inner hc (spaced_of_words (fun v hv => ?_))
        rw [hsplit] at hv
        rcases List.mem_cons.1 hv with rfl | hv
        · exact ⟨List.cons_ne_nil d w, fun x hx => hfirst.2 x (List.mem_cons_of_mem _ hx)⟩
        · exact hrest v hv
      | nil =>
        cases s with
        | nil => exact .last hc
        | cons d s =>
          by_cases hd : d = ' '
          · subst hd
            rw [splitOn_space_cons] at hsplit
            refine .space hc (spaced_of_words (fun v hv => ?_))
            rw [(List.cons.inj hsplit).2] at hv
            exact hrest v hv
          · obtain ⟨v, vs, hv⟩ := exists_splitOn s
            rw [splitOn_cons_of_ne hd, hv] at hsplit
            cases hsplit

/-- **A text is trimmed exactly when it is empty or all words.** -/
theorem trim_eq_self_iff {s : Str} : trim s = s ↔ s = [] ∨ ∀ w ∈ s.splitOn ' ', IsWord w := by
  constructor
  · intro h
    by_cases hne : s = []
    · exact .inl hne
    · have hstrip : strip s = s := by rw [← h, strip_trim]
      obtain ⟨hhead, hlast⟩ := strip_eq_self_iff.1 hstrip
      unfold trim at h
      rw [hstrip] at h
      exact .inr (spaced_of_subWhitespace hhead hlast h hne).words
  · rintro (rfl | h)
    · rfl
    · exact (spaced_of_words h).trim

/-- Two texts, a space between them. -/
theorem trim_append_space_iff {s t : Str} :
    trim (s ++ ' ' :: t) = s ++ ' ' :: t ↔ (s ≠ [] ∧ trim s = s) ∧ t ≠ [] ∧ trim t = t := by
  have hwords : ∀ u : Str, (∀ w ∈ u.splitOn ' ', IsWord w) ↔ u ≠ [] ∧ trim u = u := by
    intro u
    by_cases hu : u = []
    · subst hu
      simp [IsWord]
    · rw [trim_eq_self_iff, or_iff_right hu, and_iff_right hu]
  rw [trim_eq_self_iff, or_iff_right (by simp), List.splitOn_append_cons_self, List.forall_mem_append, hwords, hwords]

end Str
end DataOps

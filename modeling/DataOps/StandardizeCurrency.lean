import DataOps.StandardizeAmounts
/-!
# StandardizeCurrency — when amounts keep their form

An amount with a currency keeps its form when its number does, it has words before and behind the space, and no currency
symbol is left to be read again (`settles_standardizeCurrency`).
-/
namespace DataOps
namespace Standardization

open Detection (without)

variable {py : PythonValues} {locale : Option NumericLocale} {defaultCurrency : Option Str}

/-- The symbol that `standardize_currency` finds, and the code it stands for. -/
def symbolAndCode (defaultCurrency : Option Str) (s : Str) : Option (Char × Str) :=
  match defaultCurrencySymbolMap.find? (fun p => p.1 ∈ s) with
  | some p => some p
  | none   => if '$' ∈ s then (Str.given defaultCurrency).map (fun code => ('$', code)) else none

/-- What is left of an amount without its symbol. -/
def amountOf (symbol : Char) (s : Str) : Str := (without symbol s).strip

/-- What an amount needs to keep its canonical form. -/
def KeepsCurrency (py : PythonValues) (locale : Option NumericLocale) (defaultCurrency : Option Str)
    (value : Str) : Prop :=
  ∀ symbol code, symbolAndCode defaultCurrency value = some (symbol, code) →
    ((amountOf symbol value ≠ [] ∧ Str.trim (amountOf symbol value) = amountOf symbol value ∧
        KeepsWords (amountOf symbol value)) ∧ code ≠ [] ∧ Str.trim code = code) ∧
      (∀ p ∈ defaultCurrencySymbolMap, p.1 ∉ amountOf symbol value ∧ p.1 ∉ code) ∧
      ('$' ∈ amountOf symbol value ∨ '$' ∈ code → Str.given defaultCurrency = none ∨
        (without '$' code).strip = [] ∧ NotRegrouped py.toPython locale (amountOf symbol value))

/-! ## Symbols -/

theorem symbol_facts {p : Char × Str} (hp : p ∈ defaultCurrencySymbolMap) :
    (p.1 ≠ ',' ∧ p.1 ≠ '.' ∧ p.1 ≠ ' ' ∧ p.1 ≠ '$') ∧ (without '$' p.2).strip ≠ [] ∧
      (∀ q ∈ defaultCurrencySymbolMap, q.1 ∉ p.2) ∧ '$' ∉ p.2 ∧ ∃ init last, p.2 = init ++ [last] ∧
        Str.isSpace last = false := by
  have hcases : p = ('€', "EUR".toList) ∨ p = ('£', "GBP".toList) ∨ p = ('¥', "JPY".toList) := by
    simpa [defaultCurrencySymbolMap] using hp
  rcases hcases with rfl | rfl | rfl
  · exact ⟨by decide, by decide, by decide, by decide, "EU".toList, 'R', by decide, by decide⟩
  · exact ⟨by decide, by decide, by decide, by decide, "GB".toList, 'P', by decide, by decide⟩
  · exact ⟨by decide, by decide, by decide, by decide, "JP".toList, 'Y', by decide, by decide⟩

theorem symbolAndCode_cases {s : Str} {symbol : Char} {code : Str}
    (h : symbolAndCode defaultCurrency s = some (symbol, code)) :
    (symbol, code) ∈ defaultCurrencySymbolMap ∨ symbol = '$' ∧ Str.given defaultCurrency = some code := by
  unfold symbolAndCode at h
  split at h
  · rename_i p hfind
    cases h
    exact .inl (List.mem_of_find?_eq_some hfind)
  · split at h
    · obtain ⟨d, hgiven, heq⟩ := Option.map_eq_some_iff.1 h
      cases heq
      exact .inr ⟨rfl, hgiven⟩
    · cases h

theorem symbolAndCode_of_mem (defaultCurrency : Option Str) {s : Str} {p : Char × Str}
    (hp : p ∈ defaultCurrencySymbolMap) (hmem : p.1 ∈ s) :
    ∃ q ∈ defaultCurrencySymbolMap, q.1 ∈ s ∧ symbolAndCode defaultCurrency s = some q := by
  unfold symbolAndCode
  cases hfind : defaultCurrencySymbolMap.find? (fun p => p.1 ∈ s) with
  | none => exact absurd hmem (by simpa using List.find?_eq_none.1 hfind p hp)
  | some q => exact ⟨q, List.mem_of_find?_eq_some hfind, by simpa using List.find?_some hfind, rfl⟩

theorem symbolAndCode_of_notMem {s : Str} (h : ∀ p ∈ defaultCurrencySymbolMap, p.1 ∉ s) : symbolAndCode defaultCurrency s =
    if '$' ∈ s then (Str.given defaultCurrency).map (fun code => ('$', code)) else none := by
  have hfind : defaultCurrencySymbolMap.find? (fun p => p.1 ∈ s) = none :=
    List.find?_eq_none.2 (fun p hp => by simpa using h p hp)
  unfold symbolAndCode
  rw [hfind]

theorem standardizeCurrency_fst {value : Str} (hstrip : value.strip = value) :
    (standardizeCurrency py value defaultCurrency locale).1 = ((symbolAndCode defaultCurrency value).map (fun p =>
      (standardizeNumeric py.toPython (amountOf p.1 value) locale).1 ++ ' ' :: p.2)).getD value := by
  unfold standardizeCurrency
  by_cases hne : value = []
  · subst hne
    rfl
  · rw [if_neg hne]
    dsimp only
    rw [hstrip]
    split
    · rename_i heq
      have hnone : symbolAndCode defaultCurrency value = none := heq
      rw [hnone]
      rfl
    · rename_i symbol code heq
      have hsome : symbolAndCode defaultCurrency value = some (symbol, code) := heq
      rw [hsome]
      exact changedTo_fst _ _ _

/-! ## Reading the form again -/

theorem strip_amountOf (symbol : Char) (s : Str) : (amountOf symbol s).strip = amountOf symbol s := Str.strip_strip _

theorem notMem_amountOf (symbol : Char) (s : Str) : symbol ∉ amountOf symbol s := by
  intro h
  have hmem := Str.mem_of_mem_strip h
  simp [without] at hmem

/-- An unambiguous symbol does not survive: the form is another one. -/
theorem standardizeCurrency_of_symbol {out : Str} (hstrip : out.strip = out) {p : Char × Str}
    (hp : p ∈ defaultCurrencySymbolMap) (hmem : p.1 ∈ out) :
    (standardizeCurrency py out defaultCurrency locale).1 ≠ out := by
  obtain ⟨q, hq, hin, hsymbol⟩ := symbolAndCode_of_mem defaultCurrency hp hmem
  obtain ⟨⟨hcomma, hdot, hspace, -⟩, -, hcode, -⟩ := symbol_facts hq
  rw [standardizeCurrency_fst hstrip, hsymbol]
  intro heq
  have hout : q.1 ∈ (standardizeNumeric py.toPython (amountOf q.1 out) locale).1 ++ ' ' :: q.2 := by
    rw [Option.map_some, Option.getD_some] at heq
    rw [heq]
    exact hin
  rcases List.mem_append.1 hout with hnumber | hrest
  · exact notMem_amountOf q.1 out ((mem_standardizeNumeric hcomma hdot (strip_amountOf _ _)).1 hnumber)
  · rcases List.mem_cons.1 hrest with h | h
    · exact hspace h
    · exact hcode q hq h

theorem without_form {number : Str} (hno : '$' ∉ number) (code : Str) :
    without '$' (number ++ ' ' :: code) = number ++ ' ' :: without '$' code := by
  have hself : number.filter (fun c => c ≠ '$') = number :=
    List.filter_eq_self.2 (fun c hc => by simpa using ne_of_mem_of_not_mem hc hno)
  unfold without
  rw [List.filter_append, hself]
  simp

/-- A code of dollar signs leaves the number. -/
theorem amountOf_form {number code : Str} (hno : '$' ∉ number) (hstrip : number.strip = number)
    (hcode : (without '$' code).strip = []) : amountOf '$' (number ++ ' ' :: code) = number := by
  unfold amountOf
  rw [without_form hno]
  refine Str.strip_append_blanks hstrip (Str.strip_eq_nil_iff.2 (fun c hc => ?_))
  rcases List.mem_cons.1 hc with rfl | hc
  · decide
  · exact Str.strip_eq_nil_iff.1 hcode c hc

/-- Where the dollar's form is the text itself, the code is nothing but dollar signs: any other word would have been
counted among the amount's. -/
theorem strip_code_of_again {number code : Str} (htrim : Str.trim (number ++ ' ' :: code) = number ++ ' ' :: code)
    (hnumber : number = (standardizeNumeric py.toPython (amountOf '$' (number ++ ' ' :: code)) locale).1) :
    (without '$' code).strip = [] := by
  obtain ⟨⟨hne, hnumberTrim⟩, -⟩ := Str.trim_append_space_iff.1 htrim
  have hno : '$' ∉ number := by
    rw [hnumber, mem_standardizeNumeric (by decide) (by decide) (strip_amountOf _ _)]
    exact notMem_amountOf '$' _
  have hwithout := without_form hno code
  by_contra hvisible
  obtain ⟨u, hu⟩ := Str.exists_strip_append (strip_of_trim hnumberTrim) hne hvisible
  have hcount := congrArg (List.count ' ') hnumber
  rw [count_standardizeNumeric (by decide) (by decide) (strip_amountOf _ _)] at hcount
  unfold amountOf at hcount
  rw [hwithout, hu, List.count_append, List.count_cons_self] at hcount
  omega

/-- What ends in a code of letters does not end in dollar signs. -/
theorem ne_of_strip_code {symbol : Char} {number code number' code' : Str}
    (hiso : (symbol, code) ∈ defaultCurrencySymbolMap) (hblank : (without '$' code').strip = []) (hne : code' ≠ []) :
    number ++ ' ' :: code ≠ number' ++ ' ' :: code' := by
  obtain ⟨-, -, -, hdollar, init, last, rfl, hlast⟩ := symbol_facts hiso
  obtain ⟨init', last', rfl⟩ : ∃ init' last', code' = init' ++ [last'] :=
    ⟨code'.dropLast, code'.getLast hne, (List.dropLast_append_getLast hne).symm⟩
  intro heq
  have hends := congrArg List.getLast? heq
  simp only [List.getLast?_append, List.getLast?_cons, List.getLast?_nil, Option.getD_none, Option.getD_some,
    Option.some_or] at hends
  obtain rfl : last = last' := Option.some.inj hends
  have hin : last ∈ without '$' (init' ++ [last]) := by
    refine List.mem_filter.2 ⟨by simp, ?_⟩
    have hlastNe : last ≠ '$' := by
      rintro rfl
      exact hdollar (by simp)
    simpa using hlastNe
  rw [Str.strip_eq_nil_iff.1 hblank last hin] at hlast
  cases hlast

/-- **Reading a trimmed form again gives it back**: no unambiguous symbol is in it, and the dollar sign is none, or read
for no currency, or all there is of the code. -/
theorem standardizeCurrency_again_iff {symbol : Char} {value code : Str}
    (hsymbol : symbolAndCode defaultCurrency value = some (symbol, code)) {number : Str}
    (hnumber : number = (standardizeNumeric py.toPython (amountOf symbol value) locale).1)
    (htrim : Str.trim (number ++ ' ' :: code) = number ++ ' ' :: code) :
    (standardizeCurrency py (number ++ ' ' :: code) defaultCurrency locale).1 = number ++ ' ' :: code ↔
      (∀ p ∈ defaultCurrencySymbolMap, p.1 ∉ amountOf symbol value ∧ p.1 ∉ code) ∧
        ('$' ∈ amountOf symbol value ∨ '$' ∈ code → Str.given defaultCurrency = none ∨
          (without '$' code).strip = [] ∧ NotRegrouped py.toPython locale (amountOf symbol value)) := by
  have hstrip := strip_of_trim htrim
  obtain ⟨⟨hne, hnumberTrim⟩, hcodeNe, -⟩ := Str.trim_append_space_iff.1 htrim
  have hmem : ∀ x, x ≠ ',' → x ≠ '.' → x ≠ ' ' →
    (x ∈ number ++ ' ' :: code ↔ x ∈ amountOf symbol value ∨ x ∈ code) := by
    intro x hcomma hdot hspace
    rw [List.mem_append, List.mem_cons, hnumber, mem_standardizeNumeric hcomma hdot (strip_amountOf _ _)]
    simp [hspace]
  by_cases hsymbols : ∀ p ∈ defaultCurrencySymbolMap, p.1 ∉ number ++ ' ' :: code
  · have hnone : ∀ p ∈ defaultCurrencySymbolMap, p.1 ∉ amountOf symbol value ∧ p.1 ∉ code := by
      intro p hp
      obtain ⟨⟨hcomma, hdot, hspace, -⟩, -⟩ := symbol_facts hp
      have hnot := hsymbols p hp
      rwa [hmem p.1 hcomma hdot hspace, not_or] at hnot
    rw [and_iff_right hnone, ← hmem '$' (by decide) (by decide) (by decide), standardizeCurrency_fst hstrip,
      symbolAndCode_of_notMem hsymbols]
    by_cases hdollar : '$' ∈ number ++ ' ' :: code
    · rw [if_pos hdollar, imp_iff_right hdollar]
      cases hgiven : Str.given defaultCurrency with
      | none => simp
      | some d =>
        rw [Option.map_some, Option.map_some, Option.getD_some, or_iff_right (by simp)]
        dsimp only
        constructor
        · intro hagain
          obtain ⟨again, hnumberAgain⟩ : ∃ again, again =
            (standardizeNumeric py.toPython (amountOf '$' (number ++ ' ' :: code)) locale).1 := ⟨_, rfl⟩
          rw [← hnumberAgain] at hagain
          rw [← hagain] at htrim hnumberAgain
          have hblank := strip_code_of_again htrim hnumberAgain
          rw [hagain] at hnumberAgain
          rcases symbolAndCode_cases hsymbol with hiso | ⟨rfl, hcode⟩
          · -- a code of letters ends in no dollar sign
            exact absurd hagain.symm (ne_of_strip_code hiso hblank (Str.trim_append_space_iff.1 htrim).2.1)
          · obtain rfl : code = d := Option.some.inj (hcode.symm.trans hgiven)
            have hno : '$' ∉ number := by
              rw [hnumber, mem_standardizeNumeric (by decide) (by decide) (strip_amountOf _ _)]
              exact notMem_amountOf '$' _
            have hself := (List.append_cancel_right hagain).symm.trans hnumberAgain
            rw [amountOf_form hno (strip_of_trim hnumberTrim) hblank] at hself
            refine ⟨hblank, ?_⟩
            rw [hnumber] at hself hnumberTrim
            exact (standardizeNumeric_again_iff (strip_amountOf _ _) hnumberTrim).1 hself.symm
        · rintro ⟨hblank, hnot⟩
          rcases symbolAndCode_cases hsymbol with hiso | ⟨rfl, hcode⟩
          · exact absurd hblank (symbol_facts hiso).2.1
          · obtain rfl : code = d := Option.some.inj (hcode.symm.trans hgiven)
            have hno : '$' ∉ number := by
              rw [hnumber, mem_standardizeNumeric (by decide) (by decide) (strip_amountOf _ _)]
              exact notMem_amountOf '$' _
            rw [amountOf_form hno (strip_of_trim hnumberTrim) hblank]
            have hself : (standardizeNumeric py.toPython number locale).1 = number := by
              rw [hnumber] at hnumberTrim ⊢
              exact (standardizeNumeric_again_iff (strip_amountOf _ _) hnumberTrim).2 hnot
            rw [hself]
    · rw [if_neg hdollar]
      simp [hdollar]
  · refine iff_of_false ?_ (fun h => hsymbols (fun p hp => ?_))
    · rw [not_forall] at hsymbols
      obtain ⟨p, hp⟩ := hsymbols
      rw [Classical.not_imp, not_not] at hp
      exact standardizeCurrency_of_symbol hstrip hp.1 hp.2
    · obtain ⟨⟨hcomma, hdot, hspace, -⟩, -⟩ := symbol_facts hp
      rw [hmem p.1 hcomma hdot hspace, not_or]
      exact h.1 p hp

/-- **Amounts.** -/
theorem settles_standardizeCurrency {value : Str} (hvalue : Str.trim value = value) :
    Settles (fun value => standardizeCurrency py value defaultCurrency locale)
      (standardizeCurrency py value defaultCurrency locale).1 ↔ KeepsCurrency py locale defaultCurrency value := by
  have hfst : (standardizeCurrency py value defaultCurrency locale).1 = _ := standardizeCurrency_fst (strip_of_trim hvalue)
  unfold KeepsCurrency
  cases hsymbol : symbolAndCode defaultCurrency value with
  | none =>
    rw [hsymbol, Option.map_none, Option.getD_none] at hfst
    exact iff_of_true (settles_of_eq hvalue hfst) (fun _ _ h => by cases h)
  | some p =>
    obtain ⟨symbol, code⟩ := p
    rw [hsymbol, Option.map_some, Option.getD_some] at hfst
    rw [hfst]
    dsimp only
    generalize hnumber : (standardizeNumeric py.toPython (amountOf symbol value) locale).1 = number
    have htrimNumber : Str.trim number = number ↔
        Str.trim (amountOf symbol value) = amountOf symbol value ∧ KeepsWords (amountOf symbol value) := by
      rw [← hnumber]
      exact trim_standardizeNumeric_iff (strip_amountOf _ _)
    have hnil : number ≠ [] ↔ amountOf symbol value ≠ [] := by
      rw [← hnumber]
      exact not_congr (standardizeNumeric_eq_nil_iff (strip_amountOf _ _))
    have htrim : Str.trim (number ++ ' ' :: code) = number ++ ' ' :: code ↔
        (amountOf symbol value ≠ [] ∧ Str.trim (amountOf symbol value) = amountOf symbol value ∧
          KeepsWords (amountOf symbol value)) ∧ code ≠ [] ∧ Str.trim code = code := by
      rw [Str.trim_append_space_iff, hnil, htrimNumber]
    have hcase : Settles (fun value => standardizeCurrency py value defaultCurrency locale) (number ++ ' ' :: code) ↔ _ :=
      and_congr_right (fun h => standardizeCurrency_again_iff hsymbol hnumber.symm h)
    rw [hcase, htrim]
    constructor
    · rintro h symbol' code' heq
      cases heq
      exact h
    · exact fun h => h symbol code rfl

end Standardization
end DataOps

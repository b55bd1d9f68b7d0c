import DataOps.CleaningDecimals
/-!
# CleaningIdempotent — cleaning what was cleaned

Every rule leaves what the three rules made of a cell alone (`Settled`), so that a second run changes nothing
(`clean_idempotent`).
-/
namespace DataOps

/-- What `fromisoformat` and `isoformat` promise of each other. -/
structure IsoTexts (py : PythonValues) : Prop where
  -- `datetime.fromisoformat` is the inverse of `isoformat`
  round_trip : ∀ s d, py.datetimeFromIso s = some d → py.datetimeFromIso (py.isoformat d) = some d
  -- digits, and no blank and no zone name among them
  isoformat_chars : ∀ s d, py.datetimeFromIso s = some d →
    (∀ c ∈ py.isoformat d, Str.isSpace c = false ∧ c ≠ 'Z') ∧ ∃ c ∈ py.isoformat d, py.isDigit c = true
  -- a date without a time is a datetime as well
  date_is_datetime : ∀ s d, py.dateFromIso s = some d → 'Z' ∉ s ∧ py.datetimeFromIso s ≠ none

namespace Cleaning

open Decimals (Dec Number Denotes parse)

section
variable {py : PythonValues} (digits : DigitTexts py.toPython)

/-- A cell that every rule leaves as it is. -/
structure Settled (inferredType : InferredType) (cell : Str) : Prop where
  trimmed  : Str.trim cell = cell
  notBlank : (normalizeBlank (withDecimals py digits) cell).1 = cell
  coerced  : ∃ rule, coerceType (withDecimals py digits) cell inferredType = some (cell, rule)

theorem Log.record_self (log : Log) (rowIndex : Nat) (columnName value : Str) (rule : Option RuleName) :
    log.record rowIndex columnName value value rule = log := by
  unfold Log.record
  split
  · rfl
  · rw [if_pos rfl]

theorem Settled.cleanCell {inferredType : InferredType} {cell : Str} (h : Settled digits inferredType cell)
    (rowIndex : Nat) (columnName : Str) (log : Log) :
    cleanCell (withDecimals py digits) inferredType rowIndex columnName log cell = some (log, cell) := by
  obtain ⟨rule, hcoerced⟩ := h.coerced
  unfold Cleaning.cleanCell
  dsimp only
  rw [trimWhitespace_eq, h.trimmed, h.notBlank, hcoerced]
  dsimp only
  rw [Log.record_self, Log.record_self, Log.record_self]

/-! ## What the coercions make -/

theorem isIntegerText_signText (digits : DigitTexts py.toPython) (negative : Bool) {s : Str}
    (hs : Decimals.AsciiDigits s) (hne : s ≠ []) :
    isIntegerText py (Decimals.signText negative ++ s) = true := by
  have hall : s.all py.isDigit = true := by
    rw [← digits.isDigit_eq]
    exact Decimals.all_isDigit digits.toDigits hs
  cases negative with
  | true => simp [isIntegerText, Decimals.signText, hne, hall]
  | false =>
    obtain ⟨c, rest, rfl⟩ := List.exists_cons_of_ne_nil hne
    have hc := hs c List.mem_cons_self
    have hminus := Decimals.ne_of_isDigit hc '-' (by decide)
    have hplus := Decimals.ne_of_isDigit hc '+' (by decide)
    unfold isIntegerText Decimals.signText
    rw [if_neg (by decide), List.nil_append]
    split
    · rename_i heq
      exact absurd (List.cons.inj heq).1 hplus
    · rename_i heq
      exact absurd (List.cons.inj heq).1 hminus
    · simp [hall]

/-- The text of an integer is an integer text. -/
theorem isIntegerText_fixedText (digits : DigitTexts py.toPython) {d : Dec} (hexp : d.exponent = 0) :
    isIntegerText py d.fixedText = true := by
  obtain ⟨whole, decimals, hwhole, hne, -, ⟨-, htext, -⟩ | ⟨hneg, -⟩⟩ := Decimals.exists_fixedText d
  · rw [htext]
    exact isIntegerText_signText digits d.negative hwhole hne
  · omega

theorem settled_fixedText {inferredType : InferredType} {d : Dec}
    (hcoerced : ∃ rule, coerceType (withDecimals py digits) d.fixedText inferredType = some (d.fixedText, rule)) :
    Settled digits inferredType d.fixedText := by
  obtain ⟨negative, c, rest, hc, htext⟩ := exists_digit_fixedText d
  have hmem : c ∈ d.fixedText := by
    rw [htext]
    exact List.mem_append_right _ List.mem_cons_self
  have hdigit : py.isDigit c = true := by
    rw [← digits.isDigit_eq]
    exact Decimals.isDigit_of_ascii digits.toDigits hc
  exact {
    trimmed := Str.trim_eq_self (fun x hx => (isSpace_of_plain (Decimals.mem_fixedText hx)).1)
    notBlank := by rw [normalizeBlank_of_digit digits hmem hdigit]
    coerced := hcoerced }

theorem fixedText_ne_nil (d : Dec) : d.fixedText ≠ [] := by
  obtain ⟨negative, c, rest, -, htext⟩ := exists_digit_fixedText d
  rw [htext]
  simp

theorem coerceInteger_settled {value out : Str} {rule : Option RuleName} (hstrip : value.strip = value)
    (hout : coerceInteger (withDecimals py digits) value = some (out, rule)) :
    out = value ∨ Settled digits .integer out := by
  unfold coerceInteger at hout
  dsimp only at hout
  rw [hstrip] at hout
  split at hout
  · rw [if_pos rfl] at hout
    cases hout
    exact .inl rfl
  · split at hout
    · cases hout
      exact .inl rfl
    · rename_i number hparse
      split at hout
      · rename_i hintegral
        obtain ⟨t, ht, heq⟩ := Option.map_eq_some_iff.1 hout
        cases heq
        cases number with
        | special => cases hintegral.1
        | finite d =>
          obtain ⟨r, rfl, -, hexp, -⟩ := exists_intText ht hintegral.2
          have hinteger := isIntegerText_fixedText digits hexp
          have hpy : isIntegerText (withDecimals py digits) r.fixedText = true := hinteger
          refine .inr (settled_fixedText digits ⟨none, ?_⟩)
          unfold coerceType
          rw [if_neg (fixedText_ne_nil r)]
          unfold coerceInteger
          dsimp only
          rw [strip_fixedText, hpy, if_pos rfl, if_pos rfl]
      · cases hout
        exact .inl rfl

theorem coerceDecimal_settled {value out : Str} {rule : Option RuleName}
    (hout : coerceDecimal (withDecimals py digits) value = some (out, rule)) :
    out = value ∨ Settled digits .decimal out := by
  unfold coerceDecimal at hout
  split at hout
  · cases hout
    exact .inl rfl
  · rename_i number hparse
    split at hout
    · cases hout
      exact .inl rfl
    · obtain ⟨t, ht, heq⟩ := Option.map_eq_some_iff.1 hout
      split at heq
      · cases heq
        exact .inl rfl
      · cases heq
        cases number with
        | special => cases ht
        | finite d =>
          obtain ⟨r, hnormal, rfl⟩ := Option.map_eq_some_iff.1 ht
          have hcanonical := Decimals.normalize_canonical (by decide) hnormal
          have hreads : (withDecimals py digits).decimal r.fixedText.strip = some (.finite r.expand) := by
            rw [strip_fixedText]
            exact parse_fixedText digits.toDigits (isExact_of_canonical hcanonical)
          have hplain : (withDecimals py digits).plainText (.finite r.expand) = some r.fixedText := by
            have hagain := Decimals.normalize_expand (by decide) hcanonical
            exact Option.map_eq_some_iff.2 ⟨r, hagain, rfl⟩
          have hfinite : (withDecimals py digits).isFinite (.finite r.expand) = true := rfl
          refine .inr (settled_fixedText digits ⟨none, ?_⟩)
          unfold coerceType
          rw [if_neg (fixedText_ne_nil r)]
          unfold coerceDecimal
          rw [hreads]
          dsimp only
          rw [hfinite, hplain]
          simp

theorem settled_boolean {cell : Str} (htrim : Str.trim cell = cell) (hfold : py.casefold cell = cell)
    (hcell : (cell = "true".toList ∨ cell = "false".toList)) : Settled digits .boolean cell := by
  have hcasefold : (withDecimals py digits).casefold cell = cell := hfold
  have hstrip : cell.strip = cell := by
    rw [← htrim, Str.strip_trim]
  constructor
  · exact htrim
  · unfold normalizeBlank
    rw [hcasefold]
    rcases hcell with rfl | rfl <;> rfl
  · refine ⟨none, ?_⟩
    unfold coerceType coerceBoolean
    rw [hstrip, hcasefold]
    rcases hcell with rfl | rfl <;> rfl

theorem coerceBoolean_settled {value out : Str} {rule : Option RuleName}
    (hout : coerceBoolean (withDecimals py digits) value = (out, rule)) : out = value ∨ Settled digits .boolean out := by
  unfold coerceBoolean at hout
  dsimp only at hout
  split at hout
  · cases hout
    exact .inl rfl
  · rename_i canonical hcanonical
    cases hout
    split at hcanonical
    · cases hcanonical
      exact .inr (settled_boolean digits (by decide) py.casefold_true (.inl rfl))
    · split at hcanonical
      · cases hcanonical
        exact .inr (settled_boolean digits (by decide) py.casefold_false (.inr rfl))
      · cases hcanonical

theorem replaceZulu_eq_self {s : Str} (h : 'Z' ∉ s) : replaceZulu s = s := by
  unfold replaceZulu
  induction s with
  | nil => rfl
  | cons c s ih =>
    have hc : c ≠ 'Z' := fun heq => h (heq ▸ List.mem_cons_self)
    rw [List.flatMap_cons, if_neg hc, ih (fun hmem => h (List.mem_cons_of_mem _ hmem))]
    rfl

/-- Whatever is parsed, a datetime parser did it. -/
theorem exists_datetimeFromIso (hiso : IsoTexts py) {s : Str} {d : py.DateTime} (h : fromIso py s = some d) :
    py.datetimeFromIso (replaceZulu s) = some d := by
  unfold fromIso at h
  split at h
  · rename_i parsed heq
    exact heq.trans h
  · rename_i hnone
    obtain ⟨hzulu, hsome⟩ := hiso.date_is_datetime s d h
    rw [replaceZulu_eq_self hzulu] at hnone
    exact absurd hnone hsome

/-- What a datetime is written as is read back, and is not blank. -/
theorem fromIso_isoformat (hiso : IsoTexts py) {s : Str} {d : py.DateTime} (h : fromIso py s = some d) :
    fromIso py (py.isoformat d) = some d ∧ (∀ c ∈ py.isoformat d, Str.isSpace c = false) ∧
      ∃ c ∈ py.isoformat d, py.isDigit c = true := by
  have hdatetime := exists_datetimeFromIso hiso h
  obtain ⟨hchars, hdigit⟩ := hiso.isoformat_chars _ _ hdatetime
  have hagain := hiso.round_trip _ _ hdatetime
  refine ⟨?_, fun c hc => (hchars c hc).1, hdigit⟩
  unfold fromIso
  rw [replaceZulu_eq_self (fun hmem => (hchars _ hmem).2 rfl), hagain]

theorem fromIso_withDecimals (s : Str) : fromIso (withDecimals py digits) s = fromIso py s := by
  cases hdatetime : py.datetimeFromIso (replaceZulu s) with
  | none =>
    have hdecimals : (withDecimals py digits).datetimeFromIso (replaceZulu s) = none := hdatetime
    unfold fromIso
    rw [hdecimals, hdatetime]
    rfl
  | some d =>
    have hdecimals : (withDecimals py digits).datetimeFromIso (replaceZulu s) = some d := hdatetime
    unfold fromIso
    rw [hdecimals, hdatetime]
    rfl

theorem coerceDate_settled (hiso : IsoTexts py) {value out : Str} {rule : Option RuleName}
    (hout : coerceDate (withDecimals py digits) value = (out, rule)) {inferredType : InferredType}
    (htype : inferredType = .date ∨ inferredType = .datetime) : out = value ∨ Settled digits inferredType out := by
  unfold coerceDate at hout
  split at hout
  · cases hout
    exact .inl rfl
  · rename_i parsed hparsed
    dsimp only at hout
    split at hout
    · cases hout
      exact .inl rfl
    · cases hout
      have hpy : fromIso py value.strip = some parsed := (fromIso_withDecimals digits _).symm.trans hparsed
      obtain ⟨hagain, hchars, c, hc, hdigit⟩ := fromIso_isoformat hiso hpy
      have hself : fromIso (withDecimals py digits) (py.isoformat parsed) = some parsed :=
        (fromIso_withDecimals digits _).trans hagain
      have hcoerce : coerceDate (withDecimals py digits) (py.isoformat parsed) = (py.isoformat parsed, none) := by
        unfold coerceDate
        rw [Str.strip_eq_self hchars, hself]
        exact if_pos rfl
      refine .inr ⟨Str.trim_eq_self hchars, ?_, none, ?_⟩
      · exact congrArg Prod.fst (normalizeBlank_of_digit digits hc hdigit)
      · unfold coerceType
        have hne : (withDecimals py digits).isoformat parsed ≠ [] := List.ne_nil_of_mem hc
        rw [if_neg hne]
        rcases htype with rfl | rfl <;> exact congrArg some hcoerce

/-! ## A cell, a row, a run -/

theorem coerceType_settled (hiso : IsoTexts py) {value out : Str} {rule : Option RuleName} {inferredType : InferredType}
    (hstrip : value.strip = value) (hne : value ≠ [])
    (hout : coerceType (withDecimals py digits) value inferredType = some (out, rule)) :
    out = value ∨ Settled digits inferredType out := by
  unfold coerceType at hout
  rw [if_neg hne] at hout
  cases inferredType with
  | integer => exact coerceInteger_settled digits hstrip hout
  | decimal => exact coerceDecimal_settled digits hout
  | boolean => exact coerceBoolean_settled digits (Option.some.inj hout)
  | date => exact coerceDate_settled digits hiso (Option.some.inj hout) (.inl rfl)
  | datetime => exact coerceDate_settled digits hiso (Option.some.inj hout) (.inr rfl)
  | string =>
    cases hout
    exact .inl rfl
  | null =>
    cases hout
    exact .inl rfl
  | mixed =>
    cases hout
    exact .inl rfl

/-- **What the rules make of a cell is settled.** -/
theorem settled_of_cleanCell (hiso : IsoTexts py) {inferredType : InferredType} {rowIndex : Nat}
    {columnName cell out : Str} {log log' : Log}
    (h : cleanCell (withDecimals py digits) inferredType rowIndex columnName log cell = some (log', out)) :
    Settled digits inferredType out := by
  have hempty : Settled digits inferredType [] := by
    refine ⟨rfl, ?_, none, ?_⟩
    · unfold normalizeBlank
      rw [if_pos rfl]
    · unfold coerceType
      rw [if_pos rfl]
  obtain ⟨value, hvalue⟩ : ∃ value, value = (normalizeBlank (withDecimals py digits) (Str.trim cell)).1 := ⟨_, rfl⟩
  have hcoerced : ∃ rule, coerceType (withDecimals py digits) value inferredType = some (out, rule) := by
    unfold Cleaning.cleanCell at h
    dsimp only at h
    rw [trimWhitespace_eq, ← hvalue] at h
    split at h
    · cases h
    · rename_i coerced heq
      cases h
      exact ⟨coerced.2, heq⟩
  obtain ⟨rule, hcoerced⟩ := hcoerced
  by_cases hnil : value = []
  · unfold coerceType at hcoerced
    rw [if_pos hnil, hnil] at hcoerced
    cases hcoerced
    exact hempty
  · have hkept : value = Str.trim cell ∧ normalizeBlank (withDecimals py digits) value = (value, none) := by
      unfold normalizeBlank at hvalue
      split at hvalue
      · exact absurd (hvalue.trans ‹_›) hnil
      · split at hvalue
        · exact absurd hvalue hnil
        · rename_i hfold
          refine ⟨hvalue, ?_⟩
          unfold normalizeBlank
          rw [if_neg hnil, if_neg (hvalue ▸ hfold)]
    obtain ⟨htrim, hblank⟩ := hkept
    have hstrip : value.strip = value := by rw [htrim, Str.strip_trim]
    rcases coerceType_settled digits hiso hstrip hnil hcoerced with rfl | hsettled
    · exact ⟨by rw [htrim, Str.trim_trim], by rw [hblank], rule, hcoerced⟩
    · exact hsettled

theorem cleanRow_again (hiso : IsoTexts py) (rowIndex : Nat) : ∀ {row out : List Str} {columns : List (Str × InferredType)}
    {log log' : Log}, cleanRow (withDecimals py digits) rowIndex columns log row = some (log', out) →
    ∀ log'', cleanRow (withDecimals py digits) rowIndex columns log'' out = some (log'', out)
  | [], out, columns, log, log', h, log'' => by
    rw [cleanRow] at h
    cases h
    rw [cleanRow]
  | cell :: row, out, [], log, log', h, log'' => by
    rw [cleanRow] at h
    cases h
  | cell :: row, out, (columnName, inferredType) :: columns, log, log', h, log'' => by
    obtain ⟨mid, value, rest, hcell, hrow, rfl⟩ := cleanRow_cons h
    have hsettled := settled_of_cleanCell digits hiso hcell
    have ih := cleanRow_again hiso rowIndex hrow log''
    rw [cleanRow, hsettled.cleanCell digits rowIndex columnName log'']
    dsimp only
    rw [ih]
    rfl

theorem cleanRows_again (hiso : IsoTexts py) {columns : List (Str × InferredType)} : ∀ {rows out : List (List Str)}
    {rowIndex : Nat} {log log' : Log}, cleanRows (withDecimals py digits) columns rowIndex log rows = some (log', out) →
    ∀ log'', cleanRows (withDecimals py digits) columns rowIndex log'' out = some (log'', out)
  | [], out, rowIndex, log, log', h, log'' => by
    rw [cleanRows] at h
    cases h
    rw [cleanRows]
  | row :: rows, out, rowIndex, log, log', h, log'' => by
    obtain ⟨mid, cleaned, rest, hrow, hrows, rfl⟩ := cleanRows_cons h
    have ih := cleanRows_again hiso hrows log''
    rw [cleanRows, cleanRow_again digits hiso rowIndex hrow log'']
    dsimp only
    rw [ih]
    rfl

/-- **Cleaning what was cleaned changes nothing**: the same rows, and no change recorded. -/
theorem clean_idempotent (hiso : IsoTexts py) (rows : List (List Str)) (headers : List Str)
    (columnTypes : List InferredType) (limits : CleaningLimits) (result : CleaningResult)
    (h : clean (withDecimals py digits) rows headers columnTypes limits = some result) :
    ∃ again, clean (withDecimals py digits) result.cleanedRows headers columnTypes limits = some again ∧
      again.cleanedRows = result.cleanedRows ∧ again.totalChangesCount = 0 ∧ again.changes = [] ∧
      again.changesByRule = [] := by
  obtain ⟨log, hrows, -⟩ := clean_ok h
  unfold clean
  rw [cleanRows_again digits hiso hrows ⟨[], []⟩]
  exact ⟨_, rfl, rfl, rfl, List.take_nil, rfl⟩

end

/-! ## A table -/

/-- ASCII texts with one datetime, that has two texts. -/
def oneDayValues : PythonValues :=
  { asciiValues with
    datetimeFromIso := fun s =>
      if s = "2024-01-02".toList ∨ s = "2024-01-02T00:00:00".toList then some () else none
    isoformat := fun _ => "2024-01-02T00:00:00".toList }

theorem oneDayValues_isoTexts : IsoTexts oneDayValues where
  round_trip := fun _ _ _ => rfl
  isoformat_chars := fun _ _ _ => by
    have hall : "2024-01-02T00:00:00".toList.all (fun c => decide (Str.isSpace c = false ∧ c ≠ 'Z')) = true := by decide
    refine ⟨fun c hc => ?_, '2', by simp [oneDayValues], by decide⟩
    simpa using List.all_eq_true.1 hall c hc
  date_is_datetime := fun _ _ h => by cases h

def messyTable : List (List Str) :=
  [["1.50 ".toList, "1E3".toList, "YES".toList, "2024-01-02".toList, "a  b".toList],
   ["x".toList, "-".toList, "maybe".toList, "N/A".toList, "".toList]]

def messyResult : CleaningResult where
  cleanedRows :=
    [["1.5".toList, "1000".toList, "true".toList, "2024-01-02T00:00:00".toList, "a b".toList],
     ["x".toList, "".toList, "maybe".toList, "".toList, "".toList]]
  changes := []
  totalChangesCount := 8
  changesByRule :=
    [(.trimWhitespace, 2), (.coerceDecimal, 1), (.coerceInteger, 1), (.coerceBoolean, 1), (.normalizeDateFormat, 1),
      (.normalizeBlank, 2)]
  duplicateRowCount := 0
  confidenceScore := 7 / 10

theorem clean_idempotent_messyTable :
    ∃ again, clean (withDecimals oneDayValues asciiDigitTexts) messyResult.cleanedRows
        [['a'], ['b'], ['c'], ['d'], ['e']] [.decimal, .integer, .boolean, .date, .string] ⟨0⟩ = some again ∧
      again.cleanedRows = messyResult.cleanedRows ∧ again.totalChangesCount = 0 ∧ again.changes = [] ∧
      again.changesByRule = [] :=
  @clean_idempotent oneDayValues asciiDigitTexts oneDayValues_isoTexts messyTable [['a'], ['b'], ['c'], ['d'], ['e']]
    [.decimal, .integer, .boolean, .date, .string] ⟨0⟩ messyResult (by decide +kernel)

end Cleaning
end DataOps

import DataOps.CleaningDecimals
/-!
# CleaningRaises — the cells that make a cleaning run fail

A coercion raises on exactly two kinds of cells: an integer of more than 4300 digits that is not written with digits
alone, in an integer column, and a number beyond the range of the default context, in a decimal column
(`clean_returns_iff`).
-/
namespace DataOps
namespace Cleaning

open Decimals (Dec Number Denotes parse)

section
variable {py : PythonValues} (digits : DigitTexts py.toPython)

/-- **What makes a coercion raise.** -/
def Raises (inferredType : InferredType) (cell : Str) : Prop :=
  (inferredType = .integer ∧ isIntegerText py cell.strip = false ∧
    ∃ n : Int, Denotes digits.toDigits cell n ∧ 10 ^ intMaxStrDigits ≤ |n|) ∨
  (inferredType = .decimal ∧ ∃ q, Denotes digits.toDigits cell q ∧ defaultContext.overflowBound ≤ |q|)

/-! ## The coercions -/

theorem denotes_iff_of_parse {s : Str} {d : Dec} (h : parse digits.toDigits s.strip = some (.finite d)) (q : Rat) :
    Denotes digits.toDigits s q ↔ d.value = q := by
  rw [← denotes_strip]
  constructor
  · rintro ⟨d', hd', rfl⟩
    rw [h] at hd'
    cases hd'
    rfl
  · exact fun hq => ⟨d, h, hq⟩

theorem not_denotes_of_parse {s : Str} (h : ∀ d, parse digits.toDigits s.strip ≠ some (.finite d)) (q : Rat) :
    ¬ Denotes digits.toDigits s q := by
  rw [← denotes_strip]
  rintro ⟨d, hd, -⟩
  exact h d hd

theorem coerceInteger_eq_none_iff (value : Str) : coerceInteger (withDecimals py digits) value = none ↔
    isIntegerText py value.strip = false ∧ ∃ n : Int, Denotes digits.toDigits value n ∧ 10 ^ intMaxStrDigits ≤ |n| := by
  have htext : isIntegerText (withDecimals py digits) value.strip = isIntegerText py value.strip := rfl
  have hdecimal : (withDecimals py digits).decimal value.strip = parse digits.toDigits value.strip := rfl
  unfold coerceInteger
  dsimp only
  rw [htext, hdecimal]
  by_cases hinteger : isIntegerText py value.strip = true
  · rw [if_pos hinteger, hinteger]
    split <;> simp
  · rw [if_neg hinteger, Bool.eq_false_iff.2 hinteger]
    simp only [true_and]
    cases hparse : parse digits.toDigits value.strip with
    | none =>
      have hnot := not_denotes_of_parse digits (fun d => by rw [hparse]; simp)
      simp [hnot]
    | some number =>
      cases number with
      | special =>
        have hnot := not_denotes_of_parse digits (fun d => by rw [hparse]; simp)
        have hfinite : (withDecimals py digits).isFinite .special = false := rfl
        simp [hnot, hfinite]
      | finite d =>
        have hdenotes := denotes_iff_of_parse digits hparse
        have hfinite : (withDecimals py digits).isFinite (.finite d) = true := rfl
        have hintegral : (withDecimals py digits).isIntegral (.finite d) = d.isIntegral := rfl
        have hint : (withDecimals py digits).intText (.finite d) = d.intText intMaxStrDigits := rfl
        dsimp only
        rw [hfinite, hintegral, hint]
        simp only [true_and, hdenotes]
        by_cases hd : d.isIntegral = true
        · obtain ⟨n, hn⟩ := (Decimals.isIntegral_iff d).1 hd
          rw [if_pos hd, Option.map_eq_none_iff, intText_eq_none_iff hd, hn]
          constructor
          · exact fun h => ⟨n, rfl, by exact_mod_cast h⟩
          · rintro ⟨m, hm, h⟩
            rw [Int.cast_inj.1 hm]
            exact_mod_cast h
        · rw [if_neg hd]
          constructor
          · exact fun h => absurd h (by simp)
          · rintro ⟨n, hn, -⟩
            exact absurd ((Decimals.isIntegral_iff d).2 ⟨n, hn⟩) hd

theorem coerceDecimal_eq_none_iff (value : Str) : coerceDecimal (withDecimals py digits) value = none ↔
    ∃ q, Denotes digits.toDigits value q ∧ defaultContext.overflowBound ≤ |q| := by
  have hdecimal : (withDecimals py digits).decimal value.strip = parse digits.toDigits value.strip := rfl
  unfold coerceDecimal
  rw [hdecimal]
  cases hparse : parse digits.toDigits value.strip with
  | none =>
    have hnot := not_denotes_of_parse digits (fun d => by rw [hparse]; simp)
    simp [hnot]
  | some number =>
    cases number with
    | special =>
      have hnot := not_denotes_of_parse digits (fun d => by rw [hparse]; simp)
      have hfinite : (withDecimals py digits).isFinite .special = false := rfl
      simp [hnot, hfinite]
    | finite d =>
      have hfinite : (withDecimals py digits).isFinite (.finite d) = true := rfl
      have hplain : (withDecimals py digits).plainText (.finite d) = (defaultContext.normalize d).map Dec.fixedText := rfl
      have hdenotes := denotes_iff_of_parse digits hparse
      dsimp only
      rw [hfinite, hplain]
      simp only [not_true_eq_false, if_false, Option.map_eq_none_iff, hdenotes, exists_eq_left']
      unfold Decimals.Context.normalize
      rw [Option.map_eq_none_iff, Decimals.round_eq_none_iff (by decide) (by decide)]

theorem coerceType_eq_none_iff (value : Str) (inferredType : InferredType) :
    coerceType (withDecimals py digits) value inferredType = none ↔ Raises digits inferredType value := by
  unfold Raises
  by_cases hempty : value = []
  · subst hempty
    have hnil : parse digits.toDigits (Str.strip []) = none := parse_nil digits.toDigits
    have hnot := not_denotes_of_parse digits (fun d => by rw [hnil]; simp)
    simp [coerceType, hnot]
  · unfold coerceType
    rw [if_neg hempty]
    cases inferredType with
    | integer => simp [coerceInteger_eq_none_iff digits]
    | decimal => simp [coerceDecimal_eq_none_iff digits]
    | boolean => simp
    | date => simp
    | datetime => simp
    | string => simp
    | null => simp
    | mixed => simp

/-! ## A cell, a row, a run -/

theorem raises_trim (inferredType : InferredType) (cell : Str) :
    Raises digits inferredType (Str.trim cell) ↔ Raises digits inferredType cell := by
  unfold Raises
  simp only [denotes_trim]
  constructor
  · rintro (⟨htype, hinteger, n, hn, hlarge⟩ | h)
    · rw [Str.strip_trim, trim_of_denotes digits hn] at hinteger
      exact .inl ⟨htype, hinteger, n, hn, hlarge⟩
    · exact .inr h
  · rintro (⟨htype, hinteger, n, hn, hlarge⟩ | h)
    · refine .inl ⟨htype, ?_, n, hn, hlarge⟩
      rwa [Str.strip_trim, trim_of_denotes digits hn]
    · exact .inr h

theorem exists_denotes_of_raises {inferredType : InferredType} {cell : Str} (h : Raises digits inferredType cell) :
    ∃ q, Denotes digits.toDigits cell q := by
  rcases h with ⟨-, -, n, hn, -⟩ | ⟨-, q, hq, -⟩
  · exact ⟨n, hn⟩
  · exact ⟨q, hq⟩

/-- **A cell raises where its coercion does**, whatever its blanks. -/
theorem cleanCell_eq_none_iff (inferredType : InferredType) (rowIndex : Nat) (columnName : Str) (log : Log) (cell : Str) :
    cleanCell (withDecimals py digits) inferredType rowIndex columnName log cell = none ↔
      Raises digits inferredType cell := by
  have hcoerce : cleanCell (withDecimals py digits) inferredType rowIndex columnName log cell = none ↔
      coerceType (withDecimals py digits)
        (normalizeBlank (withDecimals py digits) (trimWhitespace cell).1).1 inferredType =
        none := by
    unfold cleanCell
    dsimp only
    split
    · rename_i h
      simp [h]
    · rename_i h
      simp [h]
  rw [hcoerce, coerceType_eq_none_iff, trimWhitespace_eq, ← raises_trim digits inferredType cell]
  constructor
  · intro h
    obtain ⟨q, hq⟩ := exists_denotes_of_raises digits h
    unfold normalizeBlank at h hq
    split at h
    · exact h
    · rename_i hne
      rw [if_neg hne] at hq
      split at h
      · rename_i hblank
        rw [if_pos hblank] at hq
        obtain ⟨d, hd, -⟩ := hq
        obtain ⟨-, c, hc, -⟩ := Decimals.chars_of_parse digits.toDigits hd
        cases hc
      · exact h
  · intro h
    obtain ⟨q, hq⟩ := exists_denotes_of_raises digits h
    rwa [normalizeBlank_of_denotes digits hq]

theorem cleanRow_eq_none_iff (rowIndex : Nat) : ∀ {row : List Str} {columns : List (Str × InferredType)} (log : Log),
    row.length ≤ columns.length → (cleanRow (withDecimals py digits) rowIndex columns log row = none ↔
      ∃ p ∈ columns.zip row, Raises digits p.1.2 p.2)
  | [], columns, log, _ => by simp [cleanRow]
  | cell :: row, [], log, h => by simp at h
  | cell :: row, (columnName, inferredType) :: columns, log, h => by
    rw [List.zip_cons_cons]
    simp only [List.mem_cons, exists_eq_or_imp]
    rw [← cleanCell_eq_none_iff digits inferredType rowIndex columnName log cell, cleanRow]
    cases hcell : cleanCell (withDecimals py digits) inferredType rowIndex columnName log cell with
    | none => simp
    | some result =>
      have ih := cleanRow_eq_none_iff rowIndex result.1 (Nat.le_of_succ_le_succ h)
      simp [ih]

theorem cleanRows_eq_none_iff {columns : List (Str × InferredType)} :
    ∀ {rows : List (List Str)} (rowIndex : Nat) (log : Log),
    (∀ row ∈ rows, row.length ≤ columns.length) → (cleanRows (withDecimals py digits) columns rowIndex log rows = none ↔
      ∃ row ∈ rows, ∃ p ∈ columns.zip row, Raises digits p.1.2 p.2)
  | [], rowIndex, log, _ => by simp [cleanRows]
  | row :: rows, rowIndex, log, h => by
    simp only [List.mem_cons, exists_eq_or_imp]
    rw [← cleanRow_eq_none_iff digits rowIndex log (h row List.mem_cons_self), cleanRows]
    cases hrow : cleanRow (withDecimals py digits) rowIndex columns log row with
    | none => simp
    | some result =>
      have ih := cleanRows_eq_none_iff (rowIndex + 1) result.1 (fun r hr => h r (List.mem_cons_of_mem _ hr))
      simp [ih]

/-- **A cell's rules return if and only if** it is not of these kinds, and a run returns if and only if no cell is. -/
theorem clean_returns_iff (rows : List (List Str)) (headers : List Str) (columnTypes : List InferredType)
    (limits : CleaningLimits) (huniform : ∀ row ∈ rows, row.length ≤ (headers.zip columnTypes).length) :
    (∀ cell inferredType, coerceType (withDecimals py digits)
        (normalizeBlank (withDecimals py digits) (trimWhitespace cell).1).1 inferredType ≠ none ↔
      ¬ Raises digits inferredType cell) ∧
    (clean (withDecimals py digits) rows headers columnTypes limits ≠ none ↔
      ∀ row ∈ rows, ∀ p ∈ (headers.zip columnTypes).zip row, ¬ Raises digits p.1.2 p.2) := by
  constructor
  · intro cell inferredType
    rw [ne_eq, ← cleanCell_eq_none_iff digits inferredType 0 [] ⟨[], []⟩ cell]
    unfold cleanCell
    dsimp only
    split
    · rename_i h
      simp [h]
    · rename_i h
      simp [h]
  · have hrows := cleanRows_eq_none_iff digits 0 ⟨[], []⟩ huniform
    have hclean : clean (withDecimals py digits) rows headers columnTypes limits = none ↔
        cleanRows (withDecimals py digits) (headers.zip columnTypes) 0 ⟨[], []⟩ rows = none := by
      unfold clean
      split
      · rename_i h
        simp [h]
      · rename_i h
        simp [h]
    rw [ne_eq, hclean, hrows]
    push Not
    rfl

end

/-- Eight characters that denote an integer of five thousand and one digits, and nine that overflow. -/
theorem clean_raises :
    clean (withDecimals asciiValues asciiDigitTexts) [["1.0E5000".toList]] [['n']] [.integer] ⟨1000⟩ = none ∧
    clean (withDecimals asciiValues asciiDigitTexts) [["1E1000000".toList]] [['n']] [.decimal] ⟨1000⟩ = none := by
  decide +kernel

theorem clean_returns_iff_price :
    clean (withDecimals asciiValues asciiDigitTexts) [["1.50".toList]] [['n']] [.decimal] ⟨1000⟩ ≠ none ↔
      ∀ row ∈ [["1.50".toList]], ∀ p ∈ ([['n']].zip [InferredType.decimal]).zip row,
        ¬ @Raises asciiValues asciiDigitTexts p.1.2 p.2 :=
  (@clean_returns_iff asciiValues asciiDigitTexts [["1.50".toList]] [['n']] [.decimal] ⟨1000⟩ (by decide)).2

end Cleaning
end DataOps

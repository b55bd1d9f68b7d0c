import DataOps.CsvHandOff
import DataOps.DetectStorable
import DataOps.MatchStorable
/-!
# PersistenceWidths — what the engines emit against what the tables hold

Every check of the four tables is kept.  The columns are not: `load_csv` bounds neither a header, nor a cell by the width
of a blocking key, and lets U+0000 through.
-/
namespace DataOps

def longValue : Str := List.replicate 501 'a'

def longHeader : Str := List.replicate 256 'h'

def longHeaders : List Str := ["name".toList, longHeader]

def longRows : List (List Str) := [[longValue, " 1".toList], [longValue, " 2".toList]]

def longTable : Table := ⟨longHeaders, longRows, by decide⟩

theorem comma_offered : ',' = ',' ∨ ',' = ';' ∨ ',' = '\t' ∨ ',' = '|' := .inl rfl

theorem doubleQuote_offered : '"' = '"' ∨ '"' = '\'' := .inl rfl

/-- A sniffer that sees commas. -/
def commas : Profiling.Sniffed where
  delimiter := ','
  quotechar := '"'
  doublequote := false
  skipinitialspace := false
  offered := comma_offered
  quote := doubleQuote_offered

/-- Rows of one name are duplicates. -/
def nameRules : Matching.MatchRuleSetConfig where
  duplicateThreshold := 9 / 10
  reviewThreshold := 7 / 10
  fields := [⟨"name".toList, .exact, 1, by norm_num⟩]
  reviewThreshold_nonneg := by norm_num
  reviewThreshold_lt := by norm_num
  duplicateThreshold_le := by norm_num

def longDataset : Detection.ConfiguredDataset Detection.asciiRounding where
  toTable := longTable
  threshold_pos := by
    intro header rule hrule
    cases hrule

theorem longTable_loadable : Profiling.Loadable Profiling.defaultLimits longHeaders longRows := by
  exact ⟨by decide, by decide +kernel, by decide, by decide, by decide, by decide +kernel, by decide +kernel⟩

theorem longTable_givesBack :
    Profiling.GivesBack (fun _ => some commas) Profiling.defaultLimits longHeaders longRows := by
  refine ⟨?_, by decide, by decide +kernel⟩
  rw [Profiling.serializeCsv_eq, List.utf8Encode, List.size_toByteArray]
  decide +kernel

theorem longTable_wide_key :
    ¬ Matching.KeysFit Detection.asciiRounding.casefold longTable ⟨1000, 10000, 20⟩ (some nameRules) := by
  intro hfit
  obtain ⟨-, hpairs | hfull⟩ := hfit nameRules _ rfl longValue (by decide +kernel) (by decide +kernel)
  · revert hpairs
    decide +kernel
  · revert hfull
    decide +kernel

theorem longTable_wide_name : ¬ Detection.TextsFit longDataset.toDetectionDataset ⟨10000⟩ := by
  refine Detection.exists_unfit_kept.1
    ⟨⟨2, some longHeader, .leadingWhitespace, .info, some " 1".toList, some "1".toList⟩, by decide +kernel,
      fun hfit => ?_⟩
  have hlong : longHeader.fits Detection.columnNameWidth = false := by decide +kernel
  exact Bool.false_ne_true (hlong.symm.trans (hfit.columnName longHeader rfl))

def nulTable : Table := ⟨["name".toList], [[[' ', Str.nul]]], by decide⟩

def nulDataset : Detection.ConfiguredDataset Detection.asciiRounding where
  toTable := nulTable
  threshold_pos := by
    intro header rule hrule
    cases hrule

-- a blank before a U+0000
example : ¬ Detection.TextsFit nulDataset.toDetectionDataset ⟨10000⟩ := by
  refine Detection.exists_unfit_kept.1
    ⟨⟨2, some "name".toList, .leadingWhitespace, .info, some [' ', Str.nul], some [Str.nul]⟩, by decide +kernel,
      fun hfit => hfit.originalValue [' ', Str.nul] rfl (by decide)⟩

end DataOps

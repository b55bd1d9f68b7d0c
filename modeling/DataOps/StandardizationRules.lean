import DataOps.DetectRules
/-!
# StandardizationRules — the value rules that remediation reuses

A rule returns the text it was given, or its canonical form and the name of the rule.
-/
namespace DataOps
namespace Standardization

inductive RuleName
  | trimWhitespace | titleCase | upperCase | lowerCase | companySuffixLookup | phoneE164 | addressAbbreviation
  | stateProvinceAbbreviation | countryIsoNormalize | postalCodeFormat | dateFormatNormalize | timeFormatNormalize
  | booleanFormatNormalize | numericFormatNormalize | currencyFormatNormalize | abbreviationLookup
deriving DecidableEq, Repr

inductive NumericLocale
  | us | eu
deriving DecidableEq, Repr

variable (py : Python)

/-! ## Casing -/

def lowerCase (value : Str) : Str := py.lower value

def upperCase (value : Str) : Str := py.upper value

def titleCase (value : Str) : Str :=
  [' '].intercalate ((value.splitOn ' ').map (fun word =>
    if word = [] then word else py.upper (word.take 1) ++ py.lower (word.drop 1)))

/-! ## Booleans and numbers -/

/-- `_BOOLEAN_TRUE` and `_BOOLEAN_FALSE`. -/
def booleanTrue : List Str := ["true".toList, "yes".toList, "y".toList, "1".toList]
def booleanFalse : List Str := ["false".toList, "no".toList, "n".toList, "0".toList]

def standardizeBoolean (value : Str) (outputForm : Option (Str × Str)) : Str × Option RuleName :=
  if value = [] then (value, none)
  else
    let lowered := py.casefold value.strip
    let (trueForm, falseForm) := outputForm.getD ("true".toList, "false".toList)
    let canonical :=
      if lowered ∈ booleanTrue then some trueForm else if lowered ∈ booleanFalse then some falseForm else none
    match canonical with
    | none           => (value, none)
    | some canonical => if canonical = value then (value, none) else (canonical, some .booleanFormatNormalize)

/-- `s.rfind(c)`. -/
def rfind (c : Char) (s : Str) : Int :=
  match s.reverse.idxOf? c with
  | none   => -1
  | some k => s.length - 1 - k

/-- `^-?\d+,\d{1,2}$`. -/
def trailingCommaDecimal (s : Str) : Bool :=
  let unsigned := match s with
    | '-' :: s => s
    | s        => s
  match unsigned.splitOn ',' with
  | [whole, decimals] =>
    whole ≠ [] ∧ whole.all py.isDigit ∧ 1 ≤ decimals.length ∧ decimals.length ≤ 2 ∧ decimals.all py.isDigit
  | _                 => false

/-- `s.replace(c, c')`. -/
def replaceChar (c c' : Char) (s : Str) : Str := s.map (fun x => if x = c then c' else x)

/-- The text without its grouping separators, when both occur: the one that occurs last is the decimal separator. -/
def ungrouped (s : Str) : Str :=
  if rfind ',' s < rfind '.' s then Detection.without ',' s else replaceChar ',' '.' (Detection.without '.' s)

def standardizeNumeric (value : Str) (locale : Option NumericLocale) : Str × Option RuleName :=
  if value = [] then (value, none)
  else
    let stripped := value.strip
    let canonical :=
      if ',' ∈ stripped ∧ '.' ∈ stripped then some (ungrouped stripped)
      else if ',' ∈ stripped then
        if Detection.groupedBy py ',' stripped then some (Detection.without ',' stripped)
        else if locale = some .eu ∧ trailingCommaDecimal py stripped then some (replaceChar ',' '.' stripped)
        else none
      else if '.' ∈ stripped then
        some (if locale = some .eu ∧ Detection.groupedBy py '.' stripped then Detection.without '.' stripped else stripped)
      else some stripped
    match canonical with
    | none           => (value, none)
    | some canonical => if canonical = value then (value, none) else (canonical, some .numericFormatNormalize)

/-! ## Phone numbers -/

def standardizePhone (value : Str) (country : Option Str) : Str × Option RuleName :=
  match country with
  | none | some [] => (value, none)
  | some country =>
    if value = [] then (value, none)
    else
      match py.parsePhone value (some country) with
      | none        => (value, none)
      | some parsed =>
        if ¬ py.isValidNumber parsed then (value, none)
        else
          let formatted := py.formatE164 parsed
          if formatted = value then (value, none) else (formatted, some .phoneE164)

end Standardization
end DataOps

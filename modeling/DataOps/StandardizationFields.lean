import DataOps.CleaningRules
import DataOps.StandardizationLookups
import DataOps.StandardizationRules
/-!
# StandardizationFields — the rule of each field type

Every rule leaves what it does not recognize as it is.
-/
namespace DataOps
namespace Standardization

variable (py : PythonValues)

/-- A canonical form, and the rule's name when it is another text. -/
def changedTo (canonical value : Str) (ruleName : RuleName) : Str × Option RuleName :=
  if canonical = value then (value, none) else (canonical, some ruleName)

/-! ## Names and texts -/

def titleCaseStep (value : Str) : Str × Option RuleName :=
  if value = [] then (value, none) else changedTo (titleCase py.toPython value) value .titleCase

def standardizePersonName (value : Str) : Str × Option RuleName := titleCaseStep py value

def standardizeCompanyName (value : Str) (lookup : Dict Str Str) : Str × Option RuleName :=
  if value = [] then (value, none)
  else
    match lookup.get? (py.lower value.strip) with
    | some canonical => changedTo canonical value .companySuffixLookup
    | none           => titleCaseStep py value

def applyGenericAbbreviationLookup (value : Str) (lookup : Dict Str Str) : Str × Option RuleName :=
  if value = [] then (value, none)
  else
    match lookup.get? (py.lower value.strip) with
    | none           => (value, none)
    | some canonical => changedTo canonical value .abbreviationLookup

def standardizeEmail (value : Str) : Str × Option RuleName :=
  if value = [] then (value, none)
  else
    match value.splitOn '@' with
    | [localPart, domain] =>
      if localPart = [] ∨ domain = [] then (value, none) else changedTo (lowerCase py.toPython value) value .lowerCase
    | _                   => (value, none)

/-! ## Places -/

/-- Each token by itself; the rule fires when one of them is in the table. -/
def expandAddressAbbreviations (value : Str) (lookup : Dict Str Str) : Str × Option RuleName :=
  if value = [] then (value, none)
  else
    let tokens := value.splitOn ' '
    if tokens.any (fun token => (lookup.get? (py.lower token)).isSome) then
      ([' '].intercalate (tokens.map (fun token => (lookup.get? (py.lower token)).getD token)), some .addressAbbreviation)
    else (value, none)

def standardizeCity (value : Str) : Str × Option RuleName := titleCaseStep py value

def standardizeCountry (value : Str) (lookup : Dict Str Str) : Str × Option RuleName :=
  if value = [] then (value, none)
  else
    match (mergedLookup defaultCountryNameVariants lookup).get? (py.lower value.strip) with
    | none           => (value, none)
    | some canonical => changedTo canonical value .countryIsoNormalize

def resolveCountryCode (value : Str) (lookup : Dict Str Str) : Option Str :=
  if value = [] then none
  else
    match (mergedLookup defaultCountryNameVariants lookup).get? (py.lower value.strip) with
    | some code => some code
    | none      => if value.strip.length = 2 ∧ value.strip.all py.isAlpha then some (py.upper value.strip) else none

def standardizeStateProvince (value : Str) (country : Option Str) : Str × Option RuleName :=
  if value = [] ∨ (country ≠ some "US".toList ∧ country ≠ some "CA".toList) then (value, none)
  else
    let table := if country = some "US".toList then defaultUsStateAbbreviations else defaultCaProvinceAbbreviations
    match table.get? (py.lower value.strip) with
    | none           => (value, none)
    | some canonical => changedTo canonical value .stateProvinceAbbreviation

/-- `_NON_ALNUM_RE.sub("", s)`: letters and digits of ASCII only. -/
def alphanumerics (s : Str) : Str := s.filter (fun c => c.isAlpha || c.isDigit)

/-- `^[A-Za-z]\d[A-Za-z]\s?\d[A-Za-z]\d$`, on the six characters between which the blank stands. -/
def isCaPostal : Str → Bool
  | [a, b, c, d, e, f] => a.isAlpha && b.isDigit && c.isAlpha && d.isDigit && e.isAlpha && f.isDigit
  | _                  => false

def standardizePostalCode (value : Str) (country : Option Str) : Str × Option RuleName :=
  if value = [] ∨ (country ≠ some "US".toList ∧ country ≠ some "CA".toList) then (value, none)
  else if country = some "US".toList then
    let stripped := alphanumerics value
    if stripped = [] ∨ ¬ stripped.all Char.isDigit ∨ (stripped.length ≠ 5 ∧ stripped.length ≠ 9) then (value, none)
    else
      changedTo (if stripped.length = 5 then stripped else stripped.take 5 ++ '-' :: stripped.drop 5) value
        .postalCodeFormat
  else
    let compact := py.upper (alphanumerics value)
    if ¬ isCaPostal compact then (value, none)
    else changedTo (compact.take 3 ++ ' ' :: compact.drop 3) value .postalCodeFormat

/-! ## Dates and times -/

def standardizeDate (value : Str) (outputFormat : Option Str) : Str × Option RuleName :=
  if value = [] then (value, none)
  else
    match Cleaning.fromIso py value.strip with
    | none        => (value, none)
    | some parsed =>
      let canonical := match Str.given outputFormat with
        | some format => py.strftime parsed format
        | none        => py.isoformat parsed
      changedTo canonical value .dateFormatNormalize

def standardizeTime (value : Str) : Str × Option RuleName :=
  if value = [] then (value, none)
  else
    let stripped := value.strip
    let candidates := [stripped, Detection.without ' ' (py.upper stripped)]
    match candidates.findSome? py.timeFromIso with
    | none        => (value, none)
    | some parsed => changedTo (py.timeIsoformat parsed) value .timeFormatNormalize

/-! ## Currency -/

def standardizeCurrency (value : Str) (defaultCurrency : Option Str) (locale : Option NumericLocale) :
    Str × Option RuleName :=
  if value = [] then (value, none)
  else
    let stripped := value.strip
    let symbolAndCode := match defaultCurrencySymbolMap.find? (fun p => p.1 ∈ stripped) with
      | some p => some p
      | none   => if '$' ∈ stripped then (Str.given defaultCurrency).map (fun code => ('$', code)) else none
    match symbolAndCode with
    | none                => (value, none)
    | some (symbol, code) =>
      let numericCanonical := (standardizeNumeric py.toPython (Detection.without symbol stripped).strip locale).1
      changedTo (numericCanonical ++ ' ' :: code) value .currencyFormatNormalize

end Standardization
end DataOps

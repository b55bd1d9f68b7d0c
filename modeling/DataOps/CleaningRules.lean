import DataOps.LibPython
/-!
# CleaningRules — the deterministic cell rules

Each rule returns the value and, when it changed it, the rule's name.  The coercions can raise: `none`.
-/
namespace DataOps
namespace Cleaning

inductive RuleName
  | trimWhitespace | normalizeBlank | coerceInteger | coerceDecimal | coerceBoolean | normalizeDateFormat
deriving DecidableEq, Repr

/-- `RULE_CONFIDENCE`. -/
def ruleConfidence : RuleName → Rat
  | .trimWhitespace      => 1
  | .normalizeBlank      => 9 / 10
  | .coerceInteger       => 85 / 100
  | .coerceDecimal       => 8 / 10
  | .coerceBoolean       => 9 / 10
  | .normalizeDateFormat => 7 / 10

/-- `RULE_REASONS`. -/
def ruleReason : RuleName → String
  | .trimWhitespace      => "Leading/trailing or repeated internal whitespace removed."
  | .normalizeBlank      => "Blank-equivalent value normalized to a missing value."
  | .coerceInteger       => "Value coerced to the column's canonical integer form."
  | .coerceDecimal       => "Value coerced to the column's canonical decimal form."
  | .coerceBoolean       => "Value coerced to the column's canonical boolean form."
  | .normalizeDateFormat => "Value reparsed into ISO-8601 date/datetime form."

/-- The type the profile gives a column. -/
inductive InferredType
  | boolean | integer | decimal | datetime | date | string | null | mixed
deriving DecidableEq, Repr

def trimWhitespace (value : Str) : Str × Option RuleName :=
  let collapsed := Str.subWhitespace false (Str.strip value)
  if collapsed = value then (value, none) else (collapsed, some .trimWhitespace)

/-- `_BLANK_EQUIVALENTS`, `_BOOLEAN_TRUE` and `_BOOLEAN_FALSE`. -/
def blankEquivalents : List Str := ["null".toList, "n/a".toList, "na".toList, "-".toList, "none".toList]
def booleanTrue : List Str := ["true".toList, "yes".toList, "y".toList, "1".toList]
def booleanFalse : List Str := ["false".toList, "no".toList, "n".toList, "0".toList]

variable (py : PythonValues)

def normalizeBlank (value : Str) : Str × Option RuleName :=
  if value = [] then (value, none)
  else if py.casefold value ∈ blankEquivalents then ([], some .normalizeBlank)
  else (value, none)

/-- `^[+-]?\d+$`. -/
def isIntegerText (s : Str) : Bool :=
  let unsigned := match s with
    | '+' :: s => s
    | '-' :: s => s
    | s        => s
  unsigned ≠ [] ∧ unsigned.all py.isDigit

def coerceInteger (value : Str) : Option (Str × Option RuleName) :=
  let stripped := value.strip
  if isIntegerText py stripped then
    some (if stripped = value then (value, none) else (stripped, some .coerceInteger))
  else
    match py.decimal stripped with
    | none           => some (value, none)
    | some asDecimal =>
      if py.isFinite asDecimal ∧ py.isIntegral asDecimal then
        (py.intText asDecimal).map (fun canonical => (canonical, some .coerceInteger))
      else some (value, none)

def coerceDecimal (value : Str) : Option (Str × Option RuleName) :=
  match py.decimal value.strip with
  | none           => some (value, none)
  | some asDecimal =>
    if ¬ py.isFinite asDecimal then some (value, none)
    else
      (py.plainText asDecimal).map (fun canonical =>
        if canonical = value then (value, none) else (canonical, some .coerceDecimal))

def coerceBoolean (value : Str) : Str × Option RuleName :=
  let lowered := py.casefold value.strip
  let canonical :=
    if lowered ∈ booleanTrue then some "true".toList else if lowered ∈ booleanFalse then some "false".toList else none
  match canonical with
  | none           => (value, none)
  | some canonical => (canonical, if value = canonical then none else some .coerceBoolean)

/-- `s.replace("Z", "+00:00")`. -/
def replaceZulu (s : Str) : Str := s.flatMap (fun c => if c = 'Z' then "+00:00".toList else [c])

/-- `datetime.fromisoformat`, and failing that `date.fromisoformat`. -/
def fromIso (s : Str) : Option py.DateTime :=
  match py.datetimeFromIso (replaceZulu s) with
  | some parsed => some parsed
  | none        => py.dateFromIso s

def coerceDate (value : Str) : Str × Option RuleName :=
  match fromIso py value.strip with
  | none        => (value, none)
  | some parsed =>
    let canonical := py.isoformat parsed
    if canonical = value then (value, none) else (canonical, some .normalizeDateFormat)

def coerceType (value : Str) (inferredType : InferredType) : Option (Str × Option RuleName) :=
  if value = [] then some (value, none)
  else
    match inferredType with
    | .integer         => coerceInteger py value
    | .decimal         => coerceDecimal py value
    | .boolean         => some (coerceBoolean py value)
    | .date | .datetime => some (coerceDate py value)
    | .string | .null | .mixed => some (value, none)

end Cleaning
end DataOps

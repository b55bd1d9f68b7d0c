import DataOps.LibText
/-!
# LibCsv — the reader and the writer of `csv`

`process` is `parse_process_char` of the reader, one case for each state; a line of the text is followed by an end of
line, `none`.  `read` is the sequence of records, which ends at the first error.  `write` is the writer with the excel
dialect: commas, `\r\n`, and quotes only where they are needed.
-/
namespace DataOps
namespace Csv

/-- What the reader takes from a dialect.  The delimiter and the quote character are no line ends, no spaces and not the
same; strictness and escape characters are off. -/
structure Dialect where
  delimiter        : Char
  quotechar        : Char
  doublequote      : Bool
  skipinitialspace : Bool
  delimiter_ok     : delimiter ≠ '\r' ∧ delimiter ≠ '\n' ∧ delimiter ≠ ' ' ∧ delimiter ≠ quotechar
  quotechar_ok     : quotechar ≠ '\r' ∧ quotechar ≠ '\n' ∧ quotechar ≠ ' '

/-- `csv.excel`. -/
def excel : Dialect := ⟨',', '"', true, false, by decide, by decide⟩

inductive State
  | startRecord | startField | inField | inQuotedField | quoteInQuotedField | eatCrnl
deriving DecidableEq, Repr

inductive Error
  | fieldLargerThanLimit
  | newLineInUnquotedField
deriving DecidableEq, Repr

/-- `csv.field_size_limit()`. -/
def fieldSizeLimit : Nat := 131072

structure Reader where
  state  : State
  field  : Str
  fields : List Str
deriving DecidableEq, Repr

/-- `parse_reset`. -/
def Reader.start : Reader := ⟨.startRecord, [], []⟩

/-- `parse_add_char`, and the state after it. -/
def Reader.addChar (r : Reader) (c : Char) (state : State) : Except Error Reader :=
  if fieldSizeLimit ≤ r.field.length then .error .fieldLargerThanLimit else .ok ⟨state, r.field ++ [c], r.fields⟩

/-- `parse_save_field`, and the state after it. -/
def Reader.saveField (r : Reader) (state : State) : Reader := ⟨state, [], r.fields ++ [r.field]⟩

def isNewline (c : Char) : Bool := c = '\n' || c = '\r'

def processStartField (D : Dialect) (r : Reader) : Option Char → Except Error Reader
  | none   => .ok (r.saveField .startRecord)
  | some c =>
    if isNewline c then .ok (r.saveField .eatCrnl)
    else if c = D.quotechar then .ok { r with state := .inQuotedField }
    else if c = ' ' ∧ D.skipinitialspace then .ok { r with state := .startField }
    else if c = D.delimiter then .ok (r.saveField .startField)
    else r.addChar c .inField

def processStartRecord (D : Dialect) (r : Reader) : Option Char → Except Error Reader
  | none   => .ok r
  | some c => if isNewline c then .ok { r with state := .eatCrnl } else processStartField D r (some c)

def processInField (D : Dialect) (r : Reader) : Option Char → Except Error Reader
  | none   => .ok (r.saveField .startRecord)
  | some c =>
    if isNewline c then .ok (r.saveField .eatCrnl)
    else if c = D.delimiter then .ok (r.saveField .startField)
    else r.addChar c .inField

def processInQuotedField (D : Dialect) (r : Reader) : Option Char → Except Error Reader
  | none   => .ok r
  | some c =>
    if c = D.quotechar then .ok { r with state := if D.doublequote then .quoteInQuotedField else .inField }
    else r.addChar c .inQuotedField

def processQuoteInQuotedField (D : Dialect) (r : Reader) : Option Char → Except Error Reader
  | none   => .ok (r.saveField .startRecord)
  | some c =>
    if c = D.quotechar then r.addChar c .inQuotedField
    else if c = D.delimiter then .ok (r.saveField .startField)
    else if isNewline c then .ok (r.saveField .eatCrnl)
    else r.addChar c .inField

def processEatCrnl (r : Reader) : Option Char → Except Error Reader
  | none   => .ok { r with state := .startRecord }
  | some c => if isNewline c then .ok r else .error .newLineInUnquotedField

/-- `parse_process_char`. -/
def process (D : Dialect) (r : Reader) : Option Char → Except Error Reader :=
  match r.state with
  | .startRecord        => processStartRecord D r
  | .startField         => processStartField D r
  | .inField            => processInField D r
  | .inQuotedField      => processInQuotedField D r
  | .quoteInQuotedField => processQuoteInQuotedField D r
  | .eatCrnl            => processEatCrnl r

/-- The characters of the lines of a text, each line followed by its end: lines end at `\r\n`, `\r` or `\n`, and the last
one at the end of the text. -/
def endLines : Str → List (Option Char)
  | []                => []
  | '\r' :: '\n' :: s => some '\r' :: some '\n' :: none :: endLines s
  | [c]               => [some c, none]
  | c :: c' :: s      => if isNewline c then some c :: none :: endLines (c' :: s) else some c :: endLines (c' :: s)

/-- The records from a reader on, up to the first error. -/
def records (D : Dialect) : Reader → List (Option Char) → List (Except Error (List Str))
  | r, []      => if r.field ≠ [] ∨ r.state = .inQuotedField then [.ok (r.saveField r.state).fields] else []
  | r, c :: cs =>
    match process D r c with
    | .error e => [.error e]
    | .ok r'   =>
      if c = none ∧ r'.state = .startRecord then .ok r'.fields :: records D .start cs else records D r' cs

/-- The records of a text, from a reader on. -/
def run (D : Dialect) (r : Reader) (s : Str) : List (Except Error (List Str)) := records D r (endLines s)

def read (D : Dialect) (text : Str) : List (Except Error (List Str)) := run D .start text

/-! ## The writer -/

def needsQuotes (field : Str) : Bool := field.any (fun c => c = ',' || c = '"' || c = '\r' || c = '\n')

def doubled (field : Str) : Str := field.flatMap (fun c => if c = '"' then ['"', '"'] else [c])

def quoted (field : Str) : Str := '"' :: (doubled field ++ ['"'])

def writeField (field : Str) : Str := if needsQuotes field then quoted field else field

/-- `writerow`: a record that would be blank is written as `""`. -/
def writeRow (row : List Str) : Str :=
  (if row = [[]] then quoted [] else [','].intercalate (row.map writeField)) ++ ['\r', '\n']

/-- `writerows`. -/
def write (rows : List (List Str)) : Str := rows.flatMap writeRow

/-! ## One character at a time -/

section
variable {D : Dialect} {p : Str} {F : List Str} {x : Char} {s : Str}

theorem isNewline_delimiter (D : Dialect) : isNewline D.delimiter = false := by
  simp [isNewline, D.delimiter_ok.1, D.delimiter_ok.2.1]

theorem isNewline_quotechar (D : Dialect) : isNewline D.quotechar = false := by
  simp [isNewline, D.quotechar_ok.1, D.quotechar_ok.2.1]

theorem endLines_cons (hx : isNewline x = false) (hs : s ≠ []) : endLines (x :: s) = some x :: endLines s := by
  obtain ⟨y, s, rfl⟩ := List.exists_cons_of_ne_nil hs
  have hcr : x ≠ '\r' := fun h => by simp [isNewline, h] at hx
  rw [endLines]
  · simp [hx]
  · intro h
    exact absurd h hcr

theorem endLines_crlf : endLines ('\r' :: '\n' :: s) = some '\r' :: some '\n' :: none :: endLines s := by
  rw [endLines]

/-- A record that ends where the line does. -/
theorem run_crlf {state : State} (hstate : state = .startField ∨ state = .inField ∨ state = .quoteInQuotedField) :
    run D ⟨state, p, F⟩ ('\r' :: '\n' :: s) = .ok (F ++ [p]) :: run D .start s := by
  have hd := D.delimiter_ok
  have hq := D.quotechar_ok
  unfold run
  rw [endLines_crlf]
  rcases hstate with rfl | rfl | rfl
  all_goals simp [records, process, processStartField, processInField, processQuoteInQuotedField, processEatCrnl,
    isNewline, Reader.saveField, hd.1.symm, hq.1.symm]

/-- A field that ends at the delimiter. -/
theorem run_delimiter {state : State} (hstate : state = .startField ∨ state = .inField ∨ state = .quoteInQuotedField)
    (hs : s ≠ []) : run D ⟨state, p, F⟩ (D.delimiter :: s) = run D ⟨.startField, [], F ++ [p]⟩ s := by
  have hd := D.delimiter_ok
  unfold run
  rw [endLines_cons (isNewline_delimiter D) hs]
  rcases hstate with rfl | rfl | rfl
  all_goals simp [records, process, processStartField, processInField, processQuoteInQuotedField,
    isNewline_delimiter, Reader.saveField, hd.2.2.1, hd.2.2.2]

/-- A character of an unquoted field. -/
theorem run_inField (hx : isNewline x = false) (hd : x ≠ D.delimiter) (hp : p.length < fieldSizeLimit) (hs : s ≠ []) :
    run D ⟨.inField, p, F⟩ (x :: s) = run D ⟨.inField, p ++ [x], F⟩ s := by
  unfold run
  rw [endLines_cons hx hs]
  simp [records, process, processInField, hx, hd, Reader.addChar, Nat.not_le.2 hp]

/-- A character of a quoted field, line ends included. -/
theorem run_inQuotedField (hx : x ≠ D.quotechar) (hp : p.length < fieldSizeLimit) :
    run D ⟨.inQuotedField, p, F⟩ (x :: s) = run D ⟨.inQuotedField, p ++ [x], F⟩ s := by
  have hadd : process D ⟨.inQuotedField, p, F⟩ (some x) = .ok ⟨.inQuotedField, p ++ [x], F⟩ := by
    simp [process, processInQuotedField, hx, Reader.addChar, Nat.not_le.2 hp]
  have hend : ∀ (p : Str) (cs : List (Option Char)),
      records D ⟨.inQuotedField, p, F⟩ (none :: cs) = records D ⟨.inQuotedField, p, F⟩ cs := fun p cs => by
    simp [records, process, processInQuotedField]
  have hstep : ∀ cs : List (Option Char), records D ⟨.inQuotedField, p, F⟩ (some x :: cs) =
      records D ⟨.inQuotedField, p ++ [x], F⟩ cs := fun cs => by
    rw [records, hadd]
    simp
  unfold run
  match s with
  | [] =>
    simp only [endLines]
    rw [hstep, hend]
  | y :: s =>
    by_cases hcrlf : x = '\r' ∧ y = '\n'
    · obtain ⟨rfl, rfl⟩ := hcrlf
      have hlf : endLines ('\n' :: s) = some '\n' :: none :: endLines s := by
        cases s with
        | nil => simp [endLines]
        | cons z s => simp [endLines, isNewline]
      rw [endLines_crlf, hstep, hlf]
    · rw [endLines]
      · split
        · rw [hstep, hend]
        · rw [hstep]
      · intro h1 h2
        exact absurd ⟨h1, h2⟩ hcrlf

/-- The quote that closes a quoted field, or begins a doubled one. -/
theorem run_quotechar (hs : s ≠ []) :
    run D ⟨.inQuotedField, p, F⟩ (D.quotechar :: s) =
      run D ⟨if D.doublequote then .quoteInQuotedField else .inField, p, F⟩ s := by
  unfold run
  rw [endLines_cons (isNewline_quotechar D) hs]
  simp [records, process, processInQuotedField]

/-- The second of two quotes. -/
theorem run_doubled (hp : p.length < fieldSizeLimit) (hs : s ≠ []) :
    run D ⟨.quoteInQuotedField, p, F⟩ (D.quotechar :: s) = run D ⟨.inQuotedField, p ++ [D.quotechar], F⟩ s := by
  unfold run
  rw [endLines_cons (isNewline_quotechar D) hs]
  simp [records, process, processQuoteInQuotedField, Reader.addChar, Nat.not_le.2 hp]

/-- The quote that opens a quoted field. -/
theorem run_open (hs : s ≠ []) :
    run D ⟨.startField, p, F⟩ (D.quotechar :: s) = run D ⟨.inQuotedField, p, F⟩ s := by
  unfold run
  rw [endLines_cons (isNewline_quotechar D) hs]
  simp [records, process, processStartField, isNewline_quotechar]

/-- The first character of an unquoted field. -/
theorem run_startField (hx : isNewline x = false) (hq : x ≠ D.quotechar) (hd : x ≠ D.delimiter)
    (hspace : x = ' ' → D.skipinitialspace = false) (hp : p.length < fieldSizeLimit) (hs : s ≠ []) :
    run D ⟨.startField, p, F⟩ (x :: s) = run D ⟨.inField, p ++ [x], F⟩ s := by
  have hskip : ¬ (x = ' ' ∧ D.skipinitialspace = true) := fun h => by simp [hspace h.1] at h
  unfold run
  rw [endLines_cons hx hs]
  simp [records, process, processStartField, hx, hd, hq, hskip, Reader.addChar, Nat.not_le.2 hp]

/-- A blank before a field. -/
theorem run_skip (hspace : D.skipinitialspace = true) (hs : s ≠ []) :
    run D ⟨.startField, p, F⟩ (' ' :: s) = run D ⟨.startField, p, F⟩ s := by
  have hq := D.quotechar_ok
  unfold run
  rw [endLines_cons (by simp [isNewline]) hs]
  simp [records, process, processStartField, isNewline, hq.2.2.symm, hspace]

/-- A record starts at its first field, unless its line is blank. -/
theorem run_start (hx : isNewline x = false) (hs : s ≠ []) :
    run D .start (x :: s) = run D ⟨.startField, [], []⟩ (x :: s) := by
  unfold run
  rw [endLines_cons hx hs]
  have hstart : process D .start (some x) = process D ⟨.startField, [], []⟩ (some x) := by
    simp [process, processStartRecord, processStartField, Reader.start, hx, Reader.saveField, Reader.addChar]
  simp [records, hstart]

end

end Csv
end DataOps

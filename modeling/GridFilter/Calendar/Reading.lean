import GridFilter.Calendar.Date
import GridFilter.Text.Blank

/-!
# Reading days

Three spellings of a day are read.  `written?` takes year, month and day with hyphens, where blanks
may stand before each number; `spaced?` takes blanks before the hyphens and at the end as well;
`ofTimestamp?` takes the day of a full timestamp.  A year without a sign has at most four digits, a
signed one any number; month and day have at most two.
-/

namespace GridFilter.Date

/-! ## Parts -/

/-- A number of one to `most` digits at the front of the text, and what follows it. -/
def takeNumber? (most : Nat) (s : List Char) : Option (Nat × List Char) :=
  let run := (s.take most).takeWhile Char.isDigit
  if run.isEmpty then none else some (Text.digitsValue run, s.drop run.length)

/-- A number of exactly `count` digits at the front of the text, and what follows it. -/
def takeExactly? (count : Nat) (s : List Char) : Option (Nat × List Char) :=
  let run := s.take count
  if run.length == count && run.all Char.isDigit then
    some (Text.digitsValue run, s.drop count)
  else none

/-- All the digits at the front of the text, at least one. -/
def takeDigits? (s : List Char) : Option (Nat × List Char) :=
  takeNumber? s.length s

/-- A year after optional blanks: signed, or of at most four digits. -/
def takeYear? (s : List Char) : Option (Int × List Char) :=
  match Text.trimStart s with
  | '-' :: rest => (takeDigits? rest).map fun found => (-(found.1 : Int), found.2)
  | '+' :: rest => (takeDigits? rest).map fun found => ((found.1 : Int), found.2)
  | rest => (takeNumber? 4 rest).map fun found => ((found.1 : Int), found.2)

/-- A month or day after optional blanks. -/
def takePart? (s : List Char) : Option (Nat × List Char) :=
  takeNumber? 2 (Text.trimStart s)

/-- What follows one expected character. -/
def takeChar? (expected : Char) : List Char → Option (List Char)
  | c :: rest => if c = expected then some rest else none
  | [] => none

/-! ## Spellings -/

/-- Reads `year-month-day`; `gap` is what may be skipped before a hyphen and at the end. -/
def readParts? (gap : List Char → List Char) (s : List Char) : Option Date := do
  let (year, s) ← takeYear? s
  let s ← takeChar? '-' (gap s)
  let (month, s) ← takePart? s
  let s ← takeChar? '-' (gap s)
  let (day, s) ← takePart? s
  if (gap s).isEmpty then of? year month day else none

/-- Reads a day as a condition's text holds it: nothing but its parts and two hyphens, each part
after optional blanks. -/
def written? (s : List Char) : Option Date :=
  readParts? id s

/-- Reads a day as a control value holds it: blanks may also stand before a hyphen and at the
end. -/
def spaced? (s : List Char) : Option Date :=
  readParts? Text.trimStart s

/-- The offset of a timestamp: `Z`, or a sign, two digits of hours below 24, a colon and two of
minutes below 60.  The sign may be the minus sign proper. -/
def takeOffset? : List Char → Option (List Char)
  | 'Z' :: rest => some rest
  | 'z' :: rest => some rest
  | sign :: rest => do
    if sign = '+' || sign = '-' || sign = '−' then
      let (hours, rest) ← takeExactly? 2 rest
      let rest ← takeChar? ':' rest
      let (minutes, rest) ← takeExactly? 2 rest
      if hours < 24 && minutes < 60 then some rest else none
    else none
  | [] => none

/-- The fraction of a second, when there is a point. -/
def takeFraction? : List Char → Option (List Char)
  | '.' :: rest => (takeDigits? rest).map (·.2)
  | rest => some rest

/-- The time of a timestamp with its offset; a sixtieth second is allowed. -/
def takeTime? (s : List Char) : Option (List Char) := do
  let (hour, s) ← takeExactly? 2 s
  let s ← takeChar? ':' s
  let (minute, s) ← takeExactly? 2 s
  let s ← takeChar? ':' s
  let (second, s) ← takeExactly? 2 s
  if hour < 24 && minute < 60 && second ≤ 60 then
    takeOffset? (← takeFraction? s)
  else none

/-- Reads a full timestamp and takes its day as written, whatever the offset. -/
def ofTimestamp? (s : List Char) : Option Date := do
  let (year, s) ← takeExactly? 4 s
  let s ← takeChar? '-' s
  let (month, s) ← takeExactly? 2 s
  let s ← takeChar? '-' s
  let (day, s) ← takeExactly? 2 s
  match s with
  | mark :: s =>
    if mark = 'T' || mark = 't' || mark = ' ' then
      let rest ← takeTime? s
      if rest.isEmpty then of? year month day else none
    else none
  | [] => none

/-- The day a condition's text stands for, blank ends apart: a written day, or that of a
timestamp. -/
def read? (s : String) : Option Date :=
  let chars := Text.trimEnds s.toList
  (written? chars).or (ofTimestamp? chars)

end GridFilter.Date

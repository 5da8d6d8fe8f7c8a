import GridFilter.Json.Source
import GridFilter.Text.Numeral

/-!
# Scanning JSON text

The scan follows the grammar strictly: blanks are the four of the grammar, numbers have no leading
zero, strings hold no raw control character, no comma ends a list, and nothing follows the value.
It goes as far as the text is sound and marks the place where it is not.

A number is an integer when it has neither fraction nor exponent and fits sixty-four bits, signed
or not.  Any other number is made of the digits that fit sixty-four bits and a power of ten, each
rounded to a binary64 value before they are multiplied or divided.
-/

namespace GridFilter.Json

/-- How deep containers may nest to be read. -/
def depthLimit : Nat :=
  127

/-- A blank of the grammar. -/
def isBlank (c : Char) : Bool :=
  c = ' ' || c = '\n' || c = '\r' || c = '\t'

/-- The text from its first character that is not blank. -/
def skipBlanks (s : List Char) : List Char :=
  s.dropWhile isBlank

/-! ## Strings -/

/-- The value of a hexadecimal digit. -/
def hexValue? (c : Char) : Option Nat :=
  if '0' ≤ c ∧ c ≤ '9' then some (c.toNat - 48)
  else if 'a' ≤ c ∧ c ≤ 'f' then some (c.toNat - 87)
  else if 'A' ≤ c ∧ c ≤ 'F' then some (c.toNat - 55)
  else none

/-- The value of four hexadecimal digits. -/
def hexUnit? (a b c d : Char) : Option Nat :=
  match hexValue? a, hexValue? b, hexValue? c, hexValue? d with
  | some a, some b, some c, some d => some (4096 * a + 256 * b + 16 * c + d)
  | _, _, _, _ => none

/-- The character a letter after a backslash stands for. -/
def unescape? (letter : Char) : Option Char :=
  if letter = '"' then some '"'
  else if letter = '\\' then some '\\'
  else if letter = '/' then some '/'
  else if letter = 'b' then some '\x08'
  else if letter = 'f' then some '\x0c'
  else if letter = 'n' then some '\n'
  else if letter = 'r' then some '\r'
  else if letter = 't' then some '\t'
  else none

/-- One unit inside a string: a character, or a half of a surrogate pair. -/
inductive Piece where
  | char (c : Char)
  | high (unit : Nat)
  | low (unit : Nat)
  deriving DecidableEq

/-- The piece a sixteen-bit unit stands for. -/
def Piece.ofUnit (unit : Nat) : Piece :=
  if 0xD800 ≤ unit ∧ unit < 0xDC00 then .high unit
  else if 0xDC00 ≤ unit ∧ unit < 0xE000 then .low unit
  else .char (Char.ofNat unit)

/-- The pieces of a string up to its closing quote, and what follows it. -/
def scanPieces? : List Char → Option (List Piece × List Char)
  | [] => none
  | '"' :: rest => some ([], rest)
  | '\\' :: 'u' :: a :: b :: c :: d :: rest =>
    match hexUnit? a b c d with
    | some unit => (scanPieces? rest).map fun found => (Piece.ofUnit unit :: found.1, found.2)
    | none => none
  | '\\' :: letter :: rest =>
    match unescape? letter with
    | some c => (scanPieces? rest).map fun found => (Piece.char c :: found.1, found.2)
    | none => none
  | c :: rest =>
    if c.toNat < 0x20 then none
    else (scanPieces? rest).map fun found => (Piece.char c :: found.1, found.2)

/-- The characters of pieces whose surrogates all come in pairs. -/
def joinPieces? : List Piece → Option (List Char)
  | [] => some []
  | .char c :: rest => (joinPieces? rest).map (c :: ·)
  | .high h :: .low l :: rest =>
    (joinPieces? rest).map (Char.ofNat (0x10000 + 0x400 * (h - 0xD800) + (l - 0xDC00)) :: ·)
  | .high _ :: _ => none
  | .low _ :: _ => none

/-- A string after its opening quote: its text if it can be read, and what follows it. -/
def scanString? (s : List Char) : Option (Option String × List Char) :=
  (scanPieces? s).map fun found => ((joinPieces? found.1).map String.ofList, found.2)

/-! ## Numbers -/

/-- The digits at the front of a text. -/
def leadingDigits (s : List Char) : List Char :=
  s.takeWhile Char.isDigit

/-- What follows the digits at the front of a text. -/
def afterDigits (s : List Char) : List Char :=
  s.dropWhile Char.isDigit

/-- Reads digits after a number as long as the result fits sixty-four bits: the result and the
digits that are left. -/
def fitDigits (n : Nat) : List Char → Nat × List Char
  | [] => (n, [])
  | c :: rest =>
    let next := 10 * n + Text.digitValue c
    if next < Nat.pow 2 64 then fitDigits next rest else (n, c :: rest)

/-- A number taken apart: its sign, its digits before the point, those after it, and its exponent
as a sign and digits. -/
structure Numeral where
  negative : Bool
  whole : List Char
  fraction : Option (List Char)
  exponent : Option (Bool × List Char)

/-- The fraction of a number, if there is one, and what follows it; none when digits are missing. -/
def scanFraction? : List Char → Option (Option (List Char) × List Char)
  | '.' :: rest =>
    if (leadingDigits rest).isEmpty then none
    else some (some (leadingDigits rest), afterDigits rest)
  | s => some (none, s)

/-- The sign of an exponent, minus or not, and what follows it. -/
def scanExponentSign : List Char → Bool × List Char
  | '+' :: rest => (false, rest)
  | '-' :: rest => (true, rest)
  | s => (false, s)

/-- The exponent of a number, if there is one, and what follows it; none when digits are
missing. -/
def scanExponent? : List Char → Option (Option (Bool × List Char) × List Char)
  | [] => some (none, [])
  | c :: rest =>
    if c = 'e' || c = 'E' then
      let (minus, rest) := scanExponentSign rest
      if (leadingDigits rest).isEmpty then none
      else some (some (minus, leadingDigits rest), afterDigits rest)
    else some (none, c :: rest)

/-- The sign of a number and what follows it. -/
def scanSign : List Char → Bool × List Char
  | '-' :: rest => (true, rest)
  | s => (false, s)

/-- Is this a run of digits without a leading zero? -/
def isWholePart : List Char → Bool
  | [] => false
  | ['0'] => true
  | c :: _ => c != '0'

/-- A number and what follows it. -/
def scanNumeral? (s : List Char) : Option (Numeral × List Char) := do
  let (negative, s) := scanSign s
  let whole := leadingDigits s
  if !isWholePart whole then none
  else
    let (fraction, s) ← scanFraction? (afterDigits s)
    let (exponent, s) ← scanExponent? s
    some (⟨negative, whole, fraction, exponent⟩, s)

/-- The number nearest to a power of ten up to the three hundred and eighth. -/
def powerOfTen (exponent : Nat) : Number :=
  (Number.ofQuotient? false (Nat.pow 10 exponent) 1).getD Number.zero

/-- A rounded mantissa scaled by a power of ten.  A power past the table divides by its largest
entry first, at most three times before the value is zero; past the finite range there is no
value. -/
def scale? : Nat → Number → Int → Option Number
  | 0, x, _ => Number.ofUnits? x.negative 0
  | steps + 1, x, exponent =>
    if exponent.natAbs ≤ 308 then
      if 0 ≤ exponent then x.mul? (powerOfTen exponent.toNat)
      else x.div? (powerOfTen (-exponent).toNat)
    else if x.isZero then some x
    else if 0 ≤ exponent then none
    else (x.div? (powerOfTen 308)).bind fun x => scale? steps x (exponent + 308)

/-- The value of an exponent; one past thirty-two signed bits is cut to that. -/
def exponentValue : Option (Bool × List Char) → Int
  | none => 0
  | some (minus, digits) =>
    let size := min (Text.digitsValue digits) 2147483648
    if minus then -(size : Int) else size

/-- The value of a number that is no integer: the digits that fit sixty-four bits, rounded, times
the power of ten they leave. -/
def Numeral.real? (n : Numeral) : Option Number :=
  let fraction := n.fraction.getD []
  let (mantissa, cutWhole) := fitDigits 0 n.whole
  let (mantissa, cutFraction) := fitDigits mantissa fraction
  let shift : Int := (cutWhole.length : Int) - (fraction.length - cutFraction.length : Nat)
  let exponent := exponentValue n.exponent
  if 2147483647 < exponent.natAbs then
    if mantissa ≠ 0 ∧ 0 < exponent then none else Number.ofUnits? n.negative 0
  else
    (Number.ofQuotient? n.negative mantissa 1).bind fun x => scale? 8 x (shift + exponent)

/-- The source of a number. -/
def Numeral.source (n : Numeral) : Source :=
  let size := Text.digitsValue n.whole
  let fits := if n.negative then 0 < size ∧ size ≤ Nat.pow 2 63 else size < Nat.pow 2 64
  if n.fraction.isNone ∧ n.exponent.isNone ∧ fits then
    .integer (if n.negative then -(size : Int) else size)
  else
    match n.real? with
    | some x => .real x
    | none => .unreadable

/-! ## Values -/

/-- A source and, unless the text is broken, what follows it. -/
abbrev Scanned := Source × Option (List Char)

/-- The scan of a word that stands for a value. -/
def scanWord (word : String) (source : Source) (s : List Char) : Scanned :=
  match word.toList.isPrefixOf? s with
  | some rest => (source, some rest)
  | none => (.broken, none)

/-- The scan of a number. -/
def scanNumber (s : List Char) : Scanned :=
  match scanNumeral? s with
  | some (numeral, rest) => (numeral.source, some rest)
  | none => (.broken, none)

/-- The scan of a string after its opening quote. -/
def scanText (s : List Char) : Scanned :=
  match scanString? s with
  | some (some text, rest) => (.string text, some rest)
  | some (none, rest) => (.unreadable, some rest)
  | none => (.broken, none)

/-- A container at some depth: past the limit it is unreadable, unless the text is broken. -/
def limited (depth : Nat) (source : Source) (rest : Option (List Char)) : Scanned :=
  if depth ≤ depthLimit then (source, rest)
  else if rest.isSome then (.unreadable, rest)
  else (.broken, none)

mutual

/-- The scan of a value inside `depth` containers; a container takes three steps of
`fuel` and an item one. -/
def scanValue (fuel depth : Nat) (s : List Char) : Scanned :=
  match fuel with
  | 0 => (.broken, none)
  | fuel + 1 =>
    match skipBlanks s with
    | '{' :: rest =>
      let (members, rest) := scanFirstMember fuel (depth + 1) (skipBlanks rest)
      limited (depth + 1) (.object members) rest
    | '[' :: rest =>
      let (items, rest) := scanFirstItem fuel (depth + 1) (skipBlanks rest)
      limited (depth + 1) (.array items) rest
    | '"' :: rest => scanText rest
    | 'n' :: rest => scanWord "ull" .null rest
    | 't' :: rest => scanWord "rue" (.bool true) rest
    | 'f' :: rest => scanWord "alse" (.bool false) rest
    | rest => scanNumber rest

/-- The items of an array after its bracket. -/
def scanFirstItem (fuel depth : Nat) (s : List Char) : List Source × Option (List Char) :=
  match fuel, s with
  | 0, _ => ([.broken], none)
  | _ + 1, ']' :: rest => ([], some rest)
  | fuel + 1, s => scanItem fuel depth s

/-- An item of an array and those after it. -/
def scanItem (fuel depth : Nat) (s : List Char) : List Source × Option (List Char) :=
  match fuel with
  | 0 => ([.broken], none)
  | fuel + 1 =>
    match scanValue fuel depth s with
    | (item, none) => ([item], none)
    | (item, some rest) =>
      match skipBlanks rest with
      | ']' :: rest => ([item], some rest)
      | ',' :: rest =>
        let (items, rest) := scanItem fuel depth rest
        (item :: items, rest)
      | _ => ([item, .broken], none)

/-- The members of an object after its brace. -/
def scanFirstMember (fuel depth : Nat) (s : List Char) :
    List (Option String × Source) × Option (List Char) :=
  match fuel, s with
  | 0, _ => ([(none, .broken)], none)
  | _ + 1, '}' :: rest => ([], some rest)
  | fuel + 1, s => scanMember fuel depth s

/-- A member of an object and those after it. -/
def scanMember (fuel depth : Nat) (s : List Char) :
    List (Option String × Source) × Option (List Char) :=
  match fuel with
  | 0 => ([(none, .broken)], none)
  | fuel + 1 =>
    match skipBlanks s with
    | '"' :: rest =>
      match scanString? rest with
      | none => ([(none, .broken)], none)
      | some (name, rest) =>
        match skipBlanks rest with
        | ':' :: rest =>
          match scanValue fuel depth rest with
          | (value, none) => ([(name, value)], none)
          | (value, some rest) =>
            match skipBlanks rest with
            | '}' :: rest => ([(name, value)], some rest)
            | ',' :: rest =>
              let (members, rest) := scanMember fuel depth rest
              ((name, value) :: members, rest)
            | _ => ([(name, value), (none, .broken)], none)
        | _ => ([(name, .broken)], none)
    | _ => ([(none, .broken)], none)

end

/-! ## Documents -/

/-- A scanned text: its value, and whether the text is sound up to its end. -/
structure Document where
  source : Source
  sound : Bool

/-- Scans a whole text. -/
def Document.scan (text : String) : Document :=
  let s := text.toList
  let (source, rest) := scanValue (3 * s.length + 4) 0 s
  match rest with
  | some rest => ⟨source, (skipBlanks rest).isEmpty⟩
  | none => ⟨source, false⟩

end GridFilter.Json

import GridFilter.Number.Basic
import GridFilter.Text.Blank
import GridFilter.Text.Numeral

/-!
# Number literals

What an editor may type for a number: an optional sign, digits with at most one point among or
beside them, and an optional exponent.  The value is the nearest number; a literal past the finite
range is no number.
-/

namespace GridFilter.Number

/-- A literal taken apart: `whole.fraction` times ten to the `exponent`. -/
structure Literal where
  negative : Bool
  whole : List Char
  fraction : List Char
  exponent : Int

/-- Takes an optional sign off: whether it was a minus, and what follows it. -/
def takeSign : List Char → Bool × List Char
  | '-' :: rest => (true, rest)
  | '+' :: rest => (false, rest)
  | s => (false, s)

/-- An exponent after one more digit; one that has reached `2 ^ 16` takes no more. -/
def extendExponent (exponent : Nat) (digit : Char) : Nat :=
  if exponent < Nat.pow 2 16 then 10 * exponent + Text.digitValue digit else exponent

/-- The exponent that digits stand for, when there are any and nothing else. -/
def exponentOf? (digits : List Char) : Option Nat :=
  if digits.isEmpty || !digits.all Char.isDigit then none
  else some (digits.foldl extendExponent 0)

/-- Reads what may follow the digits of a literal: nothing, or an exponent mark, an optional sign
and digits. -/
def readExponent? : List Char → Option Int
  | [] => some 0
  | c :: rest =>
    if c = 'e' || c = 'E' then
      let (minus, power) := takeSign rest
      (exponentOf? power).map fun n => if minus then -(n : Int) else n
    else none

/-- Takes a literal apart. -/
def Literal.read? (s : List Char) : Option Literal :=
  let (negative, body) := takeSign s
  let whole := body.takeWhile Char.isDigit
  let afterWhole := body.dropWhile Char.isDigit
  let (fraction, tail) := match afterWhole with
    | '.' :: rest => (rest.takeWhile Char.isDigit, rest.dropWhile Char.isDigit)
    | other => ([], other)
  if whole.isEmpty && fraction.isEmpty then none
  else (readExponent? tail).map fun exponent => ⟨negative, whole, fraction, exponent⟩

/-- The number nearest to a literal, unless it lies past the finite range. -/
def Literal.value? (l : Literal) : Option Number :=
  ofDecimal? l.negative (Text.digitsValue (l.whole ++ l.fraction))
    (l.exponent - l.fraction.length)

/-- The finite number a text stands for, blank ends apart. -/
def read? (s : String) : Option Number :=
  (Literal.read? (Text.trimEnds s.toList)).bind Literal.value?

end GridFilter.Number

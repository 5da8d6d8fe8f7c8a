import GridFilter.Number.Basic
import GridFilter.Text.Numeral

/-!
# The fewest digits

A number is written with the fewest decimal digits that read back to it; among those the nearest
to its exact value.  Where two are equally near, a text shown to a reader takes the upper one and a
JSON document the one that ends in an even digit.  `shortest` searches the grids of one, two, …
seventeen digits and tests the two neighbours of the value on each; should none read back, the exact
decimal value is taken, so what is returned always reads back.
-/

namespace GridFilter.Number

/-- A decimal, `digits * 10 ^ exponent`. -/
structure Decimal where
  digits : Nat
  exponent : Int
  deriving DecidableEq, Repr

/-- The units of the number nearest to a decimal. -/
def Decimal.nearestUnits (d : Decimal) : Nat :=
  roundUnits (d.digits * Nat.pow 10 d.exponent.toNat * unitsPerOne)
    (Nat.pow 10 (-d.exponent).toNat)

/-- Does the decimal read back to a number of so many units? -/
def Decimal.readsBack (d : Decimal) (units : Nat) : Bool :=
  d.nearestUnits == units

/-- The decimal without the zeros its digits end in; `bound` is at least their number. -/
def Decimal.stripZeros : Nat → Decimal → Decimal
  | 0, d => d
  | bound + 1, d =>
    if d.digits != 0 && d.digits % 10 == 0 then
      Decimal.stripZeros bound ⟨d.digits / 10, d.exponent + 1⟩
    else d

/-- The exact value of so many units. -/
def exactDecimal (units : Nat) : Decimal :=
  ⟨units * Nat.pow 5 1074, -1074⟩

/-- The least `k` with the value below `10 ^ k`, for a positive number of units. -/
def leadingPower (units : Nat) : Int :=
  ((Text.digits (units * Nat.pow 10 400 / unitsPerOne)).length : Int) - 400

/-- Which of two decimals at the same distance is taken. -/
inductive Tie where
  /-- The upper one. -/
  | up
  /-- The one whose last digit is even. -/
  | even
  deriving DecidableEq, Repr

/-- Is the upper of two equally near decimals taken, given the digits of the lower one? -/
def Tie.takesUpper : Tie → Nat → Bool
  | up, _ => true
  | even, below => below % 2 == 1

/-- The neighbour of the value on the grid of step `10 ^ exponent` that reads back, the nearer one
if both do. -/
def onGrid? (tie : Tie) (units : Nat) (exponent : Int) : Option Decimal :=
  let num := units * Nat.pow 10 (-exponent).toNat
  let den := unitsPerOne * Nat.pow 10 exponent.toNat
  let below : Decimal := ⟨num / den, exponent⟩
  let above : Decimal := ⟨num / den + 1, exponent⟩
  let twice := 2 * (num % den)
  let upFirst := den < twice || (den == twice && tie.takesUpper below.digits)
  let first := if upFirst then above else below
  let second := if upFirst then below else above
  if first.readsBack units then some first
  else if second.readsBack units then some second
  else none

/-- The first of the grids of `count`, `count + 1`, … digits, `tries` of them, on which a neighbour
of the value reads back. -/
def firstGrid? (tie : Tie) (units : Nat) (power : Int) (tries count : Nat) : Option Decimal :=
  (List.range' count tries).findSome? fun (digits : Nat) => onGrid? tie units (power - digits)

/-- The fewest digits that read back to a number of so many units. -/
def shortest (tie : Tie) (units : Nat) : Decimal :=
  if units = 0 then ⟨0, 0⟩
  else
    let found := (firstGrid? tie units (leadingPower units) 17 1).getD (exactDecimal units)
    Decimal.stripZeros 1100 found

/-! ## Layout -/

/-- A decimal written positionally, without an exponent and without a fraction it does not have. -/
def Decimal.plain (d : Decimal) : List Char :=
  let digits := Text.digits d.digits
  if 0 ≤ d.exponent then
    digits ++ List.replicate d.exponent.toNat '0'
  else
    let places := (-d.exponent).toNat
    if places < digits.length then
      digits.take (digits.length - places) ++ '.' :: digits.drop (digits.length - places)
    else
      '0' :: '.' :: List.replicate (places - digits.length) '0' ++ digits

/-- A decimal as a JSON number with a fraction or an exponent: positional while the point stands
within sixteen places after the first digit or five before it. -/
def Decimal.scientific (d : Decimal) : List Char :=
  let digits := Text.digits d.digits
  let point : Int := digits.length + d.exponent
  if d.digits = 0 then ['0', '.', '0']
  else if 0 ≤ d.exponent ∧ point ≤ 16 then
    d.plain ++ ['.', '0']
  else if -5 < point ∧ point ≤ 16 then
    d.plain
  else
    let power := (Text.intText (point - 1)).toList
    match digits with
    | [single] => single :: 'e' :: power
    | lead :: rest => lead :: '.' :: rest ++ 'e' :: power
    | [] => []

/-- The sign of a number in front of the text of its size. -/
def signed (x : Number) (text : List Char) : String :=
  String.ofList (if x.negative then '-' :: text else text)

/-- The fewest digits, written positionally: `10`, `2.5`, `-0`.  A tie goes up. -/
def plainText (x : Number) : String :=
  x.signed (shortest .up x.units).plain

/-- The fewest digits as a JSON number that is not an integer: `10.0`, `2.5`, `1e21`.  A tie goes to
the even digit. -/
def jsonText (x : Number) : String :=
  x.signed (shortest .even x.units).scientific

/-- The text a number has on the wire: positional, and `0` for zero of either sign. -/
def wireText (x : Number) : String :=
  if x.isZero then "0" else x.plainText

end GridFilter.Number

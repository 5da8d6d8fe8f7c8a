/-!
# Decimal numerals

Whole numbers as ASCII digits.  Writing gives the shortest numeral; reading accepts leading zeros
and, for integers, either sign.
-/

namespace GridFilter.Text

/-- The digits of a number, most significant first, without leading zeros. -/
def digits (n : Nat) : List Char :=
  Nat.toDigits 10 n

/-- The value of one ASCII digit. -/
def digitValue (c : Char) : Nat :=
  c.toNat - '0'.toNat

/-- The value of a run of digits read after a number `n`. -/
def digitsValueFrom (n : Nat) : List Char → Nat
  | [] => n
  | c :: rest => digitsValueFrom (10 * n + digitValue c) rest

/-- The value of a run of digits; the empty run is zero. -/
def digitsValue (s : List Char) : Nat :=
  digitsValueFrom 0 s

/-- The text of a natural number. -/
def natText (n : Nat) : String :=
  String.ofList (digits n)

/-- The text of an integer: digits, after a minus sign when it is negative. -/
def intText : Int → String
  | .ofNat n => natText n
  | .negSucc n => String.ofList ('-' :: digits (n + 1))

/-- A number whose digits are at least `width` many, filled up with zeros. -/
def padded (width n : Nat) : List Char :=
  List.replicate (width - (digits n).length) '0' ++ digits n

/-- Reads a non-empty run of digits and nothing else. -/
def readNat? (s : List Char) : Option Nat :=
  if s.isEmpty || !s.all Char.isDigit then none else some (digitsValue s)

/-- Reads an optional sign and a non-empty run of digits, and nothing else. -/
def readInt? : List Char → Option Int
  | '-' :: rest => (readNat? rest).map fun n => -(n : Int)
  | '+' :: rest => (readNat? rest).map Int.ofNat
  | s => (readNat? s).map Int.ofNat

/-- The integers that fit in thirty-two signed bits. -/
def fitsInt32 (n : Int) : Bool :=
  -2147483648 ≤ n && n ≤ 2147483647

/-- Reads an integer of thirty-two signed bits. -/
def readInt32? (s : List Char) : Option Int :=
  (readInt? s).filter fitsInt32

/-- Reads a natural number of sixty-four bits; a plus sign may lead it. -/
def readUInt64? (s : List Char) : Option Nat :=
  let body := match s with
    | '+' :: rest => rest
    | other => other
  (readNat? body).filter (· < Nat.pow 2 64)

end GridFilter.Text

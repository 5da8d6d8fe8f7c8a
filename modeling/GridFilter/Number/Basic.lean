/-!
# Finite binary64 numbers

Every number a control or a document holds is a finite binary64 value, so it is a whole multiple
of the least positive one, `2 ^ -1074`.  A `Number` is its sign and that multiple, and all
arithmetic below is exact arithmetic on naturals followed by one rounding to the nearest multiple
that is representable, ties to even.
-/

namespace GridFilter

namespace Number

/-- How many units make one: the least positive value is `2 ^ -1074`. -/
def unitsPerOne : Nat :=
  Nat.pow 2 1074

/-- The first multiple past the finite range. -/
def unitsLimit : Nat :=
  Nat.pow 2 2098

theorem unitsLimit_pos : 0 < unitsLimit := by
  unfold unitsLimit
  generalize 2098 = exponent
  exact Nat.two_pow_pos exponent

/-- The exponent of the gap between neighbouring values of this size: fifty-three bits are kept. -/
def gapExponent (units : Nat) : Nat :=
  units.log2 - 52

/-- A multiple is representable when it uses no bit below its gap and stays in the finite range. -/
def Representable (units : Nat) : Prop :=
  units % Nat.pow 2 (gapExponent units) = 0 ∧ units < unitsLimit

instance (units : Nat) : Decidable (Representable units) :=
  inferInstanceAs (Decidable (_ ∧ _))

theorem representable_zero : Representable 0 :=
  ⟨Nat.zero_mod _, unitsLimit_pos⟩

end Number

/-- A finite binary64 value: `units` times `2 ^ -1074`, with a sign that zero keeps too. -/
structure Number where
  negative : Bool
  units : Nat
  representable : Number.Representable units
  deriving DecidableEq

namespace Number

/-- The positive zero. -/
def zero : Number :=
  ⟨false, 0, representable_zero⟩

instance : Inhabited Number :=
  ⟨zero⟩

/-! ## Rounding -/

/-- The quotient rounded to the nearest whole number, a half going to the even neighbour. -/
def roundQuotient (num den : Nat) : Nat :=
  let quotient := num / den
  let twice := 2 * (num % den)
  if twice < den || (twice == den && quotient % 2 == 0) then quotient else quotient + 1

/-- The quotient `num / den`, counted in units, rounded to the gap of its size. -/
def roundUnits (num den : Nat) : Nat :=
  let gap := Nat.pow 2 (gapExponent (num / den))
  roundQuotient num (den * gap) * gap

/-- The number of so many units, unless they lie past the finite range. -/
def ofUnits? (negative : Bool) (units : Nat) : Option Number :=
  if h : Representable units then some ⟨negative, units, h⟩ else none

/-- The number nearest to `num / den`, unless it lies past the finite range. -/
def ofQuotient? (negative : Bool) (num den : Nat) : Option Number :=
  ofUnits? negative (roundUnits (num * unitsPerOne) den)

/-- The number nearest to an integer of sixty-four bits. -/
def ofInt (n : Int) : Number :=
  (ofQuotient? (n < 0) n.natAbs 1).getD zero

/-- The number nearest to `mantissa * 10 ^ exponent`, unless it lies past the finite range.
Exponents that settle the answer on their own are answered without computing the power. -/
def ofDecimal? (negative : Bool) (mantissa : Nat) (exponent : Int) : Option Number :=
  if mantissa = 0 then ofUnits? negative 0
  else if 400 < exponent then none
  else if exponent + (mantissa.log2 + 1) < -400 then ofUnits? negative 0
  else ofQuotient? negative (mantissa * Nat.pow 10 exponent.toNat)
    (Nat.pow 10 (-exponent).toNat)

/-- The product of two numbers, rounded once. -/
def mul? (x y : Number) : Option Number :=
  ofUnits? (x.negative != y.negative) (roundUnits (x.units * y.units) unitsPerOne)

/-- The quotient of two numbers, rounded once; the divisor is not zero. -/
def div? (x y : Number) : Option Number :=
  ofUnits? (x.negative != y.negative) (roundUnits (x.units * unitsPerOne) y.units)

/-! ## Questions -/

/-- Zero of either sign. -/
def isZero (x : Number) : Bool :=
  x.units == 0

/-- Is the value below zero?  A negative zero is not. -/
def isBelowZero (x : Number) : Bool :=
  x.negative && x.units != 0

/-- Has the value no fractional part? -/
def isWhole (x : Number) : Bool :=
  x.units % unitsPerOne == 0

/-- The integer part, cut toward zero. -/
def truncated (x : Number) : Int :=
  let magnitude : Int := (x.units / unitsPerOne : Nat)
  if x.negative then -magnitude else magnitude

/-- The integer part, held at the nearer end where it leaves thirty-two signed bits. -/
def toInt32 (x : Number) : Int :=
  max (-2147483648) (min 2147483647 x.truncated)

end Number

end GridFilter

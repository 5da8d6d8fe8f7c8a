import GridFilter.Number.Shortest
import Mathlib.Tactic.Ring

/-!
# What rounding depends on

`roundUnits num den` is the representable multiple nearest to a quotient.  Three facts about it are
all that reading back needs: it depends on the quotient and not on how it is written
(`roundUnits_mul_left`), it fixes what is representable (`roundUnits_mul_self`), and what lies below
one half goes to zero (`roundUnits_eq_zero`).

For decimals the first of them says that zeros at the end of the digits do not count
(`nearestUnits_stripZeros`).  So the decimal that `shortest` returns reads back, wherever the search
for it ended (`nearestUnits_shortest`): on a grid it was tested, and past all grids it is exact.
-/

namespace GridFilter.Number

variable {num den units : Nat}

lemma unitsPerOne_pos : 0 < unitsPerOne := by
  unfold unitsPerOne
  generalize 1074 = exponent
  exact Nat.two_pow_pos exponent

/-! ## Quotients -/

lemma roundQuotient_mul_left {factor : Nat} (h : 0 < factor) (num den : Nat) :
    roundQuotient (factor * num) (factor * den) = roundQuotient num den := by
  have htwice : 2 * (factor * (num % den)) = factor * (2 * (num % den)) := by ring
  have hbelow : factor * (2 * (num % den)) < factor * den ↔ 2 * (num % den) < den :=
    Nat.mul_lt_mul_left h
  have hhalf : factor * (2 * (num % den)) = factor * den ↔ 2 * (num % den) = den :=
    Nat.mul_right_inj (Nat.ne_of_gt h)
  unfold roundQuotient
  dsimp only
  rw [Nat.mul_div_mul_left num den h, Nat.mul_mod_mul_left, htwice]
  simp only [Bool.or_eq_true, Bool.and_eq_true, decide_eq_true_eq, beq_iff_eq, hbelow, hhalf]

lemma roundQuotient_mul_self (quotient : Nat) (h : 0 < den) :
    roundQuotient (quotient * den) den = quotient := by
  unfold roundQuotient
  dsimp only
  rw [Nat.mul_div_cancel _ h, Nat.mul_mod_left]
  simp [h]

/-- A quotient below one half is rounded to zero. -/
lemma roundQuotient_eq_zero (h : 2 * num < den) : roundQuotient num den = 0 := by
  have hlt : num < den := by omega
  unfold roundQuotient
  dsimp only
  rw [Nat.div_eq_of_lt hlt, Nat.mod_eq_of_lt hlt]
  simp [h]

/-! ## Units -/

/-- Rounding depends on the quotient only. -/
lemma roundUnits_mul_left {factor : Nat} (h : 0 < factor) (num den : Nat) :
    roundUnits (factor * num) (factor * den) = roundUnits num den := by
  unfold roundUnits
  dsimp only
  rw [Nat.mul_div_mul_left num den h, Nat.mul_assoc factor, roundQuotient_mul_left h]

/-- What is representable is left alone. -/
lemma roundUnits_mul_self (h : Representable units) (hden : 0 < den) :
    roundUnits (units * den) den = units := by
  have hgap : 0 < Nat.pow 2 (gapExponent units) := Nat.two_pow_pos _
  obtain ⟨steps, hsteps⟩ := Nat.dvd_of_mod_eq_zero h.1
  have hproduct : units * den = steps * (den * Nat.pow 2 (gapExponent units)) := by
    conv_lhs => rw [hsteps]
    ring
  unfold roundUnits
  dsimp only
  rw [Nat.mul_div_cancel _ hden, hproduct, roundQuotient_mul_self _ (Nat.mul_pos hden hgap),
    Nat.mul_comm, ← hsteps]

lemma roundUnits_eq_zero (h : 2 * num < den) : roundUnits num den = 0 := by
  have hquotient : num / den = 0 := Nat.div_eq_of_lt (by omega)
  have hgap : Nat.pow 2 (gapExponent 0) = 1 := by decide
  unfold roundUnits
  dsimp only
  rw [hquotient, hgap, Nat.mul_one, Nat.mul_one, roundQuotient_eq_zero h]

/-! ## Decimals -/

namespace Decimal

/-- One zero at the end of the digits counts as one more in the exponent. -/
lemma nearestUnits_shift (digits : Nat) (exponent : Int) :
    nearestUnits ⟨digits, exponent + 1⟩ = nearestUnits ⟨10 * digits, exponent⟩ := by
  unfold nearestUnits
  dsimp only
  by_cases hexponent : 0 ≤ exponent
  · have hup : (exponent + 1).toNat = exponent.toNat + 1 := by omega
    have hdown : (-(exponent + 1)).toNat = (-exponent).toNat := by omega
    have hproduct : digits * Nat.pow 10 (exponent.toNat + 1) =
        10 * digits * Nat.pow 10 exponent.toNat := by
      simp only [Nat.pow_eq, pow_succ]
      ring
    rw [hup, hdown, hproduct]
  · have hup : (exponent + 1).toNat = exponent.toNat := by omega
    have hdown : (-exponent).toNat = (-(exponent + 1)).toNat + 1 := by omega
    have hnum : 10 * digits * Nat.pow 10 exponent.toNat * unitsPerOne =
        10 * (digits * Nat.pow 10 exponent.toNat * unitsPerOne) := by ring
    have hden : Nat.pow 10 ((-(exponent + 1)).toNat + 1) =
        10 * Nat.pow 10 (-(exponent + 1)).toNat := by
      simp only [Nat.pow_eq, pow_succ]
      ring
    rw [hup, hdown, hnum, hden, roundUnits_mul_left (by decide)]

lemma nearestUnits_zero (exponent : Int) : nearestUnits ⟨0, exponent⟩ = 0 := by
  have hpositive : 0 < Nat.pow 10 (-exponent).toNat := Nat.pow_pos (by decide)
  unfold nearestUnits
  dsimp only
  rw [Nat.zero_mul, Nat.zero_mul, roundUnits_eq_zero hpositive]

/-- Stripping zeros changes no value. -/
lemma nearestUnits_stripZeros (bound : Nat) (d : Decimal) :
    (stripZeros bound d).nearestUnits = d.nearestUnits := by
  induction bound generalizing d with
  | zero => rfl
  | succ bound ih =>
      rw [stripZeros]
      split
      · next hzero =>
          have hdigits : 10 * (d.digits / 10) = d.digits := by
            simp only [Bool.and_eq_true, beq_iff_eq] at hzero
            omega
          rw [ih, nearestUnits_shift, hdigits]
      · rfl

/-- Past the last grid the exact value is taken. -/
lemma nearestUnits_exactDecimal (h : Representable units) :
    (exactDecimal units).nearestUnits = units := by
  have hsplit : ∀ exponent, Nat.pow 10 exponent = Nat.pow 5 exponent * Nat.pow 2 exponent :=
    fun exponent => Nat.mul_pow 5 2 exponent
  have hup : (-1074 : Int).toNat = 0 := rfl
  have hdown : (-(-1074) : Int).toNat = 1074 := rfl
  unfold nearestUnits exactDecimal unitsPerOne
  dsimp only
  rw [hup, hdown]
  generalize 1074 = exponent
  have hproduct : units * Nat.pow 5 exponent * Nat.pow 10 0 * Nat.pow 2 exponent =
      units * Nat.pow 10 exponent := by
    rw [hsplit exponent]
    simp only [Nat.pow_eq, pow_zero]
    ring
  have hpositive : 0 < Nat.pow 10 exponent := Nat.pow_pos (by decide)
  rw [hproduct, roundUnits_mul_self h hpositive]

end Decimal

/-! ## The search -/

variable {tie : Tie} {d : Decimal}

lemma nearestUnits_of_onGrid? {exponent : Int} (h : onGrid? tie units exponent = some d) :
    d.nearestUnits = units := by
  -- Whichever neighbour is tried first, the one that is taken was tested.
  have htested : ∀ first second : Decimal,
      (if first.readsBack units then some first
        else if second.readsBack units then some second else none) = some d →
        d.readsBack units = true := by
    intro first second hpick
    split at hpick
    · next hfirst => rwa [← Option.some.inj hpick]
    · split at hpick
      · next hsecond => rwa [← Option.some.inj hpick]
      · exact absurd hpick.symm (Option.some_ne_none d)
  simpa [Decimal.readsBack] using htested _ _ h

/-- Whichever grid the search stops on, what it returns was tested there. -/
lemma nearestUnits_of_firstGrid? {power : Int} {tries count : Nat}
    (h : firstGrid? tie units power tries count = some d) : d.nearestUnits = units := by
  obtain ⟨_, _, hgrid⟩ := List.exists_of_findSome?_eq_some h
  exact nearestUnits_of_onGrid? hgrid

/-- The fewest digits read back to the number that they were taken from. -/
theorem nearestUnits_shortest (tie : Tie) (h : Representable units) :
    (shortest tie units).nearestUnits = units := by
  unfold shortest
  split
  · next hzero =>
      rw [hzero]
      exact Decimal.nearestUnits_zero 0
  · dsimp only
    rw [Decimal.nearestUnits_stripZeros]
    cases hfound : firstGrid? tie units (leadingPower units) 17 1 with
    | some found => exact nearestUnits_of_firstGrid? hfound
    | none => exact Decimal.nearestUnits_exactDecimal h

end GridFilter.Number

import GridFilter.Proofs.ValueShape.RoundTrip
import GridFilter.Validation
import Mathlib.Data.Rat.Cast.Order

/-!
# Numbers given for choices

The value of a choice is an integer of thirty-two bits.  An editor may hand over a number in its
place, and the number has to be brought to that range.  One with a fractional part is refused, so
one might expect the same of an integer that no choice can have.  It is not refused but held at the
nearer end of the range (`Column.choice_held_at_end`), and where the column lists no choices of its
own the result is accepted as the choice that was meant.

`Column.decodeValue_number` says what every number becomes, and that this is the number itself, or
nothing, exactly when it is no integer beyond the ends.  It is said of the exact value of a number
(`Number.value`), so that nothing in it depends on how a number is kept.
-/

namespace GridFilter

/-! ## The value of a number -/

namespace Number

variable {x : Number} {n : Int}

/-- The units with the sign in front. -/
def signedUnits (x : Number) : Int :=
  if x.negative then -(x.units : Int) else x.units

/-- The exact value of a number. -/
def value (x : Number) : ℚ :=
  x.signedUnits / unitsPerOne

lemma natAbs_signedUnits (x : Number) : x.signedUnits.natAbs = x.units := by
  unfold signedUnits
  split <;> simp

lemma value_eq_iff_signedUnits : x.value = n ↔ x.signedUnits = n * unitsPerOne := by
  have hunits : (unitsPerOne : ℚ) ≠ 0 := Nat.cast_ne_zero.mpr unitsPerOne_pos.ne'
  rw [value, div_eq_iff hunits, ← Int.cast_natCast, ← Int.cast_mul, Int.cast_inj]

/-- Without a fractional part the integer part is all there is. -/
lemma signedUnits_of_isWhole (h : x.isWhole = true) :
    x.signedUnits = x.truncated * unitsPerOne := by
  have hparts : (x.units : Int) = (x.units / unitsPerOne : Nat) * (unitsPerOne : Int) := by
    have hdvd : unitsPerOne ∣ x.units := Nat.dvd_of_mod_eq_zero (beq_iff_eq.mp h)
    exact_mod_cast (Nat.div_mul_cancel hdvd).symm
  unfold signedUnits truncated
  dsimp only
  split
  · rw [neg_mul, ← hparts]
  · exact hparts

/-- A number equals an integer when it has no fractional part and that integer part. -/
lemma value_eq_iff : x.value = n ↔ x.isWhole = true ∧ x.truncated = n := by
  rw [value_eq_iff_signedUnits]
  constructor
  · intro hunits
    have hwhole : x.isWhole = true := by
      have hmultiple : x.units = n.natAbs * unitsPerOne := by
        rw [← natAbs_signedUnits, hunits, Int.natAbs_mul, Int.natAbs_natCast]
      rw [isWhole, hmultiple, Nat.mul_mod_left]
      rfl
    have hpositive : (unitsPerOne : Int) ≠ 0 := Int.natCast_ne_zero.mpr unitsPerOne_pos.ne'
    rw [signedUnits_of_isWhole hwhole] at hunits
    exact ⟨hwhole, mul_right_cancel₀ hpositive hunits⟩
  · rintro ⟨hwhole, rfl⟩
    exact signedUnits_of_isWhole hwhole

/-! ## Held at the ends -/

/-- The integer part held within thirty-two bits fits in them. -/
lemma fitsInt32_toInt32 (x : Number) : Text.fitsInt32 x.toInt32 = true := by
  have hlow : -2147483648 ≤ x.toInt32 := le_max_left _ _
  have hhigh : x.toInt32 ≤ 2147483647 := max_le (by decide) (min_le_left _ _)
  rw [Text.fitsInt32, Bool.and_eq_true]
  exact ⟨decide_eq_true hlow, decide_eq_true hhigh⟩

/-- An integer that fits is not moved, and no other is left where it was. -/
lemma toInt32_eq_truncated_iff : x.toInt32 = x.truncated ↔ Text.fitsInt32 x.truncated = true := by
  constructor
  · intro hsame
    rw [← hsame]
    exact fitsInt32_toInt32 x
  · intro hfits
    rw [Text.fitsInt32, Bool.and_eq_true] at hfits
    have hlow : -2147483648 ≤ x.truncated := of_decide_eq_true hfits.1
    have hhigh : x.truncated ≤ 2147483647 := of_decide_eq_true hfits.2
    rw [toInt32, min_eq_right hhigh, max_eq_right hlow]

end Number

/-! ## What is made of a number -/

namespace ValueShape

variable {x : Number}

lemma encodeOptions_number_eq_null (h : x.isWhole = false) : encodeOptions (.number x) = .null := by
  rw [encodeOptions, h]
  rfl

/-- A number without a fractional part is read back as the choice at which it is held. -/
lemma decodeOptions_number (h : x.isWhole = true) :
    decodeOptions (encodeOptions (.number x)) = .options [x.toInt32] := by
  have hfits : ∀ n ∈ [x.toInt32], Text.fitsInt32 n = true := by
    intro n hmem
    rw [List.mem_singleton.mp hmem]
    exact Number.fitsInt32_toInt32 x
  rw [encodeOptions, if_pos h]
  exact decodeOptions_ofTexts hfits

end ValueShape

namespace Column

variable {column : Column} {operator : Operator}

/-- On option sets an operator that takes a list takes choices. -/
lemma valueShape_of_takesList
    (hkind : column.kind = .optionSet ∨ column.kind = .multiSelectOptionSet)
    (htakes : operator.takesList = true) : column.valueShape operator = .options := by
  have hvalue := Operator.isValueless_of_takesList htakes
  have hpattern := Operator.isPattern_of_takesList htakes
  rcases hkind with hkind | hkind <;> simp [valueShape, ValueShape.of, hkind, hvalue, hpattern]

/-- A number is taken for the choice that it equals, or for none. -/
def TakesExactly (column : Column) (operator : Operator) (x : Number) : Prop :=
  column.encodeValue operator (.number x) = .null ∨
    ∃ choice : Int, x.value = choice ∧
      column.decodeValue operator (column.encodeValue operator (.number x)) = .options [choice]

section Choices

variable {x : Number} (hshape : column.valueShape operator = .options)
include hshape

lemma encodeValue_number_eq_null (h : x.isWhole = false) :
    column.encodeValue operator (.number x) = .null := by
  rw [encodeValue, hshape]
  exact ValueShape.encodeOptions_number_eq_null h

lemma decodeValue_encodeValue_number (h : x.isWhole = true) :
    column.decodeValue operator (column.encodeValue operator (.number x)) =
      .options [x.toInt32] := by
  rw [decodeValue, encodeValue, hshape]
  exact ValueShape.decodeOptions_number h

/-- A number without a fractional part is not refused. -/
lemma encodeValue_number_ne_null (h : x.isWhole = true) :
    column.encodeValue operator (.number x) ≠ .null := by
  intro hnull
  have hread := decodeValue_encodeValue_number hshape h
  rw [hnull, decodeValue, hshape] at hread
  exact absurd hread (by simp [ValueShape.decode, ValueShape.decodeOptions, WireValue.isNull])

/-- A number without a fractional part is taken for itself unless it is held at an end. -/
lemma takesExactly_iff_of_isWhole (h : x.isWhole = true) :
    column.TakesExactly operator x ↔ Text.fitsInt32 x.truncated = true := by
  have hread := decodeValue_encodeValue_number hshape h
  rw [← Number.toInt32_eq_truncated_iff]
  constructor
  · rintro (hnull | ⟨choice, hchoice, hback⟩)
    · exact absurd hnull (encodeValue_number_ne_null hshape h)
    · have hsame : [x.toInt32] = [choice] := ControlValue.options.inj (hread.symm.trans hback)
      rw [(Number.value_eq_iff.mp hchoice).2]
      exact List.singleton_inj.mp hsame
  · intro hheld
    exact .inr ⟨x.truncated, Number.value_eq_iff.mpr ⟨h, rfl⟩, by rw [hread, hheld]⟩

end Choices

/-- On an option set a number that is no integer is refused, and an integer is read back as the
nearest one of thirty-two bits.  So what is read back is what was given, or nothing, exactly when
the number is no integer beyond the ends. -/
theorem decodeValue_number
    (hkind : column.kind = .optionSet ∨ column.kind = .multiSelectOptionSet)
    (htakes : operator.takesList = true) (x : Number) :
    ((∀ n : Int, x.value ≠ n) → column.encodeValue operator (.number x) = .null) ∧
      (∀ n : Int, x.value = n →
        column.decodeValue operator (column.encodeValue operator (.number x)) =
          .options [max (-2147483648) (min 2147483647 n)]) ∧
      (column.TakesExactly operator x ↔
        ∀ n : Int, x.value = n → Text.fitsInt32 n = true) := by
  have hshape := valueShape_of_takesList hkind htakes
  cases hwhole : x.isWhole with
  | false =>
      have hnone : ∀ n : Int, x.value ≠ n := by
        intro n hvalue
        rw [(Number.value_eq_iff.mp hvalue).1] at hwhole
        exact absurd hwhole Bool.noConfusion
      have hrefused := encodeValue_number_eq_null hshape hwhole
      exact ⟨fun _ => hrefused, fun n hvalue => absurd hvalue (hnone n),
        fun _ n hvalue => absurd hvalue (hnone n), fun _ => .inl hrefused⟩
  | true =>
      have hvalue : ∀ n : Int, x.value = n ↔ n = x.truncated := by
        intro n
        rw [Number.value_eq_iff, hwhole, eq_comm (a := n)]
        exact and_iff_right rfl
      refine ⟨fun hnone => absurd ((hvalue _).mpr rfl) (hnone _), fun n hn => ?_, ?_⟩
      · rw [decodeValue_encodeValue_number hshape hwhole, Number.toInt32, (hvalue n).mp hn]
      · rw [takesExactly_iff_of_isWhole hshape hwhole]
        simp only [hvalue, forall_eq]

/-- The greatest integer of thirty-two bits is still taken for itself. -/
theorem decodeValue_number_greatest :
    let column : Column := ⟨"colours", .multiSelectOptionSet, {}⟩
    let x := Number.ofInt 2147483647
    column.kind = .multiSelectOptionSet ∧ Operator.containValues.takesList = true ∧
      x.value = (2147483647 : Int) ∧
      column.decodeValue .containValues (column.encodeValue .containValues (.number x)) =
        .options [2147483647] ∧
      column.TakesExactly .containValues x := by
  intro column x
  have hkind : column.kind = .multiSelectOptionSet := rfl
  have htakes : Operator.containValues.takesList = true := rfl
  have hvalue : x.value = (2147483647 : Int) :=
    Number.value_eq_iff.mpr ⟨by decide +kernel, by decide +kernel⟩
  obtain ⟨-, hread, hexact⟩ := decodeValue_number (.inr hkind) htakes x
  refine ⟨hkind, htakes, hvalue, hread _ hvalue, hexact.mpr fun n hn => ?_⟩
  rw [hvalue, Int.cast_inj] at hn
  rw [← hn]
  rfl

/-- An integer beyond the ends is taken for the greatest of thirty-two bits, and a column that lists
no choices accepts it. -/
theorem choice_held_at_end :
    let column : Column := ⟨"statuscode", .optionSet, {}⟩
    let x := Number.ofInt 3000000000
    column.supports .equal = true ∧ x.value = (3000000000 : Int) ∧
      column.decodeValue .equal (column.encodeValue .equal (.number x)) = .options [2147483647] ∧
      column.validate .equal (column.encodeValue .equal (.number x)) = [none] ∧
      ¬ column.TakesExactly .equal x := by
  intro column x
  have hvalue : x.value = (3000000000 : Int) :=
    Number.value_eq_iff.mpr ⟨by decide +kernel, by decide +kernel⟩
  have hread : column.decodeValue .equal (column.encodeValue .equal (.number x)) =
      .options [2147483647] := by
    decide +kernel
  refine ⟨rfl, hvalue, hread, by decide +kernel, ?_⟩
  rintro (hnull | ⟨choice, hchoice, hback⟩)
  · rw [hnull] at hread
    exact absurd hread (by decide)
  · rw [hread, ControlValue.options.injEq, List.singleton_inj] at hback
    rw [hvalue, Int.cast_inj, ← hback] at hchoice
    exact absurd hchoice (by decide)

end Column

end GridFilter

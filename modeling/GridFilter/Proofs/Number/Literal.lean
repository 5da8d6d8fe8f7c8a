import GridFilter.Number.Literal
import GridFilter.Proofs.Number.Rounding
import GridFilter.Proofs.Text.Numeral

/-!
# Numbers read back

A number is shown as the fewest digits that read back to it, laid out around a point.  This module
closes the circle: `read?_plainText` reads the text of every number as that number, and
`read?_wireText` reads what the wire carries, where the zeros of both signs are one.

Three steps lead there.  The layout of a decimal is two runs of digits whose value is the decimal's
(`exists_laidOut`); the reader takes exactly those runs apart (`Literal.read?_laidOut`); and what it
makes of them is one rounding, since the exponents that it answers without one would be rounded to
the same answer (`ofDecimal?_eq`).
-/

namespace GridFilter.Number

open Text (digitsValue)

/-! ## Laying digits out -/

/-- Digits behind a point; without digits there is no point. -/
def pointed : List Char → List Char
  | [] => []
  | digit :: rest => '.' :: digit :: rest

lemma pointed_of_ne_nil {fraction : List Char} (h : fraction ≠ []) :
    pointed fraction = '.' :: fraction := by
  cases fraction with
  | nil => exact absurd rfl h
  | cons digit rest => rfl

/-- The positional text of a decimal, taken apart at the point. -/
structure LaidOut (d : Decimal) (whole fraction : List Char) : Prop where
  plain : d.plain = whole ++ pointed fraction
  whole_ne_nil : whole ≠ []
  isDigit : ∀ c ∈ whole ++ fraction, c.isDigit = true
  nearestUnits : Decimal.nearestUnits ⟨digitsValue (whole ++ fraction), -fraction.length⟩ =
    d.nearestUnits

lemma nearestUnits_whole (digits power : Nat) :
    Decimal.nearestUnits ⟨digits * 10 ^ power, 0⟩ = Decimal.nearestUnits ⟨digits, power⟩ := by
  have hup : ((power : Int)).toNat = power := Int.toNat_natCast power
  have hdown : (-(power : Int)).toNat = 0 := by omega
  unfold Decimal.nearestUnits
  dsimp only
  rw [hup, hdown]
  show roundUnits (digits * 10 ^ power * 1 * unitsPerOne) 1 = _
  rw [Nat.mul_one]
  rfl

/-- Without a fraction, the zeros that the exponent asks for follow the digits. -/
lemma laidOut_whole {d : Decimal} (h : 0 ≤ d.exponent) :
    LaidOut d (Text.digits d.digits ++ List.replicate d.exponent.toNat '0') [] where
  plain := by
    rw [Decimal.plain, if_pos h]
    simp [pointed]
  whole_ne_nil := by simp [Text.digits_ne_nil]
  isDigit := by
    intro c hmem
    rw [List.append_nil] at hmem
    rcases List.mem_append.mp hmem with hdigit | hzero
    · exact Text.isDigit_of_mem_digits hdigit
    · exact Text.isDigit_of_mem_zeros hzero
  nearestUnits := by
    have hexponent : ((d.exponent.toNat : Nat) : Int) = d.exponent := Int.toNat_of_nonneg h
    rw [List.append_nil, Text.digitsValue_append_zeros, Text.digitsValue_digits]
    show Decimal.nearestUnits ⟨d.digits * 10 ^ d.exponent.toNat, 0⟩ = _
    rw [nearestUnits_whole, hexponent]

/-- With enough digits the point stands among them. -/
lemma laidOut_split {d : Decimal} (h : d.exponent < 0)
    (hplaces : (-d.exponent).toNat < (Text.digits d.digits).length) :
    LaidOut d
      ((Text.digits d.digits).take ((Text.digits d.digits).length - (-d.exponent).toNat))
      ((Text.digits d.digits).drop ((Text.digits d.digits).length - (-d.exponent).toNat)) := by
  set digits := Text.digits d.digits with hdigits
  have hlength : (digits.drop (digits.length - (-d.exponent).toNat)).length =
      (-d.exponent).toNat := by
    rw [List.length_drop]
    omega
  have hfraction : digits.drop (digits.length - (-d.exponent).toNat) ≠ [] := by
    rw [← List.length_pos_iff, hlength]
    omega
  refine ⟨?plain, ?whole_ne_nil, ?isDigit, ?nearestUnits⟩
  case plain =>
    rw [pointed_of_ne_nil hfraction, Decimal.plain, if_neg (by omega)]
    dsimp only
    rw [if_pos hplaces]
  case whole_ne_nil =>
    rw [← List.length_pos_iff, List.length_take]
    omega
  case isDigit =>
    intro c hmem
    rw [List.take_append_drop] at hmem
    exact Text.isDigit_of_mem_digits hmem
  case nearestUnits =>
    have hexponent : -(((-d.exponent).toNat : Nat) : Int) = d.exponent := by omega
    rw [List.take_append_drop, hlength, hexponent, hdigits, Text.digitsValue_digits]

/-- With too few digits, zeros fill the places behind the point. -/
lemma laidOut_filled {d : Decimal} (h : d.exponent < 0)
    (hplaces : (Text.digits d.digits).length ≤ (-d.exponent).toNat) :
    LaidOut d ['0'] (List.replicate ((-d.exponent).toNat - (Text.digits d.digits).length) '0' ++
      Text.digits d.digits) := by
  set digits := Text.digits d.digits with hdigits
  set zeros := List.replicate ((-d.exponent).toNat - digits.length) '0' with hzeros
  have hlength : (zeros ++ digits).length = (-d.exponent).toNat := by
    rw [hzeros, List.length_append, List.length_replicate]
    omega
  have hfraction : zeros ++ digits ≠ [] := by
    rw [← List.length_pos_iff, hlength]
    omega
  have hall : ['0'] ++ (zeros ++ digits) =
      List.replicate ((-d.exponent).toNat - digits.length + 1) '0' ++ digits := by
    rw [hzeros, List.replicate_succ]
    rfl
  refine ⟨?plain, List.cons_ne_nil _ _, ?isDigit, ?nearestUnits⟩
  case plain =>
    rw [pointed_of_ne_nil hfraction, Decimal.plain, if_neg (by omega)]
    dsimp only
    rw [if_neg (Nat.not_lt.mpr hplaces)]
    simp [hzeros, hdigits]
  case isDigit =>
    intro c hmem
    rw [hall] at hmem
    rcases List.mem_append.mp hmem with hzero | hdigit
    · exact Text.isDigit_of_mem_zeros hzero
    · exact Text.isDigit_of_mem_digits hdigit
  case nearestUnits =>
    have hexponent : -(((-d.exponent).toNat : Nat) : Int) = d.exponent := by omega
    rw [hall, hlength, hexponent, hdigits, Text.digitsValue_zeros_append, Text.digitsValue_digits]

lemma exists_laidOut (d : Decimal) : ∃ whole fraction, LaidOut d whole fraction := by
  by_cases hexponent : 0 ≤ d.exponent
  · exact ⟨_, _, laidOut_whole hexponent⟩
  · by_cases hplaces : (-d.exponent).toNat < (Text.digits d.digits).length
    · exact ⟨_, _, laidOut_split (by omega) hplaces⟩
    · exact ⟨_, _, laidOut_filled (by omega) (by omega)⟩

/-! ## Taking literals apart -/

section Literals

variable {d : Decimal} {whole fraction : List Char}

/-- The characters of a number's text in front of a sign. -/
def signedChars (negative : Bool) (text : List Char) : List Char :=
  if negative then '-' :: text else text

lemma takeSign_signedChars {digit : Char} (h : digit.isDigit = true) (negative : Bool)
    (rest : List Char) :
    takeSign (signedChars negative (digit :: rest)) = (negative, digit :: rest) := by
  cases negative with
  | true => rfl
  | false =>
      have hminus : digit ≠ '-' := Text.ne_of_isDigit h rfl
      have hplus : digit ≠ '+' := Text.ne_of_isDigit h rfl
      simp [signedChars, takeSign, hminus, hplus]

lemma stopsBefore_pointed (fraction : List Char) : Text.StopsBefore (pointed fraction) := by
  cases fraction with
  | nil => exact Text.stopsBefore_nil
  | cons digit rest => exact Text.stopsBefore_cons rfl _

/-- The reader finds the two runs of digits that were laid out. -/
lemma Literal.read?_laidOut (h : LaidOut d whole fraction) (negative : Bool) :
    Literal.read? (signedChars negative d.plain) = some ⟨negative, whole, fraction, 0⟩ := by
  have hwhole : ∀ c ∈ whole, c.isDigit = true :=
    fun c hmem => h.isDigit c (List.mem_append_left _ hmem)
  have hfraction : ∀ c ∈ fraction, c.isDigit = true :=
    fun c hmem => h.isDigit c (List.mem_append_right _ hmem)
  have hsign : takeSign (signedChars negative d.plain) = (negative, whole ++ pointed fraction) := by
    rw [h.plain]
    cases hcases : whole with
    | nil => exact absurd hcases h.whole_ne_nil
    | cons digit rest =>
        have hdigit : digit.isDigit = true := hwhole digit (by simp [hcases])
        exact takeSign_signedChars hdigit negative (rest ++ pointed fraction)
  have hempty : whole.isEmpty = false := by simpa using h.whole_ne_nil
  unfold Literal.read?
  rw [hsign]
  dsimp only
  rw [Text.takeWhile_isDigit_append hwhole (stopsBefore_pointed fraction),
    Text.dropWhile_isDigit_append hwhole (stopsBefore_pointed fraction)]
  cases hcases : fraction with
  | nil => simp [pointed, hempty, readExponent?]
  | cons digit rest =>
      have htake : (digit :: rest).takeWhile Char.isDigit = digit :: rest := by
        rw [← hcases]
        exact List.takeWhile_eq_self_iff.mpr hfraction
      have hdrop : (digit :: rest).dropWhile Char.isDigit = [] := by
        rw [← hcases]
        exact List.dropWhile_eq_nil_iff.mpr hfraction
      simp only [pointed, htake, hdrop, hempty, Bool.false_and, Bool.false_eq_true, if_false,
        readExponent?, Option.map_some]

end Literals

/-! ## The value of a literal -/

/-- Three bits make less than a decimal place. -/
lemma two_pow_le_ten_pow {bits places : Nat} (h : bits ≤ 3 * places) : 2 ^ bits ≤ 10 ^ places :=
  calc 2 ^ bits ≤ 2 ^ (3 * places) := Nat.pow_le_pow_right (by decide) h
    _ = (2 ^ 3) ^ places := Nat.pow_mul 2 3 places
    _ ≤ 10 ^ places := Nat.pow_le_pow_left (by decide) places

lemma two_mul_unitsPerOne_le {places : Nat} (h : 401 ≤ places) :
    2 * unitsPerOne ≤ 10 ^ places := by
  unfold unitsPerOne
  generalize hbits : 1074 = bits
  calc 2 * Nat.pow 2 bits = 2 ^ (bits + 1) := Nat.pow_succ'.symm
    _ ≤ 10 ^ places := two_pow_le_ten_pow (by omega)

/-- Far below the least positive number everything is rounded to zero. -/
lemma nearestUnits_of_far_below {mantissa : Nat} {exponent : Int}
    (h : exponent + (mantissa.log2 + 1) < -400) :
    Decimal.nearestUnits ⟨mantissa, exponent⟩ = 0 := by
  have hup : exponent.toNat = 0 := by omega
  obtain ⟨rest, hplaces⟩ : ∃ rest, (-exponent).toNat = mantissa.log2 + 1 + rest :=
    Nat.exists_eq_add_of_le (by omega)
  have hrest : 401 ≤ rest := by omega
  have hmantissa : mantissa < 10 ^ (mantissa.log2 + 1) :=
    lt_of_lt_of_le Nat.lt_log2_self (Nat.pow_le_pow_left (by decide) _)
  have hbelow : 2 * (mantissa * unitsPerOne) < 10 ^ (-exponent).toNat :=
    calc 2 * (mantissa * unitsPerOne)
        = mantissa * (2 * unitsPerOne) := by ring
      _ < 10 ^ (mantissa.log2 + 1) * (2 * unitsPerOne) :=
          Nat.mul_lt_mul_of_pos_right hmantissa (Nat.mul_pos (by decide) unitsPerOne_pos)
      _ ≤ 10 ^ (mantissa.log2 + 1) * 10 ^ rest :=
          Nat.mul_le_mul_left _ (two_mul_unitsPerOne_le hrest)
      _ = 10 ^ (-exponent).toNat := by
          rw [hplaces]
          exact (Nat.pow_add 10 _ _).symm
  unfold Decimal.nearestUnits
  dsimp only
  rw [hup]
  apply roundUnits_eq_zero
  show 2 * (mantissa * 1 * unitsPerOne) < 10 ^ (-exponent).toNat
  rwa [Nat.mul_one]

/-- What is answered without computing the power is what rounding would answer. -/
lemma ofDecimal?_eq (negative : Bool) (mantissa : Nat) {exponent : Int} (h : exponent ≤ 400) :
    ofDecimal? negative mantissa exponent =
      ofUnits? negative (Decimal.nearestUnits ⟨mantissa, exponent⟩) := by
  unfold ofDecimal?
  split
  · next hzero => rw [hzero, Decimal.nearestUnits_zero]
  · rw [if_neg (by omega)]
    split
    · next hbelow => rw [nearestUnits_of_far_below hbelow]
    · rfl

lemma ofUnits?_units (x : Number) : ofUnits? x.negative x.units = some x := by
  rw [ofUnits?, dif_pos x.representable]

/-! ## Round trips -/

lemma toList_plainText (x : Number) :
    x.plainText.toList = signedChars x.negative (shortest .up x.units).plain := by
  rw [plainText, signed, String.toList_ofList, signedChars]

lemma isBlank_of_mem_plain {d : Decimal} {c : Char} (h : c ∈ d.plain) : Text.isBlank c = false := by
  obtain ⟨whole, fraction, hlaid⟩ := exists_laidOut d
  rw [hlaid.plain] at h
  have hdigit : c ∈ whole ++ fraction → Text.isBlank c = false :=
    fun hmem => Text.isBlank_of_isDigit (hlaid.isDigit c hmem)
  cases fraction with
  | nil => exact hdigit h
  | cons digit rest =>
      rcases List.mem_append.mp h with hwhole | hpointed
      · exact hdigit (List.mem_append_left _ hwhole)
      · rcases List.mem_cons.mp hpointed with rfl | hfraction
        · rfl
        · exact hdigit (List.mem_append_right _ hfraction)

lemma isBlank_of_mem_plainText {x : Number} {c : Char} (h : c ∈ x.plainText.toList) :
    Text.isBlank c = false := by
  rw [toList_plainText, signedChars] at h
  split at h
  · rcases List.mem_cons.mp h with rfl | hplain
    · rfl
    · exact isBlank_of_mem_plain hplain
  · exact isBlank_of_mem_plain h

/-- Every number reads back from its text, the sign of zero included. -/
theorem read?_plainText (x : Number) : read? x.plainText = some x := by
  obtain ⟨whole, fraction, hlaid⟩ := exists_laidOut (shortest .up x.units)
  have hexponent : (0 : Int) - fraction.length = -fraction.length := by omega
  have hunits : Decimal.nearestUnits ⟨digitsValue (whole ++ fraction), -fraction.length⟩ =
      x.units := by
    rw [hlaid.nearestUnits, nearestUnits_shortest .up x.representable]
  rw [read?, Text.trimEnds_eq_self fun c hmem => isBlank_of_mem_plainText hmem, toList_plainText,
    Literal.read?_laidOut hlaid, Option.bind_some, Literal.value?]
  dsimp only
  rw [hexponent, ofDecimal?_eq _ _ (by omega), hunits, ofUnits?_units]

/-- The number on the wire: the zeros of both signs are one there. -/
def forgetZeroSign (x : Number) : Number :=
  if x.isZero then zero else x

/-- Every number reads back from the wire, the sign of zero apart. -/
theorem read?_wireText (x : Number) : read? x.wireText = some x.forgetZeroSign := by
  rw [wireText, forgetZeroSign]
  split
  · decide +kernel
  · exact read?_plainText x

lemma wireText_ne_empty (x : Number) : x.wireText ≠ "" := by
  have hnone : read? "" = none := by decide +kernel
  intro hempty
  have hread := read?_wireText x
  rw [hempty, hnone] at hread
  exact absurd hread.symm (Option.some_ne_none _)

end GridFilter.Number

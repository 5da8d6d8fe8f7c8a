import GridFilter.Proofs.Text.Blank
import GridFilter.Text.Numeral
import Mathlib.Tactic.IntervalCases
import Mathlib.Tactic.Ring

/-!
# Laws of numerals

Writing a number gives digits whose value is the number (`digitsValue_digits`), and zeros in front
of digits do not count (`digitsValue_zeros_append`), so what is written reads back:
`readInt?_intText` for integers, `readInt32?_intText` for those of thirty-two bits.

A reader takes a run of digits off the front of a text.  Where the run ends is decided by what
follows it; `takeWhile_isDigit_append` and `dropWhile_isDigit_append` say so once for all readers.
-/

namespace GridFilter.Text

/-! ## Digits -/

lemma isDigit_iff {c : Char} : c.isDigit = true ↔ 48 ≤ c.toNat ∧ c.toNat ≤ 57 :=
  Char.isDigit_iff_toNat

lemma isBlank_of_isDigit {c : Char} (h : c.isDigit = true) : isBlank c = false := by
  rw [isDigit_iff] at h
  exact isBlank_of_visible (by omega) (by omega)

lemma ne_of_isDigit {c mark : Char} (h : c.isDigit = true) (hmark : mark.isDigit = false) :
    c ≠ mark := by
  rintro rfl
  rw [h] at hmark
  exact absurd hmark Bool.noConfusion

lemma isDigit_of_mem_digits {n : Nat} {c : Char} (h : c ∈ digits n) : c.isDigit = true :=
  Nat.isDigit_of_mem_toDigits (by decide) (by decide) h

lemma digits_ne_nil (n : Nat) : digits n ≠ [] :=
  Nat.toDigits_ne_nil

lemma length_digits_le_iff {n width : Nat} (h : 0 < width) :
    (digits n).length ≤ width ↔ n < 10 ^ width :=
  Nat.length_toDigits_le_iff (by decide) h

lemma isDigit_of_mem_zeros {count : Nat} {c : Char} (h : c ∈ List.replicate count '0') :
    c.isDigit = true := by
  rw [List.eq_of_mem_replicate h]
  rfl

/-- The first digit of a positive number is not zero. -/
lemma digits_eq_cons {n : Nat} (h : 0 < n) : ∃ c rest, digits n = c :: rest ∧ c ≠ '0' := by
  induction n using Nat.strong_induction_on with
  | _ n ih =>
      by_cases hlt : n < 10
      · refine ⟨n.digitChar, [], Nat.toDigits_of_lt_base hlt, ?_⟩
        interval_cases n <;> decide
      · obtain ⟨c, rest, hdigits, hne⟩ := ih (n / 10) (by omega) (by omega)
        refine ⟨c, rest ++ [(n % 10).digitChar], ?_, hne⟩
        rw [digits, Nat.toDigits_of_base_le (by decide) (by omega), ← digits, hdigits,
          List.cons_append]

/-! ## The value of digits -/

lemma digitsValueFrom_eq_ofDigitChars (n : Nat) (s : List Char) :
    digitsValueFrom n s = Nat.ofDigitChars 10 s n := by
  induction s generalizing n with
  | nil => exact Nat.ofDigitChars_nil.symm
  | cons c rest ih =>
      have hstep : digitsValueFrom n (c :: rest) =
          digitsValueFrom (10 * n + (c.toNat - '0'.toNat)) rest := rfl
      rw [hstep, ih, Nat.ofDigitChars_cons]

lemma digitsValue_append (s t : List Char) :
    digitsValue (s ++ t) = digitsValueFrom (digitsValue s) t := by
  simp only [digitsValue, digitsValueFrom_eq_ofDigitChars, Nat.ofDigitChars_append]

/-- What was written reads back. -/
@[simp] lemma digitsValue_digits (n : Nat) : digitsValue (digits n) = n := by
  rw [digitsValue, digitsValueFrom_eq_ofDigitChars, digits]
  exact Nat.ofDigitChars_ten_toDigits

@[simp] lemma digitsValue_zeros_append (count : Nat) (s : List Char) :
    digitsValue (List.replicate count '0' ++ s) = digitsValue s := by
  have hzeros : digitsValue (List.replicate count '0') = 0 := by
    rw [digitsValue, digitsValueFrom_eq_ofDigitChars, Nat.ofDigitChars_replicate_zero, Nat.mul_zero]
  rw [digitsValue_append, hzeros, digitsValue]

/-- Zeros after the digits multiply by powers of ten. -/
@[simp] lemma digitsValue_append_zeros (s : List Char) (count : Nat) :
    digitsValue (s ++ List.replicate count '0') = digitsValue s * 10 ^ count := by
  rw [digitsValue_append, digitsValueFrom_eq_ofDigitChars, Nat.ofDigitChars_replicate_zero,
    Nat.mul_comm]

/-! ## Padding -/

lemma isDigit_of_mem_padded {width n : Nat} {c : Char} (h : c ∈ padded width n) :
    c.isDigit = true := by
  rcases List.mem_append.mp h with hzero | hdigit
  · exact isDigit_of_mem_zeros hzero
  · exact isDigit_of_mem_digits hdigit

lemma padded_ne_nil (width n : Nat) : padded width n ≠ [] := by
  simp [padded, digits_ne_nil]

@[simp] lemma digitsValue_padded (width n : Nat) : digitsValue (padded width n) = n := by
  rw [padded, digitsValue_zeros_append, digitsValue_digits]

lemma length_padded {width n : Nat} (hwidth : 0 < width) (h : n < 10 ^ width) :
    (padded width n).length = width := by
  have hlength := (length_digits_le_iff hwidth).mpr h
  simp only [padded, List.length_append, List.length_replicate]
  omega

/-! ## Runs of digits at the front -/

section Runs

variable {run rest : List Char}

/-- The run ends before the rest: nothing follows, or something that is no digit. -/
def StopsBefore (rest : List Char) : Prop :=
  ∀ c ∈ rest.head?, c.isDigit = false

lemma stopsBefore_nil : StopsBefore [] := by
  simp [StopsBefore]

lemma stopsBefore_cons {mark : Char} (h : mark.isDigit = false) (rest : List Char) :
    StopsBefore (mark :: rest) := by
  simpa [StopsBefore] using h

lemma StopsBefore.takeWhile_eq_nil (h : StopsBefore rest) : rest.takeWhile Char.isDigit = [] := by
  cases rest with
  | nil => rfl
  | cons c tail => exact List.takeWhile_cons_of_neg (by simp [h c rfl])

lemma StopsBefore.dropWhile_eq_self (h : StopsBefore rest) :
    rest.dropWhile Char.isDigit = rest := by
  cases rest with
  | nil => rfl
  | cons c tail => exact List.dropWhile_cons_of_neg (by simp [h c rfl])

lemma takeWhile_isDigit_append (hrun : ∀ c ∈ run, c.isDigit = true) (hrest : StopsBefore rest) :
    (run ++ rest).takeWhile Char.isDigit = run := by
  rw [List.takeWhile_append_of_pos hrun, hrest.takeWhile_eq_nil, List.append_nil]

lemma dropWhile_isDigit_append (hrun : ∀ c ∈ run, c.isDigit = true) (hrest : StopsBefore rest) :
    (run ++ rest).dropWhile Char.isDigit = rest := by
  rw [List.dropWhile_append_of_pos hrun, hrest.dropWhile_eq_self]

end Runs

/-! ## Reading -/

lemma readNat?_of_digits {s : List Char} (hne : s ≠ []) (hdigits : ∀ c ∈ s, c.isDigit = true) :
    readNat? s = some (digitsValue s) := by
  have hempty : s.isEmpty = false := by simpa using hne
  have hall : s.all Char.isDigit = true := List.all_eq_true.mpr hdigits
  rw [readNat?, hempty, hall]
  rfl

@[simp] lemma readNat?_digits (n : Nat) : readNat? (digits n) = some n := by
  rw [readNat?_of_digits (digits_ne_nil n) fun c hmem => isDigit_of_mem_digits hmem,
    digitsValue_digits]

/-- Without a sign in front, an integer is a natural number. -/
lemma readInt?_of_digits {s : List Char} (hne : s ≠ []) (hdigits : ∀ c ∈ s, c.isDigit = true) :
    readInt? s = some (digitsValue s : Int) := by
  cases s with
  | nil => exact absurd rfl hne
  | cons c rest =>
      have hdigit : c.isDigit = true := hdigits c List.mem_cons_self
      have hminus : c ≠ '-' := ne_of_isDigit hdigit rfl
      have hplus : c ≠ '+' := ne_of_isDigit hdigit rfl
      simp [readInt?, hminus, hplus, readNat?_of_digits hne hdigits]

/-- An integer that was written reads back. -/
@[simp] lemma readInt?_intText (n : Int) : readInt? (intText n).toList = some n := by
  cases n with
  | ofNat n =>
      rw [intText, natText, String.toList_ofList, readInt?_of_digits (digits_ne_nil n)
        fun c hmem => isDigit_of_mem_digits hmem, digitsValue_digits]
      rfl
  | negSucc n =>
      rw [intText, String.toList_ofList]
      simp [readInt?, Int.negSucc_eq]

/-- The text of an integer has no blanks. -/
lemma isBlank_of_mem_intText {n : Int} {c : Char} (h : c ∈ (intText n).toList) :
    isBlank c = false := by
  cases n with
  | ofNat n =>
      rw [intText, natText, String.toList_ofList] at h
      exact isBlank_of_isDigit (isDigit_of_mem_digits h)
  | negSucc n =>
      rw [intText, String.toList_ofList] at h
      rcases List.mem_cons.mp h with rfl | hdigit
      · rfl
      · exact isBlank_of_isDigit (isDigit_of_mem_digits hdigit)

/-- An integer of thirty-two bits that was written reads back. -/
lemma readInt32?_intText {n : Int} (h : fitsInt32 n = true) :
    readInt32? (intText n).toList = some n := by
  simp [readInt32?, h]

/-- What is read as an integer of thirty-two bits is one. -/
lemma fitsInt32_of_readInt32? {s : List Char} {n : Int} (h : readInt32? s = some n) :
    fitsInt32 n = true := by
  rw [readInt32?, Option.filter_eq_some_iff] at h
  exact h.2

end GridFilter.Text

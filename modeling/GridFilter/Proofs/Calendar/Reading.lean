import GridFilter.Calendar.Reading
import GridFilter.Proofs.Text.Numeral

/-!
# Days read back

Main statement: the text of a day reads as that day (`read?_text`), whatever its year.

The text has no blanks, so the optional blanks of the reader play no part.  Where a year ends is
decided by its form.  One without a sign has exactly the four digits that the reader takes; one with
a sign may have any number, and ends at the hyphen that follows it.
-/

namespace GridFilter.Date

open Text (StopsBefore)

variable {run rest : List Char}

/-! ## Numbers at the front -/

lemma stopsBefore_take (h : StopsBefore rest) (count : Nat) : StopsBefore (rest.take count) := by
  cases count with
  | zero => exact Text.stopsBefore_nil
  | succ count =>
      cases rest with
      | nil => exact Text.stopsBefore_nil
      | cons c tail => exact Text.stopsBefore_cons (h c rfl) (tail.take count)

/-- A number ends where as many digits were taken as may be, or where no digit follows. -/
lemma takeNumber?_append {most : Nat} (hne : run ≠ []) (hrun : ∀ c ∈ run, c.isDigit = true)
    (hlength : run.length ≤ most) (hends : run.length = most ∨ StopsBefore rest) :
    takeNumber? most (run ++ rest) = some (Text.digitsValue run, rest) := by
  have hstops : StopsBefore (rest.take (most - run.length)) := by
    rcases hends with hfull | hstops
    · rw [hfull, Nat.sub_self]
      exact Text.stopsBefore_nil
    · exact stopsBefore_take hstops _
  have hfront : ((run ++ rest).take most).takeWhile Char.isDigit = run := by
    rw [List.take_append, List.take_of_length_le hlength]
    exact Text.takeWhile_isDigit_append hrun hstops
  have hempty : run.isEmpty = false := by simpa using hne
  unfold takeNumber?
  dsimp only
  rw [hfront, hempty, List.drop_left]
  rfl

lemma takeDigits?_append (hne : run ≠ []) (hrun : ∀ c ∈ run, c.isDigit = true)
    (hstops : StopsBefore rest) :
    takeDigits? (run ++ rest) = some (Text.digitsValue run, rest) := by
  refine takeNumber?_append hne hrun ?_ (.inr hstops)
  rw [List.length_append]
  exact Nat.le_add_right _ _

/-! ## Years, months and days -/

lemma trimStart_of_not_blank {c : Char} (h : Text.isBlank c = false) (s : List Char) :
    Text.trimStart (c :: s) = c :: s :=
  List.dropWhile_cons_of_neg (by simp [h])

lemma trimStart_append_of_digits (hne : run ≠ []) (hrun : ∀ c ∈ run, c.isDigit = true)
    (rest : List Char) : Text.trimStart (run ++ rest) = run ++ rest := by
  cases run with
  | nil => exact absurd rfl hne
  | cons c tail =>
      exact trimStart_of_not_blank (Text.isBlank_of_isDigit (hrun c List.mem_cons_self)) _

/-- A year that begins with a digit is one without a sign. -/
lemma takeYear?_of_digit {c : Char} (h : c.isDigit = true) (s : List Char) :
    takeYear? (c :: s) = (takeNumber? 4 (c :: s)).map fun found => ((found.1 : Int), found.2) := by
  have hminus : c ≠ '-' := Text.ne_of_isDigit h rfl
  have hplus : c ≠ '+' := Text.ne_of_isDigit h rfl
  rw [takeYear?, trimStart_of_not_blank (Text.isBlank_of_isDigit h)]
  simp [hminus, hplus]

/-- A year that was written is taken off the front, unless a digit follows it. -/
lemma takeYear?_yearText_append (year : Int) (hstops : StopsBefore rest) :
    takeYear? (yearText year ++ rest) = some (year, rest) := by
  have hdigits : ∀ n, ∀ c ∈ Text.padded 4 n, c.isDigit = true :=
    fun n c hmem => Text.isDigit_of_mem_padded hmem
  have hsigned : takeDigits? (Text.padded 4 year.natAbs ++ rest) = some (year.natAbs, rest) := by
    rw [takeDigits?_append (Text.padded_ne_nil 4 _) (hdigits _) hstops, Text.digitsValue_padded]
  unfold yearText
  split
  · next hrange =>
      have hlength : (Text.padded 4 year.toNat).length = 4 :=
        Text.length_padded (by decide) (by omega)
      have htaken : takeNumber? 4 (Text.padded 4 year.toNat ++ rest) = some (year.toNat, rest) := by
        rw [takeNumber?_append (Text.padded_ne_nil 4 _) (hdigits _) (Nat.le_of_eq hlength)
          (.inl hlength), Text.digitsValue_padded]
      cases hpadded : Text.padded 4 year.toNat with
      | nil => exact absurd hpadded (Text.padded_ne_nil 4 _)
      | cons c tail =>
          have hdigit : c.isDigit = true := hdigits year.toNat c (by simp [hpadded])
          have hyear : (year.toNat : Int) = year := Int.toNat_of_nonneg hrange.1
          rw [hpadded] at htaken
          rw [List.cons_append] at htaken ⊢
          rw [takeYear?_of_digit hdigit, htaken, Option.map_some, hyear]
  · next hrange =>
      by_cases hnegative : year < 0
      · have hyear : -(year.natAbs : Int) = year := by omega
        rw [if_pos hnegative, List.cons_append, takeYear?, trimStart_of_not_blank (by decide)]
        simp only [hsigned, Option.map_some, hyear]
      · have hyear : (year.natAbs : Int) = year := by omega
        rw [if_neg hnegative, List.cons_append, takeYear?, trimStart_of_not_blank (by decide)]
        simp only [hsigned, Option.map_some, hyear]

/-- A month or day that was written is taken off the front, whatever follows it. -/
lemma takePart?_padded_append {n : Nat} (h : n < 100) (rest : List Char) :
    takePart? (Text.padded 2 n ++ rest) = some (n, rest) := by
  have hdigits : ∀ c ∈ Text.padded 2 n, c.isDigit = true :=
    fun c hmem => Text.isDigit_of_mem_padded hmem
  have hne := Text.padded_ne_nil 2 n
  have hlength : (Text.padded 2 n).length = 2 := Text.length_padded (by decide) h
  rw [takePart?, trimStart_append_of_digits hne hdigits,
    takeNumber?_append hne hdigits (Nat.le_of_eq hlength) (.inl hlength), Text.digitsValue_padded]

/-! ## Whole days -/

lemma day_le_31 (d : Date) : d.day ≤ 31 := by
  have hday := d.valid.2.2.2
  unfold monthLength at hday
  split at hday
  · split at hday <;> omega
  · split at hday <;> omega

/-- The text of a day has no blanks. -/
lemma isBlank_of_mem_textChars {d : Date} {c : Char} (h : c ∈ d.textChars) :
    Text.isBlank c = false := by
  have hpadded : ∀ {width n : Nat}, c ∈ Text.padded width n → Text.isBlank c = false :=
    fun hmem => Text.isBlank_of_isDigit (Text.isDigit_of_mem_padded hmem)
  have hyear : c ∈ yearText d.year → Text.isBlank c = false := by
    intro hmem
    unfold yearText at hmem
    split at hmem
    · exact hpadded hmem
    · rcases List.mem_cons.mp hmem with hsign | hdigit
      · rw [hsign]
        split <;> decide
      · exact hpadded hdigit
  simp only [textChars, List.mem_append, List.mem_cons, or_assoc] at h
  rcases h with hmem | rfl | hmem | rfl | hmem
  · exact hyear hmem
  · decide
  · exact hpadded hmem
  · decide
  · exact hpadded hmem

/-- A day that was written is read without anything left over, whatever may be skipped before a
hyphen and at the end, as long as a hyphen stops it. -/
lemma readParts?_textChars {gap : List Char → List Char} (hmark : ∀ s, gap ('-' :: s) = '-' :: s)
    (hend : gap [] = []) (d : Date) : readParts? gap d.textChars = some d := by
  have hmonth := d.valid.2.1.2
  have hday := d.day_le_31
  have hyear : takeYear? d.textChars =
      some (d.year, '-' :: (Text.padded 2 d.month ++ '-' :: Text.padded 2 d.day)) := by
    simp only [textChars, List.append_assoc, List.cons_append]
    exact takeYear?_yearText_append d.year (Text.stopsBefore_cons rfl _)
  have hmonthPart := takePart?_padded_append (n := d.month) (by omega) ('-' :: Text.padded 2 d.day)
  have hdayPart := takePart?_padded_append (n := d.day) (by omega) []
  rw [List.append_nil] at hdayPart
  have hvalid : of? d.year d.month d.day = some d := dif_pos d.valid
  simp [readParts?, hyear, hmark, hend, takeChar?, hmonthPart, hdayPart, hvalid]

lemma written?_textChars (d : Date) : written? d.textChars = some d :=
  readParts?_textChars (fun _ => rfl) rfl d

/-- A day that was written is read as well where blanks may stand between its parts. -/
lemma spaced?_textChars (d : Date) : spaced? d.textChars = some d :=
  readParts?_textChars (trimStart_of_not_blank (by decide)) rfl d

/-- The text of a day reads as that day. -/
@[simp] theorem read?_text (d : Date) : read? d.text = some d := by
  have hchars : Text.trimEnds d.text.toList = d.textChars := by
    rw [text, String.toList_ofList]
    exact Text.trimEnds_eq_self fun c hmem => isBlank_of_mem_textChars hmem
  unfold read?
  dsimp only
  rw [hchars, written?_textChars, Option.some_or]

/-- A year past four digits carries its sign, and one before the year 0 has at least four. -/
example : (of? 12345 1 31).bind (read? ·.text) = of? 12345 1 31 ∧
    (of? (-44) 3 15).map text = some "-0044-03-15" := by
  decide +kernel

lemma text_ne_empty (d : Date) : d.text ≠ "" := by
  have hnone : read? "" = none := by decide +kernel
  intro hempty
  have hread := read?_text d
  rw [hempty, hnone] at hread
  exact absurd hread.symm (Option.some_ne_none _)

end GridFilter.Date

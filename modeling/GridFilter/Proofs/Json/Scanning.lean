import GridFilter.Proofs.Json.Layout
import GridFilter.Proofs.Text.Numeral

/-!
# Scanning what was written

Main statement: the scan of any layout of a value finds that value and stops where the layout ends
(`Layout.scanValue`), so a written text scans as a sound document of what was written
(`scan_compact`, `scan_pretty`).

A string ends at its closing quote, and a container at its bracket.  A number has no end of its
own: it ends because what follows it in a text cannot go on with it (`EndsNumber`).
-/

namespace GridFilter.Json

open Text (StopsBefore)

/-! ## Blanks -/

@[simp] lemma skipBlanks_gap (gap : Gap) (s : List Char) :
    skipBlanks (gap.chars ++ s) = skipBlanks s :=
  List.dropWhile_append_of_pos gap.blank

lemma skipBlanks_cons {c : Char} (h : isBlank c = false) (s : List Char) :
    skipBlanks (c :: s) = c :: s :=
  List.dropWhile_cons_of_neg (by simp [h])

@[simp] lemma skipBlanks_skipBlanks (s : List Char) : skipBlanks (skipBlanks s) = skipBlanks s :=
  List.dropWhile_idempotent isBlank s

lemma isBlank_of_isDigit {c : Char} (h : c.isDigit = true) : isBlank c = false := by
  simp [isBlank, Text.ne_of_isDigit h]

/-- The signs between the parts of a container are no blanks. -/
lemma skipBlanks_mark {c : Char} (h : c ∈ ['"', ',', ':', ']', '}', '[', '{']) (s : List Char) :
    skipBlanks (c :: s) = c :: s := by
  have hmarks : ['"', ',', ':', ']', '}', '[', '{'].all (fun mark => !isBlank mark) = true := rfl
  have hmark := List.all_eq_true.mp hmarks c h
  exact skipBlanks_cons (by simpa using hmark) s

/-! ## Strings -/

lemma hexValue?_digitChar {n : Nat} (h : n < 16) : hexValue? n.digitChar = some n := by
  interval_cases n <;> rfl

/-- The number of a control character, written in hexadecimal digits. -/
lemma hexUnit?_control {n : Nat} (h : n < 32) :
    hexUnit? '0' '0' (n / 16).digitChar (n % 16).digitChar = some n := by
  have hzero : hexValue? '0' = some 0 := rfl
  simp only [hexUnit?, hzero, hexValue?_digitChar (show n / 16 < 16 by omega),
    hexValue?_digitChar (show n % 16 < 16 by omega), Option.some.injEq]
  omega

lemma ofUnit_control {c : Char} (h : c.toNat < 32) : Piece.ofUnit c.toNat = .char c := by
  rw [Piece.ofUnit, if_neg (by omega), if_neg (by omega), Char.ofNat_toNat]

/-- A letter stands for the character it was written for; the letter of numbers is not among
them. -/
lemma unescape?_escapeLetter {c letter : Char} (h : escapeLetter? c = some letter) :
    letter ≠ 'u' ∧ unescape? letter = some c := by
  unfold escapeLetter? at h
  split_ifs at h with h₁ h₂ h₃ h₄ h₅ h₆ h₇ <;>
    · obtain rfl := Option.some.inj h
      subst c
      exact ⟨by decide, rfl⟩

/-- The quote and the backslash have letters. -/
lemma ne_of_escapeLetter?_eq_none {c : Char} (h : escapeLetter? c = none) :
    c ≠ '"' ∧ c ≠ '\\' := by
  constructor <;>
    · rintro rfl
      simp [escapeLetter?] at h

/-- A character that was written inside a string is read as itself. -/
lemma scanPieces?_escapeChar (c : Char) (s : List Char) :
    scanPieces? (escapeChar c ++ s) =
      (scanPieces? s).map fun found => (Piece.char c :: found.1, found.2) := by
  unfold escapeChar
  split
  · next letter hletter =>
      obtain ⟨hne, hunescape⟩ := unescape?_escapeLetter hletter
      simp [scanPieces?, hne, hunescape]
  · next hnone =>
      obtain ⟨hquote, hbackslash⟩ := ne_of_escapeLetter?_eq_none hnone
      split_ifs with hcontrol
      · simp [scanPieces?, hexUnit?_control hcontrol, ofUnit_control hcontrol]
      · simp [scanPieces?, hbackslash, hcontrol]

lemma scanPieces?_flatMap_escapeChar (cs rest : List Char) :
    scanPieces? (cs.flatMap escapeChar ++ '"' :: rest) = some (cs.map .char, rest) := by
  induction cs with
  | nil => simp [scanPieces?]
  | cons c cs ih =>
      rw [List.flatMap_cons, List.append_assoc, scanPieces?_escapeChar, ih]
      rfl

@[simp] lemma joinPieces?_map_char (cs : List Char) : joinPieces? (cs.map .char) = some cs := by
  induction cs with
  | nil => rfl
  | cons c cs ih => simp [joinPieces?, ih]

/-- A string that was written reads back, whatever characters it has. -/
lemma scanString?_quoted (text : String) (rest : List Char) :
    scanString? (text.toList.flatMap escapeChar ++ '"' :: rest) = some (some text, rest) := by
  simp [scanString?, scanPieces?_flatMap_escapeChar]

lemma quoted_append (text : String) (rest : List Char) :
    quoted text ++ rest = '"' :: (text.toList.flatMap escapeChar ++ '"' :: rest) := by
  simp [quoted]

/-! ## Numbers -/

/-- What may follow a number in a text: nothing, a blank, a comma or a closing bracket. -/
def EndsNumber (s : List Char) : Prop :=
  ∀ c ∈ s.head?, isBlank c = true ∨ c ∈ [',', ']', '}']

lemma endsNumber_nil : EndsNumber [] := by
  simp [EndsNumber]

lemma endsNumber_gap {c : Char} (gap : Gap) (h : c ∈ [',', ']', '}']) (s : List Char) :
    EndsNumber (gap.chars ++ c :: s) := by
  intro first hfirst
  cases hgap : gap.chars with
  | nil =>
      obtain rfl : c = first := by simpa [hgap] using hfirst
      exact .inr h
  | cons blank more =>
      obtain rfl : blank = first := by simpa [hgap] using hfirst
      exact .inl (gap.blank blank (by simp [hgap]))

/-- What follows a number goes on with none of its parts. -/
lemma EndsNumber.mark {c : Char} {s : List Char} (h : EndsNumber (c :: s)) :
    c.isDigit = false ∧ c ≠ '.' ∧ c ≠ 'e' ∧ c ≠ 'E' := by
  have hmarks : [' ', '\n', '\r', '\t', ',', ']', '}'].all (fun mark =>
      !mark.isDigit && mark != '.' && mark != 'e' && mark != 'E') = true := rfl
  have hmem : c ∈ [' ', '\n', '\r', '\t', ',', ']', '}'] := by
    have hnext := h c rfl
    simp only [isBlank, Bool.or_eq_true, decide_eq_true_eq, List.mem_cons] at hnext ⊢
    tauto
  have hmark := List.all_eq_true.mp hmarks c hmem
  simpa [and_assoc] using hmark

lemma EndsNumber.stopsBefore {s : List Char} (h : EndsNumber s) : StopsBefore s := by
  cases s with
  | nil => exact Text.stopsBefore_nil
  | cons c rest =>
      exact Text.stopsBefore_cons h.mark.1 rest

lemma EndsNumber.scanFraction? {s : List Char} (h : EndsNumber s) :
    scanFraction? s = some (none, s) := by
  cases s with
  | nil => rfl
  | cons c rest =>
      simp [Json.scanFraction?, h.mark]

lemma EndsNumber.scanExponent? {s : List Char} (h : EndsNumber s) :
    scanExponent? s = some (none, s) := by
  cases s with
  | nil => rfl
  | cons c rest =>
      simp [Json.scanExponent?, h.mark]

lemma isWholePart_digits (n : Nat) : isWholePart (Text.digits n) = true := by
  rcases Nat.eq_zero_or_pos n with rfl | hpos
  · rfl
  · obtain ⟨c, rest, hdigits, hne⟩ := Text.digits_eq_cons hpos
    rw [hdigits]
    cases rest <;> simp [isWholePart, hne]

/-- The parts of an integer as it is written. -/
def Numeral.ofInt (n : Int) : Numeral where
  negative := n < 0
  whole := Text.digits n.natAbs
  fraction := none
  exponent := none

/-- An integer that was written ends before what cannot go on with it. -/
lemma scanNumeral?_intText (n : Int) {rest : List Char} (h : EndsNumber rest) :
    scanNumeral? ((Text.intText n).toList ++ rest) = some (.ofInt n, rest) := by
  have hdigits : ∀ m, ∀ c ∈ Text.digits m, c.isDigit = true :=
    fun m c hmem => Text.isDigit_of_mem_digits hmem
  have hleading : ∀ m, leadingDigits (Text.digits m ++ rest) = Text.digits m :=
    fun m => Text.takeWhile_isDigit_append (hdigits m) h.stopsBefore
  have hafter : ∀ m, afterDigits (Text.digits m ++ rest) = rest :=
    fun m => Text.dropWhile_isDigit_append (hdigits m) h.stopsBefore
  cases n with
  | ofNat n =>
      have hsign : scanSign (Text.digits n ++ rest) = (false, Text.digits n ++ rest) := by
        cases hchars : Text.digits n with
        | nil => exact absurd hchars (Text.digits_ne_nil n)
        | cons c tail =>
            have hne : c ≠ '-' := Text.ne_of_isDigit (hdigits n c (by simp [hchars])) rfl
            simp [scanSign, hne]
      have hnonneg : ¬ (n : Int) < 0 := by omega
      simp [scanNumeral?, Text.intText, Text.natText, hsign, hleading, hafter, isWholePart_digits,
        h.scanFraction?, h.scanExponent?, Numeral.ofInt, hnonneg]
  | negSucc n =>
      have hnegative : Int.negSucc n < 0 := Int.negSucc_lt_zero n
      simp [scanNumeral?, Text.intText, scanSign, hleading, hafter, isWholePart_digits,
        h.scanFraction?, h.scanExponent?, Numeral.ofInt, hnegative]

/-- An integer of sixty-four bits is read as such. -/
lemma source_ofInt {n : Int} (h : FitsInteger n) : (Numeral.ofInt n).source = .integer n := by
  obtain ⟨hlower, hupper⟩ := h
  by_cases hnegative : n < 0
  · have hpos : n ≠ 0 := Int.ne_of_lt hnegative
    have hfits : n.natAbs ≤ 9223372036854775808 := by omega
    have hvalue : -|n| = n := by rw [abs_of_neg hnegative, neg_neg]
    simp [Numeral.source, Numeral.ofInt, hnegative, hpos, hfits, hvalue]
  · have hfits : n.natAbs < 18446744073709551616 := by omega
    have hvalue : |n| = n := abs_of_nonneg (Int.not_lt.mp hnegative)
    simp [Numeral.source, Numeral.ofInt, hnegative, hfits, hvalue]

/-! ## The first character -/

lemma intText_eq_cons (n : Int) :
    ∃ c rest, (Text.intText n).toList = c :: rest ∧ (c = '-' ∨ c.isDigit = true) := by
  cases n with
  | ofNat n =>
      cases hchars : Text.digits n with
      | nil => exact absurd hchars (Text.digits_ne_nil n)
      | cons c rest =>
          refine ⟨c, rest, by simp [Text.intText, Text.natText, hchars], .inr ?_⟩
          exact Text.isDigit_of_mem_digits (n := n) (by simp [hchars])
  | negSucc n => exact ⟨'-', Text.digits (n + 1), by simp [Text.intText], .inl rfl⟩

/-- A value does not begin with a blank or with the end of an array. -/
lemma Layout.eq_cons {value : Json} {s : List Char} (h : Layout value s) :
    ∃ c rest, s = c :: rest ∧ isBlank c = false ∧ c ≠ ']' := by
  cases h with
  | null => exact ⟨'n', _, rfl, rfl, by simp⟩
  | bool value =>
      cases value with
      | true => exact ⟨'t', _, rfl, rfl, by simp⟩
      | false => exact ⟨'f', _, rfl, rfl, by simp⟩
  | @integer value hfits =>
      obtain ⟨c, rest, hchars, hfirst⟩ := intText_eq_cons value
      refine ⟨c, rest, hchars, ?_⟩
      rcases hfirst with rfl | hdigit
      · exact ⟨rfl, by simp⟩
      · exact ⟨isBlank_of_isDigit hdigit, Text.ne_of_isDigit hdigit rfl⟩
  | string value => exact ⟨'"', _, rfl, rfl, by simp⟩
  | emptyArray gap => exact ⟨'[', _, rfl, rfl, by simp⟩
  | array hitems => exact ⟨'[', _, rfl, rfl, by simp⟩
  | emptyObject gap => exact ⟨'{', _, rfl, rfl, by simp⟩
  | object hmembers => exact ⟨'{', _, rfl, rfl, by simp⟩

/-! ## One step of the scan -/

section Steps

variable {fuel depth : Nat} {s rest : List Char}

@[simp] lemma scanValue_skipBlanks :
    scanValue fuel depth (skipBlanks s) = scanValue fuel depth s := by
  cases fuel <;> simp [scanValue]

@[simp] lemma scanValue_gap (gap : Gap) :
    scanValue fuel depth (gap.chars ++ s) = scanValue fuel depth s := by
  rw [← scanValue_skipBlanks, skipBlanks_gap, scanValue_skipBlanks]

@[simp] lemma scanItem_skipBlanks : scanItem fuel depth (skipBlanks s) = scanItem fuel depth s := by
  cases fuel <;> simp [scanItem]

@[simp] lemma scanMember_skipBlanks :
    scanMember fuel depth (skipBlanks s) = scanMember fuel depth s := by
  cases fuel <;> simp [scanMember]

/-- An integer is what a minus sign or a digit begins. -/
lemma scanValue_cons_of_number {c : Char} (h : c = '-' ∨ c.isDigit = true) :
    scanValue (fuel + 1) depth (c :: s) = scanNumber (c :: s) := by
  have hblank : isBlank c = false := by
    rcases h with rfl | hdigit
    · rfl
    · exact isBlank_of_isDigit hdigit
  have hne : ∀ mark, mark ≠ '-' → mark.isDigit = false → c ≠ mark := by
    rintro mark hminus hmark rfl
    rcases h with hc | hdigit
    · exact hminus hc
    · simp [hmark] at hdigit
  simp [scanValue, skipBlanks_cons hblank, hne]

/-- An array that has an item is scanned from its first one. -/
lemma scanFirstItem_of_ne {c : Char} (h : c ≠ ']') :
    scanFirstItem (fuel + 1) depth (c :: s) = scanItem fuel depth (c :: s) := by
  simp [scanFirstItem, h]

lemma scanFirstMember_of_ne {c : Char} (h : c ≠ '}') :
    scanFirstMember (fuel + 1) depth (c :: s) = scanMember fuel depth (c :: s) := by
  simp [scanFirstMember, h]

lemma scanItem_last {item : Source} (before after : Gap)
    (h : scanValue fuel depth s = (item, some (after.chars ++ ']' :: rest))) :
    scanItem (fuel + 1) depth (before.chars ++ s) = ([item], some rest) := by
  simp [scanItem, h, skipBlanks_mark]

lemma scanItem_more {item : Source} (before after : Gap)
    (h : scanValue fuel depth s = (item, some (after.chars ++ ',' :: rest))) :
    scanItem (fuel + 1) depth (before.chars ++ s) =
      (item :: (scanItem fuel depth rest).1, (scanItem fuel depth rest).2) := by
  simp [scanItem, h, skipBlanks_mark]

lemma scanMember_last {value : Source} (before colon within after : Gap) (name : String)
    (h : scanValue fuel depth s = (value, some (after.chars ++ '}' :: rest))) :
    scanMember (fuel + 1) depth
        (before.chars ++ (quoted name ++ (colon.chars ++ ':' :: (within.chars ++ s)))) =
      ([(some name, value)], some rest) := by
  simp [scanMember, quoted_append, scanString?_quoted, h, skipBlanks_mark]

lemma scanMember_more {value : Source} (before colon within after : Gap) (name : String)
    (h : scanValue fuel depth s = (value, some (after.chars ++ ',' :: rest))) :
    scanMember (fuel + 1) depth
        (before.chars ++ (quoted name ++ (colon.chars ++ ':' :: (within.chars ++ s)))) =
      ((some name, value) :: (scanMember fuel depth rest).1, (scanMember fuel depth rest).2) := by
  simp [scanMember, quoted_append, scanString?_quoted, h, skipBlanks_mark]

end Steps

/-! ## Values that hold no other, and containers -/

section Tokens

variable {fuel depth : Nat} {s rest : List Char}

lemma scanWord_toList (word : String) (source : Source) (rest : List Char) :
    scanWord word source (word.toList ++ rest) = (source, some rest) := by
  have hprefix : word.toList.isPrefixOf? (word.toList ++ rest) = some rest := by
    simp
  rw [scanWord, hprefix]

lemma scanValue_null :
    scanValue (fuel + 1) depth (scalarText .null ++ rest) = (.null, some rest) := by
  show scanValue (fuel + 1) depth ("null".toList ++ rest) = (.null, some rest)
  simpa [scanValue, skipBlanks, isBlank] using scanWord_toList "ull" .null rest

lemma scanValue_bool (value : Bool) :
    scanValue (fuel + 1) depth (scalarText (.bool value) ++ rest) = (.bool value, some rest) := by
  cases value with
  | true =>
      show scanValue (fuel + 1) depth ("true".toList ++ rest) = (.bool true, some rest)
      simpa [scanValue, skipBlanks, isBlank] using scanWord_toList "rue" (.bool true) rest
  | false =>
      show scanValue (fuel + 1) depth ("false".toList ++ rest) = (.bool false, some rest)
      simpa [scanValue, skipBlanks, isBlank] using scanWord_toList "alse" (.bool false) rest

lemma scanValue_integer {value : Int} (h : FitsInteger value) (hends : EndsNumber rest) :
    scanValue (fuel + 1) depth (scalarText (.integer value) ++ rest) =
      (.integer value, some rest) := by
  obtain ⟨c, tail, hchars, hfirst⟩ := intText_eq_cons value
  have hscan : scanNumber ((Text.intText value).toList ++ rest) = (.integer value, some rest) := by
    rw [scanNumber, scanNumeral?_intText value hends]
    simp [source_ofInt h]
  rw [hchars] at hscan
  show scanValue (fuel + 1) depth ((Text.intText value).toList ++ rest) = _
  rw [hchars, List.cons_append, scanValue_cons_of_number hfirst]
  exact hscan

lemma scanValue_string (value : String) :
    scanValue (fuel + 1) depth (scalarText (.string value) ++ rest) =
      (.string value, some rest) := by
  show scanValue (fuel + 1) depth (quoted value ++ rest) = _
  simp [quoted_append, scanValue, skipBlanks_mark, scanText, scanString?_quoted]

lemma scanValue_array {items : List Source} (hdepth : depth + 1 ≤ depthLimit)
    (h : scanFirstItem fuel (depth + 1) (skipBlanks s) = (items, some rest)) :
    scanValue (fuel + 1) depth ('[' :: s) = (.array items, some rest) := by
  simp [scanValue, skipBlanks_mark, h, limited, hdepth]

lemma scanValue_object {members : List (Option String × Source)} (hdepth : depth + 1 ≤ depthLimit)
    (h : scanFirstMember fuel (depth + 1) (skipBlanks s) = (members, some rest)) :
    scanValue (fuel + 1) depth ('{' :: s) = (.object members, some rest) := by
  simp [scanValue, skipBlanks_mark, h, limited, hdepth]

end Tokens

/-! ## Values -/

/-- Items do not begin with the end of the array. -/
lemma ItemsLayout.skipBlanks_eq_cons {items : List Json} {s : List Char} (h : ItemsLayout items s)
    (rest : List Char) : ∃ c tail, skipBlanks (s ++ rest) = c :: tail ∧ c ≠ ']' := by
  cases h with
  | last before hitem after =>
      obtain ⟨c, tail, rfl, hblank, hne⟩ := hitem.eq_cons
      refine ⟨c, tail ++ (after.chars ++ ([']'] ++ rest)), ?_, hne⟩
      simp [skipBlanks_cons hblank]
  | @more _ _ _ t before hitem after hmore =>
      obtain ⟨c, tail, rfl, hblank, hne⟩ := hitem.eq_cons
      refine ⟨c, tail ++ (after.chars ++ (',' :: t ++ rest)), ?_, hne⟩
      simp [skipBlanks_cons hblank]

/-- Members do not begin with the end of the object. -/
lemma MembersLayout.skipBlanks_eq_cons {members : Members} {s : List Char}
    (h : MembersLayout members s) (rest : List Char) :
    ∃ c tail, skipBlanks (s ++ rest) = c :: tail ∧ c ≠ '}' := by
  have hquote : ∀ (before : Gap) (name : String) (t : List Char),
      ∃ tail, skipBlanks (before.chars ++ (quoted name ++ t)) = '"' :: tail := by
    intro before name t
    rw [skipBlanks_gap, quoted_append]
    exact ⟨_, skipBlanks_mark (by simp) _⟩
  cases h with
  | last before colon within hvalue after =>
      simp only [List.append_assoc]
      obtain ⟨tail, hchars⟩ := hquote before _ _
      exact ⟨'"', tail, hchars, by simp⟩
  | more before colon within hvalue after hmore =>
      simp only [List.append_assoc]
      obtain ⟨tail, hchars⟩ := hquote before _ _
      exact ⟨'"', tail, hchars, by simp⟩

lemma scanFirstItem_eq_scanItem {items : List Json} {s : List Char} (h : ItemsLayout items s)
    (fuel depth : Nat) (rest : List Char) :
    scanFirstItem (fuel + 1) depth (skipBlanks (s ++ rest)) = scanItem fuel depth (s ++ rest) := by
  obtain ⟨c, tail, hchars, hne⟩ := h.skipBlanks_eq_cons rest
  rw [← scanItem_skipBlanks, hchars, scanFirstItem_of_ne hne]

lemma scanFirstMember_eq_scanMember {members : Members} {s : List Char}
    (h : MembersLayout members s) (fuel depth : Nat) (rest : List Char) :
    scanFirstMember (fuel + 1) depth (skipBlanks (s ++ rest)) =
      scanMember fuel depth (s ++ rest) := by
  obtain ⟨c, tail, hchars, hne⟩ := h.skipBlanks_eq_cons rest
  rw [← scanMember_skipBlanks, hchars, scanFirstMember_of_ne hne]

/-- Fuel that is not used up. -/
lemma exists_fuel {steps fuel : Nat} (h : steps ≤ fuel) : ∃ left, fuel = left + steps :=
  ⟨fuel - steps, (Nat.sub_add_cancel h).symm⟩

mutual

/-- The scan of a layout finds the value and stops where the layout ends, when containers do not
nest too deep and a number can end there. -/
theorem Layout.scanValue {value : Json} {s rest : List Char} {fuel depth : Nat}
    (h : Layout value s) (hfuel : 3 * s.length ≤ fuel)
    (hdepth : depth + value.nesting ≤ depthLimit) (hends : EndsNumber rest) :
    scanValue fuel depth (s ++ rest) = (.ofJson value, some rest) := by
  -- A text has at least one character, which is fuel for the three steps of a container.
  obtain ⟨fuel, rfl⟩ : ∃ left, fuel = left + 3 := by
    obtain ⟨c, tail, rfl, -⟩ := h.eq_cons
    exact exists_fuel (by simp at hfuel; omega)
  match h with
  | .null => exact scanValue_null
  | .bool value => exact scanValue_bool value
  | .integer hfits => exact scanValue_integer hfits hends
  | .string value => exact scanValue_string value
  | .emptyArray gap =>
      refine scanValue_array (by simpa [nesting, itemsNesting] using hdepth) ?_
      simp [skipBlanks_mark, scanFirstItem, Source.ofItems]
  | .array hitems =>
      simp only [List.length_cons, nesting] at hfuel hdepth
      rw [List.cons_append]
      refine scanValue_array (by omega) ?_
      rw [scanFirstItem_eq_scanItem hitems]
      exact hitems.scanItem (by omega) (by omega)
  | .emptyObject gap =>
      refine scanValue_object (by simpa [nesting, membersNesting] using hdepth) ?_
      simp [skipBlanks_mark, scanFirstMember, Source.ofMembers]
  | .object hmembers =>
      simp only [List.length_cons, nesting] at hfuel hdepth
      rw [List.cons_append]
      refine scanValue_object (by omega) ?_
      rw [scanFirstMember_eq_scanMember hmembers]
      exact hmembers.scanMember (by omega) (by omega)

/-- The scan of items finds each of them, up to the closing bracket. -/
theorem ItemsLayout.scanItem {items : List Json} {s rest : List Char} {fuel depth : Nat}
    (h : ItemsLayout items s) (hfuel : 3 * s.length + 1 ≤ fuel)
    (hdepth : depth + itemsNesting items ≤ depthLimit) :
    scanItem fuel depth (s ++ rest) = (Source.ofItems items, some rest) := by
  obtain ⟨fuel, rfl⟩ : ∃ left, fuel = left + 1 := exists_fuel (by omega)
  match h with
  | @ItemsLayout.last item t before hitem after =>
      simp only [List.length_append, itemsNesting] at hfuel hdepth
      have hvalue : Json.scanValue fuel depth (t ++ (after.chars ++ ']' :: rest)) = _ :=
        hitem.scanValue (by omega) (by omega) (endsNumber_gap after (by simp) rest)
      simpa [Source.ofItems] using scanItem_last before after hvalue
  | @ItemsLayout.more item items t more before hitem after hmore =>
      simp only [List.length_append, List.length_cons, itemsNesting] at hfuel hdepth
      have hvalue : Json.scanValue fuel depth (t ++ (after.chars ++ ',' :: (more ++ rest))) = _ :=
        hitem.scanValue (by omega) (by omega) (endsNumber_gap after (by simp) _)
      have hrest : Json.scanItem fuel depth (more ++ rest) = _ :=
        hmore.scanItem (by omega) (by omega)
      simpa [Source.ofItems, hrest] using scanItem_more before after hvalue

/-- The scan of members finds each of them, up to the closing brace. -/
theorem MembersLayout.scanMember {members : Members} {s rest : List Char} {fuel depth : Nat}
    (h : MembersLayout members s) (hfuel : 3 * s.length + 1 ≤ fuel)
    (hdepth : depth + membersNesting members ≤ depthLimit) :
    scanMember fuel depth (s ++ rest) = (Source.ofMembers members, some rest) := by
  obtain ⟨fuel, rfl⟩ : ∃ left, fuel = left + 1 := exists_fuel (by omega)
  match h with
  | @MembersLayout.last name value t before colon within hvalue after =>
      simp only [List.length_append, List.length_cons, membersNesting] at hfuel hdepth
      have hscan : Json.scanValue fuel depth (t ++ (after.chars ++ '}' :: rest)) = _ :=
        hvalue.scanValue (by omega) (by omega) (endsNumber_gap after (by simp) rest)
      simpa [Source.ofMembers] using scanMember_last before colon within after name hscan
  | @MembersLayout.more name value members t more before colon within hvalue after hmore =>
      simp only [List.length_append, List.length_cons, membersNesting] at hfuel hdepth
      have hscan : Json.scanValue fuel depth (t ++ (after.chars ++ ',' :: (more ++ rest))) = _ :=
        hvalue.scanValue (by omega) (by omega) (endsNumber_gap after (by simp) _)
      have hrest : Json.scanMember fuel depth (more ++ rest) = _ :=
        hmore.scanMember (by omega) (by omega)
      simpa [Source.ofMembers, hrest] using scanMember_more before colon within after name hscan

end

/-! ## Documents -/

/-- A text that lays a value out is sound, and that value is what it holds. -/
theorem Layout.scan {value : Json} {s : List Char} (h : Layout value s)
    (hdepth : value.nesting ≤ depthLimit) :
    Document.scan (String.ofList s) = ⟨.ofJson value, true⟩ := by
  have hscan : Json.scanValue (3 * s.length + 4) 0 (s ++ []) = (.ofJson value, some []) :=
    h.scanValue (by omega) (by omega) endsNumber_nil
  rw [List.append_nil] at hscan
  simp [Document.scan, hscan, skipBlanks]

theorem scan_compact {value : Json} (h : Exact value) (hdepth : value.nesting ≤ depthLimit) :
    Document.scan value.compact = ⟨.ofJson value, true⟩ :=
  (compactChars_layout h).scan hdepth

theorem scan_pretty {value : Json} (h : Exact value) (hdepth : value.nesting ≤ depthLimit) :
    Document.scan value.pretty = ⟨.ofJson value, true⟩ :=
  (prettyChars_layout h 0).scan hdepth

end GridFilter.Json

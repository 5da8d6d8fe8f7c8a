import GridFilter.Proofs.Condition.Recall

/-!
# Bounds that come back

A number or day column shows two bounds under an operator for a range.  When another operator is
tried and the range operator is set again, the bounds are to be there again.  Whether they are
depends on what is written in between.  The value is always written anew for the new operator, and
only when that leaves nothing does the remembered one come up (`Condition.rewritten`).

So both bounds come back from an operator that takes no value or takes a range itself
(`Condition.boundsAfter_switch`).  An operator for a single value takes the lower bound for its
value, and on the way back that value is the lower bound of a range without an upper one.  An
operator for a count has no use for days, nor a range of days for a number, so the bounds come back
from it too, unless the text of a count that is no number comes up there: it is written as the lower
bound.
-/

namespace GridFilter

/-- The lower bound of a range by itself. -/
def ControlValue.withoutUpper : ControlValue → ControlValue
  | .numberRange lower _ => .numberRange lower none
  | .dateRange lower _ => .dateRange lower none
  | value => value

namespace Operator

variable {operator : Operator}

lemma family?_of_isRange (h : operator.isRange = true) : operator.family? = some .range := by
  cases operator <;> first | rfl | exact absurd h (by decide)

lemma family?_of_isCount (h : operator.isCount = true) : operator.family? = some .count := by
  cases operator <;> first | rfl | exact absurd h (by decide)

end Operator

/-! ## What a range leaves for other shapes -/

namespace ValueShape

variable {shape : ValueShape} {value : ControlValue} {operator : Operator}

lemma of_number_of_isRange (h : operator.isRange = true) : of .number operator = numberRange := by
  cases operator <;> first | rfl | exact absurd h (by decide)

lemma of_date_of_isRange (h : operator.isRange = true) : of .date operator = dateRange := by
  cases operator <;> first | rfl | exact absurd h (by decide)

lemma of_date_of_isCount (h : operator.isCount = true) : of .date operator = count := by
  cases operator <;> first | rfl | exact absurd h (by decide)

lemma of_number_of_exact (h : operator.family? = some .exact) : of .number operator = number := by
  cases operator <;> first | rfl | exact absurd h (by decide)

lemma of_date_of_exact (h : operator.family? = some .exact) : of .date operator = date := by
  cases operator <;> first | rfl | exact absurd h (by decide)

/-- Nothing has to be remembered to read a value back that is no reference. -/
lemma decode_encode_of_ne_references (hown : shape.Own Reference.Coherent value)
    (hshape : shape ≠ references) : shape.decode (shape.encode value) = value.forgetZeroSign := by
  have hread : (shape.decode (shape.encode value)).filledFrom none = value.forgetZeroSign :=
    decode_encode hown fun hreferences => absurd hreferences hshape
  rwa [ControlValue.filledFrom_of_not_references (decode_ne_references hshape _)] at hread

lemma isEmpty_lower {text : String} (hne : text ≠ "") :
    (WireValue.range (some text) none).isEmpty = false := by
  simp [WireValue.range, WireValue.isEmpty, WireValue.isBlankItem, hne]

lemma numberRange_decode_lower (text : String) :
    numberRange.decode (.range (some text) none) = .numberRange (Number.read? text) none := by
  simp only [decode, WireValue.range, WireValue.lower, WireValue.upper, Option.bind_some,
    Option.bind_none]

lemma dateRange_decode_lower (text : String) :
    dateRange.decode (.range (some text) none) = .dateRange (Date.read? text) none := by
  simp only [decode, WireValue.range, WireValue.lower, WireValue.upper, Option.bind_some,
    Option.bind_none]

/-- A single number takes the lower bound, and is the lower bound on the way back. -/
lemma number_of_numberRange (lower : Number) (upper : Option Number) :
    let value := ControlValue.numberRange (some lower) upper
    (number.encode value).isEmpty = false ∧
      (numberRange.encode (number.decode (number.encode value))).isEmpty = false ∧
        numberRange.decode (numberRange.encode (number.decode (number.encode value))) =
          value.withoutUpper.forgetZeroSign := by
  intro value
  have hne := lower.wireText_ne_empty
  have hwritten : numberRange.encode (number.decode (number.encode value)) =
      .range (some lower.wireText) none := by
    have hdecode : number.decode (number.encode value) = .number lower.forgetZeroSign :=
      decodeNumber_wireText lower
    rw [hdecode, ← Number.wireText_forgetZeroSign lower]
    rfl
  rw [hwritten]
  refine ⟨?_, ?_, ?_⟩
  · simp [value, encode, encodeNumber, WireValue.isEmpty, hne]
  · exact isEmpty_lower hne
  · rw [numberRange_decode_lower, Number.read?_wireText]
    rfl

/-- A single day does the same. -/
lemma date_of_dateRange (lower : Date) (upper : Option Date) :
    let value := ControlValue.dateRange (some lower) upper
    (date.encode value).isEmpty = false ∧
      (dateRange.encode (date.decode (date.encode value))).isEmpty = false ∧
        dateRange.decode (dateRange.encode (date.decode (date.encode value))) =
          value.withoutUpper.forgetZeroSign := by
  intro value
  have hne := lower.text_ne_empty
  have hwritten : dateRange.encode (date.decode (date.encode value)) =
      .range (some lower.text) none := by
    have hdecode : date.decode (date.encode value) = .date lower := decodeDate_text lower
    rw [hdecode]
    rfl
  rw [hwritten]
  refine ⟨?_, ?_, ?_⟩
  · simp [value, encode, encodeDate, WireValue.isEmpty, hne]
  · exact isEmpty_lower hne
  · rw [dateRange_decode_lower, Date.read?_text]
    rfl

/-- Nothing of a count is written for a range of days, unless it is a text. -/
lemma dateRange_of_count (wire : WireValue) :
    (∀ text, count.decode wire = .text text → Text.trim text = "") ∧
        (dateRange.encode (count.decode wire)).isEmpty = true ∨
      ∃ text, count.decode wire = .text text ∧ Text.trim text ≠ "" ∧
        (dateRange.encode (count.decode wire)).isEmpty = false ∧
          dateRange.decode (dateRange.encode (count.decode wire)) =
            .dateRange (Date.read? text) none := by
  have hcount : count.decode wire = .null ∨ (∃ value, count.decode wire = .number value) ∨
      ∃ text, count.decode wire = .text text := by
    show decodeNumber wire = .null ∨ (∃ value, decodeNumber wire = .number value) ∨
      ∃ text, decodeNumber wire = .text text
    unfold decodeNumber
    split
    · split
      · exact .inr (.inl ⟨_, rfl⟩)
      · exact .inr (.inr ⟨_, rfl⟩)
    · exact .inl rfl
  rcases hcount with hnull | ⟨value, hvalue⟩ | ⟨text, htext⟩
  · rw [hnull]
    exact .inl ⟨nofun, rfl⟩
  · rw [hvalue]
    exact .inl ⟨nofun, rfl⟩
  · rw [htext]
    have hwritten : dateRange.encode (.text text) = .range (some (Text.trim text)) none := rfl
    rw [hwritten]
    by_cases hblank : Text.trim text = ""
    · refine .inl ⟨fun other hother => ?_, by rw [hblank]; rfl⟩
      rw [← ControlValue.text.inj hother]
      exact hblank
    · refine .inr ⟨text, rfl, hblank, isEmpty_lower hblank, ?_⟩
      rw [dateRange_decode_lower, Date.read?_trim]

end ValueShape

namespace Condition

variable {condition : Condition} {other : Operator}

/-! ## One change of operator -/

/-- Where the values are no references, a new operator shows what is written for it. -/
lemma current_setOperator (hne : condition.operator ≠ other)
    (hshape : condition.column.valueShape other ≠ .references) :
    (condition.setOperator other).2.current.1 =
      (condition.column.valueShape other).decode (condition.withOperator other).wire := by
  rw [setOperator_of_ne hne, fst_current_of_decoded rfl]
  exact ControlValue.filledFrom_of_not_references
    (ValueShape.decode_ne_references hshape (condition.withOperator other).wire) _

/-- What is left of the value is written. -/
lemma wire_withOperator_of_filled
    (hfilled : ((condition.column.valueShape other).encode condition.current.1).isEmpty = false) :
    (condition.withOperator other).wire =
      (condition.column.valueShape other).encode condition.current.1 := by
  show Condition.rewritten _ other condition.current.1 = _
  rw [rewritten]
  refine if_neg ?_
  rw [Bool.not_eq_true]
  exact hfilled

/-- When nothing is left of the value, the one that is remembered is written. -/
lemma wire_withOperator_of_empty {earlier : ControlValue}
    (hempty : ((condition.column.valueShape other).encode condition.current.1).isEmpty = true)
    (hlast : (condition.remembered.keepPresent condition.operator condition.current.1).lastFor
      other = some earlier) :
    (condition.withOperator other).wire = (condition.column.valueShape other).encode earlier := by
  show Condition.rewritten _ other condition.current.1 = _
  rw [rewritten]
  refine (if_pos hempty).trans ?_
  rw [hlast]
  rfl

/-! ## There and back -/

/-- The value is remembered for its family while an operator of another family is set. -/
lemma lastFor_withOperator {family : Operator.Family}
    (hasked : condition.operator.family? = some family)
    (hpresent : condition.current.1.isNull = false)
    (hfamily : other.family? ≠ condition.operator.family?) (shown : ControlValue) :
    ((condition.withOperator other).remembered.keepPresent other shown).lastFor
      condition.operator = some condition.current.1 := by
  have hkept : (condition.withOperator other).remembered.get family =
      some condition.current.1 := by
    show (condition.remembered.keepPresent condition.operator condition.current.1).get family = _
    rw [FamilyMemory.get_keepPresent, if_pos ⟨hasked, hpresent⟩]
  rw [FamilyMemory.lastFor, hasked, Option.bind_some, FamilyMemory.get_keepPresent,
    if_neg fun hboth => hfamily (hboth.1.trans hasked.symm), hkept]

/-- The way back from an operator of another family: the value comes back when nothing is left of
what was shown there. -/
lemma current_switch_back
    (hown : (condition.column.valueShape condition.operator).Own Reference.Coherent
      condition.current.1)
    (hshape : condition.column.valueShape condition.operator ≠ .references)
    (hfamily : other.family? ≠ condition.operator.family?) :
    let shown := (condition.setOperator other).2.current.1
    let written := (condition.column.valueShape condition.operator).encode shown
    (condition.switch [other, condition.operator]).current.1 =
      if written.isEmpty then condition.current.1.forgetZeroSign
      else (condition.column.valueShape condition.operator).decode written := by
  have hne : condition.operator ≠ other := by
    rintro rfl
    exact hfamily rfl
  have hnext : (condition.setOperator other).2 = condition.withOperator other := by
    rw [setOperator_of_ne hne]
  have hback : (condition.switch [other, condition.operator]).current.1 =
      (condition.column.valueShape condition.operator).decode
        ((condition.withOperator other).withOperator condition.operator).wire := by
    show ((condition.setOperator other).2.setOperator condition.operator).2.current.1 = _
    rw [hnext]
    exact current_setOperator hne.symm hshape
  rw [hnext, hback]
  intro shown written
  cases hempty : written.isEmpty with
  | true =>
      obtain ⟨family, hasked⟩ := Operator.exists_family?
        (ValueShape.isValueless_of_ne_nothing hown.ne_nothing)
      have hlast := lastFor_withOperator hasked hown.isNull hfamily shown
      have hwire : ((condition.withOperator other).withOperator condition.operator).wire =
          (condition.column.valueShape condition.operator).encode condition.current.1 :=
        wire_withOperator_of_empty hempty hlast
      rw [hwire, if_pos rfl]
      exact ValueShape.decode_encode_of_ne_references hown hshape
  | false =>
      have hwire : ((condition.withOperator other).withOperator condition.operator).wire =
          written := wire_withOperator_of_filled hempty
      rw [hwire, if_neg Bool.false_ne_true]

/-! ## What a range shows -/

lemma exists_numberRange (hmemo : condition.MemoSound) (hvalid : condition.isValid = true)
    (hshape : condition.column.valueShape condition.operator = .numberRange) :
    ∃ lower upper, condition.current.1 = .numberRange (some lower) (some upper) := by
  have hpasses := passes_of_isValid hvalid hshape (by decide)
  obtain ⟨lower, upper, rest, hwire, ⟨first, hfirst, -⟩, second, hsecond, -⟩ := hpasses.bounds rfl
  refine ⟨first, second, ?_⟩
  rw [hmemo.fst_current, decode, Column.decodeValue, hshape, hwire]
  simp [ValueShape.decode, WireValue.lower, WireValue.upper, hfirst, hsecond,
    ControlValue.filledFrom]

lemma exists_dateRange (hmemo : condition.MemoSound) (hvalid : condition.isValid = true)
    (hshape : condition.column.valueShape condition.operator = .dateRange) :
    ∃ lower upper, condition.current.1 = .dateRange (some lower) (some upper) := by
  have hpasses := passes_of_isValid hvalid hshape (by decide)
  obtain ⟨lower, upper, rest, hwire, ⟨first, hfirst⟩, second, hsecond⟩ := hpasses.bounds rfl
  refine ⟨first, second, ?_⟩
  rw [hmemo.fst_current, decode, Column.decodeValue, hshape, hwire]
  simp [ValueShape.decode, WireValue.lower, WireValue.upper, hfirst, hsecond,
    ControlValue.filledFrom]

/-! ## Single values -/

/-- The way back from an operator of another family for which something of the value is left, when
of that something is left for the range. -/
lemma current_switch_of_filled
    (hown : (condition.column.valueShape condition.operator).Own Reference.Coherent
      condition.current.1)
    (hshape : condition.column.valueShape condition.operator ≠ .references)
    (hotherShape : condition.column.valueShape other ≠ .references)
    (hfamily : other.family? ≠ condition.operator.family?)
    (hfilled : ((condition.column.valueShape other).encode condition.current.1).isEmpty = false)
    (hback : ((condition.column.valueShape condition.operator).encode
      ((condition.column.valueShape other).decode
        ((condition.column.valueShape other).encode condition.current.1))).isEmpty = false) :
    (condition.switch [other, condition.operator]).current.1 =
      (condition.column.valueShape condition.operator).decode
        ((condition.column.valueShape condition.operator).encode
          ((condition.column.valueShape other).decode
            ((condition.column.valueShape other).encode condition.current.1))) := by
  have hne : condition.operator ≠ other := by
    rintro rfl
    exact hfamily rfl
  have hshown := current_setOperator hne hotherShape
  rw [wire_withOperator_of_filled hfilled] at hshown
  have hswitch := current_switch_back hown hshape hfamily
  dsimp only at hswitch
  rw [hshown, hback, if_neg Bool.false_ne_true] at hswitch
  exact hswitch

/-! ## Every operator -/

/-- What a range operator shows after another operator was tried. -/
structure BoundsAfter (other : Operator) (shown before after : ControlValue) : Prop where
  /-- Both bounds come back from an operator that takes no value or a range. -/
  kept : other.isValueless = true ∨ other.isRange = true →
    after.forgetZeroSign = before.forgetZeroSign
  /-- They come back from one that takes a count. -/
  counted : other.isCount = true → (∀ text, shown = .text text → Text.trim text = "") →
    after.forgetZeroSign = before.forgetZeroSign
  /-- If it brings up a text instead of a number, that is the lower bound. -/
  typed : other.isCount = true → ∀ text, shown = .text text → Text.trim text ≠ "" →
    after = .dateRange (Date.read? text) none
  /-- The lower bound alone comes back from an operator that takes a single value. -/
  single : other.family? = some .exact →
    after.forgetZeroSign = before.withoutUpper.forgetZeroSign
  covered : other.isValueless = true ∨ other.isRange = true ∨ other.isCount = true ∨
    other.family? = some .exact

/-- Values of neither kind are references. -/
lemma ne_references (hkind : condition.column.kind = .number ∨ condition.column.kind = .date)
    (operator : Operator) : condition.column.valueShape operator ≠ .references := by
  intro hshape
  rw [Column.valueShape] at hshape
  rcases hkind with hnumber | hdate
  · rw [hnumber] at hshape
    cases operator <;> exact absurd hshape (by decide)
  · rw [hdate] at hshape
    cases operator <;> exact absurd hshape (by decide)

/-- An operator for a single value takes the lower bound, and that is what the range operator takes
back. -/
lemma current_switch_exact (hmemo : condition.MemoSound)
    (hkind : condition.column.kind = .number ∨ condition.column.kind = .date)
    (hrange : condition.operator.isRange = true) (hvalid : condition.isValid = true)
    (hown : (condition.column.valueShape condition.operator).Own Reference.Coherent
      condition.current.1) (hexact : other.family? = some .exact) :
    (condition.switch [other, condition.operator]).current.1 =
      condition.current.1.withoutUpper.forgetZeroSign := by
  have hfamily : other.family? ≠ condition.operator.family? := by
    rw [hexact, Operator.family?_of_isRange hrange]
    simp
  have hswitch := current_switch_of_filled hown (ne_references hkind _) (ne_references hkind other)
    hfamily
  rcases hkind with hnumber | hdate
  · have hshape : condition.column.valueShape condition.operator = .numberRange := by
      rw [Column.valueShape, hnumber, ValueShape.of_number_of_isRange hrange]
    have hotherShape : condition.column.valueShape other = .number := by
      rw [Column.valueShape, hnumber, ValueShape.of_number_of_exact hexact]
    obtain ⟨lower, upper, hcurrent⟩ := exists_numberRange hmemo hvalid hshape
    obtain ⟨hfilled, hback, hlower⟩ := ValueShape.number_of_numberRange lower (some upper)
    rw [hshape, hotherShape, hcurrent] at hswitch
    rw [hswitch hfilled hback, hcurrent]
    exact hlower
  · have hshape : condition.column.valueShape condition.operator = .dateRange := by
      rw [Column.valueShape, hdate, ValueShape.of_date_of_isRange hrange]
    have hotherShape : condition.column.valueShape other = .date := by
      rw [Column.valueShape, hdate, ValueShape.of_date_of_exact hexact]
    obtain ⟨lower, upper, hcurrent⟩ := exists_dateRange hmemo hvalid hshape
    obtain ⟨hfilled, hback, hlower⟩ := ValueShape.date_of_dateRange lower (some upper)
    rw [hshape, hotherShape, hcurrent] at hswitch
    rw [hswitch hfilled hback, hcurrent]
    exact hlower

/-- An operator for a count leaves the bounds to be remembered, unless it brings up a text. -/
lemma current_switch_count (hkind : condition.column.kind = .date)
    (hrange : condition.operator.isRange = true)
    (hown : (condition.column.valueShape condition.operator).Own Reference.Coherent
      condition.current.1) (hcount : other.isCount = true) :
    let shown := (condition.setOperator other).2.current.1
    (∀ text, shown = .text text → Text.trim text = "") ∧
        (condition.switch [other, condition.operator]).current.1 =
          condition.current.1.forgetZeroSign ∨
      ∃ text, shown = .text text ∧ Text.trim text ≠ "" ∧
        (condition.switch [other, condition.operator]).current.1 =
          .dateRange (Date.read? text) none := by
  intro shown
  have hfamily : other.family? ≠ condition.operator.family? := by
    rw [Operator.family?_of_isCount hcount, Operator.family?_of_isRange hrange]
    simp
  have hne : condition.operator ≠ other := by
    rintro rfl
    exact hfamily rfl
  have hshape : condition.column.valueShape condition.operator = .dateRange := by
    rw [Column.valueShape, hkind, ValueShape.of_date_of_isRange hrange]
  have hotherShape : condition.column.valueShape other = .count := by
    rw [Column.valueShape, hkind, ValueShape.of_date_of_isCount hcount]
  have hshown : shown = ValueShape.count.decode (condition.withOperator other).wire := by
    rw [← hotherShape]
    exact current_setOperator hne (ne_references (.inr hkind) other)
  have hswitch : (condition.switch [other, condition.operator]).current.1 =
      if (ValueShape.dateRange.encode shown).isEmpty then condition.current.1.forgetZeroSign
      else ValueShape.dateRange.decode (ValueShape.dateRange.encode shown) := by
    rw [← hshape]
    exact current_switch_back hown (ne_references (.inr hkind) _) hfamily
  rw [hswitch, hshown]
  rcases ValueShape.dateRange_of_count (condition.withOperator other).wire with
    ⟨hnone, hempty⟩ | ⟨text, htext, hsome, hfilled, hlower⟩
  · exact .inl ⟨hnone, if_pos hempty⟩
  · refine .inr ⟨text, htext, hsome, ?_⟩
    rw [hfilled, if_neg Bool.false_ne_true]
    exact hlower

/-- The operators of a number or day column; those for a count belong to days. -/
lemma covered_of_supports (hkind : condition.column.kind = .number ∨ condition.column.kind = .date)
    (hother : condition.column.supports other = true) :
    (other.isValueless = true ∨ other.isRange = true ∨ other.isCount = true ∨
      other.family? = some .exact) ∧
        (other.isCount = true → condition.column.kind = .date) := by
  rw [Column.supports] at hother
  have hall : ∀ kind : ColumnKind, kind = .number ∨ kind = .date →
      ∀ operator ∈ kind.operators, (operator.isValueless = true ∨ operator.isRange = true ∨
        operator.isCount = true ∨ operator.family? = some .exact) ∧
          (operator.isCount = true → kind = .date) := by
    rintro kind (rfl | rfl) <;> decide
  exact hall _ hkind other (ColumnKind.mem_operators hother)

lemma isNull_of_isRange (hmemo : condition.MemoSound)
    (hkind : condition.column.kind = .number ∨ condition.column.kind = .date)
    (hrange : condition.operator.isRange = true) : condition.current.1.isNull = false := by
  rw [hmemo.fst_current, decode, ControlValue.isNull_filledFrom, Column.decodeValue,
    Column.valueShape]
  rcases hkind with hnumber | hdate
  · rw [hnumber, ValueShape.of_number_of_isRange hrange]
    rfl
  · rw [hdate, ValueShape.of_date_of_isRange hrange]
    rfl

/-- However a number or day condition came to be in order with a range, what becomes of the bounds
while another operator is tried depends on that operator alone, and for a count on what comes up
there. -/
theorem boundsAfter_switch (h : condition.Reachable)
    (hkind : condition.column.kind = .number ∨ condition.column.kind = .date)
    (hrange : condition.operator.isRange = true) (hvalid : condition.isValid = true)
    (hother : condition.column.supports other = true) :
    BoundsAfter other (condition.setOperator other).2.current.1 condition.current.1
      (condition.switch [other, condition.operator]).current.1 := by
  have hmemo := h.memoSound
  have hrecalls := recalls_of_isValid hmemo hvalid (isNull_of_isRange hmemo hkind hrange)
  obtain ⟨hcovered, hcounts⟩ := covered_of_supports hkind hother
  refine ⟨?_, ?_, ?_, ?_, hcovered⟩
  · intro hnone
    have htry : ∀ operator ∈ [other, condition.operator],
        MayTry condition.column condition.operator operator := by
      intro operator hmem
      rcases List.mem_cons.mp hmem with rfl | hlast
      · refine ⟨hother, .inr (hnone.imp_right fun hsame => ?_)⟩
        rw [Operator.family?_of_isRange hsame, Operator.family?_of_isRange hrange]
      · rw [List.mem_singleton.mp hlast]
        exact ⟨hrecalls.supports, .inr (.inr rfl)⟩
    obtain ⟨kept, hkept, hafter⟩ := hrecalls.switch htry
    have hoperator : (condition.switch [other, condition.operator]).operator =
        condition.operator := operator_setOperator _ condition.operator
    rw [hafter.memo.fst_current, (hafter.shown (congrArg Operator.family? hoperator)).1, hkept]
  · intro hcount hblank
    rcases current_switch_count (hcounts hcount) hrange hrecalls.own hcount with
      ⟨-, hafter⟩ | ⟨text, htext, hfilled, -⟩
    · rw [hafter, ControlValue.forgetZeroSign_forgetZeroSign]
    · exact absurd (hblank text htext) hfilled
  · intro hcount text htext hfilled
    rcases current_switch_count (hcounts hcount) hrange hrecalls.own hcount with
      ⟨hblank, -⟩ | ⟨found, hfound, -, hafter⟩
    · exact absurd (hblank text htext) hfilled
    · rw [htext] at hfound
      rw [hafter, ControlValue.text.inj hfound]
  · intro hexact
    rw [current_switch_exact hmemo hkind hrange hvalid hrecalls.own hexact,
      ControlValue.forgetZeroSign_forgetZeroSign]

/-- A count of days was typed as a text once.  When the count is tried again, that text comes up and
takes the place of both days. -/
theorem boundsAfter_switch_typed :
    let column : Column := ⟨"due", .dateOnly, {}⟩
    let condition := (Activity.run { condition := fresh 0 "due" column }
      [.setOperator .lastXDays, .setValue (.text "soon"), .setOperator .between,
        .setValue (.dateRange (Date.read? "2024-01-01") (Date.read? "2024-02-01"))]).condition
    condition.isValid = true ∧ (Date.read? "2024-01-01").isSome = true ∧
      (condition.setOperator .lastXDays).2.current.1 = .text "soon" ∧
      (condition.switch [.lastXDays, .between]).current.1 = .dateRange none none ∧
      BoundsAfter .lastXDays (condition.setOperator .lastXDays).2.current.1 condition.current.1
        (condition.switch [.lastXDays, .between]).current.1 := by
  intro column condition
  have hreachable : condition.Reachable := ⟨fresh 0 "due" column, _, .fresh 0 "due" column, rfl⟩
  have hvalid : condition.isValid = true := by decide +kernel
  have hoperator : condition.operator = .between := by decide +kernel
  have hdate : condition.column.kind = .date := by decide +kernel
  have hshown : (condition.setOperator .lastXDays).2.current.1 = .text "soon" := by decide +kernel
  have hafter : (condition.switch [.lastXDays, .between]).current.1 = .dateRange none none := by
    decide +kernel
  -- Nothing else of the condition is needed.
  clear_value condition
  have hrange : condition.operator.isRange = true := by rw [hoperator]; rfl
  have hother : condition.column.supports .lastXDays = true := by
    rw [Column.supports, hdate]
    decide
  have hbounds := boundsAfter_switch hreachable (.inr hdate) hrange hvalid hother
  rw [hoperator] at hbounds
  exact ⟨hvalid, by decide +kernel, hshown, hafter, hbounds⟩

/-- The upper of two numbers is lost while one number is compared with. -/
theorem upper_bound_lost :
    let column : Column := ⟨"amount", .decimal, {}⟩
    let condition := hydrated 0 "amount" column ⟨.between, .list [some "1", some "2"]⟩
    condition.isValid = true ∧ column.supports .equal = true ∧
      condition.current.1 = .numberRange (Number.read? "1") (Number.read? "2") ∧
      (Number.read? "2").isSome = true ∧
      (condition.switch [.equal, .between]).current.1 = .numberRange (Number.read? "1") none := by
  intro column condition
  exact ⟨by decide +kernel, by decide, by decide +kernel, by decide +kernel, by decide +kernel⟩

end Condition

end GridFilter

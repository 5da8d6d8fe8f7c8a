import GridFilter.Proofs.Condition.Bounds
import GridFilter.Proofs.ValueShape.Content

/-!
# Values that were cleared

An editor clears a condition by setting no value.  The wire is empty then, and it stays so while
operators of the same family are tried, with one exception that is there by design: when nothing is
left of the current value, a new operator brings up the last value of its family, and setting no
value is not remembered as one.  `Condition.switch_cleared` puts the two together.  A range has no
such exception.  It is shown with two open bounds, and these are remembered as its value.

## The argument

`Condition.Cleared` says that the wire is empty, and that whatever the family remembers, the value
that is shown included, would leave it empty.  A change of operator keeps that, because what is read
of an empty value is written as an empty one (`ValueShape.isEmpty_anew`).
-/

namespace GridFilter

/-- The operators that take a value are those that have a family. -/
lemma Operator.isSome_family? (operator : Operator) :
    operator.family?.isSome = !operator.isValueless := by
  cases operator <;> rfl

/-- In a family of an operator that takes a value all operators do. -/
lemma Operator.isValueless_of_family? {operator other : Operator}
    (hfamily : other.family? = operator.family?) (hvalue : operator.isValueless = false) :
    other.isValueless = false := by
  have hsome := other.isSome_family?
  rw [hfamily, isSome_family?, hvalue] at hsome
  simpa using hsome

/-- Operators of one family remember the same. -/
lemma FamilyMemory.lastFor_congr {operator other : Operator}
    (hfamily : other.family? = operator.family?) (memory : FamilyMemory) :
    memory.lastFor other = memory.lastFor operator := by
  rw [lastFor, lastFor, hfamily]

/-! ## Empty values -/

namespace WireValue

variable {wire : WireValue} {text : String}

lemma mem_values_of_lower (h : wire.lower = some text) : text ∈ wire.values := by
  cases wire with
  | null => simp [lower] at h
  | scalar single => simpa [lower, values, eq_comm] using h
  | list items =>
      cases items with
      | nil => simp [lower] at h
      | cons item rest =>
          have hitem : item = some text := h
          simp [values, hitem]

lemma mem_values_of_upper (h : wire.upper = some text) : text ∈ wire.values := by
  cases wire with
  | null | scalar single => simp [upper] at h
  | list items =>
      rcases items with _ | ⟨first, _ | ⟨second, rest⟩⟩
      · simp [upper] at h
      · simp [upper] at h
      · have hitem : second = some text := h
        simp [values, hitem]

/-- A text that is picked from an empty value is missing or empty. -/
lemma eq_none_or_empty {slot : Option String} (hempty : wire.isEmpty = true)
    (hslot : ∀ text, slot = some text → text ∈ wire.values) : slot = none ∨ slot = some "" := by
  cases slot with
  | none => exact .inl rfl
  | some text => exact .inr (by rw [eq_empty_of_mem hempty (hslot text rfl)])

/-- Texts that are all empty are an empty value. -/
lemma isEmpty_ofTexts {texts : List String} (h : ∀ text ∈ texts, text = "") :
    (ofTexts texts).isEmpty = true := by
  simpa [ofTexts, isEmpty, isBlankItem] using h

end WireValue

namespace ValueShape

variable {shape : ValueShape} {wire : WireValue}

/-- Of no value nothing is read, unless it is shown as an open range. -/
lemma decode_null (hrange : shape.isRange = false) : shape.decode .null = .null := by
  cases shape <;> first | rfl | exact absurd hrange (by decide)

/-- A range is shown even when there is no value. -/
lemma isNull_decode_of_isRange (hrange : shape.isRange = true) (wire : WireValue) :
    (shape.decode wire).isNull = false := by
  cases shape <;> first | rfl | exact absurd hrange (by decide)

/-- Ids of no text are sent for the references that are read of an empty value. -/
lemma isEmpty_anew_references (hempty : wire.isEmpty = true) (remembered : Option ControlValue) :
    (references.encode ((references.decode wire).filledFrom remembered)).isEmpty = true := by
  have hsettles : ∀ text ∈ wire.values, RecordId.Settles text := by
    intro text hmem
    rw [WireValue.eq_empty_of_mem hempty hmem]
    decide
  rcases decode_references hsettles remembered with hnull | ⟨filled, hfilled, hids⟩
  · rw [hnull]
    rfl
  · rw [hfilled]
    by_cases hnone : filled = []
    · rw [hnone]
      rfl
    · show (encodeReferences (.references filled)).isEmpty = true
      rw [encodeReferences_of_ne_nil hnone, hids]
      refine WireValue.isEmpty_ofTexts fun id hmem => ?_
      obtain ⟨text, htext, rfl⟩ := List.mem_map.mp hmem
      rw [WireValue.eq_empty_of_mem hempty htext]
      decide

/-- What is read of an empty value is written as an empty one, whatever is remembered. -/
lemma isEmpty_anew (hempty : wire.isEmpty = true) (remembered : Option ControlValue) :
    (shape.encode ((shape.decode wire).filledFrom remembered)).isEmpty = true := by
  by_cases hreferences : shape = references
  · rw [hreferences]
    exact isEmpty_anew_references hempty remembered
  rw [ControlValue.filledFrom_of_not_references (decode_ne_references hreferences wire)]
  have hhead := WireValue.eq_none_or_empty hempty fun _ => List.mem_of_head?
  have hopen {α : Type} {read? : String → Option α} (hread : read? "" = none) :
      wire.lower.bind read? = none ∧ wire.upper.bind read? = none := by
    constructor
    · rcases WireValue.eq_none_or_empty hempty fun _ => WireValue.mem_values_of_lower with h | h <;>
        simp [h, hread]
    · rcases WireValue.eq_none_or_empty hempty fun _ => WireValue.mem_values_of_upper with h | h <;>
        simp [h, hread]
  -- The empty text is no number, no day and no choice.
  have hnumber : Number.read? "" = none := by decide +kernel
  have hdate : Date.read? "" = none := by decide +kernel
  have hoption : readOption? "" = none := by decide +kernel
  have hblank : (WireValue.scalar (Text.trim "")).isEmpty = true := by decide
  cases shape with
  | nothing => rfl
  | text =>
      show (encodeText (.ofText? wire.values.head?)).isEmpty = true
      rcases hhead with h | h <;> rw [h] <;> rfl
  | search =>
      cases wire with
      | null | list items => rfl
      | scalar text => exact hempty
  | number | count =>
      rcases hhead with h | h
      · simp [decode, decodeNumber, h, encode, encodeNumber, encodeCount, WireValue.isEmpty]
      · simpa [decode, decodeNumber, h, hnumber, encode, encodeNumber, encodeCount] using hblank
  | date =>
      rcases hhead with h | h
      · simp [decode, decodeDate, h, encode, encodeDate, WireValue.isEmpty]
      · simpa [decode, decodeDate, h, hdate, encode, encodeDate] using hblank
  | numberRange =>
      show (encodeNumberRange (.numberRange (wire.lower.bind Number.read?)
        (wire.upper.bind Number.read?))).isEmpty = true
      rw [(hopen hnumber).1, (hopen hnumber).2]
      rfl
  | dateRange =>
      show (encodeDateRange (.dateRange (wire.lower.bind Date.read?)
        (wire.upper.bind Date.read?))).isEmpty = true
      rw [(hopen hdate).1, (hopen hdate).2]
      rfl
  | options =>
      have hnone : wire.values.filterMap readOption? = [] := by
        refine List.filterMap_eq_nil_iff.mpr fun text hmem => ?_
        rw [WireValue.eq_empty_of_mem hempty hmem, hoption]
      show (encodeOptions (decodeOptions wire)).isEmpty = true
      rw [decodeOptions, hnone]
      split <;> rfl
  | references => exact absurd rfl hreferences

end ValueShape

namespace Condition

variable {condition : Condition} {other : Operator}

/-! ## One change of operator -/

/-- What is kept for an operator is the last value of its family. -/
lemma lastFor_keepPresent (hfamily : other.family? = condition.operator.family?)
    (hvalue : condition.operator.isValueless = false) (memory : FamilyMemory) {value : ControlValue}
    (hpresent : value.isNull = false) :
    (memory.keepPresent condition.operator value).lastFor other = some value := by
  obtain ⟨family, hown⟩ := Operator.exists_family? hvalue
  rw [FamilyMemory.lastFor, hfamily, hown, Option.bind_some, FamilyMemory.get_keepPresent,
    if_pos ⟨hown, hpresent⟩]

/-- Nothing is written under a new operator when neither what is shown nor what its family remembers
leaves anything. -/
lemma isEmpty_withOperator
    (hshown : (condition.column.encodeValue other condition.current.1).isEmpty = true)
    (hlast : ∀ earlier,
      (condition.remembered.keepPresent condition.operator condition.current.1).lastFor other =
        some earlier → (condition.column.encodeValue other earlier).isEmpty = true) :
    (condition.withOperator other).wire.isEmpty = true := by
  unfold withOperator rewritten
  dsimp only
  rw [if_pos hshown]
  split
  · next earlier hearlier => exact hlast earlier hearlier
  · exact hshown

/-! ## The invariant -/

/-- What the family of the operator remembers leaves nothing on the wire. -/
def Spent (condition : Condition) : Prop :=
  ∀ earlier, condition.remembered.lastFor condition.operator = some earlier →
    (condition.column.encodeValue condition.operator earlier).isEmpty = true

/-- The operator takes a value and there is none on the wire, nor would what its family remembers
leave one there once the value that is shown was kept. -/
structure Cleared (condition : Condition) : Prop where
  memo : condition.MemoSound
  supports : condition.column.supports condition.operator = true
  valued : condition.operator.isValueless = false
  empty : condition.wire.isEmpty = true
  spent : { condition with
    remembered := condition.remembered.keepPresent condition.operator condition.decode }.Spent

/-- With an empty value it is enough that the family is spent, or that a value is shown that will be
remembered for it: that leaves nothing either. -/
lemma cleared_of_isEmpty (hmemo : condition.MemoSound)
    (hsupports : condition.column.supports condition.operator = true)
    (hvalue : condition.operator.isValueless = false) (hempty : condition.wire.isEmpty = true)
    (hspent : condition.decode.isNull = true → condition.Spent) : condition.Cleared := by
  refine ⟨hmemo, hsupports, hvalue, hempty, fun earlier hlast => ?_⟩
  cases hnull : condition.decode.isNull with
  | true =>
      refine hspent hnull earlier ?_
      rwa [FamilyMemory.keepPresent, if_pos hnull] at hlast
  | false =>
      have hkept := condition.lastFor_keepPresent rfl hvalue condition.remembered hnull
      obtain rfl : condition.decode = earlier := Option.some_inj.mp (hkept.symm.trans hlast)
      exact ValueShape.isEmpty_anew hempty _

/-- Another operator of the family finds nothing to write. -/
lemma Cleared.withOperator (h : condition.Cleared)
    (hsupports : condition.column.supports other = true)
    (hfamily : other.family? = condition.operator.family?) :
    (condition.withOperator other).Cleared := by
  have hshape : condition.column.valueShape other = condition.column.valueShape condition.operator :=
    ValueShape.of_eq_of_family? hsupports h.supports hfamily
  have hvalue := Operator.isValueless_of_family? hfamily h.valued
  have hlast : ∀ earlier,
      (condition.remembered.keepPresent condition.operator condition.current.1).lastFor other =
        some earlier → (condition.column.encodeValue other earlier).isEmpty = true := by
    intro earlier hearlier
    rw [h.memo.fst_current, FamilyMemory.lastFor_congr hfamily] at hearlier
    rw [Column.encodeValue, hshape]
    exact h.spent earlier hearlier
  refine cleared_of_isEmpty (memoSound_of_decoded rfl) hsupports hvalue ?_ fun _ => hlast
  refine isEmpty_withOperator ?_ hlast
  rw [h.memo.fst_current, Column.encodeValue, hshape]
  exact ValueShape.isEmpty_anew h.empty _

lemma Cleared.setOperator (h : condition.Cleared)
    (hsupports : condition.column.supports other = true)
    (hfamily : other.family? = condition.operator.family?) :
    (condition.setOperator other).2.Cleared := by
  by_cases hsame : condition.operator = other
  · rw [← hsame, setOperator_self]
    exact h
  · rw [setOperator_of_ne hsame]
    exact h.withOperator hsupports hfamily

/-- A run of operators of the family finds nothing to write. -/
lemma Cleared.switch (h : condition.Cleared) {operators : List Operator}
    (hoffered : ∀ other ∈ operators, condition.column.supports other = true ∧
      other.family? = condition.operator.family?) : (condition.switch operators).Cleared := by
  induction operators generalizing condition with
  | nil => exact h
  | cons other rest ih =>
      obtain ⟨hsupports, hfamily⟩ := hoffered other List.mem_cons_self
      refine ih (h.setOperator hsupports hfamily) fun later hmem => ?_
      have hcolumn : (condition.setOperator other).2.column = condition.column :=
        (Step.setOperator other).identity.column
      obtain ⟨hlater, hlaterFamily⟩ := hoffered later (List.mem_cons_of_mem other hmem)
      rw [hcolumn, operator_setOperator, hfamily]
      exact ⟨hlater, hlaterFamily⟩

/-! ## Right after clearing -/

/-- Setting the operator that is set, any number of times, changes nothing. -/
lemma switch_self {operators : List Operator}
    (hself : ∀ other ∈ operators, other = condition.operator) :
    condition.switch operators = condition := by
  induction operators with
  | nil => rfl
  | cons other rest ih =>
      have hother := hself other List.mem_cons_self
      show (condition.setOperator other).2.switch rest = condition
      rw [hother, setOperator_self]
      exact ih fun later hmem => hself later (List.mem_cons_of_mem other hmem)

/-- When nothing is left of the value that is shown, the last one of the family comes back. -/
lemma wire_setOperator_of_remembered {earlier : ControlValue}
    (hnull : condition.current.1 = .null) (hother : other ≠ condition.operator)
    (hlast : condition.remembered.lastFor other = some earlier) :
    (condition.setOperator other).2.wire = condition.column.encodeValue other earlier := by
  rw [setOperator_of_ne hother.symm]
  refine wire_withOperator_of_empty ?_ ?_
  · rw [hnull, ValueShape.encode_null]
    rfl
  · rw [hnull]
    exact hlast

/-- A condition whose value was cleared stays empty over any run of operators of its family if they
take a range, if the operator never changes, or if what is remembered for the family leaves nothing
on the wire.  In any other case another operator brings up what is remembered. -/
theorem switch_cleared (hsupports : condition.column.supports condition.operator = true)
    (hvalue : condition.operator.isValueless = false) {operators : List Operator}
    (hoffered : ∀ other ∈ operators, condition.column.supports other = true ∧
      other.family? = condition.operator.family?) :
    let cleared := (condition.setValue .null).2
    cleared.wire = .null ∧
      (condition.operator.isRange = true ∨ (∀ other ∈ operators, other = condition.operator) ∨
          condition.Spent → (cleared.switch operators).wire.isEmpty = true) ∧
      (condition.operator.isRange = false →
        ∀ earlier, condition.remembered.lastFor condition.operator = some earlier →
          ∀ other ∈ operators, other ≠ condition.operator →
            (cleared.setOperator other).2.wire = condition.column.encodeValue other earlier) := by
  intro cleared
  have hwire : cleared.wire = .null := ValueShape.encode_null _
  have hmemo : cleared.MemoSound := memoSound_of_decoded rfl
  have hrange : (condition.column.valueShape condition.operator).isRange =
      condition.operator.isRange := ValueShape.isRange_of_supports hsupports
  have hempty : cleared.wire.isEmpty = true := by
    rw [hwire]
    rfl
  refine ⟨hwire, ?_, ?_⟩
  · rintro (hbounds | hself | hspent)
    · have hstart : cleared.Cleared := by
        refine cleared_of_isEmpty hmemo hsupports hvalue hempty fun hnull => ?_
        have hshown := ValueShape.isNull_decode_of_isRange (hrange.trans hbounds) cleared.wire
        rw [decode, ControlValue.isNull_filledFrom] at hnull
        exact absurd (hnull.symm.trans hshown) (by decide)
      exact (hstart.switch hoffered).empty
    · have hsame : cleared.switch operators = cleared := switch_self hself
      rw [hsame]
      exact hempty
    · have hstart : cleared.Cleared :=
        cleared_of_isEmpty hmemo hsupports hvalue hempty fun _ => hspent
      exact (hstart.switch hoffered).empty
  · intro hsingle earlier hlast other hmem hother
    have hnull : cleared.current.1 = .null := by
      have hnothing := ValueShape.decode_null (hrange.trans hsingle)
      rw [hmemo.fst_current, decode, hwire, Column.decodeValue]
      exact (congrArg (ControlValue.filledFrom _) hnothing).trans
        (ControlValue.filledFrom_of_not_references (by simp) _)
    refine wire_setOperator_of_remembered hnull hother ?_
    rw [FamilyMemory.lastFor_congr (hoffered other hmem).2]
    exact hlast

/-- Two days do not come back after they were cleared. -/
theorem switch_cleared_between :
    let column : Column := ⟨"due", .dateOnly, {}⟩
    let condition := (Activity.run { condition := fresh 0 "due" column }
      [.setOperator .between,
        .setValue (.dateRange (Date.read? "2024-01-01") (Date.read? "2024-02-01"))]).condition
    condition.isValid = true ∧ condition.remembered.lastFor .notBetween = some condition.current.1 ∧
      (condition.setValue .null).2.wire = .null ∧
      ((condition.setValue .null).2.switch [.notBetween, .between]).wire.isEmpty = true := by
  intro column condition
  have hvalid : condition.isValid = true := by decide +kernel
  have hlast : condition.remembered.lastFor .notBetween = some condition.current.1 := by
    decide +kernel
  have hoperator : condition.operator = .between := by decide +kernel
  have hdate : condition.column.kind = .date := by decide +kernel
  -- Nothing else of the condition is needed.
  clear_value condition
  have hoffered : ∀ other ∈ [Operator.notBetween, .between],
      condition.column.supports other = true ∧ other.family? = condition.operator.family? := by
    have hall : ∀ other ∈ [Operator.notBetween, .between],
        ColumnKind.date.supports other = true ∧ other.family? = Operator.between.family? := by
      decide
    intro other hmem
    rw [Column.supports, hdate, hoperator]
    exact hall other hmem
  have hsupports : condition.column.supports condition.operator = true :=
    supports_of_isValid hvalid
  obtain ⟨hwire, hempty, -⟩ := switch_cleared hsupports (by rw [hoperator]; rfl) hoffered
  exact ⟨hvalid, hlast, hwire, hempty (.inl (by rw [hoperator]; rfl))⟩

/-- A text does come back. -/
theorem cleared_text_restored :
    let column : Column := ⟨"name", .text, {}⟩
    let condition := ((fresh 0 "name" column).setValue (.text "x")).2
    let cleared := (condition.setValue .null).2
    condition.Reachable ∧ column.supports .equal = true ∧ column.supports .doesNotEqual = true ∧
      condition.operator = .equal ∧ Operator.doesNotEqual.family? = Operator.equal.family? ∧
      cleared.wire = .null ∧ (cleared.switch [.doesNotEqual]).wire = .scalar "x" := by
  intro column condition cleared
  have hreachable : condition.Reachable :=
    ⟨fresh 0 "name" column, [.setValue (.text "x")], .fresh 0 "name" column, rfl⟩
  refine ⟨hreachable, ?_⟩
  clear hreachable
  decide +kernel

end Condition

end GridFilter

import GridFilter.Proofs.Criterion.Acceptance

/-!
# What the query layer expects

The query layer takes each category of operators with a value of its own form: none, a pattern, two
bounds, several texts or one.  `Criterion.WellFormed` is that form together with the demand that
every text in the value is in order for the column.

A criterion from a document may be accepted and lack it, because validation does not see all of a
value.  One that a column encoded may not (`Column.wellFormed_decorate`).  What an encoder writes is
either nothing at all or of the form that its shape is judged by (`ValueShape.isEncoded_encode`), so
nothing of it is out of sight (`ValueShape.Passes.filled`).
-/

namespace GridFilter

variable {column : Column} {shape : ValueShape} {operator : Operator} {wire : WireValue}

/-! ## The form of a criterion -/

namespace Criterion

/-- The value is of the form that the query layer takes with the operator. -/
def Shaped (wildcard : String) (criterion : Criterion) : Prop :=
  match criterion.operator.category with
  | .nullCheck | .relativeDate | .other => criterion.wire = .null
  | .pattern =>
    ∃ text, Text.isAllBlank text = false ∧
      criterion.wire = .scalar (criterion.operator.wrap wildcard text)
  | .range => ∃ lower upper, criterion.wire = .range (some lower) (some upper)
  | .multiValue =>
    let least := if criterion.operator = .isIn ∨ criterion.operator = .notIn then 2 else 1
    ∃ texts, least ≤ texts.length ∧ criterion.wire = .ofTexts texts
  | .equality | .comparison | .relativeCount => ∃ text, criterion.wire = .scalar text

/-- A criterion in query form that the query layer can do something with. -/
structure WellFormed (column : Column) (wildcard : String) (criterion : Criterion) : Prop where
  shaped : criterion.Shaped wildcard
  /-- Every text in the value is a number, a day, a choice or the id of a record where the operator
  compares with one. -/
  admitted : ∀ text ∈ criterion.wire.values,
    (column.valueShape criterion.operator).Admits column text

end Criterion

/-! ## What an encoder writes -/

@[simp] lemma WireValue.values_ofTexts (texts : List String) : (ofTexts texts).values = texts := by
  simp [ofTexts, values]

namespace ValueShape

/-- The forms of a value that was written in a shape. -/
def IsEncoded (shape : ValueShape) (wire : WireValue) : Prop :=
  wire = .null ∨
    if shape.isList then ∃ texts, wire = .ofTexts texts
    else if shape.isRange then ∃ lower upper, wire = .range lower upper
    else shape ≠ nothing ∧ ∃ text, wire = .scalar text

lemma isEncoded_encode (shape : ValueShape) (value : ControlValue) :
    shape.IsEncoded (shape.encode value) := by
  cases shape with
  | nothing => exact .inl rfl
  | text => cases value <;> simp [IsEncoded, encode, encodeText, isList, isRange]
  | number =>
      cases value with
      | numberRange lower upper =>
          cases lower <;> simp [IsEncoded, encode, encodeNumber, isList, isRange]
      | _ => simp [IsEncoded, encode, encodeNumber, isList, isRange]
  | numberRange =>
      cases value <;> simp [IsEncoded, encode, encodeNumberRange, isList, isRange, WireValue.range]
  | count => cases value <;> simp [IsEncoded, encode, encodeCount, isList, isRange]
  | date =>
      cases value with
      | dateRange lower upper =>
          cases lower <;> simp [IsEncoded, encode, encodeDate, isList, isRange]
      | _ => simp [IsEncoded, encode, encodeDate, isList, isRange]
  | dateRange =>
      cases value <;> simp [IsEncoded, encode, encodeDateRange, isList, isRange, WireValue.range]
  | options =>
      unfold IsEncoded
      cases value with
      | number value =>
          simp only [encode, encodeOptions]
          split <;> simp [isList]
      | _ => simp [encode, encodeOptions, isList]
  | references =>
      unfold IsEncoded
      cases value with
      | references values => cases values <;> simp [encode, encodeReferences, isList]
      | _ => simp [encode, encodeReferences, isList]
  | search => cases value <;> simp [IsEncoded, encode, encodeSearch, isList, isRange]

/-- A value of which every text is in order, in the form that its shape is judged by. -/
inductive Filled (column : Column) (shape : ValueShape) : WireValue → Prop where
  | list (hlist : shape.isList = true) (texts : List String) (hcount : 1 ≤ texts.length)
      (hadmits : ∀ text ∈ texts, shape.Admits column text) : Filled column shape (.ofTexts texts)
  | range (hrange : shape.isRange = true) (lower upper : String)
      (hlower : shape.Admits column lower) (hupper : shape.Admits column upper) :
      Filled column shape (.range (some lower) (some upper))
  | single (hlist : shape.isList = false) (hrange : shape.isRange = false) (text : String)
      (hblank : Text.isAllBlank text = false) (hadmits : shape.Admits column text) :
      Filled column shape (.scalar text)

/-- Nothing is out of sight in a value that was written in the shape it is judged by. -/
lemma Passes.filled (h : shape.Passes column wire) (hencoded : shape.IsEncoded wire) :
    shape.Filled column wire := by
  unfold IsEncoded at hencoded
  cases hlist : shape.isList with
  | true =>
      obtain ⟨hpresent, hadmits⟩ := h.listed hlist
      rw [if_pos hlist] at hencoded
      rcases hencoded with rfl | ⟨texts, rfl⟩
      · simp [WireValue.isEmpty] at hpresent
      · rw [WireValue.values_ofTexts] at hadmits
        refine .list hlist texts ?_ hadmits
        cases texts with
        | nil => simp [WireValue.ofTexts, WireValue.isEmpty] at hpresent
        | cons first rest => simp
  | false =>
      rw [hlist, if_neg Bool.false_ne_true] at hencoded
      cases hrange : shape.isRange with
      | true =>
          obtain ⟨lower, upper, rest, hwire, hlower, hupper⟩ := h.bounds hrange
          rw [if_pos hrange, hwire] at hencoded
          -- Two bounds were written, so nothing follows the two that were seen.
          have hrest : rest = [] := by
            rcases hencoded with hnull | ⟨first, second, hpair⟩
            · simp at hnull
            · exact WireValue.rest_eq_nil hpair
          rw [hwire, hrest]
          exact .range hrange lower upper hlower hupper
      | false =>
          obtain ⟨text, rest, hvalues, hblank, hadmits⟩ := h.single hlist hrange
          rw [hrange, if_neg Bool.false_ne_true] at hencoded
          rcases hencoded with rfl | ⟨-, written, rfl⟩
          · simp [WireValue.values] at hvalues
          · have hwritten : written = text := (List.cons.inj hvalues).1
            rw [hwritten]
            exact .single hlist hrange text hblank hadmits

end ValueShape

/-! ## Shapes and categories -/

lemma ColumnKind.mem_operators {kind : ColumnKind} (h : kind.supports operator = true) :
    operator ∈ kind.operators := by
  unfold supports at h
  simpa using h

namespace ValueShape

variable {kind : ColumnKind}

lemma isRange_of_supports (h : kind.supports operator = true) :
    (of kind operator).isRange = operator.isRange := by
  have hall : ∀ operator ∈ kind.operators, (of kind operator).isRange = operator.isRange := by
    cases kind <;> decide
  exact hall operator (ColumnKind.mem_operators h)

lemma isList_of_supports (h : kind.supports operator = true) :
    (of kind operator).isList = (kind.rewritesMultiValue && operator.takesList) := by
  have hall : ∀ operator ∈ kind.operators,
      (of kind operator).isList = (kind.rewritesMultiValue && operator.takesList) := by
    cases kind <;> decide
  exact hall operator (ColumnKind.mem_operators h)

/-- Several values are asked for only where one and several are told apart. -/
lemma rewritesMultiValue_of_supports (h : kind.supports operator = true)
    (hcategory : operator.category = .multiValue) : kind.rewritesMultiValue = true := by
  have hall : ∀ operator ∈ kind.operators,
      operator.category = .multiValue → kind.rewritesMultiValue = true := by
    cases kind <;> decide
  exact hall operator (ColumnKind.mem_operators h) hcategory

lemma of_isValueless (h : operator.isValueless = true) : of kind operator = nothing :=
  if_pos h

lemma isValueless_of_ne_nothing (h : of kind operator ≠ nothing) :
    operator.isValueless = false := by
  cases hvalueless : operator.isValueless with
  | true => exact absurd (of_isValueless hvalueless) h
  | false => rfl

/-- A pattern may be any text. -/
lemma admits_of_isPattern (h : kind.supports operator = true) (hpattern : operator.isPattern = true)
    (text : String) : (of kind operator).Admits column text := by
  have hall : ∀ operator ∈ kind.operators, operator.isPattern = true →
      of kind operator = .text ∨ of kind operator = .search := by
    cases kind <;> decide
  rcases hall operator (ColumnKind.mem_operators h) hpattern with hshape | hshape <;>
    rw [hshape] <;> trivial

/-- One value and several are of one shape. -/
lemma of_multiValued? {several : Operator} (h : operator.multiValued? = some several) :
    of kind several = of kind operator := by
  rcases Operator.multiValued?_eq_some_iff.mp h with ⟨rfl, rfl⟩ | ⟨rfl, rfl⟩ <;> cases kind <;> rfl

end ValueShape

lemma Operator.category_of_takesList (h : operator.takesList = true)
    (hnone : operator.multiValued? = none) : operator.category = .multiValue := by
  cases operator <;> first | rfl | exact absurd h (by decide) | exact absurd hnone (by decide)

/-! ## Sending what was written -/

namespace Criterion

variable {kind : ColumnKind} {wildcard : String} {criterion : Criterion}

lemma decorate_eq_self (hpattern : criterion.operator.isPattern = false)
    (hmulti : kind.rewritesMultiValue = true → criterion.operator.multiValued? = none) :
    criterion.decorate kind wildcard = criterion := by
  cases hrewrites : kind.rewritesMultiValue with
  | false => simp [decorate, hpattern, hrewrites]
  | true => simp [decorate, hpattern, hmulti hrewrites]

end Criterion

namespace Column

variable {texts : List String}

/-- Choices or references are sent as one text or, with the operator for several values, as a
list. -/
lemma wellFormed_list (hsupports : column.supports operator = true)
    (hlist : (column.valueShape operator).isList = true) (hcount : 1 ≤ texts.length)
    (hadmits : ∀ text ∈ texts, (column.valueShape operator).Admits column text)
    (wildcard : String) :
    (Criterion.decorate column.kind wildcard ⟨operator, .ofTexts texts⟩).WellFormed column
      wildcard := by
  rw [valueShape, ValueShape.isList_of_supports hsupports, Bool.and_eq_true] at hlist
  obtain ⟨hrewrites, htakes⟩ := hlist
  have hpattern := Operator.isPattern_of_takesList htakes
  cases hmulti : operator.multiValued? with
  | none =>
      have hcategory := Operator.category_of_takesList htakes hmulti
      have hsingle := ColumnKind.singleValued?_of_supports hsupports
      rw [Criterion.decorate_eq_self hpattern fun _ => hmulti]
      refine ⟨?_, by simpa using hadmits⟩
      have hneither : ¬ (operator = .isIn ∨ operator = .notIn) := by
        rintro (rfl | rfl) <;> simp [Operator.singleValued?] at hsingle
      simp only [Criterion.Shaped, hcategory, if_neg hneither]
      exact ⟨texts, hcount, rfl⟩
  | some several =>
      have hsent : Criterion.decorate column.kind wildcard ⟨operator, .ofTexts texts⟩ =
          Criterion.spread several ⟨operator, .ofTexts texts⟩ := by
        simp [Criterion.decorate, hpattern, hrewrites, hmulti]
      have hshape : column.valueShape several = column.valueShape operator :=
        ValueShape.of_multiValued? hmulti
      rw [hsent]
      rcases texts with _ | ⟨first, _ | ⟨second, rest⟩⟩
      · simp at hcount
      · refine ⟨?_, by simpa [Criterion.spread, WireValue.ofTexts, WireValue.values] using hadmits⟩
        rcases Operator.multiValued?_eq_some_iff.mp hmulti with ⟨rfl, -⟩ | ⟨rfl, -⟩ <;>
          exact ⟨first, rfl⟩
      · have hspread : Criterion.spread several ⟨operator, .ofTexts (first :: second :: rest)⟩ =
            ⟨several, .ofTexts (first :: second :: rest)⟩ := rfl
        rw [hspread]
        refine ⟨?_, by simpa [hshape] using hadmits⟩
        rcases Operator.multiValued?_eq_some_iff.mp hmulti with ⟨-, rfl⟩ | ⟨-, rfl⟩ <;>
          exact ⟨first :: second :: rest, by simp, rfl⟩

lemma wellFormed_range {lower upper : String} (hsupports : column.supports operator = true)
    (hrange : (column.valueShape operator).isRange = true)
    (hlower : (column.valueShape operator).Admits column lower)
    (hupper : (column.valueShape operator).Admits column upper) (wildcard : String) :
    (Criterion.decorate column.kind wildcard
      ⟨operator, .range (some lower) (some upper)⟩).WellFormed column wildcard := by
  rw [valueShape, ValueShape.isRange_of_supports hsupports] at hrange
  have hcategory : operator.category = .range := by simpa [Operator.isRange] using hrange
  have hpattern : operator.isPattern = false := by simp [Operator.isPattern, hcategory]
  have htakes : operator.takesList = false := by simp [Operator.takesList, hcategory]
  rw [Criterion.decorate_eq_self hpattern fun _ => (Operator.no_pair_of_not_takesList htakes).2]
  constructor
  · simp only [Criterion.Shaped, hcategory]
    exact ⟨lower, upper, rfl⟩
  · simpa [WireValue.range, WireValue.values] using And.intro hlower hupper

/-- A single text is sent as it is, or with wildcards around it. -/
lemma wellFormed_single {text : String} (hsupports : column.supports operator = true)
    (hvalue : operator.isValueless = false)
    (hlist : (column.valueShape operator).isList = false)
    (hrange : (column.valueShape operator).isRange = false)
    (hblank : Text.isAllBlank text = false)
    (hadmits : (column.valueShape operator).Admits column text) (wildcard : String) :
    (Criterion.decorate column.kind wildcard ⟨operator, .scalar text⟩).WellFormed column
      wildcard := by
  rw [valueShape, ValueShape.isRange_of_supports hsupports] at hrange
  rw [valueShape, ValueShape.isList_of_supports hsupports] at hlist
  by_cases hpattern : operator.isPattern = true
  · have hsent : Criterion.decorate column.kind wildcard ⟨operator, .scalar text⟩ =
        ⟨operator, .scalar (operator.wrap wildcard text)⟩ := by
      simp [Criterion.decorate, hpattern, Criterion.wrapPattern]
    have hcategory : operator.category = .pattern := by simpa [Operator.isPattern] using hpattern
    rw [hsent]
    constructor
    · simp only [Criterion.Shaped, hcategory]
      exact ⟨text, hblank, rfl⟩
    · intro sent _
      exact ValueShape.admits_of_isPattern hsupports hpattern sent
  · rw [Bool.not_eq_true] at hpattern
    have hmulti : column.kind.rewritesMultiValue = true → operator.multiValued? = none := by
      intro hrewrites
      rw [hrewrites, Bool.true_and] at hlist
      exact (Operator.no_pair_of_not_takesList hlist).2
    rw [Criterion.decorate_eq_self hpattern hmulti]
    refine ⟨?_, by simpa [WireValue.values] using hadmits⟩
    -- The categories that are left take one text.
    cases hcategory : operator.category with
    | equality | comparison | relativeCount =>
        simp only [Criterion.Shaped, hcategory]
        exact ⟨text, rfl⟩
    | pattern => simp [Operator.isPattern, hcategory] at hpattern
    | range => simp [Operator.isRange, hcategory] at hrange
    | nullCheck | relativeDate | other => simp [Operator.isValueless, hcategory] at hvalue
    | multiValue =>
        have hrewrites := ValueShape.rewritesMultiValue_of_supports hsupports hcategory
        simp [hrewrites, Operator.takesList, hcategory] at hlist

lemma wellFormed_nothing (hvalueless : operator.isValueless = true) (wildcard : String) :
    (Criterion.decorate column.kind wildcard ⟨operator, .null⟩).WellFormed column wildcard := by
  have hplain : operator.isPattern = false ∧ operator.multiValued? = none := by
    cases operator <;> first | exact ⟨rfl, rfl⟩ | exact absurd hvalueless (by decide)
  rw [Criterion.decorate_eq_self hplain.1 fun _ => hplain.2]
  refine ⟨?_, by simp [WireValue.values]⟩
  cases operator <;> first | rfl | exact absurd hvalueless (by decide)

/-- What a column encoded and accepts is sent as the query layer expects it. -/
theorem wellFormed_decorate (haccepts : column.accepts ⟨operator, wire⟩ = true)
    (hencoded : (column.valueShape operator).IsEncoded wire) (wildcard : String) :
    (Criterion.decorate column.kind wildcard ⟨operator, wire⟩).WellFormed column wildcard := by
  have hsupports := supports_of_accepts haccepts
  cases hvalue : operator.isValueless with
  | true =>
      have hnull : wire = .null := by
        rw [valueShape, ValueShape.of_isValueless hvalue] at hencoded
        simpa [ValueShape.IsEncoded, ValueShape.isList, ValueShape.isRange] using hencoded
      rw [hnull]
      exact wellFormed_nothing hvalue wildcard
  | false =>
      cases (passes_of_accepts haccepts hvalue).filled hencoded with
      | list hlist texts hcount hadmits =>
          exact wellFormed_list hsupports hlist hcount hadmits wildcard
      | range hrange lower upper hlower hupper =>
          exact wellFormed_range hsupports hrange hlower hupper wildcard
      | single hlist hrange text hblank hadmits =>
          exact wellFormed_single hsupports hvalue hlist hrange hblank hadmits wildcard

end Column

end GridFilter

import GridFilter.Proofs.Grid.Hydration
import GridFilter.Proofs.Text.Blank

/-!
# What validation looks at

`Column.validate` reports complaints.  This module says what it takes to get none, without the
complaints: `ValueShape.Admits` is what one text has to be, `ValueShape.Passes` is which texts of a
value are looked at, and `Column.accepts_iff` puts the two together.

Blank ends never count.  Numbers, days and choices are read without them, and the ids of records are
judged without them.

The three ways of looking at a value differ in how much of it they see.  A list of choices or
references is seen as a whole.  Of a range the first two items are seen, and of everything else the
first text that is present; what follows these is sent, but not seen.
-/

namespace GridFilter

variable {column : Column} {shape : ValueShape} {text : String}

/-! ## One text -/

namespace ValueShape

/-- A text is in order as a value of a shape, blank ends apart. -/
def Admits (column : Column) (text : String) : ValueShape → Prop
  | nothing | .text | search => True
  | number | numberRange =>
    ∃ found, Number.read? text = some found ∧
      (column.dataType.isWholeNumber = true → found.isWhole = true)
  | count =>
    ∃ found, Number.read? text = some found ∧ found.isWhole = true ∧ found.isBelowZero = false
  | date | dateRange => ∃ found, Date.read? text = some found
  | options =>
    ∃ found, readOption? text = some found ∧
      (column.details.options = [] ∨ column.hasOption found = true)
  | references => RecordId.isGuid (Text.trimEnds text.toList) = true

end ValueShape

lemma numberComplaint?_eq_none_iff {whole : Bool} :
    numberComplaint? whole text = none ↔
      ∃ found, Number.read? text = some found ∧ (whole = true → found.isWhole = true) := by
  unfold numberComplaint?
  cases Number.read? text with
  | none => simp
  | some found => cases whole <;> simp

lemma countComplaint?_eq_none_iff :
    countComplaint? text = none ↔
      ∃ found, Number.read? text = some found ∧ found.isWhole = true ∧
        found.isBelowZero = false := by
  unfold countComplaint?
  rw [Option.or_eq_none_iff, numberComplaint?_eq_none_iff]
  cases Number.read? text with
  | none => simp
  | some found => simp

lemma dateComplaint?_eq_none_iff :
    dateComplaint? text = none ↔ ∃ found, Date.read? text = some found := by
  unfold dateComplaint?
  cases Date.read? text <;> simp

lemma optionComplaint?_eq_none_iff :
    optionComplaint? column text = none ↔
      ∃ found, Text.readInt32? text.toList = some found ∧
        (column.details.options = [] ∨ column.hasOption found = true) := by
  unfold optionComplaint?
  cases Text.readInt32? text.toList with
  | none => simp
  | some found => simp [or_iff_not_imp_left]

lemma referenceComplaint?_eq_none_iff :
    referenceComplaint? text = none ↔ RecordId.isGuid text.toList = true := by
  unfold referenceComplaint?
  simp

@[simp] lemma Number.read?_trim (text : String) : Number.read? (Text.trim text) = read? text := by
  unfold read?
  rw [Text.trimEnds_toList_trim]

@[simp] lemma Date.read?_trim (text : String) : Date.read? (Text.trim text) = read? text := by
  unfold read?
  rw [Text.trimEnds_toList_trim]

/-- There is no complaint about the text that is left without blank ends exactly when it is in
order. -/
lemma ValueShape.complaint?_trim_eq_none_iff :
    shape.complaint? column (Text.trim text) = none ↔ shape.Admits column text := by
  have hchars : (Text.trim text).toList = Text.trimEnds text.toList := String.toList_ofList
  cases shape with
  | nothing | text | search => simp [complaint?, Admits]
  | number | numberRange => rw [complaint?, numberComplaint?_eq_none_iff, Number.read?_trim, Admits]
  | count => rw [complaint?, countComplaint?_eq_none_iff, Number.read?_trim, Admits]
  | date | dateRange => rw [complaint?, dateComplaint?_eq_none_iff, Date.read?_trim, Admits]
  | options => rw [complaint?, optionComplaint?_eq_none_iff, hchars, Admits]; rfl
  | references => rw [complaint?, referenceComplaint?_eq_none_iff, hchars, Admits]

/-! ## Slots -/

/-- Nothing follows two bounds that are all of a range. -/
lemma WireValue.rest_eq_nil {lower upper first second : Option String}
    {rest : List (Option String)} (h : list (lower :: upper :: rest) = range first second) :
    rest = [] := by
  have hitems : lower = first ∧ upper = second ∧ rest = [] := by simpa [range] using h
  exact hitems.2.2

namespace ValueShape

/-- A slot is filled with a text that is in order. -/
def SlotPasses (column : Column) (shape : ValueShape) (slot : Option String) : Prop :=
  ∃ text, slot = some text ∧ Text.isAllBlank text = false ∧ shape.Admits column text

/-- What is seen of a value is in order. -/
def Passes (column : Column) (shape : ValueShape) (wire : WireValue) : Prop :=
  if shape.isList then wire.isEmpty = false ∧ ∀ text ∈ wire.values, shape.Admits column text
  else if shape.isRange then
    shape.SlotPasses column wire.lower ∧ shape.SlotPasses column wire.upper
  else shape.SlotPasses column wire.values.head?

lemma slotResult_eq_none_iff {slot : Option String} :
    slotResult (shape.complaint? column) slot = none ↔ shape.SlotPasses column slot := by
  unfold SlotPasses slotResult
  cases slot with
  | none => simp
  | some text =>
      cases hblank : Text.isAllBlank text with
      | true =>
          have hnothing : Text.trim text = "" := Text.trim_eq_empty_iff.mpr hblank
          simp [hnothing, hblank]
      | false =>
          have hleft : Text.trim text ≠ "" := by
            rw [Ne, Text.trim_eq_empty_iff, hblank]
            simp
          simp [hleft, hblank, complaint?_trim_eq_none_iff]

lemma listResult_eq_none_iff {wire : WireValue} :
    listResult (shape.complaint? column) wire = none ↔
      wire.isEmpty = false ∧ ∀ text ∈ wire.values, shape.Admits column text := by
  unfold listResult
  cases hempty : wire.isEmpty with
  | true => simp
  | false => simp [List.findSome?_eq_none_iff, complaint?_trim_eq_none_iff]

variable {wire : WireValue}

/-- A list that passes has some text, and every text of it is in order. -/
lemma Passes.listed (h : shape.Passes column wire) (hlist : shape.isList = true) :
    wire.isEmpty = false ∧ ∀ text ∈ wire.values, shape.Admits column text := by
  unfold Passes at h
  rwa [if_pos hlist] at h

lemma isList_of_isRange (hrange : shape.isRange = true) : shape.isList = false := by
  cases shape <;> first | rfl | exact absurd hrange (by decide)

/-- A range that passes begins with two texts, both in order. -/
lemma Passes.bounds (h : shape.Passes column wire) (hrange : shape.isRange = true) :
    ∃ lower upper rest, wire = .list (some lower :: some upper :: rest) ∧
      shape.Admits column lower ∧ shape.Admits column upper := by
  unfold Passes at h
  rw [isList_of_isRange hrange, if_neg Bool.false_ne_true, if_pos hrange] at h
  obtain ⟨⟨lower, hlower, -, hadmitsLower⟩, upper, hupper, -, hadmitsUpper⟩ := h
  cases wire with
  | null => simp [WireValue.upper] at hupper
  | scalar text => simp [WireValue.upper] at hupper
  | list items =>
      rcases items with _ | ⟨first, _ | ⟨second, rest⟩⟩
      · simp [WireValue.upper] at hupper
      · simp [WireValue.upper] at hupper
      · have hfirst : first = some lower := hlower
        have hsecond : second = some upper := hupper
        exact ⟨lower, upper, rest, by rw [hfirst, hsecond], hadmitsLower, hadmitsUpper⟩

/-- Of any other value that passes the first text is in order. -/
lemma Passes.single (h : shape.Passes column wire) (hlist : shape.isList = false)
    (hrange : shape.isRange = false) :
    ∃ text rest, wire.values = text :: rest ∧ Text.isAllBlank text = false ∧
      shape.Admits column text := by
  unfold Passes at h
  rw [hlist, hrange, if_neg Bool.false_ne_true, if_neg Bool.false_ne_true] at h
  obtain ⟨text, hhead, hblank, hadmits⟩ := h
  obtain ⟨rest, hvalues⟩ := List.head?_eq_some_iff.mp hhead
  exact ⟨text, rest, hvalues, hblank, hadmits⟩

end ValueShape

/-! ## Whole criteria -/

lemma ColumnKind.hasErrors_validateValue {kind : ColumnKind} {operator : Operator}
    {wire : WireValue} :
    (kind.validateValue column operator wire).hasErrors = false ↔
      (ValueShape.of kind operator).Passes column wire := by
  unfold validateValue ValueShape.Passes Verdict.hasErrors
  dsimp only
  split
  · rw [← ValueShape.listResult_eq_none_iff]
    simp
  · split
    · rw [← ValueShape.slotResult_eq_none_iff, ← ValueShape.slotResult_eq_none_iff]
      simp
    · rw [← ValueShape.slotResult_eq_none_iff]
      simp

namespace Column

/-- A column accepts a criterion exactly when it offers the operator and what it sees of the value
is in order; of the value of an operator that takes none it sees nothing. -/
theorem accepts_iff {criterion : Criterion} :
    column.accepts criterion = true ↔
      column.supports criterion.operator = true ∧
        (criterion.operator.isValueless = true ∨
          (column.valueShape criterion.operator).Passes column criterion.wire) := by
  constructor
  · intro haccepts
    have hsupports := supports_of_accepts haccepts
    refine ⟨hsupports, ?_⟩
    cases hvalueless : criterion.operator.isValueless with
    | true => exact .inl rfl
    | false =>
        rw [accepts, validate, ColumnKind.validate_of_value hsupports hvalueless] at haccepts
        exact .inr (ColumnKind.hasErrors_validateValue.mp (by simpa using haccepts))
  · rintro ⟨hsupports, hseen⟩
    rw [accepts, validate]
    cases hvalueless : criterion.operator.isValueless with
    | true =>
        rw [ColumnKind.validate_of_isValueless hsupports hvalueless]
        rfl
    | false =>
        have hpasses : (column.valueShape criterion.operator).Passes column criterion.wire := by
          simpa [hvalueless] using hseen
        rw [ColumnKind.validate_of_value hsupports hvalueless,
          ColumnKind.hasErrors_validateValue.mpr hpasses]
        rfl

lemma passes_of_accepts {criterion : Criterion} (haccepts : column.accepts criterion = true)
    (hvalue : criterion.operator.isValueless = false) :
    (column.valueShape criterion.operator).Passes column criterion.wire := by
  have hseen := (accepts_iff.mp haccepts).2
  simpa [hvalue] using hseen

end Column

end GridFilter

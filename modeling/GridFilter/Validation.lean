import GridFilter.ValueShape.Conversion

/-!
# Validation

A condition is judged slot by slot: a range has two slots, everything else one, and a list of
choices or references is one slot judged as a whole.  A slot's result is a complaint or none.
-/

namespace GridFilter

/-- What may be wrong with a value. -/
inductive Complaint where
  | missing
  | notNumber
  | notWhole
  | negative
  | notDate
  | notOption
  | notReference
  | unsupportedOperator
  deriving DecidableEq, Repr

/-- The text an editor shows for a complaint. -/
def Complaint.message : Complaint → String
  | missing => "Value is required"
  | notNumber => "Value must be a number"
  | notWhole => "Value must be a whole number"
  | negative => "Value must not be negative"
  | notDate => "Value must be a valid date"
  | notOption => "Value must be a valid option"
  | notReference => "Value must be a valid record reference"
  | unsupportedOperator => "Operator is not supported for this column"

/-- The results of all slots: a complaint, or none where the slot is in order. -/
abbrev Verdict := List (Option Complaint)

/-- Is there a complaint about any slot? -/
def Verdict.hasErrors (verdict : Verdict) : Bool :=
  verdict.any Option.isSome

/-! ## Single texts -/

/-- What is wrong with a text as a number, which may have to be whole. -/
def numberComplaint? (whole : Bool) (value : String) : Option Complaint :=
  match Number.read? value with
  | none => some .notNumber
  | some found => if whole && !found.isWhole then some .notWhole else none

/-- What is wrong with a text as a count. -/
def countComplaint? (value : String) : Option Complaint :=
  (numberComplaint? true value).or <|
    match Number.read? value with
    | some found => if found.isBelowZero then some .negative else none
    | none => none

/-- What is wrong with a text as a day. -/
def dateComplaint? (value : String) : Option Complaint :=
  if (Date.read? value).isSome then none else some .notDate

/-- What is wrong with a text as a choice of the column; a column that lists no choices takes any
integer. -/
def optionComplaint? (column : Column) (value : String) : Option Complaint :=
  match Text.readInt32? value.toList with
  | some found =>
    if column.details.options.isEmpty || column.hasOption found then none else some .notOption
  | none => some .notOption

/-- What is wrong with a text as the id of a record. -/
def referenceComplaint? (value : String) : Option Complaint :=
  if RecordId.isGuid value.toList then none else some .notReference

/-- What is wrong with a text without blank ends as a value of a shape. -/
def ValueShape.complaint? (column : Column) : ValueShape → String → Option Complaint
  | .nothing | .text | .search => fun _ => none
  | .number | .numberRange => numberComplaint? column.dataType.isWholeNumber
  | .count => countComplaint?
  | .date | .dateRange => dateComplaint?
  | .options => optionComplaint? column
  | .references => referenceComplaint?

/-! ## Slots -/

/-- The result of one slot: a text has to be there and be in order. -/
def slotResult (check : String → Option Complaint) (slot : Option String) : Option Complaint :=
  match slot.map Text.trim with
  | none => some .missing
  | some value => if value == "" then some .missing else check value

/-- The result of a list: some text has to be there, and the first one that is out of order
counts. -/
def listResult (check : String → Option Complaint) (wire : WireValue) : Option Complaint :=
  if wire.isEmpty then some .missing
  else wire.values.findSome? fun value => check (Text.trim value)

/-- The number of slots of an operator. -/
def Operator.slotCount (operator : Operator) : Nat :=
  if operator.isRange then 2 else 1

namespace ColumnKind

/-- The results of a value for an operator that the kind offers and that takes one; what is listed
or counted in whole numbers is taken from the column. -/
def validateValue (kind : ColumnKind) (column : Column) (operator : Operator) (wire : WireValue) :
    Verdict :=
  let shape := ValueShape.of kind operator
  let check := shape.complaint? column
  if shape.isList then [listResult check wire]
  else if shape.isRange then [slotResult check wire.lower, slotResult check wire.upper]
  else [slotResult check wire.values.head?]

/-- The results of a condition on a column that is filtered as one of the kind. -/
def validate (kind : ColumnKind) (column : Column) (operator : Operator) (wire : WireValue) :
    Verdict :=
  if !kind.supports operator then
    List.replicate operator.slotCount (some .unsupportedOperator)
  else if operator.isValueless then [none]
  else kind.validateValue column operator wire

section Cases

variable {kind : ColumnKind} {operator : Operator}

theorem validate_of_not_supports (h : kind.supports operator = false) (column : Column)
    (wire : WireValue) :
    kind.validate column operator wire =
      List.replicate operator.slotCount (some .unsupportedOperator) := by
  rw [validate, h]
  rfl

theorem validate_of_isValueless (h : kind.supports operator = true)
    (hvalueless : operator.isValueless = true) (column : Column) (wire : WireValue) :
    kind.validate column operator wire = [none] := by
  rw [validate, h, hvalueless]
  rfl

theorem validate_of_value (h : kind.supports operator = true)
    (hvalue : operator.isValueless = false) (column : Column) (wire : WireValue) :
    kind.validate column operator wire = kind.validateValue column operator wire := by
  rw [validate, h, hvalue]
  rfl

end Cases

end ColumnKind

/-- The results of a condition: the column is filtered as one of its own kind. -/
def Column.validate (column : Column) (operator : Operator) (wire : WireValue) : Verdict :=
  column.kind.validate column operator wire

end GridFilter

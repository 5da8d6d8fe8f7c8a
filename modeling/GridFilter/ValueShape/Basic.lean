import GridFilter.Menu

/-!
# Value shapes

What an operator compares with depends on the kind of the column: `ValueShape.of` is the one place
where that is decided.  The editor, the text on the wire and validation all follow the shape.
-/

namespace GridFilter

/-- The sort of value an operator takes on a kind of column. -/
inductive ValueShape where
  /-- No value. -/
  | nothing
  /-- Any text. -/
  | text
  | number
  | numberRange
  /-- A whole number that is not negative, of hours, days, weeks, months or years. -/
  | count
  | date
  | dateRange
  /-- Choices of an option set. -/
  | options
  /-- References to records. -/
  | references
  /-- A text looked for in the names of choices or records. -/
  | search
  deriving DecidableEq, Repr

namespace ValueShape

/-- The shape of the values that an operator takes on a kind. -/
def of (kind : ColumnKind) (operator : Operator) : ValueShape :=
  if operator.isValueless then nothing
  else
    match kind with
    | .text => text
    | .number => if operator.isRange then numberRange else number
    | .date =>
      if operator.isCount then count
      else if operator.isRange then dateRange
      else date
    | .optionSet => if operator.isPattern then search else options
    | .multiSelectOptionSet => options
    | .lookup => if operator.isPattern then search else references
    | .file => nothing

/-- The shape holds two bounds. -/
def isRange : ValueShape → Bool
  | numberRange | dateRange => true
  | _ => false

/-- The shape holds a list that is judged as a whole. -/
def isList : ValueShape → Bool
  | options | references => true
  | _ => false

/-- The data type whose editor takes values of the shape in a column. -/
def editorType? (column : Column) : ValueShape → Option DataType
  | nothing => none
  | text =>
    if column.details.multiline || column.dataType == .multilineText then some .multilineText
    else some .text
  | number | numberRange | references => some column.dataType
  | count => some .wholeNumber
  | date | dateRange => some .dateOnly
  | options => some .multiSelectOptionSet
  | search => some .text

end ValueShape

namespace Column

/-- The shape of the values that an operator takes in the column. -/
def valueShape (column : Column) (operator : Operator) : ValueShape :=
  ValueShape.of column.kind operator

/-- Does the column offer the operator? -/
def supports (column : Column) (operator : Operator) : Bool :=
  column.kind.supports operator

/-- The data type whose editor is shown for an operator; none for one that takes no value or is not
offered. -/
def editorType? (column : Column) (operator : Operator) : Option DataType :=
  if column.supports operator then (column.valueShape operator).editorType? column else none

end Column

end GridFilter

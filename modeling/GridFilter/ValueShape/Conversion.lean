import GridFilter.Calendar.Reading
import GridFilter.ControlValue
import GridFilter.Number.Literal
import GridFilter.Number.Shortest
import GridFilter.RecordId
import GridFilter.ValueShape.Basic
import GridFilter.WireValue

/-!
# Between controls and the wire

`encode` writes a control's value as the text the query layer takes, `decode` reads it back.  Both
accept any value: one of another shape is fitted where that loses nothing and is dropped where it
makes no sense.  A text that is no number or day stays a text, so that an editor keeps what was
typed.
-/

namespace GridFilter

namespace ValueShape

/-! ## Writing -/

/-- The text of a choice's value. -/
def optionText (value : Int) : String :=
  Text.intText value

/-- A number or text as a single number. -/
def encodeNumber : ControlValue → WireValue
  | .number value => .scalar value.wireText
  | .text value => .scalar (Text.trim value)
  | .numberRange (some lower) _ => .scalar lower.wireText
  | _ => .null

/-- Two numbers as bounds; a single one is the lower bound. -/
def encodeNumberRange : ControlValue → WireValue
  | .numberRange lower upper => .range (lower.map Number.wireText) (upper.map Number.wireText)
  | .number value => .range (some value.wireText) none
  | .text value => .range (some (Text.trim value)) none
  | _ => .null

/-- A number or text as a count. -/
def encodeCount : ControlValue → WireValue
  | .number value => .scalar value.wireText
  | .text value => .scalar (Text.trim value)
  | _ => .null

/-- A day or text as a single day. -/
def encodeDate : ControlValue → WireValue
  | .date value => .scalar value.text
  | .text value => .scalar (Text.trim value)
  | .dateRange (some lower) _ => .scalar lower.text
  | _ => .null

/-- Two days as bounds; a single one is the lower bound. -/
def encodeDateRange : ControlValue → WireValue
  | .dateRange lower upper => .range (lower.map Date.text) (upper.map Date.text)
  | .date value => .range (some value.text) none
  | .text value => .range (some (Text.trim value)) none
  | _ => .null

/-- A text as it is; a number or day as its text. -/
def encodeText : ControlValue → WireValue
  | .text value => .scalar value
  | .number value => .scalar value.wireText
  | .date value => .scalar value.text
  | _ => .null

/-- Choices as the list of their values; a whole number is a choice held at the ends of thirty-two
bits. -/
def encodeOptions : ControlValue → WireValue
  | .options values => .ofTexts (values.map optionText)
  | .number value => if value.isWhole then .ofTexts [optionText value.toInt32] else .null
  | _ => .null

/-- References as the list of their ids in normal form; no reference is no value. -/
def encodeReferences : ControlValue → WireValue
  | .references (first :: rest) =>
    .ofTexts ((first :: rest).map fun reference => RecordId.normal reference.id)
  | _ => .null

/-- A text to search for, as it is. -/
def encodeSearch : ControlValue → WireValue
  | .text value => .scalar value
  | _ => .null

/-- Writes a control's value in a shape. -/
def encode : ValueShape → ControlValue → WireValue
  | nothing => fun _ => .null
  | text => encodeText
  | number => encodeNumber
  | numberRange => encodeNumberRange
  | count => encodeCount
  | date => encodeDate
  | dateRange => encodeDateRange
  | options => encodeOptions
  | references => encodeReferences
  | search => encodeSearch

/-! ## Reading -/

/-- The first text that is present, read as a number, else kept as it is. -/
def decodeNumber (wire : WireValue) : ControlValue :=
  match wire.values.head? with
  | some found =>
    match Number.read? found with
    | some value => .number value
    | none => .text found
  | none => .null

/-- The first text that is present, read as a day, else kept as it is. -/
def decodeDate (wire : WireValue) : ControlValue :=
  match wire.values.head? with
  | some found =>
    match Date.read? found with
    | some value => .date value
    | none => .text found
  | none => .null

/-- The choice a text stands for, blank ends apart. -/
def readOption? (value : String) : Option Int :=
  Text.readInt32? (Text.trimEnds value.toList)

/-- The texts that are choices. -/
def decodeOptions (wire : WireValue) : ControlValue :=
  if wire.isNull then .null else .options (wire.values.filterMap readOption?)

/-- The texts as ids of records not looked up yet. -/
def decodeReferences (wire : WireValue) : ControlValue :=
  if wire.isNull then .null
  else .references (wire.values.map fun id => Reference.bare (RecordId.normal id))

/-- Reads a value on the wire in a shape. -/
def decode : ValueShape → WireValue → ControlValue
  | nothing => fun _ => .null
  | text => fun wire => .ofText? wire.values.head?
  | number => decodeNumber
  | numberRange => fun wire =>
    .numberRange (wire.lower.bind Number.read?) (wire.upper.bind Number.read?)
  | count => decodeNumber
  | date => decodeDate
  | dateRange => fun wire => .dateRange (wire.lower.bind Date.read?) (wire.upper.bind Date.read?)
  | options => decodeOptions
  | references => decodeReferences
  | search => fun wire => .ofText? wire.scalar?

end ValueShape

namespace Column

/-- Writes a control's value for an operator. -/
def encodeValue (column : Column) (operator : Operator) (value : ControlValue) : WireValue :=
  (column.valueShape operator).encode value

/-- Reads a value on the wire for an operator. -/
def decodeValue (column : Column) (operator : Operator) (wire : WireValue) : ControlValue :=
  (column.valueShape operator).decode wire

end Column

end GridFilter

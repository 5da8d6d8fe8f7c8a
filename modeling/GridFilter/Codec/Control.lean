import GridFilter.Calendar.Reading
import GridFilter.Codec.Basic
import GridFilter.ControlValue

/-!
# The JSON form of control values

A control value is an object of its `type` and its `value`, in any order, or an array of the two.
The value of the type `null` is null and may be left out of an object; dates are strings.
-/

namespace GridFilter

open Json (Source)

/-! ## Parts -/

/-- Reads a day from its text. -/
def Date.decode : Decoder Date := fun source => do
  required (Date.spaced? (← Decoder.text source).toList)

/-- The JSON form of a day. -/
def Date.toJson (date : Date) : Json :=
  .string date.text

/-- A reference whose fields may be missing. -/
structure Reference.Draft where
  id : Option String := none
  entityType : Option (Option String) := none
  name : Option (Option String) := none

/-- How a reference is read. -/
def Reference.shape : Shape Reference.Draft Reference where
  empty := {}
  fields :=
    [Field.once "id" (·.id) (fun v d => { d with id := some v }) Decoder.text,
     Field.once "entityType" (·.entityType) (fun v d => { d with entityType := some v })
       (Decoder.optional Decoder.text),
     Field.once "name" (·.name) (fun v d => { d with name := some v })
       (Decoder.optional Decoder.text)]
  finish := fun _ draft => do
    pure { id := ← required draft.id
           entityType := draft.entityType.getD none
           name := draft.name.getD none }

/-- Reads a reference. -/
def Reference.decode : Decoder Reference :=
  Reference.shape.decode

/-- The JSON form of a reference; what is not known is left out. -/
def Reference.toJson (reference : Reference) : Json :=
  .object <|
    [("id", .string reference.id)] ++
      Json.optionalMember "entityType" .string reference.entityType ++
      Json.optionalMember "name" .string reference.name

/-! ## Control values -/

namespace ControlValue

/-- The type of a control value. -/
inductive Tag where
  | null
  | text
  | number
  | numberRange
  | date
  | dateRange
  | options
  | references
  deriving DecidableEq, Repr

/-- Every type. -/
def Tag.all : List Tag :=
  [null, text, number, numberRange, date, dateRange, options, references]

/-- The name of a type. -/
def Tag.name : Tag → String
  | null => "null"
  | text => "text"
  | number => "number"
  | numberRange => "number_range"
  | date => "date"
  | dateRange => "date_range"
  | options => "options"
  | references => "references"

/-- The type of a name. -/
def Tag.ofName? (name : String) : Option Tag :=
  all.find? fun tag => tag.name == name

/-- Reads a type from its name. -/
def Tag.decode : Decoder Tag :=
  Decoder.named Tag.ofName?

/-- Reads the value of a type. -/
def decodeContent : Tag → Decoder ControlValue
  | .null => fun source =>
    match source with
    | .null => .ok .null
    | _ => .error .malformed
  | .text => fun source => (Decoder.text source).map .text
  | .number => fun source => (Decoder.number source).map .number
  | .numberRange => fun source =>
    (Decoder.pair (Decoder.optional Decoder.number) source).map fun ends =>
      .numberRange ends.1 ends.2
  | .date => fun source => (Date.decode source).map .date
  | .dateRange => fun source =>
    (Decoder.pair (Decoder.optional Date.decode) source).map fun ends => .dateRange ends.1 ends.2
  | .options => fun source => (Decoder.list Decoder.int32 source).map .options
  | .references => fun source => (Decoder.list Reference.decode source).map .references

/-- A control value whose parts may be missing. -/
structure Draft where
  tag : Option Tag := none
  content : Option Source := none

/-- Takes the content of a control value.  Content that comes before its type has to be a value
throughout, since nothing says yet which of its members may be skipped. -/
def takeContent (source : Source) (draft : Draft) : Except Fault Draft :=
  if draft.content.isSome || (draft.tag.isNone && source.value?.isNone) then .error .malformed
  else .ok { draft with content := some source }

/-- How a control value is read from an object: the content is kept until the type is known. -/
def shape : Shape Draft ControlValue where
  empty := {}
  fields :=
    [Field.once "type" (·.tag) (fun v d => { d with tag := some v }) Tag.decode,
     ⟨"value", takeContent⟩]
  finish := fun _ draft => do
    let tag ← required draft.tag
    match draft.content with
    | some content => decodeContent tag content
    | none => if tag = .null then pure .null else throw .malformed

/-- Reads a control value from an array: the name of its type, then its value. -/
def decodePair : List Source → Except Fault ControlValue
  | [.string name, content] => do decodeContent (← required (Tag.ofName? name)) content
  | _ => .error .malformed

/-- Reads a control value. -/
def decode : Decoder ControlValue
  | .object members => shape.decodeMembers members
  | .array parts => decodePair parts
  | _ => .error .malformed

/-- The JSON form of a value of some type. -/
def tagged (tag : Tag) (content : Json) : Json :=
  .object [("type", .string tag.name), ("value", content)]

/-- The JSON form of a control value. -/
def toJson : ControlValue → Json
  | .null => .object [("type", .string Tag.null.name)]
  | .text value => tagged .text (.string value)
  | .number value => tagged .number (.real value)
  | .numberRange lower upper =>
    tagged .numberRange (.array [Json.ofOption .real lower, Json.ofOption .real upper])
  | .date value => tagged .date value.toJson
  | .dateRange lower upper =>
    tagged .dateRange (.array [Json.ofOption Date.toJson lower, Json.ofOption Date.toJson upper])
  | .options values => tagged .options (Json.ofList .integer values)
  | .references values => tagged .references (Json.ofList Reference.toJson values)

end ControlValue

end GridFilter

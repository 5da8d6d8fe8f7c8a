import GridFilter.Codec.Basic
import GridFilter.Column

/-!
# The JSON form of columns

A column has a name, the platform's name of its data type and details, of which the option list
and the targets are left out when they are empty.
-/

namespace GridFilter

/-- Reads a data type from its name. -/
def DataType.decode : Decoder DataType :=
  Decoder.named DataType.ofName?

/-- The JSON form of a data type. -/
def DataType.toJson (type : DataType) : Json :=
  .string type.name

/-! ## Choices -/

/-- A choice whose fields may be missing. -/
structure Choice.Draft where
  value : Option Int := none
  label : Option String := none

/-- How a choice is read. -/
def Choice.shape : Shape Choice.Draft Choice where
  empty := {}
  fields :=
    [Field.once "value" (·.value) (fun v d => { d with value := some v }) Decoder.int32,
     Field.once "label" (·.label) (fun v d => { d with label := some v }) Decoder.text]
  finish := fun _ draft => do
    pure { value := ← required draft.value, label := ← required draft.label }

/-- The JSON form of a choice. -/
def Choice.toJson (choice : Choice) : Json :=
  .object [("value", .integer choice.value), ("label", .string choice.label)]

/-! ## Details -/

/-- Details whose fields may be missing. -/
structure ColumnDetails.Draft where
  options : Option (List Choice) := none
  targets : Option (List String) := none
  multiline : Option Bool := none

/-- How details are read. -/
def ColumnDetails.shape : Shape ColumnDetails.Draft ColumnDetails where
  empty := {}
  fields :=
    [Field.once "options" (·.options) (fun v d => { d with options := some v })
       (Decoder.list Choice.shape.decode),
     Field.once "targets" (·.targets) (fun v d => { d with targets := some v })
       (Decoder.list Decoder.text),
     Field.once "multiline" (·.multiline) (fun v d => { d with multiline := some v })
       Decoder.bool]
  finish := fun _ draft =>
    pure { options := draft.options.getD []
           targets := draft.targets.getD []
           multiline := draft.multiline.getD false }

/-- The JSON form of details. -/
def ColumnDetails.toJson (details : ColumnDetails) : Json :=
  .object <|
    Json.listMember "options" Choice.toJson details.options ++
      Json.listMember "targets" .string details.targets ++
      [("multiline", .bool details.multiline)]

/-! ## Columns -/

/-- A column whose fields may be missing. -/
structure Column.Draft where
  name : Option String := none
  dataType : Option DataType := none
  details : Option ColumnDetails := none

/-- How a column is read. -/
def Column.shape : Shape Column.Draft Column where
  empty := {}
  fields :=
    [Field.once "name" (·.name) (fun v d => { d with name := some v }) Decoder.text,
     Field.once "dataType" (·.dataType) (fun v d => { d with dataType := some v })
       DataType.decode,
     Field.once "metadata" (·.details) (fun v d => { d with details := some v })
       ColumnDetails.shape.decode]
  finish := fun _ draft => do
    pure { name := ← required draft.name
           dataType := ← required draft.dataType
           details := draft.details.getD {} }

/-- Reads a column. -/
def Column.decode : Decoder Column :=
  Column.shape.decode

/-- The JSON form of a column. -/
def Column.toJson (column : Column) : Json :=
  .object
    [("name", .string column.name), ("dataType", column.dataType.toJson),
     ("metadata", column.details.toJson)]

end GridFilter

import GridFilter.Text.Affix

/-!
# Columns

A grid column has a name, the platform's data type and what the type needs besides: the choices of
an option set, the target entities of a lookup, whether a text runs over several lines.  A name
with a point is that of a joined column: the alias of the joined entity, then the attribute.

Data types that are filtered alike form a `ColumnKind`.
-/

namespace GridFilter

/-- The data type of a column. -/
inductive DataType where
  | text
  | email
  | phone
  | url
  | multilineText
  | wholeNumber
  | decimal
  | floatingPoint
  | currency
  | dateOnly
  | dateAndTime
  | optionSet
  | twoOptions
  | multiSelectOptionSet
  | lookup
  | customer
  | owner
  | regarding
  | file
  | image
  deriving DecidableEq, Repr, Inhabited

/-- Data types that are filtered alike. -/
inductive ColumnKind where
  | text
  | number
  | date
  | optionSet
  | multiSelectOptionSet
  | lookup
  | file
  deriving DecidableEq, Repr

namespace DataType

/-- Every data type. -/
def all : List DataType :=
  [text, email, phone, url, multilineText, wholeNumber, decimal, floatingPoint, currency, dateOnly,
   dateAndTime, optionSet, twoOptions, multiSelectOptionSet, lookup, customer, owner, regarding,
   file, image]

/-- The platform's name of a data type. -/
def name : DataType → String
  | text => "SingleLine.Text"
  | email => "SingleLine.Email"
  | phone => "SingleLine.Phone"
  | url => "SingleLine.URL"
  | multilineText => "Multiple"
  | wholeNumber => "Whole.None"
  | decimal => "Decimal"
  | floatingPoint => "FP"
  | currency => "Currency"
  | dateOnly => "DateAndTime.DateOnly"
  | dateAndTime => "DateAndTime.DateAndTime"
  | optionSet => "OptionSet"
  | twoOptions => "TwoOptions"
  | multiSelectOptionSet => "MultiSelectPicklist"
  | lookup => "Lookup.Simple"
  | customer => "Lookup.Customer"
  | owner => "Lookup.Owner"
  | regarding => "Lookup.Regarding"
  | file => "File"
  | image => "Image"

/-- The data type of a name. -/
def ofName? (name : String) : Option DataType :=
  all.find? fun type => type.name == name

/-- The kind of a data type. -/
def kind : DataType → ColumnKind
  | text | email | phone | url | multilineText => .text
  | wholeNumber | decimal | floatingPoint | currency => .number
  | dateOnly | dateAndTime => .date
  | optionSet | twoOptions => .optionSet
  | multiSelectOptionSet => .multiSelectOptionSet
  | lookup | customer | owner | regarding => .lookup
  | file | image => .file

/-- The column holds references to records. -/
def isLookup (type : DataType) : Bool :=
  type.kind == .lookup

/-- The column holds whole numbers only. -/
def isWholeNumber (type : DataType) : Bool :=
  type == wholeNumber

/-- The column has a second attribute, its name shadow, that patterns are matched against. -/
def hasNameShadow (type : DataType) : Bool :=
  type.kind == .lookup || type.kind == .optionSet

end DataType

/-- The name of a kind. -/
def ColumnKind.name : ColumnKind → String
  | text => "Text"
  | number => "Number"
  | date => "Date"
  | optionSet => "OptionSet"
  | multiSelectOptionSet => "MultiSelectOptionSet"
  | lookup => "Lookup"
  | file => "File"

/-- One choice of an option set. -/
structure Choice where
  value : Int
  label : String
  deriving DecidableEq, Repr

/-- What a column's data type needs besides its name. -/
structure ColumnDetails where
  options : List Choice := []
  /-- The entities a reference may point to, in the order in which they are tried. -/
  targets : List String := []
  multiline : Bool := false
  deriving DecidableEq, Repr

/-- A column of the grid. -/
structure Column where
  name : String
  dataType : DataType
  details : ColumnDetails := {}
  deriving DecidableEq, Repr

namespace Column

/-- The kind of the column. -/
def kind (column : Column) : ColumnKind :=
  column.dataType.kind

/-- The alias of the joined entity and the attribute, for a joined column. -/
def joined? (column : Column) : Option (String × String) :=
  (Text.splitAtFirst? '.' column.name.toList).map fun sides =>
    (String.ofList sides.1, String.ofList sides.2)

/-- The alias of the joined entity, for a joined column. -/
def entityAlias? (column : Column) : Option String :=
  column.joined?.map (·.1)

/-- The attribute the column shows. -/
def attributeName (column : Column) : String :=
  match column.joined? with
  | some (_, own) => own
  | none => column.name

/-- Does the column list a choice of that value? -/
def hasOption (column : Column) (value : Int) : Bool :=
  column.details.options.any fun choice => choice.value == value

end Column

end GridFilter

import GridFilter.Condition.Basic
import GridFilter.Digest
import GridFilter.Expression

/-!
# The filter of one column

A column's conditions, in order.  An entry of the dataset's expression belongs to the column when
it addresses its attribute, or, with a pattern operator, the name shadow of its attribute.  The
entries that belong to the column and have an operator it offers become its conditions; their ids
depend on nothing but the column's name, the operator and the value.
-/

namespace GridFilter

/-- The conditions of one column. -/
structure ColumnFilter where
  column : Column
  conditions : List Condition := []

namespace Column

/-- The name of the attribute that an entry addresses, seen from the column: with a pattern
operator the name of a shadow stands for the attribute itself. -/
def addressedName (column : Column) (settings : FilterSettings) (entry : ConditionExpression) :
    String :=
  if column.searchesShadow entry.operator then
    { entry with
      attributeName := unshadowed settings.nameSuffix entry.attributeName }.qualifiedName
  else entry.qualifiedName

/-- Does an entry address the column, whatever its operator? -/
def claims (column : Column) (settings : FilterSettings) (entry : ConditionExpression) : Bool :=
  column.addressedName settings entry == column.name

/-- The criterion of an entry that belongs to the column. -/
def criterion? (column : Column) (settings : FilterSettings) (entry : ConditionExpression) :
    Option Criterion :=
  if column.claims settings entry then
    some (Criterion.undecorate column.kind settings.wildcard ⟨entry.operator, entry.value⟩)
      |>.filter fun criterion => column.supports criterion.operator
  else none

/-- The criteria of an expression's entries that belong to the column. -/
def criteria (column : Column) (settings : FilterSettings) (expression : FilterExpression) :
    List Criterion :=
  expression.conditions.filterMap (column.criterion? settings)

/-- A condition's entry in an expression: a pattern addresses the name shadow where there is
one. -/
def entry (column : Column) (settings : FilterSettings) (sent : Criterion) :
    ConditionExpression where
  attributeName :=
    if column.searchesShadow sent.operator then column.attributeName ++ settings.nameSuffix
    else column.attributeName
  entityAlias := column.entityAlias?
  operator := sent.operator
  value := sent.wire

end Column

/-! ## Ids -/

/-- The two bytes of a code, the lower first. -/
def codeBytes (code : Nat) : List UInt8 :=
  [UInt8.ofNat code, UInt8.ofNat (code / 256)]

/-- The bytes an id is made of: the column's name, the operator's code and the value's display. -/
def Criterion.idBytes (name : String) (criterion : Criterion) : List UInt8 :=
  name.toUTF8.toList ++ codeBytes criterion.operator.code ++
    criterion.wire.display.toUTF8.toList

/-- The id of a criterion on the column of that name. -/
def Criterion.id (name : String) (criterion : Criterion) : String :=
  Digest.hex16 (criterion.idBytes name)

/-- A label and, from its second appearance on, how often it has appeared before. -/
def numbered (label : String) (before : Nat) : String :=
  if before = 0 then label else label ++ "-" ++ Text.natText before

/-- Gives every item its label; `earlier` holds the labels given so far, without their numbers. -/
def labelledAfter {α : Type} (label : α → String) (earlier : List String) :
    List α → List (String × α)
  | [] => []
  | item :: rest =>
    (numbered (label item) (earlier.count (label item)), item) ::
      labelledAfter label (label item :: earlier) rest

/-- Gives every item its label, repeated labels with a number behind them. -/
def labelled {α : Type} (label : α → String) (items : List α) : List (String × α) :=
  labelledAfter label [] items

namespace ColumnFilter

/-- The column's conditions as an expression gives them; handles are taken from `first` on. -/
def ofExpression (settings : FilterSettings) (column : Column) (expression : FilterExpression)
    (first : Nat) : ColumnFilter where
  column := column
  conditions :=
    ((labelled (Criterion.id column.name) (column.criteria settings expression)).zipIdx first).map
      fun ((id, criterion), handle) => Condition.hydrated handle id column criterion

/-- Does an entry address the column? -/
def claims (settings : FilterSettings) (filter : ColumnFilter) (entry : ConditionExpression) :
    Bool :=
  filter.column.claims settings entry

/-- The column's entries in the expression that is sent. -/
def entries (settings : FilterSettings) (filter : ColumnFilter) : List ConditionExpression :=
  filter.conditions.map fun condition => filter.column.entry settings (condition.sent settings)

/-- The ids of the conditions that have a complaint. -/
def invalidIds (filter : ColumnFilter) : List String :=
  (filter.conditions.filter fun condition => !condition.isValid).map Condition.id

/-- Some condition came from the dataset. -/
def isApplied (filter : ColumnFilter) : Bool :=
  filter.conditions.any Condition.isHydrated

/-- The condition of an id. -/
def condition? (filter : ColumnFilter) (id : String) : Option Condition :=
  filter.conditions.find? fun condition => condition.id == id

/-- Adds a condition at the end. -/
def add (filter : ColumnFilter) (condition : Condition) : ColumnFilter :=
  { filter with conditions := filter.conditions ++ [condition] }

/-- Removes the first condition of an id. -/
def remove (filter : ColumnFilter) (id : String) : ColumnFilter :=
  { filter with conditions := filter.conditions.eraseP fun condition => condition.id == id }

/-- Removes every condition. -/
def clear (filter : ColumnFilter) : ColumnFilter :=
  { filter with conditions := [] }

/-- Puts a condition in the place of the one with its handle. -/
def replace (filter : ColumnFilter) (condition : Condition) : ColumnFilter :=
  { filter with
    conditions := filter.conditions.map fun other =>
      if other.handle = condition.handle then condition else other }

end ColumnFilter

end GridFilter

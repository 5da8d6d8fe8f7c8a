import GridFilter.Grid.ColumnFilter

/-!
# The filter of a grid

One filter per opened column, in the order of opening, beside the expression the dataset reported
last.  The grid's own expression is given out only when every condition is in order; entries that
no opened column claims, and nested groups, pass through it unchanged.
-/

namespace GridFilter

/-- The filters of a grid's columns. -/
structure Grid where
  settings : FilterSettings := {}
  filters : List ColumnFilter := []
  /-- The expression the dataset reported last. -/
  dataset : Option FilterExpression := none
  /-- The next handle that is free. -/
  nextHandle : Nat := 0

/-- An expression is withheld because of these conditions. -/
structure InvalidConditions where
  ids : List String
  deriving DecidableEq, Repr

/-- The text of the failure. -/
def InvalidConditions.message (failure : InvalidConditions) : String :=
  "Filter expression not applied: " ++ Text.natText failure.ids.length ++ " invalid condition(s)"

namespace Grid

/-- The filter of the column of that name. -/
def filter? (grid : Grid) (name : String) : Option ColumnFilter :=
  grid.filters.find? fun filter => filter.column.name == name

/-- All conditions of the grid. -/
def conditions (grid : Grid) : List Condition :=
  grid.filters.flatMap ColumnFilter.conditions

/-- The condition of a handle, while it is in the grid. -/
def condition? (grid : Grid) (handle : Nat) : Option Condition :=
  grid.conditions.find? fun condition => condition.handle = handle

/-! ## Columns -/

/-- Changes the filter of the column of that name. -/
def update (grid : Grid) (name : String) (change : ColumnFilter → ColumnFilter) : Grid :=
  { grid with
    filters := grid.filters.map fun filter =>
      if filter.column.name == name then change filter else filter }

/-- The filters of columns as an expression gives them, and the next free handle. -/
def hydrateAll (settings : FilterSettings) (expression : FilterExpression) :
    List Column → Nat → List ColumnFilter × Nat
  | [], next => ([], next)
  | column :: rest, next =>
    let filter := ColumnFilter.ofExpression settings column expression next
    let (filters, next) := hydrateAll settings expression rest (next + filter.conditions.length)
    (filter :: filters, next)

/-- Opens a column: its filter is made from the dataset's expression unless a column of that name is
open already. -/
def openColumn (grid : Grid) (column : Column) : Grid :=
  if (grid.filter? column.name).isSome then grid
  else
    let filter := match grid.dataset with
      | some expression =>
        ColumnFilter.ofExpression grid.settings column expression grid.nextHandle
      | none => { column := column }
    { grid with
      filters := grid.filters ++ [filter]
      nextHandle := grid.nextHandle + filter.conditions.length }

/-- Makes the conditions of an open column anew from an expression. -/
def rebuildColumn (grid : Grid) (name : String) (expression : FilterExpression) : Grid :=
  match grid.filter? name with
  | none => grid
  | some filter =>
    let filter :=
      ColumnFilter.ofExpression grid.settings filter.column expression grid.nextHandle
    { grid.update name (fun _ => filter) with
      nextHandle := grid.nextHandle + filter.conditions.length }

/-- The dataset reports a new expression: the conditions of every open column are made anew. -/
def datasetChanged (grid : Grid) (expression : FilterExpression) : Grid :=
  let (filters, next) := hydrateAll grid.settings expression
    (grid.filters.map ColumnFilter.column) grid.nextHandle
  { grid with filters := filters, dataset := some expression, nextHandle := next }

/-- Closes every column. -/
def clear (grid : Grid) : Grid :=
  { grid with filters := [] }

/-! ## Conditions -/

/-- Adds a condition with that id to an open column. -/
def addCondition (grid : Grid) (name id : String) : Grid :=
  { grid.update name (fun filter =>
      filter.add (Condition.fresh grid.nextHandle id filter.column)) with
    nextHandle := grid.nextHandle + 1 }

/-- Removes the first condition of an id from a column. -/
def removeCondition (grid : Grid) (name id : String) : Grid :=
  grid.update name (·.remove id)

/-- Removes the conditions of a column. -/
def clearColumn (grid : Grid) (name : String) : Grid :=
  grid.update name ColumnFilter.clear

/-- Puts a condition in the place of the one with its handle. -/
def replace (grid : Grid) (condition : Condition) : Grid :=
  { grid with filters := grid.filters.map (·.replace condition) }

/-! ## The expression -/

/-- The ids of all conditions that have a complaint, column by column. -/
def invalidIds (grid : Grid) : List String :=
  grid.filters.flatMap ColumnFilter.invalidIds

/-- Does an open column claim the entry? -/
def claims (grid : Grid) (entry : ConditionExpression) : Bool :=
  grid.filters.any fun filter => filter.claims grid.settings entry

/-- The entries of the dataset's expression that no open column claims. -/
def unclaimed (grid : Grid) : List ConditionExpression :=
  match grid.dataset with
  | some expression => expression.conditions.filter fun entry => !grid.claims entry
  | none => []

/-- The nested groups of the dataset's expression. -/
def groups (grid : Grid) : List FilterExpression :=
  match grid.dataset with
  | some expression => expression.groups
  | none => []

/-- The expression of the whole grid: the entries of the open columns, then those of the dataset
that no column claims, and the dataset's nested groups.  It is withheld while any condition has a
complaint. -/
def expression (grid : Grid) (combinator : Combinator) :
    Except InvalidConditions FilterExpression :=
  if grid.invalidIds.isEmpty then
    .ok
      { combinator := combinator
        conditions := grid.filters.flatMap (·.entries grid.settings) ++ grid.unclaimed
        groups := grid.groups }
  else .error ⟨grid.invalidIds⟩

end Grid

end GridFilter

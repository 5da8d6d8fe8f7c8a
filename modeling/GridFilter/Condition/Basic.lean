import GridFilter.Criterion
import GridFilter.Validation

/-!
# Conditions

A condition is one criterion on one column, as an editor works on it.  Besides the criterion it
remembers the last control value of every family of operators, which references could not be
resolved, and the control value it decoded last, with the revision for which that holds.
-/

namespace GridFilter

/-- Where a condition came from. -/
inductive Origin where
  /-- Added in the editor. -/
  | fresh
  /-- Read from the dataset's expression. -/
  | hydrated
  deriving DecidableEq, Repr

/-- The name of an origin. -/
def Origin.name : Origin → String
  | fresh => "fresh"
  | hydrated => "hydrated"

/-- A change of a condition, as its subscribers are told. -/
inductive Change where
  | operatorChanged (operator : Operator)
  | valueChanged (wire : WireValue)
  | loadingChanged (loading : Bool)
  deriving DecidableEq, Repr

/-! ## What is remembered -/

/-- The last control value of each family. -/
structure FamilyMemory where
  exact : Option ControlValue := none
  text : Option ControlValue := none
  range : Option ControlValue := none
  count : Option ControlValue := none
  deriving DecidableEq, Inhabited

namespace FamilyMemory

/-- The value remembered for a family. -/
def get (memory : FamilyMemory) : Operator.Family → Option ControlValue
  | .exact => memory.exact
  | .text => memory.text
  | .range => memory.range
  | .count => memory.count

/-- Remembers a value for a family. -/
def put (memory : FamilyMemory) (family : Operator.Family) (value : ControlValue) : FamilyMemory :=
  match family with
  | .exact => { memory with exact := some value }
  | .text => { memory with text := some value }
  | .range => { memory with range := some value }
  | .count => { memory with count := some value }

/-- Remembers a value for the family of an operator, if it has one. -/
def keep (memory : FamilyMemory) (operator : Operator) (value : ControlValue) : FamilyMemory :=
  match operator.family? with
  | some family => memory.put family value
  | none => memory

/-- Remembers a value for the family of an operator, unless there is none. -/
def keepPresent (memory : FamilyMemory) (operator : Operator) (value : ControlValue) :
    FamilyMemory :=
  if value.isNull then memory else memory.keep operator value

/-- The value remembered for the family of an operator. -/
def lastFor (memory : FamilyMemory) (operator : Operator) : Option ControlValue :=
  operator.family?.bind memory.get

@[simp]
theorem get_put (memory : FamilyMemory) (family other : Operator.Family) (value : ControlValue) :
    (memory.put family value).get other =
      if family = other then some value else memory.get other := by
  cases family <;> cases other <;> rfl

end FamilyMemory

/-! ## References already resolved -/

namespace ControlValue

/-- The reference that is known to be resolved for the id of another, or that other itself. -/
def fromKnown (known : List Reference) (reference : Reference) : Reference :=
  (known.find? fun candidate =>
    candidate.isResolved && RecordId.normal candidate.id == reference.id).getD reference

/-- A control value whose references are filled from those of a remembered one. -/
def filledFrom (remembered : Option ControlValue) (value : ControlValue) : ControlValue :=
  match value, remembered with
  | .references found, some (.references known) => .references (found.map (fromKnown known))
  | value, _ => value

end ControlValue

/-! ## Conditions -/

/-- A condition on one column. -/
structure Condition where
  /-- Names the condition for as long as anything refers to it. -/
  handle : Nat
  id : String
  column : Column
  origin : Origin
  operator : Operator
  wire : WireValue
  /-- References are being resolved. -/
  resolving : Bool := false
  /-- Counts the times the value was written. -/
  revision : Nat := 0
  /-- The control value that was decoded last, and the revision it belongs to. -/
  decoded : Option (Nat × ControlValue) := none
  remembered : FamilyMemory := {}
  /-- Ids that no target had a record for. -/
  unresolvable : List String := []

namespace Condition

/-- A condition as an editor adds it: equal to nothing yet. -/
def fresh (handle : Nat) (id : String) (column : Column) : Condition where
  handle := handle
  id := id
  column := column
  origin := .fresh
  operator := .equal
  wire := .null

/-- A condition read from the dataset's expression. -/
def hydrated (handle : Nat) (id : String) (column : Column) (criterion : Criterion) :
    Condition where
  handle := handle
  id := id
  column := column
  origin := .hydrated
  operator := criterion.operator
  wire := criterion.wire

/-- The criterion as the editor keeps it. -/
def criterion (condition : Condition) : Criterion :=
  ⟨condition.operator, condition.wire⟩

/-- The criterion as the query layer takes it. -/
def sent (settings : FilterSettings) (condition : Condition) : Criterion :=
  condition.criterion.decorate condition.column.kind settings.wildcard

/-- The condition came from the dataset. -/
def isHydrated (condition : Condition) : Bool :=
  condition.origin == .hydrated

/-- The results of the condition's slots. -/
def verdict (condition : Condition) : Verdict :=
  condition.column.validate condition.operator condition.wire

/-- No slot has a complaint. -/
def isValid (condition : Condition) : Bool :=
  !condition.verdict.hasErrors

/-- The data type whose editor is shown. -/
def editorType? (condition : Condition) : Option DataType :=
  condition.column.editorType? condition.operator

/-! ## The control value -/

/-- The control value of the current criterion, with the names of references resolved earlier. -/
def decode (condition : Condition) : ControlValue :=
  (condition.column.decodeValue condition.operator condition.wire).filledFrom
    condition.remembered.exact

/-- The control value that was decoded for the current revision, if there is one. -/
def decoded? (condition : Condition) : Option ControlValue :=
  condition.decoded.bind fun (revision, value) =>
    if revision = condition.revision then some value else none

/-- The control value, decoded at most once per revision. -/
def current (condition : Condition) : ControlValue × Condition :=
  match condition.decoded? with
  | some value => (value, condition)
  | none =>
    let value := condition.decode
    (value, { condition with decoded := some (condition.revision, value) })

end Condition

end GridFilter

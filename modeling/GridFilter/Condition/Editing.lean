import GridFilter.Condition.Basic

/-!
# Editing a condition

An editor sets the operator or the value.  Each edit returns the changes it made, in the order in
which subscribers hear of them.
-/

namespace GridFilter.Condition

/-- Writes a value on the wire: a new revision begins. -/
def store (condition : Condition) (wire : WireValue) : Condition :=
  { condition with wire := wire, revision := condition.revision + 1, decoded := none }

/-- Sets the value that a control hands back, and remembers it for the operator's family. -/
def setValue (condition : Condition) (value : ControlValue) : List Change × Condition :=
  let wire := condition.column.encodeValue condition.operator value
  let condition := { condition with
    remembered := condition.remembered.keepPresent condition.operator value }.store wire
  ([.valueChanged condition.wire], condition)

/-- The value under a new operator: the current one written anew, or, when that leaves nothing, the
one remembered for the new operator's family. -/
def rewritten (condition : Condition) (operator : Operator) (value : ControlValue) : WireValue :=
  let wire := condition.column.encodeValue operator value
  if wire.isEmpty then
    match condition.remembered.lastFor operator with
    | some earlier => condition.column.encodeValue operator earlier
    | none => wire
  else wire

/-- Sets the operator.  The current value is remembered for the old operator's family and written
anew under the new one; setting the same operator changes nothing. -/
def setOperator (condition : Condition) (operator : Operator) : List Change × Condition :=
  if condition.operator = operator then ([], condition)
  else
    let (value, condition) := condition.current
    let condition := { condition with
      remembered := condition.remembered.keepPresent condition.operator value }
    let wire := condition.rewritten operator value
    let condition := { condition with operator := operator }.store wire
    ([.operatorChanged operator, .valueChanged condition.wire], condition)

end GridFilter.Condition

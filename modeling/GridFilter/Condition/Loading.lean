import GridFilter.Association
import GridFilter.Condition.Basic

/-!
# Loading the names of references

References on the wire are bare ids.  A load takes the ids that are neither resolved nor known to
be unresolvable, has them looked up, and fills in what was found.  It is split where it waits:
`beginLoad` makes the batch of ids, `finishLoad` takes the results.  Only one load is under way at
a time, and results are dropped when the value was written in between.
-/

namespace GridFilter

/-- The ids a load has to look up, and the revision for which it does. -/
structure Batch where
  revision : Nat
  pending : List String
  deriving DecidableEq, Repr

namespace Batch

/-- The references found, by the id that was looked up; of several for one id the last counts. -/
def found (batch : Batch) (results : List (Option Reference)) : Association String Reference :=
  (batch.pending.zip results).foldl
    (fun map (_, result) =>
      match result with
      | some reference => map.put reference.id reference
      | none => map)
    []

end Batch

namespace Condition

/-- The ids of a control value that a load has to look up. -/
def pendingIds (condition : Condition) (value : ControlValue) : List String :=
  (value.unresolved.map Reference.id).filter fun id => !condition.unresolvable.contains id

/-- Begins a load, unless one is under way or nothing has to be looked up. -/
def beginLoad (condition : Condition) : Option Batch × List Change × Condition :=
  let (value, condition) := condition.current
  if condition.resolving || condition.column.kind != .lookup then (none, [], condition)
  else
    let pending := condition.pendingIds value
    if pending.isEmpty then (none, [], condition)
    else
      (some ⟨condition.revision, pending⟩, [.loadingChanged true], { condition with resolving := true })

/-- A control value whose references are replaced by those that were found. -/
def withFound (found : Association String Reference) : ControlValue → ControlValue
  | .references values =>
    .references (values.map fun reference => (found.get? reference.id).getD reference)
  | value => value

/-- Keeps the names that were found: a new revision begins, and the ids on the wire stay. -/
def keepFound (condition : Condition) (found : Association String Reference) : Condition :=
  let (value, condition) := condition.current
  { condition with
    remembered := condition.remembered.keep condition.operator (withFound found value)
    revision := condition.revision + 1
    decoded := none }

/-- Ends a load with the results for the ids of its batch, in order. -/
def finishLoad (condition : Condition) (batch : Batch) (results : List (Option Reference)) :
    List Change × Condition :=
  let found := batch.found results
  let missed := batch.pending.filter fun id => !found.has id
  let condition := { condition with
    resolving := false
    unresolvable := condition.unresolvable ++ missed }
  if condition.revision = batch.revision then
    let condition := condition.keepFound found
    ([.valueChanged condition.wire, .loadingChanged false], condition)
  else ([.loadingChanged false], condition)

end Condition

end GridFilter

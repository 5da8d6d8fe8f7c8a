import GridFilter.Codec.Column
import GridFilter.Codec.Control
import GridFilter.Codec.Expression
import GridFilter.Codec.Validation
import GridFilter.Condition.Basic

/-!
# The JSON form of conditions

A snapshot is everything an editor shows of a condition.
-/

namespace GridFilter

/-- The JSON form of a change of the condition with that id. -/
def Change.toJson (id : String) : Change → Json
  | .operatorChanged operator =>
    .object
      [("event", .string "operatorChanged"), ("id", .string id), ("operator", operator.toJson)]
  | .valueChanged wire =>
    .object [("event", .string "valueChanged"), ("id", .string id), ("value", wire.toJson)]
  | .loadingChanged loading =>
    .object [("event", .string "loadingChanged"), ("id", .string id), ("loading", .bool loading)]

/-- The members of a condition's snapshot. -/
def Condition.snapshot (condition : Condition) : Json.Members :=
  [("id", .string condition.id),
   ("column", .string condition.column.name),
   ("operator", condition.operator.toJson),
   ("operatorName", .string condition.operator.name),
   ("dataType", Json.ofOption DataType.toJson condition.editorType?),
   ("value", condition.current.1.toJson),
   ("wireValue", condition.wire.toJson),
   ("validation", condition.verdict.toJson),
   ("origin", .string condition.origin.name),
   ("loading", .bool condition.resolving)]

end GridFilter

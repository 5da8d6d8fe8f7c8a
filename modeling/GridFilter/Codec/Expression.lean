import GridFilter.Codec.Basic
import GridFilter.Expression

/-!
# The JSON form of filter expressions

Operators and combinators are their codes, a wire value is null, a string or an array of strings
and nulls.  An alias that is missing and groups that are empty are left out.
-/

namespace GridFilter

open Json (Source)

/-! ## Operators and combinators -/

/-- Reads an operator from its code. -/
def Operator.decode : Decoder Operator := fun source => do
  let code ← Decoder.integer 0 65535 source
  match Operator.ofCode? code.toNat with
  | some operator => pure operator
  | none => throw (.unknownOperator code.toNat)

/-- The JSON form of an operator. -/
def Operator.toJson (operator : Operator) : Json :=
  .integer operator.code

/-- Reads a combinator from its code. -/
def Combinator.decode : Decoder Combinator := fun source => do
  let code ← Decoder.integer 0 255 source
  match Combinator.ofCode? code.toNat with
  | some combinator => pure combinator
  | none => throw (.unknownCombinator code.toNat)

/-- The JSON form of a combinator. -/
def Combinator.toJson (combinator : Combinator) : Json :=
  .integer combinator.code

/-! ## Wire values -/

/-- Reads a wire value. -/
def WireValue.decode : Decoder WireValue
  | .null => .ok .null
  | .string text => .ok (.scalar text)
  | .array items => (Decoder.items (Decoder.optional Decoder.text) items).map .list
  | _ => .error .malformed

/-- The JSON form of a wire value. -/
def WireValue.toJson : WireValue → Json
  | .null => .null
  | .scalar text => .string text
  | .list items => Json.ofList Json.ofString? items

/-! ## Conditions -/

/-- A condition whose fields may be missing. -/
structure ConditionExpression.Draft where
  attributeName : Option String := none
  entityAlias : Option (Option String) := none
  operator : Option Operator := none
  value : Option WireValue := none

/-- How a condition is read. -/
def ConditionExpression.shape : Shape ConditionExpression.Draft ConditionExpression where
  empty := {}
  fields :=
    [Field.once "attributeName" (·.attributeName) (fun v d => { d with attributeName := some v })
       Decoder.text,
     Field.once "entityAliasName" (·.entityAlias) (fun v d => { d with entityAlias := some v })
       (Decoder.optional Decoder.text),
     Field.once "conditionOperator" (·.operator) (fun v d => { d with operator := some v })
       Operator.decode,
     Field.once "value" (·.value) (fun v d => { d with value := some v }) WireValue.decode]
  finish := fun _ draft => do
    pure { attributeName := ← required draft.attributeName
           entityAlias := draft.entityAlias.getD none
           operator := ← required draft.operator
           value := draft.value.getD .null }

/-- Reads a condition. -/
def ConditionExpression.decode : Decoder ConditionExpression :=
  ConditionExpression.shape.decode

/-- The JSON form of a condition. -/
def ConditionExpression.toJson (entry : ConditionExpression) : Json :=
  .object <|
    [("attributeName", .string entry.attributeName)] ++
      Json.optionalMember "entityAliasName" .string entry.entityAlias ++
      [("conditionOperator", entry.operator.toJson), ("value", entry.value.toJson)]

/-! ## Filters -/

/-- A filter whose fields may be missing. -/
structure FilterExpression.Draft where
  combinator : Option Combinator := none
  conditions : Option (List ConditionExpression) := none
  groups : Option (List FilterExpression) := none

/-- How a filter is read, given how its groups are. -/
def FilterExpression.shape (group : Decoder FilterExpression) :
    Shape FilterExpression.Draft FilterExpression where
  empty := {}
  fields :=
    [Field.once "filterOperator" (·.combinator) (fun v d => { d with combinator := some v })
       Combinator.decode,
     Field.once "conditions" (·.conditions) (fun v d => { d with conditions := some v })
       (Decoder.list ConditionExpression.decode),
     Field.once "filters" (·.groups) (fun v d => { d with groups := some v })
       (Decoder.list group)]
  finish := fun _ draft =>
    pure { combinator := draft.combinator.getD .and
           conditions := draft.conditions.getD []
           groups := draft.groups.getD [] }

/-- Reads a filter whose groups nest at most so deep. -/
def FilterExpression.decodeWithin : Nat → Decoder FilterExpression
  | 0 => fun _ => .error .malformed
  | levels + 1 => (FilterExpression.shape (decodeWithin levels)).decode

/-- Reads a filter.  Each group lies in containers of its own, so groups nest less deep than
containers may. -/
def FilterExpression.decode : Decoder FilterExpression :=
  FilterExpression.decodeWithin Json.depthLimit

mutual

/-- The JSON form of a filter. -/
def FilterExpression.toJson : FilterExpression → Json
  | ⟨combinator, conditions, groups⟩ =>
    .object <|
      [("filterOperator", combinator.toJson),
       ("conditions", Json.ofList ConditionExpression.toJson conditions)] ++
        if groups.isEmpty then [] else [("filters", .array (FilterExpression.groupsToJson groups))]

/-- The JSON forms of nested groups. -/
def FilterExpression.groupsToJson : List FilterExpression → List Json
  | [] => []
  | group :: rest => FilterExpression.toJson group :: FilterExpression.groupsToJson rest

end

end GridFilter

import GridFilter.Operator
import GridFilter.WireValue

/-!
# Filter expressions

The filter of a dataset: conditions on attributes and nested groups, joined by "and" or "or".
-/

namespace GridFilter

/-- How the parts of a filter are joined. -/
inductive Combinator where
  | and
  | or
  deriving DecidableEq, Repr, Inhabited

/-- The code of a combinator in expressions. -/
def Combinator.code : Combinator → Nat
  | and => 0
  | or => 1

/-- The combinator of a code. -/
def Combinator.ofCode? : Nat → Option Combinator
  | 0 => some and
  | 1 => some or
  | _ => none

/-- A condition on one attribute. -/
structure ConditionExpression where
  attributeName : String
  entityAlias : Option String := none
  operator : Operator
  value : WireValue := .null
  deriving DecidableEq, Repr

/-- The attribute with the alias of its entity in front, when there is an alias that is not
empty. -/
def ConditionExpression.qualifiedName (entry : ConditionExpression) : String :=
  match entry.entityAlias with
  | some name => if name == "" then entry.attributeName else name ++ "." ++ entry.attributeName
  | none => entry.attributeName

/-- The filter of a dataset; nested groups are carried along unread. -/
structure FilterExpression where
  combinator : Combinator := .and
  conditions : List ConditionExpression := []
  groups : List FilterExpression := []
  deriving Repr, Inhabited

end GridFilter

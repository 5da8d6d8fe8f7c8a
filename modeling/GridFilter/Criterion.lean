import GridFilter.Column
import GridFilter.Menu
import GridFilter.Settings
import GridFilter.Text.Affix
import GridFilter.WireValue

/-!
# Criteria and their query form

An editor keeps an operator and a value in the form it shows.  `decorate` gives the form the query
layer takes, `undecorate` goes back.  The two forms differ in three ways: a pattern has wildcards
around its text, one operator for several values stands for the one an editor shows for a single
value, and a pattern on a column with a name shadow addresses the shadow.
-/

namespace GridFilter

/-- An operator with its value on the wire. -/
structure Criterion where
  operator : Operator
  wire : WireValue
  deriving DecidableEq, Repr

/-! ## Wildcards -/

namespace Operator

/-- Puts wildcards on the sides where the operator has them. -/
def wrap (operator : Operator) (wildcard text : String) : String :=
  let (before, after) := operator.wildcardSides
  (if before then wildcard else "") ++ text ++ (if after then wildcard else "")

/-- Takes one wildcard off each side where the operator has one; the lead is taken off first. -/
def unwrap (operator : Operator) (wildcard text : String) : String :=
  let (before, after) := operator.wildcardSides
  let text := if before then Text.dropLead wildcard text else text
  if after then Text.dropTail wildcard text else text

end Operator

namespace Criterion

/-! ## Query form -/

/-- A pattern with wildcards around its text; a value that is no single text stays as it is. -/
def wrapPattern (wildcard : String) (criterion : Criterion) : Criterion :=
  match criterion.wire with
  | .scalar text => { criterion with wire := .scalar (criterion.operator.wrap wildcard text) }
  | _ => criterion

/-- On the list of a single present text, the operator asks for that text; on a longer list the
operator `several` asks for any of it. -/
def spread (several : Operator) (criterion : Criterion) : Criterion :=
  match criterion.wire with
  | .list [some single] => { criterion with wire := .scalar single }
  | .list (_ :: _ :: _) => { criterion with operator := several }
  | _ => criterion

/-- The form of a criterion that the query layer takes. -/
def decorate (kind : ColumnKind) (wildcard : String) (criterion : Criterion) : Criterion :=
  if criterion.operator.isPattern then criterion.wrapPattern wildcard
  else if kind.rewritesMultiValue then
    match criterion.operator.multiValued? with
    | some several => criterion.spread several
    | none => criterion
  else criterion

/-! ## Editor form -/

/-- A pattern with the wildcards around its text taken off. -/
def unwrapPattern (wildcard : String) (criterion : Criterion) : Criterion :=
  match criterion.wire with
  | .scalar text => { criterion with wire := .scalar (criterion.operator.unwrap wildcard text) }
  | _ => criterion

/-- A criterion whose operator is the one for a single value, and whose text is a list of one where
the operator takes lists. -/
def gather (criterion : Criterion) : Criterion :=
  let operator := criterion.operator.singleValued?.getD criterion.operator
  match criterion.wire with
  | .scalar text =>
    if operator.takesList then ⟨operator, .ofTexts [text]⟩ else ⟨operator, .scalar text⟩
  | wire => ⟨operator, wire⟩

/-- The form of a criterion that an editor shows. -/
def undecorate (kind : ColumnKind) (wildcard : String) (criterion : Criterion) : Criterion :=
  if criterion.operator.isPattern then criterion.unwrapPattern wildcard
  else if kind.rewritesMultiValue then criterion.gather
  else criterion

end Criterion

/-! ## Name shadows -/

namespace Column

/-- Does the operator look at the column's name shadow? -/
def searchesShadow (column : Column) (operator : Operator) : Bool :=
  operator.isPattern && column.dataType.hasNameShadow

end Column

/-- The attribute whose shadow has the given name; a name without the suffix, or with nothing in
front of it, is its own. -/
def unshadowed (nameSuffix shadow : String) : String :=
  match Text.withoutTail? nameSuffix shadow with
  | some base => if base == "" then shadow else base
  | none => shadow

end GridFilter

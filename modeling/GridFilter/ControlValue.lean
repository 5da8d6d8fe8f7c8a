import GridFilter.Calendar.Date
import GridFilter.Number.Basic

/-!
# Control values

What an editor's control shows and hands back.  References to records are known by id alone until
the record's entity and name have been looked up.
-/

namespace GridFilter

/-- A reference to a record. -/
structure Reference where
  id : String
  entityType : Option String := none
  name : Option String := none
  deriving DecidableEq, Repr

namespace Reference

/-- A reference known by its id alone. -/
def bare (id : String) : Reference :=
  { id := id }

/-- The entity of the record is known. -/
def isResolved (reference : Reference) : Bool :=
  reference.entityType.isSome

end Reference

/-- The value of an editor's control. -/
inductive ControlValue where
  | null
  | text (value : String)
  | number (value : Number)
  | numberRange (lower upper : Option Number)
  | date (value : Date)
  | dateRange (lower upper : Option Date)
  | options (values : List Int)
  | references (values : List Reference)
  deriving DecidableEq, Inhabited

namespace ControlValue

/-- There is no value. -/
def isNull : ControlValue → Bool
  | .null => true
  | _ => false

/-- A text, or no value when there is none. -/
def ofText? : Option String → ControlValue
  | some found => .text found
  | none => .null

/-- The references whose record has not been looked up. -/
def unresolved : ControlValue → List Reference
  | .references values => values.filter fun reference => !reference.isResolved
  | _ => []

end ControlValue

end GridFilter

import GridFilter.Number.Basic

/-!
# JSON values

A `Json` is a value that can be written.  Integers and other numbers are kept apart, and an object
keeps its members in order of first arrival: a later member of the same name replaces the value
and leaves the place.
-/

namespace GridFilter

/-- A JSON value. -/
inductive Json where
  | null
  | bool (value : Bool)
  | integer (value : Int)
  | real (value : Number)
  | string (value : String)
  | array (items : List Json)
  | object (members : List (String × Json))
  deriving Inhabited

namespace Json

/-- The members of an object in order. -/
abbrev Members := List (String × Json)

/-- Puts a member in place of the one of its name, or at the end. -/
def Members.insert : Members → String → Json → Members
  | [], name, value => [(name, value)]
  | (other, old) :: rest, name, value =>
    if other = name then (name, value) :: rest
    else (other, old) :: Members.insert rest name value

/-- The value of the member of that name. -/
def Members.get? (members : Members) (name : String) : Option Json :=
  (members.find? fun member => member.1 == name).map (·.2)

/-- The text of a string value. -/
def string? : Json → Option String
  | .string value => some value
  | _ => none

/-- A value that may be missing, as null. -/
def ofOption {α : Type} (encode : α → Json) : Option α → Json
  | none => .null
  | some value => encode value

/-- A list of values as an array. -/
def ofList {α : Type} (encode : α → Json) (items : List α) : Json :=
  .array (items.map encode)

/-- An optional string, null when it is missing. -/
def ofString? (text : Option String) : Json :=
  ofOption .string text

/-- A member that is left out when its value is missing. -/
def optionalMember {α : Type} (name : String) (encode : α → Json) : Option α → Members
  | none => []
  | some value => [(name, encode value)]

/-- A member that is left out when its list is empty. -/
def listMember {α : Type} (name : String) (encode : α → Json) : List α → Members
  | [] => []
  | items => [(name, ofList encode items)]

end Json

end GridFilter

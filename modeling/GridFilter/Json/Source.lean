import GridFilter.Json.Basic

/-!
# Scanned documents

A `Source` is what a scan of a text has found.  Beside the values it has two marks.  `unreadable`
stands for a well-formed piece that no value can be read from: a string with half a surrogate
pair, a number past the finite range, a container nested too deep.  `broken` stands where the text
stops being JSON; the containers around it end there.  A reader that meets a mark fails, one that
skips a member does not look, so the first fault in the order of the text is the one reported.
-/

namespace GridFilter.Json

/-- What a scan has found. -/
inductive Source where
  | null
  | bool (value : Bool)
  | integer (value : Int)
  | real (value : Number)
  | string (value : String)
  | array (items : List Source)
  /-- A member whose name cannot be read has none. -/
  | object (members : List (Option String × Source))
  | unreadable
  | broken
  deriving Inhabited

namespace Source

/-- The member of that name, the last of several. -/
def member? (source : Source) (name : String) : Option Source :=
  match source with
  | .object members => (members.reverse.find? fun member => member.1 == some name).map (·.2)
  | _ => none

mutual

/-- The value of a source that can be read throughout. -/
def value? : Source → Option Json
  | .null => some .null
  | .bool value => some (.bool value)
  | .integer value => some (.integer value)
  | .real value => some (.real value)
  | .string value => some (.string value)
  | .array items => (values? items).map .array
  | .object members => (memberValues? [] members).map .object
  | .unreadable => none
  | .broken => none

/-- The values of all items. -/
def values? : List Source → Option (List Json)
  | [] => some []
  | item :: rest =>
    match value? item, values? rest with
    | some value, some values => some (value :: values)
    | _, _ => none

/-- The members read so far, with the values of all the rest put in. -/
def memberValues? (found : Members) : List (Option String × Source) → Option Members
  | [] => some found
  | (some name, source) :: rest =>
    match value? source with
    | some value => memberValues? (found.insert name value) rest
    | none => none
  | (none, _) :: _ => none

end

mutual

/-- The source of a value, as a scan of its text finds it. -/
def ofJson : Json → Source
  | .null => .null
  | .bool value => .bool value
  | .integer value => .integer value
  | .real value => .real value
  | .string value => .string value
  | .array items => .array (ofItems items)
  | .object members => .object (ofMembers members)

/-- The sources of all items. -/
def ofItems : List Json → List Source
  | [] => []
  | item :: rest => ofJson item :: ofItems rest

/-- The sources of all members. -/
def ofMembers : List (String × Json) → List (Option String × Source)
  | [] => []
  | (name, value) :: rest => (some name, ofJson value) :: ofMembers rest

end

end Source

end GridFilter.Json

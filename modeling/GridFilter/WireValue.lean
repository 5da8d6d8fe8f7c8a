/-!
# Wire values

What a condition carries to the query layer: nothing, one text, or a list of texts with gaps.
Three views read it: `values` are the texts that are present, `slots` the two bounds of a range,
and `display` the text that goes into an id.
-/

namespace GridFilter

/-- The value of a condition as the query layer takes it. -/
inductive WireValue where
  | null
  | scalar (text : String)
  | list (items : List (Option String))
  deriving DecidableEq, Repr, Inhabited

namespace WireValue

/-- A list of present texts. -/
def ofTexts (texts : List String) : WireValue :=
  .list (texts.map some)

/-- The two bounds of a range. -/
def range (lower upper : Option String) : WireValue :=
  .list [lower, upper]

/-- Is an item of a list missing or empty? -/
def isBlankItem : Option String → Bool
  | none => true
  | some text => text == ""

/-- There is no text in the value, or only empty ones. -/
def isEmpty : WireValue → Bool
  | .null => true
  | .scalar text => text == ""
  | .list items => items.all isBlankItem

/-- There is no value. -/
def isNull : WireValue → Bool
  | .null => true
  | _ => false

/-- The text of a value that is one text. -/
def scalar? : WireValue → Option String
  | .scalar text => some text
  | _ => none

/-- The texts that are present, a single text as a list of one. -/
def values : WireValue → List String
  | .null => []
  | .scalar text => [text]
  | .list items => items.filterMap id

/-- The lower bound of a range: the first item, or the only text. -/
def lower : WireValue → Option String
  | .null => none
  | .scalar text => some text
  | .list [] => none
  | .list (item :: _) => item

/-- The upper bound of a range: the second item. -/
def upper : WireValue → Option String
  | .list (_ :: item :: _) => item
  | _ => none

/-- The two bounds of a range, missing ones as none and further items left out. -/
def slots (wire : WireValue) : Option String × Option String :=
  (wire.lower, wire.upper)

/-- The text of an item in a display. -/
def displayItem (item : Option String) : String :=
  item.getD "null"

/-- The value as one text: items are joined by commas in brackets and nothing is escaped. -/
def display : WireValue → String
  | .null => "null"
  | .scalar text => text
  | .list items => "[" ++ String.intercalate "," (items.map displayItem) ++ "]"

end WireValue

end GridFilter

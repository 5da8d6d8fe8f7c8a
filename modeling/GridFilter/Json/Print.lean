import GridFilter.Json.Basic
import GridFilter.Number.Shortest

/-!
# Writing JSON

`compact` writes a value without blanks, `pretty` with one member or item a line and two blanks of
indent a level.  In a string the quote, the backslash and the control characters are escaped, the
five of them that have a letter by that letter; everything else stands for itself.
-/

namespace GridFilter.Json

/-! ## Strings -/

/-- The letter that stands for a character after a backslash, when it has one. -/
def escapeLetter? (c : Char) : Option Char :=
  if c = '"' then some '"'
  else if c = '\\' then some '\\'
  else if c = '\x08' then some 'b'
  else if c = '\x0c' then some 'f'
  else if c = '\n' then some 'n'
  else if c = '\r' then some 'r'
  else if c = '\t' then some 't'
  else none

/-- One character inside a string. -/
def escapeChar (c : Char) : List Char :=
  match escapeLetter? c with
  | some letter => ['\\', letter]
  | none =>
    if c.toNat < 0x20 then
      ['\\', 'u', '0', '0', Nat.digitChar (c.toNat / 16), Nat.digitChar (c.toNat % 16)]
    else [c]

/-- A string in quotes. -/
def quoted (s : String) : List Char :=
  '"' :: s.toList.flatMap escapeChar ++ ['"']

/-- A value that holds no other, written out; containers are written by their own functions. -/
def scalarText : Json → List Char
  | .null => "null".toList
  | .bool true => "true".toList
  | .bool false => "false".toList
  | .integer value => (Text.intText value).toList
  | .real value => value.jsonText.toList
  | .string value => quoted value
  | .array _ => []
  | .object _ => []

/-! ## Compact text -/

mutual

/-- A value without blanks. -/
def compactChars : Json → List Char
  | .array items => '[' :: compactItems items
  | .object members => '{' :: compactMembers members
  | .null => scalarText .null
  | .bool value => scalarText (.bool value)
  | .integer value => scalarText (.integer value)
  | .real value => scalarText (.real value)
  | .string value => scalarText (.string value)

/-- The items of an array and its closing bracket. -/
def compactItems : List Json → List Char
  | [] => [']']
  | item :: rest => compactChars item ++ compactMoreItems rest

/-- The items after the first, each after a comma, and the closing bracket. -/
def compactMoreItems : List Json → List Char
  | [] => [']']
  | item :: rest => ',' :: compactChars item ++ compactMoreItems rest

/-- The members of an object and its closing brace. -/
def compactMembers : List (String × Json) → List Char
  | [] => ['}']
  | (name, value) :: rest => quoted name ++ ':' :: compactChars value ++ compactMoreMembers rest

/-- The members after the first, each after a comma, and the closing brace. -/
def compactMoreMembers : List (String × Json) → List Char
  | [] => ['}']
  | (name, value) :: rest =>
    ',' :: quoted name ++ ':' :: compactChars value ++ compactMoreMembers rest

end

/-- The text of a value without blanks. -/
def compact (value : Json) : String :=
  String.ofList (compactChars value)

/-! ## Indented text -/

/-- A new line at a level of indent. -/
def newLine (level : Nat) : List Char :=
  '\n' :: List.replicate (2 * level) ' '

mutual

/-- A value with its items and members on lines of their own. -/
def prettyChars (level : Nat) : Json → List Char
  | .array [] => ['[', ']']
  | .array (item :: rest) =>
    '[' :: newLine (level + 1) ++ prettyChars (level + 1) item ++ prettyMoreItems level rest
  | .object [] => ['{', '}']
  | .object ((name, value) :: rest) =>
    '{' :: newLine (level + 1) ++ quoted name ++ ':' :: ' ' :: prettyChars (level + 1) value ++
      prettyMoreMembers level rest
  | .null => scalarText .null
  | .bool value => scalarText (.bool value)
  | .integer value => scalarText (.integer value)
  | .real value => scalarText (.real value)
  | .string value => scalarText (.string value)

/-- The items after the first and the closing bracket. -/
def prettyMoreItems (level : Nat) : List Json → List Char
  | [] => newLine level ++ [']']
  | item :: rest =>
    ',' :: newLine (level + 1) ++ prettyChars (level + 1) item ++ prettyMoreItems level rest

/-- The members after the first and the closing brace. -/
def prettyMoreMembers (level : Nat) : List (String × Json) → List Char
  | [] => newLine level ++ ['}']
  | (name, value) :: rest =>
    ',' :: newLine (level + 1) ++ quoted name ++ ':' :: ' ' :: prettyChars (level + 1) value ++
      prettyMoreMembers level rest

end

/-- The text of a value over several lines. -/
def pretty (value : Json) : String :=
  String.ofList (prettyChars 0 value)

end GridFilter.Json

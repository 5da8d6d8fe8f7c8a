import GridFilter.Association
import GridFilter.Text.Affix
import GridFilter.Text.Alphanumeric
import GridFilter.Text.Blank

/-!
# Environment files

A file `.env` sets variables that are not set yet, one `NAME=value` on a line, which `export` may
precede.  A value is a run of pieces: plain text, text in single quotes as it stands, text in double
quotes, escaped characters, and `$NAME` or `${NAME}` for a variable; without braces the name is a
run of letters and digits.  A quoted piece may run over several lines.  Reading stops at the first
line that is not of this form, and the variables set before it stay.
-/

namespace GridFilter

/-- Variables and their values. -/
abbrev Environment := Association String String

namespace Environment

/-- The variables of a block of entries `NAME=value`, each of which ends in a null character. -/
def ofBlock (block : String) : Environment :=
  (block.splitOn "\x00").filterMap fun entry =>
    (Text.splitAtFirst? '=' entry.toList).map fun sides =>
      (String.ofList sides.1, String.ofList sides.2)

/-! ## Lines -/

/-- Where the end of a line stands among quotes, escapes and blanks. -/
inductive Ending where
  | complete
  | escape
  | single
  | singleEscape
  | double
  | doubleEscape
  | blank
  deriving DecidableEq, Repr

/-- What a character opens outside of quotes. -/
def Ending.opening (c : Char) : Ending :=
  if c = '\\' then escape else if c = '"' then double else if c = '\'' then single else complete

/-- The ending after one more character. -/
def Ending.next (ending : Ending) (c : Char) : Ending :=
  match ending with
  | complete => if Text.isBlank c && c != '\n' && c != '\r' then blank else opening c
  | blank => opening c
  | escape => complete
  | single => if c = '\\' then singleEscape else if c = '\'' then complete else single
  | singleEscape => single
  | double => if c = '\\' then doubleEscape else if c = '"' then complete else double
  | doubleEscape => double

/-- The ending of a line, or what precedes its comment: a comment starts with `#` after one blank. -/
def lineEnding (ending : Ending) : List Char → Ending ⊕ List Char
  | [] => .inl ending
  | c :: rest =>
    if ending = .blank && c = '#' then .inr []
    else
      match lineEnding (ending.next c) rest with
      | .inl final => .inl final
      | .inr before => .inr (c :: before)

/-- Splits a text after each line feed. -/
def physicalLines (current : List Char) : List Char → List (List Char)
  | [] => if current.isEmpty then [] else [current.reverse]
  | c :: rest =>
    if c = '\n' then (c :: current).reverse :: physicalLines [] rest
    else physicalLines (c :: current) rest

/-- A line without its line feed and the carriage return before that. -/
def withoutLineEnd (line : List Char) : List Char :=
  match line.reverse with
  | '\n' :: '\r' :: rest => rest.reverse
  | '\n' :: rest => rest.reverse
  | _ => line

/-- Joins the lines that quotes hold together, from those `held` so far; a text that ends within
quotes ends in a line that cannot be read. -/
def logicalLines (held : List Char) (ending : Ending) :
    List (List Char) → List (Option (List Char))
  | [] => if ending = .complete then [] else [none]
  | line :: rest =>
    if (Text.trimStart (held ++ line)).head? == some '#' then
      some [] :: logicalLines [] .complete rest
    else
      match lineEnding ending line with
      | .inr before => some (held ++ before) :: logicalLines [] .complete rest
      | .inl .complete => some (withoutLineEnd (held ++ line)) :: logicalLines [] .complete rest
      | .inl final => logicalLines (held ++ line) final rest

/-! ## Values -/

/-- Where the reading of a value stands. -/
inductive Reading where
  /-- Outside of single quotes; within double quotes or not. -/
  | text (quoted : Bool)
  | escaped (quoted : Bool)
  | single
  /-- In a name after a dollar sign. -/
  | name (quoted : Bool) (letters : List Char)
  /-- In a name in braces. -/
  | braced (quoted : Bool) (letters : List Char)
  /-- After a blank, where only a comment may follow. -/
  | ended
  | comment

/-- What follows a name and an equals sign, when the entry `NAME=value` starts with them. -/
def afterName? (name : List Char) (entry : String × String) : Option (List Char) :=
  (name ++ ['=']).isPrefixOf? (entry.1.toList ++ '=' :: entry.2.toList)

/-- The value of a variable, empty when it is not set.  It is looked for in the entries as texts, so
a name with an equals sign in it finds what is left of a value that starts like that. -/
def value (environment : Environment) (name : List Char) : List Char :=
  (environment.findSome? (afterName? name)).getD []

/-- The character that an escaped one stands for. -/
def unescaped? (c : Char) : Option Char :=
  if c = 'n' then some '\n'
  else if c = '\\' || c = '\'' || c = '"' || c = '$' || c = ' ' then some c
  else none

/-- Reads one character of a value: where the reading stands then, and what is added. -/
def readChar (environment : Environment) (reading : Reading) (c : Char) :
    Option (Reading × List Char) :=
  match reading with
  | .ended =>
    if c = ' ' || c = '\t' then some (.ended, [])
    else if c = '#' then some (.comment, [])
    else none
  | .comment => some (.comment, [])
  | .escaped quoted => (unescaped? c).map fun plain => (.text quoted, [plain])
  | .single => if c = '\'' then some (.text false, []) else some (.single, [c])
  | .name quoted letters =>
    if Text.isAlphanumeric c then some (.name quoted (letters ++ [c]), [])
    else if c = '{' && letters.isEmpty then some (.braced quoted [], [])
    else if c = '$' then some (.name quoted [], environment.value letters)
    else some (.text quoted, environment.value letters ++ [c])
  | .braced quoted letters =>
    if c = '}' then some (.text quoted, environment.value letters)
    else some (.braced quoted (letters ++ [c]), [])
  | .text quoted =>
    if c = '$' then some (.name quoted [], [])
    else if c = '\\' then some (.escaped quoted, [])
    else if c = '"' then some (.text !quoted, [])
    else if quoted then some (.text quoted, [c])
    else if c = '\'' then some (.single, [])
    else if c = ' ' || c = '\t' then some (.ended, [])
    else some (.text false, [c])

/-- What is added at the end of a value; quotes and braces have to be closed there. -/
def readEnd (environment : Environment) : Reading → Option (List Char)
  | .text quoted => if quoted then none else some []
  | .escaped quoted => if quoted then none else some []
  | .name quoted letters => if quoted then none else some (environment.value letters)
  | .single => none
  | .braced _ _ => none
  | .ended => some []
  | .comment => some []

/-- Reads a value. -/
def readValue (environment : Environment) (reading : Reading) : List Char → Option (List Char)
  | [] => environment.readEnd reading
  | c :: rest =>
    match environment.readChar reading c with
    | none => none
    | some (reading, added) => (readValue environment reading rest).map (added ++ ·)

/-! ## Assignments -/

/-- A character of a variable's name after the first. -/
def isNameChar (c : Char) : Bool :=
  c.isAlphanum || c == '_' || c == '.'

/-- Takes a variable's name off the front of a line. -/
def takeName? (line : List Char) : Option (List Char × List Char) :=
  match line with
  | c :: _ =>
    if c.isAlpha || c = '_' then some (line.takeWhile isNameChar, line.dropWhile isNameChar)
    else none
  | [] => none

/-- What follows an equals sign, blanks skipped. -/
def afterEquals? : List Char → Option (List Char)
  | '=' :: rest => some (Text.trimStart rest)
  | _ => none

/-- The word that may stand before a variable's name. -/
def exportWord : List Char := "export".toList

/-- Takes a name and an equals sign off the front of a line. -/
def takeAssignment? (line : List Char) : Option (List Char × List Char) := do
  let (name, rest) ← takeName? line
  let rest := Text.trimStart rest
  match afterEquals? rest with
  | some written => pure (name, written)
  | none =>
    if name = exportWord then
      let (name, rest) ← takeName? rest
      pure (name, ← afterEquals? (Text.trimStart rest))
    else none

/-- Is there nothing in a line but a comment? -/
def isIdle (line : List Char) : Bool :=
  line.isEmpty || line.head? == some '#'

/-- Reads a line: nothing, or a name and its value. -/
def readLine (environment : Environment) (line : List Char) :
    Option (Option (String × String)) :=
  let line := Text.trimEnds line
  if isIdle line then some none
  else
    match takeAssignment? line with
    | none => none
    | some (name, written) =>
      if isIdle written then some (some (String.ofList name, ""))
      else
        (environment.readValue (.text false) written).map fun value =>
          some (String.ofList name, String.ofList value)

/-- Sets the variables of lines up to the first that cannot be read; a variable that is set already
keeps its value. -/
def addLines (environment : Environment) : List (Option (List Char)) → Environment
  | [] => environment
  | none :: _ => environment
  | some line :: rest =>
    match environment.readLine line with
    | none => environment
    | some none => addLines environment rest
    | some (some (name, value)) => addLines (environment.putNew name value) rest

/-- A text without the mark that may stand before it. -/
def withoutMark : List Char → List Char
  | '\uFEFF' :: rest => rest
  | text => text

/-- Sets the variables of an environment file. -/
def addFile (environment : Environment) (text : String) : Environment :=
  environment.addLines (logicalLines [] .complete (physicalLines [] (withoutMark text.toList)))

end Environment

end GridFilter

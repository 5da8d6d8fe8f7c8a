import GridFilter.Text.Affix
import GridFilter.Text.Blank

/-!
# Paths

A path is its text.  `expand` makes the path that a user wrote absolute: a leading `~` stands for
the home directory, and what is still relative lies under the working directory.  Nothing is
resolved: `.`, `..` and doubled slashes stay.
-/

namespace GridFilter

/-- The directories that a user's paths refer to. -/
structure Directories where
  home : Option String
  work : String
  deriving DecidableEq, Repr

namespace Path

/-- Does the path start at the root? -/
def isAbsolute (path : String) : Bool :=
  path.toList.head? == some '/'

/-- The path `rest` under the directory `base`; an absolute `rest` stays as it is. -/
def join (base rest : String) : String :=
  if isAbsolute rest || base == "" then rest
  else if base.toList.getLast? == some '/' then base ++ rest
  else base ++ "/" ++ rest

/-- The path with the home directory in place of a leading `~`. -/
def expandHome (home : Option String) (path : String) : String :=
  match home with
  | none => path
  | some home =>
    if path == "~" then home
    else
      match Text.withoutLead? "~/" path with
      | some rest => join home rest
      | none => path

/-- The absolute path that a user's path stands for, blank ends apart; the empty path is the working
directory. -/
def expand (directories : Directories) (path : String) : String :=
  let path := Text.trim path
  if path == "" then directories.work
  else
    let expanded := expandHome directories.home path
    if isAbsolute expanded then expanded else join directories.work expanded

/-- The parts of a path between its slashes. -/
def parts (path : String) : List String :=
  (path.toList.splitOn '/').map String.ofList

/-- The parts of a path that name something. -/
def names (path : String) : List String :=
  (parts path).filter fun part => part != "" && part != "."

/-- An absolute path from its parts. -/
def ofNames (names : List String) : String :=
  "/" ++ String.intercalate "/" names

/-- The directories on the way from an absolute path up to the root. -/
def ancestors (path : String) : List String :=
  let all := names path
  (List.range (all.length + 1)).reverse.map fun count => ofNames (all.take count)

end Path

end GridFilter

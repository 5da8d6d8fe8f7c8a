import GridFilter.Files.Path

/-!
# File trees

What a look at a path can find, and a tree of files in memory on which the look is a function.  A
path is walked part by part: `.` and empty parts stay, `..` goes up, and what lies below a file does
not exist.
-/

namespace GridFilter

/-- What is found at a path. -/
inductive FileEntry where
  | missing
  | directory
  /-- A file, and its content when that is text. -/
  | file (content : Option String)
  deriving DecidableEq, Repr

namespace FileEntry

/-- Something is found. -/
def isThere : FileEntry → Bool
  | missing => false
  | _ => true

/-- The text that is found. -/
def text? : FileEntry → Option String
  | file content => content
  | _ => none

end FileEntry

/-- Files by the parts of their absolute paths, and directories besides those that hold files. -/
structure FileTree where
  files : List (List String × String)
  directories : List (List String)
  /-- Where relative paths start. -/
  work : List String

namespace FileTree

/-- The tree of the given texts and directories, where relative paths start at `work`. -/
def of (work : String) (directories : List String) (texts : List (String × String)) :
    FileTree where
  files := texts.map fun (path, text) => (Path.names path, text)
  directories := directories.map Path.names
  work := Path.names work

/-- Is there a directory at these parts?  The root always is. -/
def isDirectory (tree : FileTree) (parts : List String) : Bool :=
  parts.isEmpty || tree.directories.any (parts.isPrefixOf ·) ||
    tree.files.any fun file => parts.isPrefixOf file.1 && parts != file.1

/-- The text of the file at these parts. -/
def fileText? (tree : FileTree) (parts : List String) : Option String :=
  (tree.files.find? fun file => file.1 == parts).map (·.2)

/-- Walks from a directory. -/
def walk (tree : FileTree) : List String → List String → FileEntry
  | _, [] => .directory
  | here, part :: rest =>
    if part == "" || part == "." then walk tree here rest
    else if part == ".." then walk tree here.dropLast rest
    else
      match tree.fileText? (here ++ [part]) with
      | some text => if rest.isEmpty then .file (some text) else .missing
      | none =>
        if tree.isDirectory (here ++ [part]) then walk tree (here ++ [part]) rest else .missing

/-- What is found at a path. -/
def look (tree : FileTree) (path : String) : FileEntry :=
  if path == "" then .missing
  else tree.walk (if Path.isAbsolute path then [] else tree.work) (Path.parts path)

end FileTree

end GridFilter

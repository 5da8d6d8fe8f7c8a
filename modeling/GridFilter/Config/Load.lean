import GridFilter.Codec.Column
import GridFilter.Codec.Config
import GridFilter.Codec.Expression
import GridFilter.Codec.Metadata
import GridFilter.Files.Tree
import GridFilter.Metadata.Service

/-!
# Loading from files

Configuration, the metadata service it asks for, and documents are read through a function that
looks at a path, in whatever way files are held.
-/

namespace GridFilter

/-- How files are looked at. -/
abbrev Look (m : Type → Type) := String → m FileEntry

variable {m : Type → Type} [Monad m]

/-! ## Configuration -/

namespace Config

/-- The configuration file in the entry at a path. -/
def readFile (path : String) (entry : FileEntry) : Except Failure ConfigFile :=
  match entry.text? with
  | none => .error (.unreadable path)
  | some text =>
    match readDocument ConfigFile.decode text with
    | .ok file => .ok file
    | .error _ => .error (.malformed path)

/-- The file at a path, or one that sets nothing if it is missing. -/
def fileIfThere (look : Look m) (path : String) : m (Except Failure ConfigFile) := do
  let entry ← look path
  pure (if entry.isThere then readFile path entry else .ok {})

/-- The file at a path, which has to be there. -/
def fileAt (look : Look m) (path : String) : m (Except Failure ConfigFile) := do
  let entry ← look path
  pure (if entry.isThere then readFile path entry else .error (.notFound path))

/-- The name of configuration files. -/
def fileName : String := "tabula.json"

/-- The folder under the home directory that holds the user's own file. -/
def homeFolder : String := ".tabula"

/-- The user's own file. -/
def profileFile (look : Look m) (directories : Directories) : m (Except Failure ConfigFile) :=
  match directories.home with
  | some home => fileIfThere look (Path.join (Path.join home homeFolder) fileName)
  | none => pure (.ok {})

/-- The file that was asked for, or else the one in the working directory. -/
def overlayFile (look : Look m) (directories : Directories) (chosen : Option String) :
    m (Except Failure ConfigFile) :=
  match chosen with
  | some path => fileAt look (Path.expand directories path)
  | none => fileIfThere look fileName

/-- The configuration: the user's own file, the chosen or local one merged into it, and on top what
the command line sets. -/
def load (look : Look m) (directories : Directories) (chosen : Option String)
    (commandLine : ConfigLayer) : m (Except Failure Config) := do
  match ← profileFile look directories with
  | .error failure => pure (.error failure)
  | .ok profile =>
    match ← overlayFile look directories chosen with
    | .error failure => pure (.error failure)
    | .ok overlay =>
      let file := (ConfigFile.merge {} profile).merge overlay
      pure (resolve commandLine file).checked

end Config

/-! ## The metadata service -/

namespace MetadataService

/-- Why there is no metadata service although one is configured. -/
inductive Failure where
  | fixture (path : String)
  | service (error : MetadataError)
  /-- The cache would have to keep answers longer than it can. -/
  | retention
  deriving DecidableEq, Repr

/-- The text of a failure. -/
def Failure.message : Failure → String
  | fixture path => "Failed to load record fixture: " ++ path
  | service error => error.message
  | retention => "time_to_live is longer than 1000 years"

/-- The service of a record fixture. -/
def ofFixture (path : String) (entry : FileEntry) : Except Failure MetadataService :=
  match entry.text?.map MemoryStore.ofFixture with
  | some (.ok store) => .ok { source := .memory store }
  | _ => .error (.fixture path)

/-- The service of a web client, behind a cache if that is configured. -/
def ofWeb (lookup : LookupSettings) (web : WebSettings) : Except Failure MetadataService :=
  match WebClient.make web.url web.token with
  | .ok client =>
    if lookup.outlastsCache then .error .retention
    else .ok { source := .web client, cache := if lookup.cacheEnabled then some {} else none }
  | .error error => .error (.service error)

/-- The service that is configured, if any: a record fixture, or else the web service. -/
def load (look : Look m) (config : Config) (records : Option String) :
    m (Except Failure (Option MetadataService)) :=
  match records, config.web with
  | some path, _ => do pure ((ofFixture path (← look path)).map some)
  | none, some web => pure ((ofWeb config.lookup web).map some)
  | none, none => pure (.ok none)

end MetadataService

/-! ## Documents -/

/-- Why a document could not be had. -/
inductive DocumentFailure where
  | unreadable (path : String)
  | malformed (path : String)
  deriving DecidableEq, Repr

/-- The text of a failure. -/
def DocumentFailure.message : DocumentFailure → String
  | unreadable path => "Failed to read " ++ path
  | malformed path => "Failed to parse " ++ path

/-- Reads the document at a user's path. -/
def loadDocument {α : Type} (look : Look m) (directories : Directories) (decode : Decoder α)
    (path : String) : m (Except DocumentFailure α) := do
  let path := Path.expand directories path
  match (← look path).text? with
  | none => pure (.error (.unreadable path))
  | some text =>
    match readDocument decode text with
    | .ok value => pure (.ok value)
    | .error _ => pure (.error (.malformed path))

/-- Reads a list of columns. -/
def loadColumns (look : Look m) (directories : Directories) (path : String) :
    m (Except DocumentFailure (List Column)) :=
  loadDocument look directories (Decoder.list Column.decode) path

/-- Reads a filter expression. -/
def loadExpression (look : Look m) (directories : Directories) (path : String) :
    m (Except DocumentFailure FilterExpression) :=
  loadDocument look directories FilterExpression.decode path

end GridFilter

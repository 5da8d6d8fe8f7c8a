import GridFilter.Codec.Condition
import GridFilter.Command.Invocation
import GridFilter.Config.Load
import GridFilter.Json.Print
import GridFilter.Session

/-!
# Running the program

The program reads its command line, its configuration and two documents, and either reports the
conditions an expression holds for columns, or writes the expression anew.  A run ends in an exit
code and two texts; how files are looked at is left to the caller.
-/

namespace GridFilter.Command

/-- What a run leaves behind. -/
structure Outcome where
  exit : Nat
  output : String := ""
  errors : String := ""
  deriving DecidableEq, Repr

namespace Outcome

/-- A run that wrote a document. -/
def written (document : Json) : Outcome :=
  { exit := 0, output := document.pretty ++ "\n" }

/-- A run that failed for a reason, after it wrote notes. -/
def failedAfter (notes message : String) : Outcome :=
  { exit := 1, errors := notes ++ "\nError: " ++ message ++ "\n\n" }

/-- A run that failed for a reason. -/
def failed (message : String) : Outcome :=
  failedAfter "" message

/-- A run that broke off, because a part of it was set up beyond its limits. -/
def brokenOff (message : String) : Outcome :=
  { exit := 101, errors := message ++ "\n" }

/-- A run that found no metadata service although one is configured. -/
def withoutService : MetadataService.Failure → Outcome
  | .retention => brokenOff (MetadataService.Failure.message .retention)
  | failure => failed failure.message

end Outcome

/-- How the program is used, in short. -/
def usageText : String :=
  "Usage: tabula [OPTIONS] <inspect|normalize> --columns <COLUMNS> --expression <EXPRESSION>\n"

/-- The program's name and version. -/
def versionText : String := "tabula 0.4.2\n"

/-- The outcome of a command line that names no action to run. -/
def Stop.outcome : Stop → Outcome
  | .help => { exit := 0, output := usageText }
  | .version => { exit := 0, output := versionText }
  | .usage => { exit := 2, errors := usageText }

/-! ## Inspecting -/

/-- A session in which the columns are open on an expression. -/
def openSession (settings : FilterSettings) (service : Option MetadataService)
    (columns : List Column) (expression : FilterExpression) : Session where
  grid := columns.foldl Grid.openColumn
    (Grid.datasetChanged { settings := settings } expression)
  connection := service.map fun service => { service := service }

/-- Loads the names of all conditions, column by column. -/
def loadNames (session : Session) : Session :=
  session.grid.conditions.foldl
    (fun session condition => (session.startLoad condition.handle).2) session

/-- The report on a column: its conditions, and the operators on offer if it has any. -/
def report (filter : ColumnFilter) : Json :=
  let menu := filter.conditions.head?.map fun condition => condition.column.kind.operators
  .object
    [("column", .string filter.column.name),
     ("dataType", filter.column.dataType.toJson),
     ("applied", .bool filter.isApplied),
     ("supportedOperators",
       Json.ofOption (Json.ofList fun operator => .string (Operator.name operator)) menu),
     ("conditions", Json.ofList (fun condition => .object condition.snapshot) filter.conditions)]

/-- The report on all columns. -/
def inspect (settings : FilterSettings) (service : Option MetadataService)
    (columns : List Column) (expression : FilterExpression) : Outcome :=
  let session := loadNames (openSession settings service columns expression)
  .written (Json.ofList report session.grid.filters)

/-! ## Normalizing -/

/-- The line on a condition that has complaints. -/
def complaintLine (filter : ColumnFilter) (condition : Condition) : String :=
  let messages := condition.verdict.filterMap fun slot => slot.map Complaint.message
  filter.column.name ++ " [" ++ condition.id ++ "] " ++ condition.operator.name ++ ": " ++
    String.intercalate "; " messages ++ "\n"

/-- The lines on the conditions that keep an expression from being written. -/
def complaintLines (grid : Grid) (failure : InvalidConditions) : String :=
  String.join <| grid.filters.flatMap fun filter =>
    failure.ids.filterMap fun id => (filter.condition? id).map (complaintLine filter)

/-- The expression written anew, or the complaints that keep it from being written. -/
def normalize (settings : FilterSettings) (service : Option MetadataService)
    (columns : List Column) (expression : FilterExpression) (combinator : Combinator) :
    Outcome :=
  let grid := (openSession settings service columns expression).grid
  match grid.expression combinator with
  | .ok expression => .written expression.toJson
  | .error failure => .failedAfter (complaintLines grid failure) failure.message

/-! ## Runs -/

variable {m : Type → Type} [Monad m]

/-- Reads the two documents of an action and goes on with them. -/
def withDocuments (look : Look m) (directories : Directories) (columns expression : String)
    (next : List Column → FilterExpression → Outcome) : m Outcome := do
  match ← loadColumns look directories columns with
  | .error failure => pure (.failed failure.message)
  | .ok columns =>
    match ← loadExpression look directories expression with
    | .error failure => pure (.failed failure.message)
    | .ok expression => pure (next columns expression)

/-- Makes the metadata service, gives it a transport and goes on with it. -/
def withService (look : Look m) (transport : WebTransport) (config : Config)
    (records : Option String) (next : Option MetadataService → m Outcome) : m Outcome := do
  match ← MetadataService.load look config records with
  | .error failure => pure (.withoutService failure)
  | .ok service => next (service.map (.through transport))

/-- Runs an action under a configuration. -/
def runAction (look : Look m) (transport : WebTransport) (directories : Directories)
    (config : Config) : Action → m Outcome
  | .inspect columns expression records =>
    withService look transport config records fun service =>
      withDocuments look directories columns expression (inspect config.filter service)
  | .normalize columns expression disjunction =>
    withService look transport config none fun service =>
      withDocuments look directories columns expression fun columns expression =>
        normalize config.filter service columns expression (if disjunction then .or else .and)

/-- Sets the variables of the nearest environment file, in the working directory or above it. -/
def loadEnvironment (look : Look m) (environment : Environment) : List String → m Environment
  | [] => pure environment
  | directory :: above => do
    match ← look (Path.join directory ".env") with
    | .file (some text) => pure (environment.addFile text)
    | .file none => pure environment
    | .missing | .directory => loadEnvironment look environment above

/-- What a run finds around it. -/
structure Host where
  /-- The working directory. -/
  work : String
  /-- The home directory of the user's account, if it is known. -/
  accountHome : Option String
  environment : Environment
  /-- How the web service is reached. -/
  transport : WebTransport := .absent

/-- The directories that paths refer to: the home directory is that of the environment, or that of
the account when the environment has none or an empty one. -/
def Host.directories (host : Host) : Directories where
  home := ((host.environment.get? "HOME").filter (· != "")).or host.accountHome
  work := host.work

/-- Runs the program on a command line. -/
def run (look : Look m) (host : Host) (line : List String) : m Outcome := do
  let environment ← loadEnvironment look host.environment (Path.ancestors host.work)
  let directories := { host with environment := environment }.directories
  match Invocation.read environment line with
  | .error stop => pure stop.outcome
  | .ok invocation =>
    match ← Config.load look directories invocation.config invocation.layer with
    | .error failure => pure (.failed failure.message)
    | .ok config => runAction look host.transport directories config invocation.action

end GridFilter.Command

import GridFilter.Command.Account
import GridFilter.Command.Run

/-!
# The program

The program on the machine it runs on: its arguments, its environment and its files.
-/

namespace GridFilter

/-- What is found at a path of the machine. -/
def lookAtDisk (path : String) : IO FileEntry := do
  try
    let bytes ← IO.FS.readBinFile path
    pure (.file (String.fromUTF8? bytes))
  catch
    | .noFileOrDirectory .. => pure .missing
    | .inappropriateType .. => pure .directory
    | _ => pure (.file none)

/-- The variables that settings are taken from, with that of the home directory. -/
def settingVariables : List String :=
  "HOME" :: Command.Choice.settings.filterMap Command.Choice.environmentName?

/-- The variables of the machine: all of them where the system lists them, else those that settings
are taken from. -/
def readEnvironment : IO Environment := do
  match ← lookAtDisk "/proc/self/environ" with
  | .file (some block) => return Environment.ofBlock block
  | _ =>
    settingVariables.filterMapM fun name => do
      return (← IO.getEnv name).map fun value => (name, value)

/-- The home directory of the account the program runs under, where the system says. -/
def readAccountHome : IO (Option String) := do
  let status ← lookAtDisk "/proc/self/status"
  let accounts ← lookAtDisk "/etc/passwd"
  return do Command.accountHome? (← accounts.text?) (← Command.statusUser? (← status.text?))

/-- Runs the program and returns its exit code. -/
def runOnMachine (line : List String) : IO UInt32 := do
  let host : Command.Host :=
    { work := (← IO.currentDir).toString
      accountHome := ← readAccountHome
      environment := ← readEnvironment }
  let outcome ← Command.run lookAtDisk host line
  IO.print outcome.output
  IO.eprint outcome.errors
  return UInt32.ofNat outcome.exit

end GridFilter

/-- Runs the program on the machine's command line. -/
def main (line : List String) : IO UInt32 :=
  GridFilter.runOnMachine line

import CodeHealth.Command.Help
import CodeHealth.Command.Run
import CodeHealth.Service.Link

/-! The program: it reads the environment and the files at home, runs the command line, and prints
and keeps what comes of it. No line to the service is opened: every request stays without a
response. -/
namespace CodeHealth.Shell

/-- A directory that a variable names, or one below the user's own. -/
def directory (name below : String) : IO (Option String) := do
  match ← IO.getEnv name with
  | some d => if d.startsWith "/" then return some d
  | none => pure ()
  return (← IO.getEnv "HOME").map (· ++ "/" ++ below)

def readFile (path : String) : IO FileSlot := do
  try return { text? := some (← IO.FS.readFile path) }
  catch _ =>
    try
      let _ ← IO.FS.readBinFile path
      return { garbled := true }
    catch _ => return {}

/-- A file below a directory, as it is now. -/
def place (directory : Option String) (name : String) : IO (Option Place) := do
  match directory with
  | some d =>
    let path := d ++ "/repotoire/" ++ name
    return some ⟨path, ← readFile path⟩
  | none => return none

/-- Writes a file whose text has changed. -/
def keep (directory : Option String) (before after : Option Place) : IO Unit := do
  match directory, after with
  | some d, some p =>
    if before ≠ some p then
      IO.FS.createDirAll (d ++ "/repotoire")
      IO.FS.writeFile p.path (p.file.text?.getD "")
  | _, _ => pure ()

def environment : IO Settings.Environment := do
  let get (name : String) : IO Settings.Environment := do
    return ((← IO.getEnv name).map (name, ·)).toList
  return (← get Settings.urlVariable) ++ (← get Settings.keyVariable)

/-- Runs the program and gives its exit code. -/
def run (args : List String) : IO UInt32 := do
  let stdout ← IO.getStdout
  let stderr ← IO.getStderr
  let color ← stdout.isTty
  let configDirectory ← directory "XDG_CONFIG_HOME" ".config"
  let dataDirectory ← directory "XDG_DATA_HOME" ".local/share"
  let home : Home :=
    ⟨← place configDirectory "cloud.toml", ← place dataDirectory "preferences.json"⟩
  let link : Link := ⟨none, .empty⟩
  let outcome := CommandLine.execute (← environment) home link args
  match outcome.ending with
  | .refused u =>
    let (lines, isComplaint) := u.reply
    (if isComplaint then stderr else stdout).putStr (Terminal.write color lines)
  | _ =>
    keep configDirectory home.settings outcome.home.settings
    keep dataDirectory home.preferences outcome.home.preferences
    stdout.putStr (outcome.stdout color)
    stderr.putStr (outcome.stderr color)
  return outcome.exitCode.toUInt32

end CodeHealth.Shell

def main (args : List String) : IO UInt32 := CodeHealth.Shell.run args

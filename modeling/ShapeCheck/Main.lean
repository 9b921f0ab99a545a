import ShapeCheck.Command.Run
import ShapeCheck.Log.Filter
import ShapeCheck.Text.Utf8

/-!
# The program

Everything that a command may look at is read first: the files that settings can come from, then the
directories that settings and arguments name, and the files among the arguments.  The command itself
is `Outcome.ofArguments`, which sees nothing else.  Lines about what happens on the way all bear the
time at which the program looks at the clock, once.
-/

namespace ShapeCheck.Program

/-- The tree at a path, if there is one; what is neither a file nor a directory is left out. -/
partial def readTree? (path : String) : IO (Option FileTree) := do
  let here := (← IO.currentDir) / path
  if ← here.isDir then
    let names := (← here.readDir).toList.map fun entry => entry.fileName
    let mut entries := []
    for name in names do
      if let some t ← readTree? (FileTree.join path name) then
        entries := (name, t) :: entries
    return some (.directory entries.reverse)
  else if ← here.pathExists then
    try return some (.file (← IO.FS.readBinFile here)) catch _ => return none
  else return none

/-- The files with all that is at a path. -/
def addTree (fs : FileSystem) (path : String) : IO FileSystem := do
  if path = "" then return fs
  match ← readTree? path with
  | some t => return (fs.plant true path t).toOption.getD fs
  | none => return fs

/-- The files with a file, if there is one at a path. -/
def addFile (fs : FileSystem) (path : String) : IO FileSystem := do
  let here := (← IO.currentDir) / path
  if path = "" || (← here.isDir) then return fs else addTree fs path

/-- The variables of the environment. -/
def environment : IO Variables := do
  let content ← try IO.FS.readBinFile "/proc/self/environ" catch _ => pure .empty
  let entries := (Text.decode content).splitOn "\x00"
  return entries.filterMap fun entry =>
    match entry.splitOn "=" with
    | name :: value :: more => some (name, String.intercalate "=" (value :: more))
    | _ => none

/-- The settings file of the user. -/
def userFile? (vars : Variables) : Option String :=
  let directory? :=
    match vars.lookup "XDG_CONFIG_HOME" with
    | some dir => if dir.startsWith "/" then some dir else none
    | none => none
  let directory? := directory?.or ((vars.lookup "HOME").map (FileTree.join · ".config"))
  directory?.map (FileTree.join · "validator/validator.toml")

/-- The directories and the files that a command names. -/
def named : Command → List String × List String
  | .check schema => ([], [schema])
  | .validate files _ dirs => (dirs, files)
  | .formats => ([], [])

/-- The place where a command line is run, with all that it may look at. -/
def place (args : List String) : IO Place := do
  let vars ← environment
  let userFile := userFile? vars
  let current := (← IO.currentDir).toString.splitOn "/"
  let start : FileSystem := ⟨.empty, current⟩
  let mut fs := (start.plant true "." .empty).toOption.getD start
  if let some request := Request.ofArguments? args then
    for path in Settings.candidates userFile request.config do
      fs ← addFile fs path
    let settings := (Settings.load fs userFile request.config vars).toOption.getD .default
    let (dirs, files) := named request.command
    for path in settings.schemaDirs ++ dirs ++ files do
      fs ← addTree fs path
  return ⟨fs, userFile, vars⟩

/-- The year, the month and the day, some days after the start of 1970. -/
def date (days : Nat) : Nat × Nat × Nat :=
  -- years start in March, so that a leap day is the last day of one; 400 of them are 146097 days
  let days := days + 719468
  let era := days / 146097
  let days := days % 146097
  let year := (days - days / 1460 + days / 36524 - days / 146096) / 365
  let days := days - (365 * year + year / 4 - year / 100)
  let month := (5 * days + 2) / 153
  let day := days - (153 * month + 2) / 5 + 1
  let year := 400 * era + year
  if month < 10 then (year, month + 3, day) else (year + 1, month - 9, day)

/-- A number with zeros in front, up to a width. -/
def padded (width n : Nat) : String := "".pushn '0' (width - (toString n).length) ++ toString n

/-- A time as it stands in lines. -/
def stamp (seconds micros : Nat) : String :=
  let (year, month, day) := date (seconds / 86400)
  padded 4 year ++ "-" ++ padded 2 month ++ "-" ++ padded 2 day ++ "T" ++
    padded 2 (seconds / 3600 % 24) ++ ":" ++ padded 2 (seconds / 60 % 60) ++ ":" ++
    padded 2 (seconds % 60) ++ "." ++ padded 6 micros ++ "Z"

/-- The time, which the entry of this process among all processes bears. -/
def now : IO String := do
  let time := (← ((← IO.currentDir) / "/proc/self").metadata).modified
  return stamp time.sec.toNat (time.nsec.toNat / 1000)

/-- The listener of an environment, which can forbid styles. -/
def listener (vars : Variables) : Listener :=
  .standard ((vars.lookup "NO_COLOR").any (· ≠ ""))

end ShapeCheck.Program

/-- Run a command line, print what it comes to, and answer with the exit code. -/
def main (args : List String) : IO UInt32 := do
  let place ← ShapeCheck.Program.place args
  let outcome := ShapeCheck.Outcome.ofArguments place args
  let listener := ShapeCheck.Program.listener place.environment
  let time ← ShapeCheck.Program.now
  for line in outcome.warnings do IO.eprintln line
  for line in outcome.standardOutput listener place fun _ => time do IO.println line
  return outcome.exitCode.toUInt32

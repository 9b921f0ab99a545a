import ShapeCheck.Command.Arguments
import ShapeCheck.Log.Emission
import ShapeCheck.Settings.Source

/-!
# Running commands

* `Place`: files, the settings file of the user, and environment variables;
* `Outcome`: what a command reports, what happens on the way, and its exit code: zero if all is
  valid, one if something is invalid, two if there is no answer, and more if the settings cannot be
  put together;
* `Request.execute`: a request at a place;
* `Outcome.ofArguments`: what a command line comes to;
* `Outcome.standardOutput`: all lines that are printed.

Settings come first, then the validator that they ask for, then the command.  What happens on the
way is printed as far as the environment asks for it, in front of the report and not on another
stream.
-/

namespace ShapeCheck

/-- Files, the path of the user's settings file, and environment variables. -/
structure Place where
  files : FileSystem
  userFile : Option String
  environment : Variables

/-- What the environment asks to hear of what happens on the way. -/
def Place.logRequest (place : Place) : Option String := place.environment.lookup "RUST_LOG"

/-- The exit code of a command, the lines of its report, its warnings, and what happens on the
way. -/
structure Outcome where
  exitCode : Nat
  output : List String
  warnings : List String
  log : List Event
  deriving DecidableEq, Repr

namespace Command

/-- The lines of a report, and whether it is empty. -/
structure Verdict where
  valid : Bool
  lines : List String

/-- Why a command gives no verdict: a reason in words, or an end without words. -/
inductive Trouble where
  | reason (text : String)
  | abort
  deriving DecidableEq, Repr

/-- A failure in words. -/
def trouble {α : Type} (e : Except Failure α) : Except Trouble α :=
  e.mapError fun failure => .reason failure.message

/-- The validator that the settings at a place ask for. -/
def prepare (place : Place) (config : Option String) : Except Trouble Validator := do
  let settings ← match Settings.load place.files place.userFile config place.environment with
    | .ok settings => .ok settings
    | .error .noElement => .error .abort
    | .error failure => .error (.reason ("loading configuration: " ++ failure.message))
  trouble (Validator.ofSettings place.files settings)

/-- What happens while this validator is put together. -/
def preparationEvents (place : Place) (config : Option String) : List Event :=
  match Settings.load place.files place.userFile config place.environment with
  | .ok settings => Validator.settingsEvents place.files settings
  | .error _ => []

/-- The document in a file. -/
def readDocument (fs : FileSystem) (path : String) : Except Trouble Json :=
  match fs.readText path with
  | .error fault => .error (.reason ("reading " ++ path ++ ": " ++ fault.message))
  | .ok text =>
    match Json.read text with
    | .error error => .error (.reason ("parsing " ++ path ++ ": " ++ error.message))
    | .ok document => .ok document

/-- A report in lines, or as a document. -/
def verdict (asDocument : Bool) (success : String) (r : Report) : Verdict :=
  ⟨r.isEmpty,
    if asDocument then [r.toJson.indented]
    else if r.isEmpty then ["✅ " ++ success]
    else
      ("❌ " ++ toString r.length ++ " error(s)") ::
        r.map fun violation => "   └─ " ++ violation.display⟩

/-- A file that has been left out, in words. -/
def rejection (entry : String × Report) : String :=
  "⚠️  " ++ entry.1 ++ " rejected (" ++ toString entry.2.length ++ " schema errors)"

/-- Load directories, up to the first that cannot be loaded.  The warnings come with the validator,
or with the reason why there is none. -/
def loadDirectories (fs : FileSystem) (v : Validator) :
    List String → List String × Except Trouble Validator
  | [] => ([], .ok v)
  | dir :: rest =>
    match v.loadDirectory fs dir with
    | (.error failure, _) => ([], .error (.reason failure.message))
    | (.ok done, v) =>
      let (warnings, result) := loadDirectories fs v rest
      (done.rejected.map rejection ++ warnings, result)

/-- The schema that a value is to be judged with, as a file or by name, and the file of the
value. -/
def target (files : List String) (name : Option String) :
    Except Trouble ((String ⊕ String) × String) :=
  match name, files with
  | some name, [value] => .ok (.inr name, value)
  | none, [schema, value] => .ok (.inl schema, value)
  | some _, [_, _] => .error (.reason "pass either a schema file or --name, not both")
  | _, _ => .error (.reason "missing instance file")

/-- A value with the path of its file, and the schema that it is to be judged with. -/
structure Question where
  reference : Reference
  path : String
  value : Json

/-- What is asked about the value in a file, which is read before its schema. -/
def question (fs : FileSystem) (files : List String) (name : Option String) :
    Except Trouble Question := do
  let (schema, path) ← target files name
  let value ← readDocument fs path
  match schema with
  | .inr name => return ⟨.named name, path, value⟩
  | .inl schema => return ⟨.inline (← readDocument fs schema), path, value⟩

/-- The verdict on the value in a file. -/
def validateFile (fs : FileSystem) (v : Validator) (json : Bool) (files : List String)
    (name : Option String) : Except Trouble Verdict :=
  (question fs files name).map fun q =>
    verdict json (q.path ++ " is valid") (v.validate q.reference q.value)

/-- What happens while the value in a file is judged. -/
def fileEvents (fs : FileSystem) (v : Validator) (files : List String) (name : Option String) :
    List Event :=
  match question fs files name with
  | .ok q => v.validateEvents q.reference q.value
  | .error _ => []

/-- The warnings and the verdict of a command. -/
def run (fs : FileSystem) (v : Validator) (json : Bool) :
    Command → List String × Except Trouble Verdict
  | formats => ([], .ok ⟨true, v.formats.names⟩)
  | check schema =>
    ([], (readDocument fs schema).map fun document =>
      verdict json (schema ++ " is a valid schema") (v.validateSchema document))
  | validate files name dirs =>
    let (warnings, loaded) := loadDirectories fs v dirs
    (warnings, loaded.bind fun v => validateFile fs v json files name)

/-- What happens during a command.  Loaded directories are told of once, not twice as those of the
settings. -/
def events (fs : FileSystem) (v : Validator) : Command → List Event
  | formats => []
  | check _ => []
  | validate files name dirs =>
    v.directoriesEvents fs (fun _ _ => []) dirs ++
      match (loadDirectories fs v dirs).2 with
      | .ok v => fileEvents fs v files name
      | .error _ => []

end Command

namespace Outcome

/-- A command that gives no verdict. -/
def failed (log : List Event) (warnings : List String) : Command.Trouble → Outcome
  | .reason text => ⟨2, [], warnings ++ ["Error: " ++ text], log⟩
  | .abort => ⟨101, [], warnings, log⟩

/-- A command with or without a verdict. -/
def ofResult (log : List Event) (warnings : List String) :
    Except Command.Trouble Command.Verdict → Outcome
  | .ok verdict => ⟨if verdict.valid then 0 else 1, verdict.lines, warnings, log⟩
  | .error trouble => failed log warnings trouble

/-- A command line that is misused. -/
def misuse : Outcome := ⟨2, [], [], []⟩

/-- All lines on standard output: those about what happens on the way, then the report. -/
def standardOutput (o : Outcome) (listener : Listener) (place : Place) (clock : Nat → String) :
    List String :=
  listener.lines place.logRequest clock o.log ++ o.output

end Outcome

/-- A request at a place. -/
def Request.execute (r : Request) (place : Place) : Outcome :=
  let log := Command.preparationEvents place r.config
  match Command.prepare place r.config with
  | .error trouble => .failed log [] trouble
  | .ok v =>
    let (warnings, result) := r.command.run place.files v r.json
    .ofResult (log ++ r.command.events place.files v) warnings result

/-- What a command line comes to. -/
def Outcome.ofArguments (place : Place) (args : List String) : Outcome :=
  match Request.ofArguments? args with
  | some request => request.execute place
  | none => misuse

end ShapeCheck

import ShapeCheck.FileTree
import ShapeCheck.Json.Reader
import ShapeCheck.Settings.Basic
import ShapeCheck.Settings.Ini
import ShapeCheck.Settings.Json5
import ShapeCheck.Settings.KeyPath
import ShapeCheck.Settings.Ron
import ShapeCheck.Toml.Reader
import ShapeCheck.Yaml.Document

/-!
# Sources of settings

* `ConfigFormat`: how a file of settings is written, as the extension of its name tells;
* `ConfigFile.read`: the settings in a file, which may be optional;
* `Variables.layer`: the settings among environment variables;
* `Settings.ofSetting?`: the settings that a value stands for;
* `Settings.load`: the settings of all sources, later ones laid over earlier ones.
-/

namespace ShapeCheck

/-- Named values in the order in which they are laid over what was there before. -/
abbrev Layer := List (String × Setting)

/-! ### Files -/

/-- How a file of settings is written. -/
inductive ConfigFormat where
  | toml
  | json
  | yaml
  | ini
  | ron
  | json5
  deriving DecidableEq, Repr

namespace ConfigFormat

/-- All formats with the extensions of names of their files, in the order in which files are looked
for. -/
def all : List (String × ConfigFormat) :=
  [("toml", toml), ("json", json), ("yaml", yaml), ("yml", yaml), ("ini", ini), ("ron", ron),
    ("json5", json5)]

/-- The format of a file. -/
def ofPath? (path : String) : Option ConfigFormat :=
  (FileName.extension? path).bind fun extension => all.lookup extension

/-- The settings in a JSON document, whose value is an object. -/
def jsonLayer? (text : String) : Option Layer :=
  match Json.read text with
  | .ok (.object ms) => some (Setting.ofJsonMembers ms)
  | _ => none

/-- The settings in a YAML text: those of its document, whose value is a table, if it has one. -/
def yamlLayer? (text : String) : Option Layer :=
  match Yaml.read? text with
  | some none => some []
  | some (some v) =>
    match Setting.ofYaml? v with
    | some (.table entries) => some entries
    | _ => none
  | none => none

/-- The settings in a document. -/
def layer? (form : ConfigFormat) (text : String) : Option Layer :=
  match form with
  | toml => (Toml.read? text).map Setting.ofTomlEntries
  | json => jsonLayer? text
  | yaml => yamlLayer? text
  | ini => Ini.read? text
  | ron => Ron.read? text
  | json5 => Json5.read? text

end ConfigFormat

namespace ConfigFile

/-- The file that a name stands for: itself, or else the name with an extension added. -/
def find? (fs : FileSystem) (path : String) : Option (String × ConfigFormat) :=
  if fs.isFile path then (ConfigFormat.ofPath? path).map (path, ·)
  else
    ConfigFormat.all.findSome? fun (extension, form) => do
      let longer ← FileName.extended? path extension
      if fs.isFile longer then some (longer, form) else none

/-- The files that a name can stand for. -/
def candidates (path : String) : List String :=
  path :: ConfigFormat.all.filterMap fun (extension, _) => FileName.extended? path extension

/-- The settings in a file.  A file that is missing or no text is an error only if it is
required. -/
def read (fs : FileSystem) (path : String) (required : Bool) : Except Failure Layer :=
  match find? fs path with
  | none => if required then .error .configuration else .ok []
  | some (path, n) =>
    match fs.readText path with
    | .error _ => if required then .error .configuration else .ok []
    | .ok text =>
      match n.layer? text with
      | some layer => .ok layer
      | none => .error .configuration

end ConfigFile

/-! ### Environment variables -/

/-- Names with values. -/
abbrev Variables := List (String × String)

namespace Variables

/-- How the names of variables with settings start, in lower case. -/
def start : List Char := "validator__".toList

/-- Characters with dots in place of double underscores. -/
def dots : List Char → List Char
  | '_' :: '_' :: rest => '.' :: dots rest
  | c :: rest => c :: dots rest
  | [] => []

/-- The path of a variable with a setting, in any case. -/
def path? (name : String) : Option String :=
  let cs := (Unicode.lowerCase name).toList
  if start.isPrefixOf cs then some (String.ofList (dots (cs.drop start.length))) else none

/-- The value of a variable: a flag, a number, or else a text. -/
def value (s : String) : Setting :=
  let word := Unicode.lowerCase s
  if word = "true" then .bool true
  else if word = "false" then .bool false
  else
    match Text.integer? s.toList with
    | some i => .integer i
    | none =>
      match Extended.ofText? s with
      | some x => .float x
      | none => .text s

/-- The settings among variables. -/
def layer (vars : Variables) : Layer :=
  vars.filterMap fun entry => (path? entry.1).map fun path => (path, value entry.2)

end Variables

/-! ### All sources -/

namespace Setting

/-- A layer laid over what was there before. -/
def overlay? (here : Setting) (layer : Layer) : Option Setting :=
  layer.foldlM (fun here (path, v) => store? (.ofText path) v here) here

end Setting

namespace Settings

/-- A part of a record that may be missing. -/
def part? {α : Type} (read? : Setting → Option α) (default : α) : Option Setting → Option α
  | none => some default
  | some v => read? v

/-- The parts of a part of a record; if it is missing so are they. -/
def record? (names : List String) : Option Setting → Option (List (Option Setting))
  | none => some (names.map fun _ => none)
  | some v => v.parts? names

/-- A list of texts. -/
def texts? : Setting → Option (List String)
  | .list elements => elements.mapM Setting.text?
  | _ => none

/-- A name with a text. -/
def textEntry? (entry : String × Setting) : Option (String × String) :=
  entry.2.text?.map fun s => (entry.1, s)

/-- A table of texts. -/
def textTable? : Setting → Option (Table String)
  | .table entries => (entries.mapM textEntry?).map Table.ofList
  | _ => none

/-- The settings that a value stands for; settings that are missing are those by default. -/
def ofSetting? (v : Setting) : Option Settings := do
  let validation ←
    record? ["check_schema", "reject_unsupported_keywords"] (v.entries.lookup "validation")
  let store ← record? ["schema_dirs"] (v.entries.lookup "store")
  let part (parts : List (Option Setting)) (i : Nat) : Option Setting := parts[i]?.join
  some {
    checkSchema := ← part? Setting.truth? default.checkSchema (part validation 0)
    rejectUnsupported := ← part? Setting.truth? default.rejectUnsupported (part validation 1)
    schemaDirs := ← part? texts? default.schemaDirs (part store 0)
    formats := ← part? textTable? default.formats (v.entries.lookup "formats") }

/-- The files that are looked for in the current directory. -/
def localFiles : List String := ["validator.toml", ".validator.toml", "config/validator.toml"]

/-- The file of the user if it exists, as a list. -/
def existing (fs : FileSystem) : Option String → List String
  | none => []
  | some path => if fs.exists? path then [path] else []

/-- The files that settings can come from. -/
def candidates (userFile explicit : Option String) : List String :=
  (localFiles ++ userFile.toList ++ explicit.toList).flatMap ConfigFile.candidates

/-- The layers of all sources, from the weakest to the strongest: local files, the file of the
user, the file asked for, and environment variables. -/
def layers (fs : FileSystem) (userFile explicit : Option String) (vars : Variables) :
    Except Failure (List Layer) := do
  let optional ← (localFiles ++ existing fs userFile).mapM (ConfigFile.read fs · false)
  let required ← explicit.toList.mapM (ConfigFile.read fs · true)
  return optional ++ required ++ [Variables.layer vars]

/-- What the layers of all sources come to.  The names that this gives are laid out once more, since
in lower case more names are paths. -/
def merged? (layers : List Layer) : Option Setting := do
  let v ← layers.foldlM Setting.overlay? Setting.empty
  Setting.overlay? Setting.empty v.entries

/-- The settings of all sources. -/
def load (fs : FileSystem) (userFile explicit : Option String) (vars : Variables) :
    Except Failure Settings := do
  match merged? (← layers fs userFile explicit vars) with
  | none => .error .noElement
  | some v =>
    match ofSetting? v with
    | some settings => .ok settings
    | none => .error .configuration

end Settings

end ShapeCheck

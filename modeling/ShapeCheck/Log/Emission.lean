import ShapeCheck.Log.Event
import ShapeCheck.Settings.Basic

/-!
# What happens on the way

Each function of a validator that something is told of goes with a list of events, in the order in
which they happen.

* `Environment.events`: what happens while a value is walked together with a node;
* `Validator.registerEvents`, `Validator.directoryEvents`: registrations, and directories with all
  their files;
* `Validator.settingsEvents`: a validator that is put together;
* `Validator.validateEvents`: a value that is judged.

Nothing is told of the checking of documents.
-/

namespace ShapeCheck

namespace Environment

mutual

/-- What happens while a value at a locator is walked together with a node. -/
def events (env : Environment) (loc : String) : Node → Json → List Event
  | .mk required source rules, v =>
    if v.isNull && !(Node.mk required source rules).isNullable then []
    else env.ruleEvents loc rules v
termination_by structural n => n

/-- What happens while the rules of a kind are looked at. -/
def ruleEvents (env : Environment) (loc : String) : Rules → Json → List Event
  | .object properties additional oneOf, v =>
    match v with
    | .object ms =>
      match oneOf with
      | some nodes => env.branchEvents loc nodes 0 (.object ms)
      | none =>
        ms.flatMap fun (name, member) =>
          match env.declaredEvents (Locator.withKey loc name) properties name member with
          | some log => log
          | none => env.additionalEvents (Locator.withKey loc name) additional member
    | _ => []
  | .array items _ _, v =>
    match v with
    | .array vs => vs.zipIdx.flatMap fun (x, i) => env.itemEvents (Locator.withIndex loc i) items x
    | _ => []
  | _, _ => []
termination_by structural rules => rules

/-- What happens at a declared member; nothing is said of other members. -/
def declaredEvents (env : Environment) (loc : String) :
    List (String × Node) → String → Json → Option (List Event)
  | [], _, _ => none
  | (declared, n) :: rest, name, v =>
    if declared = name then some (env.events loc n v) else env.declaredEvents loc rest name v
termination_by structural properties => properties

/-- What happens at a member that is not declared. -/
def additionalEvents (env : Environment) (loc : String) : Additional → Json → List Event
  | .schema n, v => env.events loc n v
  | _, _ => []
termination_by structural additional => additional

/-- What happens at an element.  All nodes are tried, even if one of them has let it pass. -/
def itemEvents (env : Environment) (loc : String) : Items → Json → List Event
  | .free, _ => []
  | .single n, v => env.events loc n v
  | .alternatives nodes, v => env.allEvents loc nodes v
termination_by structural items => items

/-- What happens with each of some nodes. -/
def allEvents (env : Environment) (loc : String) : List Node → Json → List Event
  | [], _ => []
  | n :: rest, v => env.events loc n v ++ env.allEvents loc rest v
termination_by structural nodes => nodes

/-- What happens with alternatives, from an index on, up to the first that lets the value pass. -/
def branchEvents (env : Environment) (loc : String) : List Node → Nat → Json → List Event
  | [], _, _ => []
  | n :: rest, index, v =>
    let errors := env.violations loc n v
    env.events loc n v ++
      if errors.isEmpty then [.alternativeMatched loc index]
      else .alternativeFailed loc index errors.length :: env.branchEvents loc rest (index + 1) v
termination_by structural nodes => nodes

end

end Environment

namespace Validator

/-! ### Registrations -/

/-- What happens when a document is registered. -/
def registerEvents (v : Validator) (name : String) (document : Json) : List Event :=
  match v.compile document with
  | .ok _ => [.schemaRegistered name (v.schemas.contains name)]
  | .bad _ rest => [.schemaRefused name (rest.length + 1)]

/-- What happens when the document of a file is registered. -/
def documentEvents (v : Validator) (path : String) (document : Json) : List Event :=
  let name := (FileName.stem? path).getD ""
  v.registerEvents name document ++
    match (v.register name document).1 with
    | [] => []
    | errors => [.fileRejected path errors.length]

/-- What happens when files are registered one after the other, up to the first that cannot be
read. -/
def filesEvents (v : Validator) : List (String × ByteArray) → List Event
  | [] => []
  | (path, content) :: rest =>
    match readDocument path content with
    | .error _ => []
    | .ok document =>
      v.documentEvents path document ++
        (v.register ((FileName.stem? path).getD "") document).2.filesEvents rest

/-- What happens while a directory is loaded; its end is told if all files can be read. -/
def directoryEvents (v : Validator) (fs : FileSystem) (dir : String) : List Event :=
  match fs.walk dir with
  | .error _ => []
  | .ok files =>
    v.filesEvents (files.filter fun file => isSchemaFile file.1) ++
      match (v.loadDirectory fs dir).1 with
      | .ok done => [.directoryWalked dir done.loaded.length]
      | .error _ => []

/-- What happens while directories are loaded one after the other, up to the first that cannot be
loaded, with what is told after each of the others. -/
def directoriesEvents (v : Validator) (fs : FileSystem) (after : String → Summary → List Event) :
    List String → List Event
  | [] => []
  | dir :: rest =>
    v.directoryEvents fs dir ++
      match v.loadDirectory fs dir with
      | (.ok done, v) => after dir done ++ v.directoriesEvents fs after rest
      | (.error _, _) => []

/-- What happens when a format is filed for each name, up to the first pattern that is refused. -/
def patternEvents (v : Validator) : List (String × String) → List Event
  | [] => []
  | (name, source) :: rest =>
    match Format.ofSource? source with
    | some f =>
      .formatRegistered name (v.formats.contains name) ::
        (v.registerFormat name f).patternEvents rest
    | none => []

/-- What happens while the validator that settings ask for is put together. -/
def settingsEvents (fs : FileSystem) (s : Settings) : List Event :=
  let start : Validator :=
    { new with checkSchema := s.checkSchema, rejectUnsupported := s.rejectUnsupported }
  start.patternEvents s.formats.entries ++
    match start.registerPatterns s.formats.entries with
    | .ok v =>
      let after (dir : String) (done : Summary) : List Event :=
        [.directoryLoaded dir done.loaded.length done.rejected.length]
      v.directoriesEvents fs after s.schemaDirs
    | .error _ => []

/-! ### Values -/

/-- What happens while a value is judged by the schema of a reference. -/
def validateEvents (v : Validator) (r : Reference) (value : Json) : List Event :=
  match r with
  | .named name =>
    match v.schemas.get? name with
    | some s => v.environment.events Locator.root s.root value
    | none => []
  | .inline document =>
    match v.compile document with
    | .ok s => v.environment.events Locator.root s.root value
    | .bad _ _ => []

end Validator

end ShapeCheck

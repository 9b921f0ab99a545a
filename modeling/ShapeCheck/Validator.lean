import ShapeCheck.Failure
import ShapeCheck.Format.Builtin
import ShapeCheck.Instance

/-!
# Validators

* `Validator`: formats, custom validations and schemas by name, with the settings for them;
* `Reference`: a schema by name or by document;
* `Validator.validate`: the violations of the schema of a reference by a value;
* `register`, `unregister`, `addValidation`, `removeValidation`, `registerFormat`: the changes;
* `loadDirectory`: all schema files below a directory registered by the stems of their names.

A change gives what it answers together with the new validator.
-/

namespace ShapeCheck

/-- Formats, custom validations and schemas by name, with the settings for them. -/
structure Validator where
  formats : Formats
  customs : Customs
  schemas : Table Schema
  checkSchema : Bool
  rejectUnsupported : Bool

/-- A schema by name or by document. -/
inductive Reference where
  | named (name : String)
  | inline (document : Json)

/-- What became of the files of a directory. -/
structure Summary where
  loaded : List String
  rejected : List (String × Report)

namespace Validator

/-- The validator with the standard formats and nothing else. -/
def new : Validator := ⟨.builtin, .empty, .empty, true, true⟩

/-- What schema documents are checked with. -/
def checker (v : Validator) : Checker := ⟨v.formats, v.rejectUnsupported⟩

/-- What values are judged with. -/
def environment (v : Validator) : Environment := ⟨v.formats, v.customs⟩

/-- What is wrong with a schema document. -/
def validateSchema (v : Validator) (document : Json) : Report := (v.checker.check document).errors

/-- The schema of a document, or what is wrong with it. -/
def compile (v : Validator) (document : Json) : Checked Schema :=
  Schema.compile v.checker document

/-- The violations of a schema by a value. -/
def validateCompiled (v : Validator) (s : Schema) (value : Json) : Report :=
  v.environment.validate s value

/-- The violations of the schema of a reference by a value.  A malformed document is one violation,
or all that is wrong with it if schemas need not be checked first. -/
def validate (v : Validator) (r : Reference) (value : Json) : Report :=
  match r with
  | .named name =>
    match v.schemas.get? name with
    | some s => v.validateCompiled s value
    | none => [⟨Locator.root, "", "specified schema is not registered", .string name⟩]
  | .inline document =>
    match v.compile document with
    | .ok s => v.validateCompiled s value
    | .bad first rest =>
      if v.checkSchema then [⟨Locator.root, "", "specified schema validation failed", .null⟩]
      else first :: rest

/-- File the schema of a document under a name; a malformed document changes nothing. -/
def register (v : Validator) (name : String) (document : Json) : Report × Validator :=
  match v.compile document with
  | .ok s => ([], { v with schemas := v.schemas.insert name s })
  | .bad first rest => (first :: rest, v)

/-- Take the schema of a name out, and tell whether there was one. -/
def unregister (v : Validator) (name : String) : Bool × Validator :=
  (v.schemas.contains name, { v with schemas := v.schemas.erase name })

/-- The schema of a name. -/
def schema? (v : Validator) (name : String) : Option Schema := v.schemas.get? name

/-- File a custom validation under a name. -/
def addValidation (v : Validator) (name : String) (f : Custom) : Validator :=
  { v with customs := v.customs.insert name f }

/-- Take the custom validation of a name out, and tell whether there was one. -/
def removeValidation (v : Validator) (name : String) : Bool × Validator :=
  (v.customs.contains name, { v with customs := v.customs.erase name })

/-- File a format under a name. -/
def registerFormat (v : Validator) (name : String) (f : Format) : Validator :=
  { v with formats := v.formats.insert name f }

/-! ### Directories -/

/-- The files that hold schemas. -/
def isSchemaFile (path : String) : Bool := FileName.extension? path == some "json"

/-- The document in a file. -/
def readDocument (path : String) (content : ByteArray) : Except Failure Json :=
  match FileSystem.textOf content with
  | .error fault => .error (.io fault)
  | .ok text =>
    match Json.read text with
    | .error error => .error (.schemaFile path error)
    | .ok document => .ok document

/-- What has been done, together with the registration of one more document. -/
def loadDocument (v : Validator) (done : Summary) (path : String) (document : Json) :
    Summary × Validator :=
  let name := (FileName.stem? path).getD ""
  match v.register name document with
  | ([], v) => ({ done with loaded := done.loaded ++ [name] }, v)
  | (errors, v) => ({ done with rejected := done.rejected ++ [(path, errors)] }, v)

/-- The files registered one after the other, up to the first that cannot be read. -/
def loadFiles (v : Validator) (done : Summary) :
    List (String × ByteArray) → Except Failure Summary × Validator
  | [] => (.ok done, v)
  | (path, content) :: rest =>
    match readDocument path content with
    | .error failure => (.error failure, v)
    | .ok document =>
      let (done, v) := v.loadDocument done path document
      v.loadFiles done rest

/-- All schema files below a directory, registered by the stems of their names. -/
def loadDirectory (v : Validator) (fs : FileSystem) (dir : String) :
    Except Failure Summary × Validator :=
  match fs.walk dir with
  | .error fault => (.error (.walk dir fault), v)
  | .ok files => v.loadFiles ⟨[], []⟩ (files.filter fun file => isSchemaFile file.1)

end Validator

end ShapeCheck

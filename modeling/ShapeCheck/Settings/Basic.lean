import ShapeCheck.Validator

/-!
# Settings

* `Settings`: how strictly schemas are checked, where schemas are found, and formats of one's own;
* `Validator.ofSettings`: the validator that settings ask for.

Formats come before schemas, since schemas may name them.
-/

namespace ShapeCheck

/-- How strictly schemas are checked, the directories with schemas, and a pattern for each format of
one's own. -/
structure Settings where
  checkSchema : Bool
  rejectUnsupported : Bool
  schemaDirs : List String
  formats : Table String

namespace Settings

/-- Strict, without schemas and without formats of one's own. -/
def default : Settings := ⟨true, true, [], .empty⟩

instance : Inhabited Settings := ⟨default⟩

end Settings

namespace Validator

/-- File a format for each name, unless a pattern is refused. -/
def registerPatterns (v : Validator) : List (String × String) → Except Failure Validator
  | [] => .ok v
  | (name, source) :: rest =>
    match Format.ofSource? source with
    | some f => (v.registerFormat name f).registerPatterns rest
    | none => .error (.invalidFormatPattern name)

/-- Load one directory after the other.  Rejected documents are passed over. -/
def loadDirectories (v : Validator) (fs : FileSystem) : List String → Except Failure Validator
  | [] => .ok v
  | dir :: rest =>
    match v.loadDirectory fs dir with
    | (.ok _, v) => v.loadDirectories fs rest
    | (.error failure, _) => .error failure

/-- The validator that settings ask for. -/
def ofSettings (fs : FileSystem) (s : Settings) : Except Failure Validator := do
  let start : Validator :=
    { new with checkSchema := s.checkSchema, rejectUnsupported := s.rejectUnsupported }
  let v ← start.registerPatterns s.formats.entries
  v.loadDirectories fs s.schemaDirs

end Validator

end ShapeCheck

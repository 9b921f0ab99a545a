import ShapeCheck.Settings.Source
import ShapeCheck.Toml.Writer

/-!
# Settings as documents

* `Settings.document`: settings as a TOML document, formats in their order;
* `Settings.save`: the file system with settings in a file.
-/

namespace ShapeCheck.Settings

/-- A name with its value on a line. -/
def line (name value : String) : String := name ++ " = " ++ value ++ "\n"

/-- Settings as a TOML document. -/
def document (s : Settings) : String :=
  "[validation]\n" ++
  line "check_schema" (Setting.flagText s.checkSchema) ++
  line "reject_unsupported_keywords" (Setting.flagText s.rejectUnsupported) ++
  "\n[store]\n" ++
  line "schema_dirs" (Toml.writtenStrings s.schemaDirs) ++
  "\n[formats]\n" ++
  String.join (s.formats.entries.map fun (name, source) =>
    line (Toml.writtenKey name) (Toml.writtenString source))

/-- The file system with settings in a file. -/
def save (s : Settings) (fs : FileSystem) (path : String) : Except Failure FileSystem :=
  (fs.write path s.document).mapError .io

end ShapeCheck.Settings

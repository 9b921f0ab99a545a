import ShapeCheck.Json.Basic
import ShapeCheck.Table
import ShapeCheck.Toml.Value
import ShapeCheck.Unicode.Lowercase
import ShapeCheck.Yaml.Node

/-!
# Layers of settings

Settings come from several sources, and what a later one says is laid over what earlier ones say.

* `Setting`: a value as sources give it, and `ofToml`, `ofJson`, `ofYaml?`: the values of documents;
* `Setting.assign`: a named value laid over a table: tables are merged name by name, everything else
  is replaced, and names are in lower case;
* `Setting.truth?`, `Setting.text?`, `Setting.parts?`: a value read as a flag, as a text, or as a
  record.
-/

namespace ShapeCheck

/-- A value as sources of settings give it. -/
inductive Setting where
  | null
  | bool (value : Bool)
  | integer (value : Int)
  | float (value : Extended)
  | text (value : String)
  | list (elements : List Setting)
  | table (entries : List (String × Setting))

namespace Setting

instance : Inhabited Setting := ⟨null⟩

/-- The table without entries. -/
def empty : Setting := table []

/-- The entries, none if the value is no table. -/
def entries : Setting → List (String × Setting)
  | table entries => entries
  | _ => []

/-- The elements, none if the value is no list. -/
def elements : Setting → List Setting
  | list elements => elements
  | _ => []

/-! ### Sources -/

mutual

/-- A value of a TOML document. -/
def ofToml : Toml.Value → Setting
  | .string s => text s
  | .integer i => integer i
  | .float x => float x
  | .bool b => bool b
  | .datetime s => text s
  | .array vs => list (ofTomlElements vs)
  | .table entries => table (ofTomlEntries entries)
termination_by structural v => v

/-- The elements of an array. -/
def ofTomlElements : List Toml.Value → List Setting
  | [] => []
  | v :: rest => ofToml v :: ofTomlElements rest
termination_by structural vs => vs

/-- The entries of a table. -/
def ofTomlEntries : Toml.Entries → List (String × Setting)
  | [] => []
  | (name, v) :: rest => (name, ofToml v) :: ofTomlEntries rest
termination_by structural entries => entries

end

/-- A number of a JSON document; integers of more than 63 bits become doubles. -/
def ofNumber : Json.Number → Setting
  | .integer i h =>
    if i < 9223372036854775808 then integer i else float (.finite (Binary64.ofInt i h))
  | .double x => float (.finite x)

mutual

/-- A value of a JSON document. -/
def ofJson : Json → Setting
  | .null => null
  | .bool b => bool b
  | .number n => ofNumber n
  | .string s => text s
  | .array vs => list (ofJsonElements vs)
  | .object ms => table (ofJsonMembers ms)
termination_by structural v => v

/-- The elements of an array. -/
def ofJsonElements : List Json → List Setting
  | [] => []
  | v :: rest => ofJson v :: ofJsonElements rest
termination_by structural vs => vs

/-- The members of an object. -/
def ofJsonMembers : Json.Members → List (String × Setting)
  | [] => []
  | (name, v) :: rest => (name, ofJson v) :: ofJsonMembers rest
termination_by structural ms => ms

end

/-- A flag as a text. -/
def flagText (b : Bool) : String := if b then "true" else "false"

/-- The name that a scalar of a YAML document gives an entry. -/
def yamlName? : Yaml.Scalar → Option String
  | .text s => some s
  | .real s => some s
  | .integer i => some (toString i)
  | .bool b => some (flagText b)
  | _ => none

/-- A scalar of a YAML document.  A number must be one without words as well, of which only that for
no number is known. -/
def ofYamlScalar? : Yaml.Scalar → Option Setting
  | .text s => some (text s)
  | .real s => (Extended.ofText? s).map float
  | .integer i => some (integer i)
  | .bool b => some (bool b)
  | _ => some null

mutual

/-- A value of a YAML document. -/
def ofYaml? : Yaml.Node → Option Setting
  | .scalar v => ofYamlScalar? v
  | .list vs => (ofYamlElements? vs).map list
  | .table entries => (ofYamlEntries? [] entries).map table
termination_by structural v => v

/-- The elements of a list. -/
def ofYamlElements? : List Yaml.Node → Option (List Setting)
  | [] => some []
  | v :: rest => do
    let first ← ofYaml? v
    some (first :: (← ofYamlElements? rest))
termination_by structural vs => vs

/-- The entries of a table after those given; of those with one name the last one stays. -/
def ofYamlEntries? (done : List (String × Setting)) :
    List (Yaml.Scalar × Yaml.Node) → Option (List (String × Setting))
  | [] => some done
  | (name, v) :: rest => do
    ofYamlEntries? (put (← yamlName? name) (← ofYaml? v) done) rest
termination_by structural entries => entries

end

/-! ### Laying one value over another -/

mutual

/-- The value with a named value laid over it; what is no table becomes one. -/
def assign (name : String) : Setting → Setting → Setting
  | table incoming, here =>
    let name := Unicode.lowerCase name
    let old := (here.entries.lookup name).getD empty
    table (put name (assignAll incoming old) here.entries)
  | v, here => table (put (Unicode.lowerCase name) v here.entries)
termination_by structural v => v

/-- The value with named values laid over it one after the other. -/
def assignAll : List (String × Setting) → Setting → Setting
  | [], here => here
  | (name, v) :: rest, here => assignAll rest (assign name v here)
termination_by structural incoming => incoming

end

/-! ### Reading -/

/-- A value read as a flag: a flag, a number, or a word for one in any case. -/
def truth? : Setting → Option Bool
  | bool b => some b
  | integer i => some (i ≠ 0)
  | float x => some !x.isZero
  | text s =>
    let word := Unicode.lowerCase s
    if word ∈ ["1", "true", "on", "yes"] then some true
    else if word ∈ ["0", "false", "off", "no"] then some false
    else none
  | _ => none

/-- A value read as a text: a text, a flag or a number. -/
def text? : Setting → Option String
  | text s => some s
  | bool b => some (flagText b)
  | integer i => some (toString i)
  | float x => some x.text
  | _ => none

/-- The parts of a record, by name in a table and by position in a list. -/
def parts? (names : List String) : Setting → Option (List (Option Setting))
  | table entries => some (names.map fun name => entries.lookup name)
  | list elements => some (names.mapIdx fun i _ => elements[i]?)
  | _ => none

end Setting

end ShapeCheck

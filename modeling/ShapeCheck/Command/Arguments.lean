/-!
# Command lines

* `Command`: what is asked for, and `Request`: a command with the options for all commands;
* `OptionSpec`: an option with its short and its long form;
* `Word`: an option or another argument;
* `Request.ofArguments?`: the request of a command line, unless the command line is misused.

Options may stand before and behind the name of the command; an option that is given on both sides
counts as it stands behind it.  An argument behind two dashes is never an option.  An option that
takes one value is given at most once on each side.
-/

namespace ShapeCheck

/-- What is asked for. -/
inductive Command where
  | check (schema : String)
  | validate (files : List String) (name : Option String) (schemaDirs : List String)
  | formats
  deriving DecidableEq, Repr

/-- A command with the options for all commands. -/
structure Request where
  config : Option String
  json : Bool
  command : Command
  deriving DecidableEq, Repr

namespace Command

/-- An option, with or without a value. -/
structure OptionSpec where
  long : String
  short : Option Char
  takesValue : Bool

/-- The options for all commands. -/
def globalOptions : List OptionSpec := [⟨"config", some 'c', true⟩, ⟨"json", none, false⟩]

/-- The options for validating. -/
def validateOptions : List OptionSpec :=
  [⟨"name", some 'n', true⟩, ⟨"schema-dir", some 'd', true⟩]

/-- An option with its value, if it takes one, or another argument. -/
inductive Word where
  | option (long : String) (value : Option String)
  | other (text : String)
  deriving DecidableEq, Repr

/-- Whether an argument is read as an option. -/
def looksLikeOption (arg : String) : Bool := arg.startsWith "-" && arg ≠ "-"

/-- The part before the first equals sign, and the part behind it. -/
def cutAtEquals (cs : List Char) : List Char × Option (List Char) :=
  match cs.dropWhile (· ≠ '=') with
  | _ :: value => (cs.takeWhile (· ≠ '='), some value)
  | [] => (cs, none)

/-- An argument as an option: the option and the value that is part of the argument. -/
def option? (specs : List OptionSpec) (arg : String) : Option (OptionSpec × Option String) :=
  match arg.toList with
  | '-' :: '-' :: cs => do
    let (name, value) := cutAtEquals cs
    let spec ← specs.find? fun spec => spec.long.toList = name
    some (spec, value.map String.ofList)
  | '-' :: c :: cs => do
    let spec ← specs.find? fun spec => spec.short = some c
    match cs with
    | [] => some (spec, none)
    | '=' :: value => some (spec, some (String.ofList value))
    | value => some (spec, some (String.ofList value))
  | _ => none

/-- The words of a command line up to the first argument that is no option, and what follows it.
With `all`, the words of the whole command line. -/
def words? (specs : List OptionSpec) (all : Bool) :
    List String → Option (List Word × List String)
  | [] => some ([], [])
  | arg :: rest =>
    if arg = "--" then if all then some (rest.map .other, []) else none
    else if looksLikeOption arg then do
      let (spec, attached) ← option? specs arg
      if spec.takesValue then
        match attached with
        | some value => do
          let (ws, rest) ← words? specs all rest
          some (.option spec.long (some value) :: ws, rest)
        | none =>
          match rest with
          | [] => none
          | value :: rest =>
            if looksLikeOption value then none
            else do
              let (ws, rest) ← words? specs all rest
              some (.option spec.long (some value) :: ws, rest)
      else if attached.isSome then none
      else do
        let (ws, rest) ← words? specs all rest
        some (.option spec.long none :: ws, rest)
    else if all then do
      let (ws, rest) ← words? specs all rest
      some (.other arg :: ws, rest)
    else some ([], arg :: rest)

/-- The values of an option. -/
def values (long : String) (ws : List Word) : List String :=
  ws.filterMap fun
    | .option name value => if name = long then value else none
    | .other _ => none

/-- How often an option is given. -/
def occurrences (long : String) (ws : List Word) : Nat :=
  ws.countP fun
    | .option name _ => name = long
    | .other _ => false

/-- The arguments that are no options. -/
def others (ws : List Word) : List String :=
  ws.filterMap fun
    | .option _ _ => none
    | .other text => some text

/-- The value of an option that is given at most once. -/
def single? (long : String) (ws : List Word) : Option (Option String) :=
  if occurrences long ws ≤ 1 then some (values long ws).head? else none

/-- Whether an option without a value is given, at most once. -/
def flag? (long : String) (ws : List Word) : Option Bool :=
  if occurrences long ws ≤ 1 then some (decide (occurrences long ws = 1)) else none

/-- Names of files, which may not be empty. -/
def paths? (paths : List String) : Option (List String) :=
  if paths.all (· ≠ "") then some paths else none

/-- The options of a command. -/
def optionsOf (name : String) : List OptionSpec :=
  globalOptions ++ (if name = "validate" then validateOptions else [])

/-- The command of a name and the words behind it. -/
def ofWords? (name : String) (ws : List Word) : Option Command := do
  let files ← paths? (others ws)
  match name, files with
  | "check", [schema] => some (check schema)
  | "formats", [] => some formats
  | "validate", files => do
    let schemaName ← single? "name" ws
    let dirs ← paths? (values "schema-dir" ws)
    if files.length ≤ 2 ∧ (files ≠ [] ∨ schemaName.isSome) then
      some (validate files schemaName dirs)
    else none
  | _, _ => none

end Command

namespace Request

open Command

/-- The request of a command line, unless the command line is misused. -/
def ofArguments? (args : List String) : Option Request := do
  let (front, rest) ← words? globalOptions false args
  let frontConfig ← single? "config" front
  let frontJson ← flag? "json" front
  match rest with
  | [] => none
  | name :: args => do
    let (ws, _) ← words? (optionsOf name) true args
    let config ← single? "config" ws
    let json ← flag? "json" ws
    some ⟨config.or frontConfig, json || frontJson, ← ofWords? name ws⟩

end Request

end ShapeCheck

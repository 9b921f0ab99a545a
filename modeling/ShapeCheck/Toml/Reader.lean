import ShapeCheck.Toml.Number
import ShapeCheck.Toml.Text
import ShapeCheck.Toml.Tree

/-!
# Reading TOML documents

* `value?`: a value that nests at most as deep as given;
* `Statement`: an assignment or one of the two headers;
* `statements?`: what a document says, line by line;
* `build?`: the tables that statements make;
* `Value.settled?`: dates in place of tables that stand for them;
* `read?`: the table of a document, or nothing if the document is malformed.
-/

namespace ShapeCheck.Toml

/-! ### Values -/

/-- The elements of an array after its bracket, and what follows it; the fuel bounds their
number. -/
def elements? (value : List Char → Option (Value × List Char)) :
    Nat → List Char → Option (List Value × List Char)
  | 0, _ => none
  | fuel + 1, cs =>
    match skipLines false cs with
    | ']' :: rest => some ([], rest)
    | cs => do
      let (v, rest) ← value cs
      match skipLines false rest with
      | ']' :: rest => some ([v], rest)
      | ',' :: rest => do
        let (vs, rest) ← elements? value fuel rest
        some (v :: vs, rest)
      | _ => none

/-- The assignments of a table on one line, and what follows it; the fuel bounds their number. -/
def members? (value : List Char → Option (Value × List Char)) :
    Nat → Branches → List Char → Option (Branches × List Char)
  | 0, _, _ => none
  | fuel + 1, done, cs => do
    let ((path, name), rest) ← keyPath? cs
    match rest with
    | '=' :: rest => do
      let (v, rest) ← value (skipBlank rest)
      let done ← Tree.assign path name v done
      match skipBlank rest with
      | ',' :: rest => members? value fuel done rest
      | '\x7d' :: rest => some (done, rest)
      | _ => none
    | _ => none

/-- A value that nests at most as deep as given, and what follows it. -/
def value? (depth : Nat) (cs : List Char) : Option (Value × List Char) :=
  match cs with
  | '[' :: rest =>
    match depth with
    | 0 => none
    | depth + 1 =>
      (elements? (value? depth) (rest.length + 1) rest).map fun (vs, rest) => (.array vs, rest)
  | '\x7b' :: rest =>
    match depth with
    | 0 => none
    | depth + 1 =>
      match skipBlank rest with
      | '\x7d' :: rest => some (.table [], rest)
      | cs =>
        (members? (value? depth) (cs.length + 1) [] cs).map fun (branches, rest) =>
          (.table (Tree.toEntries branches), rest)
  | c :: rest =>
    if c = '"' ∨ c = '\'' then
      (string? (c :: rest)).map fun (s, rest) => (.string s, rest)
    else
      let (word, rest) := cutWord (c :: rest)
      (word? word).map fun v => (v, rest)
  | [] => none
termination_by structural depth

/-! ### Statements -/

/-- What a line of a document says. -/
inductive Statement where
  | assign (path : List String) (name : String) (v : Value)
  | declare (path : List String) (name : String)
  | append (path : List String) (name : String)

/-- The names of a header with the brackets behind them, to the end of the line. -/
def header? (brackets cs : List Char) : Option ((List String × String) × List Char) := do
  let (names, rest) ← keyPath? cs
  if brackets.isPrefixOf rest then some (names, ← lineEnd? (rest.drop brackets.length)) else none

/-- A name with its value, to the end of the line. -/
def assignment? (cs : List Char) : Option (Statement × List Char) := do
  let ((path, name), rest) ← keyPath? cs
  match rest with
  | '=' :: rest => do
    let (v, rest) ← value? maxDepth (skipBlank rest)
    some (.assign path name v, ← lineEnd? rest)
  | _ => none

/-- One statement and what follows its line. -/
def statement? : List Char → Option (Statement × List Char)
  | '[' :: '[' :: rest =>
    (header? [']', ']'] rest).map fun ((path, name), rest) => (.append path name, rest)
  | '[' :: rest => (header? [']'] rest).map fun ((path, name), rest) => (.declare path name, rest)
  | cs => assignment? cs

/-- All statements of a text; the fuel bounds their number. -/
def statements? : Nat → List Char → Option (List Statement)
  | 0, _ => none
  | fuel + 1, cs =>
    match skipLines false cs with
    | [] => some []
    | cs => do
      let (s, rest) ← statement? cs
      some (s :: (← statements? fuel rest))

/-! ### Tables that stand for dates -/

/-- The name of a first entry that makes a table stand for a date or a time. -/
def dateMark : String := "$__toml_private_datetime"

mutual

/-- The value with dates in place of the tables that stand for them.  The first entry of such a
table is a string with the date, and its other entries say nothing. -/
def Value.settled? : Value → Option Value
  | .array vs => (settledElements? vs).map .array
  | .table [] => some (.table [])
  | .table ((name, v) :: rest) =>
    if name = dateMark then
      match v with
      | .string s => (looseMoment? s.toList).map fun cs => .datetime (String.ofList cs)
      | _ => none
    else do some (.table ((name, ← v.settled?) :: (← settledEntries? rest)))
  | v => some v
termination_by structural v => v

/-- The elements of an array with dates in place of tables. -/
def settledElements? : List Value → Option (List Value)
  | [] => some []
  | v :: rest => do some ((← v.settled?) :: (← settledElements? rest))
termination_by structural vs => vs

/-- The entries of a table with dates in place of tables. -/
def settledEntries? : Entries → Option Entries
  | [] => some []
  | (name, v) :: rest => do some ((name, ← v.settled?) :: (← settledEntries? rest))
termination_by structural entries => entries

end

/-! ### Documents -/

/-- The tables that statements make, after those made before; `here` leads to the open one. -/
def build? (here : List String) (done : Branches) : List Statement → Option Branches
  | [] => some done
  | .assign path name v :: rest => do
    build? here (← Tree.assignIn here path name v done) rest
  | .declare path name :: rest => do
    build? (path ++ [name]) (← Tree.declare path name done) rest
  | .append path name :: rest => do
    build? (path ++ [name]) (← Tree.append path name done) rest

/-- The mark that may stand in front of a document. -/
def byteOrderMark : Char := '\uFEFF'

/-- A text without the mark in front of it. -/
def withoutMark : List Char → List Char
  | [] => []
  | c :: rest => if c = byteOrderMark then rest else c :: rest

/-- The table of a document. -/
def read? (text : String) : Option Entries := do
  let cs := withoutMark text.toList
  let branches ← build? [] [] (← statements? (cs.length + 1) cs)
  match ← (Value.table (Tree.toEntries branches)).settled? with
  | .table entries => some entries
  | _ => none

end ShapeCheck.Toml

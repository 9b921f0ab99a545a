import ShapeCheck.Table
import ShapeCheck.Toml.Value

/-!
# Tables under construction

A document says piece by piece what is in its tables.  Until its end it is open which tables may
still get entries, and from where.

* `Origin`: how a table came about;
* `Tree`: a finished value, a table, or a list of tables of which the last one is open;
* `Tree.descend`: a change of the table at the end of a path;
* `Tree.assign`, `Tree.declare`, `Tree.append`: what an assignment and the two headers do;
* `Tree.toValue`: the value of a tree.

No name gets two values and no table two headers.  A table made by dotted names gets entries through
such names alone, and a table with a header of its own is closed to them.
-/

namespace ShapeCheck.Toml

/-- How a table came about: by a header, on the way of a header, or on the way of a dotted name. -/
inductive Origin where
  | declared
  | implied
  | dotted
  deriving DecidableEq

/-- A finished value, a table, or a list of tables, the last one first. -/
inductive Tree where
  | value (v : Value)
  | table (origin : Origin) (entries : List (String × Tree))
  | tables (elements : List (List (String × Tree)))

/-- Names with their trees. -/
abbrev Branches := List (String × Tree)

namespace Tree

/-- Change the table at the end of a path.  Tables that are missing on the way come about as
`made` says, and a list of tables stands for its last one. -/
def descend (made : Origin) (change : Origin → Branches → Option Branches) :
    List String → Origin → Branches → Option Branches
  | [], origin, branches => change origin branches
  | name :: path, _, branches => do
    let next ← match branches.lookup name with
      | none => (descend made change path made []).map (table made)
      | some (value _) => none
      | some (table origin inner) =>
        if made = .dotted ∧ origin = .declared then none
        else (descend made change path origin inner).map (table origin)
      | some (tables []) => none
      | some (tables (last :: earlier)) =>
        (descend made change path .declared last).map fun last => tables (last :: earlier)
    some (put name next branches)

/-- Give a name at the end of a path a value, starting from a table with a header.  A path of more
than no names has to end in a table made by dotted names. -/
def assign (path : List String) (name : String) (v : Value) : Branches → Option Branches :=
  descend .dotted (fun origin branches =>
    if (origin = .dotted ↔ path ≠ []) ∧ branches.lookup name = none then
      some (branches ++ [(name, value v)])
    else none) path .declared

/-- Open the table of a header.  A table that was on the way of a header before moves to the end. -/
def declare (path : List String) (name : String) : Branches → Option Branches :=
  descend .implied (fun _ branches =>
    match branches.lookup name with
    | none => some (branches ++ [(name, table .declared [])])
    | some (table .implied inner) =>
      some (branches.filter (·.1 ≠ name) ++ [(name, table .declared inner)])
    | some _ => none) path .declared

/-- Open one more table of a list of tables. -/
def append (path : List String) (name : String) : Branches → Option Branches :=
  descend .implied (fun _ branches =>
    match branches.lookup name with
    | none => some (branches ++ [(name, tables [[]])])
    | some (tables elements) => some (put name (tables ([] :: elements)) branches)
    | some _ => none) path .declared

/-- Make an assignment in the open table, which is at the end of a path. -/
def assignIn (here : List String) (path : List String) (name : String) (v : Value) :
    Branches → Option Branches :=
  descend .implied (fun _ branches => assign path name v branches) here .declared

mutual

/-- The value of a tree. -/
def toValue : Tree → Value
  | value v => v
  | table _ branches => .table (toEntries branches)
  | tables elements => .array (toElements [] elements)
termination_by structural t => t

/-- The values of branches. -/
def toEntries : Branches → Entries
  | [] => []
  | (name, t) :: rest => (name, toValue t) :: toEntries rest
termination_by structural branches => branches

/-- The tables of a list, in order of their headers. -/
def toElements (later : List Value) : List Branches → List Value
  | [] => later
  | branches :: rest => toElements (.table (toEntries branches) :: later) rest
termination_by structural elements => elements

end

end Tree

end ShapeCheck.Toml

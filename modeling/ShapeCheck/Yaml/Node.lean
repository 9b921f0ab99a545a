import ShapeCheck.Binary64.Extended

/-!
# Values of YAML documents

* `Scalar`: a value that is neither a list nor a table, and `ofPlain`, `ofTagged`: what the text of
  a scalar without quotes stands for;
* `Node`: a value;
* `Node.ofPairs?`: the table of names and values in turn.
-/

namespace ShapeCheck.Yaml

open Text (integer? numberOf? ofBits? signed)

/-- A value that is neither a list nor a table.  Of a number that is no integer the text is kept,
and `invalid` is what a text stands for that does not suit its tag. -/
inductive Scalar where
  | invalid
  | null
  | bool (value : Bool)
  | integer (value : Int)
  | real (text : String)
  | text (value : String)
  deriving DecidableEq

namespace Scalar

/-- The words for numbers that are no digits. -/
def numberWords : List String :=
  [".inf", ".Inf", ".INF", "+.inf", "+.Inf", "+.INF", "-.inf", "-.Inf", "-.INF", ".nan", "NaN",
    ".NAN"]

/-- Whether a text is a number: a word for one, or digits with what may stand around them. -/
def isReal (s : String) : Bool :=
  numberWords.contains s || (s.any Char.isDigit && (Extended.ofText? s).isSome)

/-- An integer of 64 bits to a base, with an optional sign. -/
def integerTo? (base : Nat) (cs : List Char) : Option Int :=
  let (negative, ds) := signed cs
  if ds.isEmpty then none
  else (numberOf? base ds).bind fun n => ofBits? (if negative then -(n : Int) else n)

/-- The integer that a mark announces. -/
def marked? : List Char → Option Int
  | '0' :: 'x' :: rest => integerTo? 16 rest
  | '0' :: 'o' :: rest => integerTo? 8 rest
  | '+' :: rest => integer? rest
  | _ => none

/-- What the text of a scalar without quotes stands for. -/
def ofPlain (s : String) : Scalar :=
  match marked? s.toList with
  | some i => integer i
  | none =>
    if ["", "~", "null"].contains s then null
    else if ["true", "True", "TRUE"].contains s then bool true
    else if ["false", "False", "FALSE"].contains s then bool false
    else
      match integer? s.toList with
      | some i => integer i
      | none => if isReal s then real s else text s

/-- A value, or else one that is not valid. -/
def orInvalid (v? : Option Scalar) : Scalar := v?.getD invalid

/-- What the text of a scalar without quotes stands for under a tag of the core. -/
def ofTagged (suffix s : String) : Scalar :=
  if suffix = "bool" then
    if s = "true" then bool true else if s = "false" then bool false else invalid
  else if suffix = "int" then orInvalid ((integer? s.toList).map integer)
  else if suffix = "float" then if isReal s then real s else invalid
  else if suffix = "null" then if s = "~" ∨ s = "null" then null else invalid
  else text s

end Scalar

/-- A value: a scalar, a list, or a table by scalars. -/
inductive Node where
  | scalar (value : Scalar)
  | list (elements : List Node)
  | table (entries : List (Scalar × Node))

namespace Node

instance : Inhabited Node := ⟨scalar .null⟩

/-- The value that nothing stands for. -/
def null : Node := scalar .null

/-- The entries of a table after those given, the name in front of the next value being known or
`invalid`.  A value in the place of a name that is not valid becomes the name.  No name stands
twice, and none is a list or a table. -/
def entriesOf? (name : Scalar) (done : List (Scalar × Node)) :
    List Node → Option (List (Scalar × Node))
  | [] => some done
  | v :: rest =>
    if name = .invalid then
      match v with
      | scalar next => entriesOf? next done rest
      | _ => none
    else if done.any fun entry => entry.1 = name then none
    else entriesOf? .invalid (done ++ [(name, v)]) rest

/-- The table of names and values in turn. -/
def ofPairs? (nodes : List Node) : Option Node := (entriesOf? .invalid [] nodes).map table

end Node

end ShapeCheck.Yaml

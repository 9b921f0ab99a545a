import ShapeCheck.Settings.Value
import ShapeCheck.Text.Basic

/-!
# Paths into settings

The name of a setting at the top of a source may be a path: a name, then a dot and a name for an
entry of a table or brackets with a number for an element of a list.

* `KeyPath`: the first name of a path, and the steps after it;
* `KeyPath.ofText`: the path of a text; a text that is malformed is a name as a whole;
* `Setting.store?`: a value put where a path leads, if there can be something.
-/

namespace ShapeCheck

open Text (decimalValue)

namespace Setting

/-- A step into a value: to an entry, or to an element, counted from the end if negative. -/
inductive Step where
  | entry (name : String)
  | element (index : Int)
  deriving DecidableEq, Repr

end Setting

/-- A name at the top, and the steps after it. -/
structure KeyPath where
  first : String
  steps : List Setting.Step
  deriving DecidableEq, Repr

namespace KeyPath

open Setting (Step)

/-- A character of a name in a path. -/
def isNameChar (c : Char) : Bool := c.isAlphanum || c = ' ' || c = '_' || c = '-'

/-- A name at the start, and what follows it. -/
def name? (cs : List Char) : Option (String × List Char) :=
  let name := cs.takeWhile isNameChar
  if name.isEmpty then none else some (String.ofList name, cs.dropWhile isNameChar)

/-- Numbers of elements stay below this one. -/
def indexLimit : Nat := 9223372036854775808

/-- A blank beside a number in brackets. -/
def isBlank (c : Char) : Bool := c = ' ' || c = '\t'

/-- A number in brackets, and what follows it. -/
def index? (cs : List Char) : Option (Int × List Char) :=
  let cs := cs.dropWhile isBlank
  let (negative, cs) := match cs with
    | '-' :: rest => (true, rest)
    | rest => (false, rest)
  let ds := cs.takeWhile Char.isDigit
  let n := decimalValue ds
  match (cs.dropWhile Char.isDigit).dropWhile isBlank with
  | ']' :: rest =>
    if ds.isEmpty then none
    else if negative then if n ≤ indexLimit then some (-(n : Int), rest) else none
    else if n < indexLimit then some (n, rest)
    else none
  | _ => none

/-- The steps of a text; the fuel bounds their number. -/
def steps? : Nat → List Char → Option (List Step)
  | 0, _ => none
  | fuel + 1, cs =>
    match cs with
    | [] => some []
    | '.' :: rest => do
      let (name, rest) ← name? rest
      some (.entry name :: (← steps? fuel rest))
    | '[' :: rest => do
      let (i, rest) ← index? rest
      some (.element i :: (← steps? fuel rest))
    | _ => none

/-- The path of a text, if it is well-formed. -/
def ofText? (s : String) : Option KeyPath := do
  let (first, rest) ← name? s.toList
  some ⟨first, ← steps? (rest.length + 1) rest⟩

/-- The path of a text; a text that is malformed is a name as a whole. -/
def ofText (s : String) : KeyPath := (ofText? s).getD ⟨s, []⟩

end KeyPath

namespace Setting

/-- The greatest number of elements that a list is extended to. -/
def maxLength : Nat := 16777216

/-- The place of an element in a list of some length.  There are no places before the first, and
none too far behind the last. -/
def place? (length : Nat) (i : Int) : Option Nat :=
  if 0 ≤ i then
    if i.toNat < max length maxLength then some i.toNat else none
  else if i.natAbs ≤ length then some (length - i.natAbs)
  else none

/-- Put a value where steps lead, if there are such places.  What is missing on the way, and what is
not of the right kind, becomes a table or a list. -/
def storeAt? (v : Setting) : List Step → Setting → Option Setting
  | [], _ => some v
  | [.entry name], here => some (assign name v here)
  | .entry name :: rest, here => do
    let name := Unicode.lowerCase name
    let next ← storeAt? v rest ((here.entries.lookup name).getD null)
    some (table (put name next here.entries))
  | .element i :: rest, here => do
    let xs := here.elements
    let n ← place? xs.length i
    let next ← storeAt? v rest (xs[n]?.getD null)
    some (list ((xs ++ List.replicate (n + 1 - xs.length) null).set n next))

/-- Put a value where a path leads. -/
def store? (path : KeyPath) (v : Setting) : Setting → Option Setting :=
  storeAt? v (.entry path.first :: path.steps)

end Setting

end ShapeCheck

import ShapeCheck.Json.Basic
import ShapeCheck.Binary64.Shortest

/-!
# JSON text

* `Json.quoted`: a string in quotes, with short escapes where there are some and `\u00xx` for
  the other control characters;
* `Json.compact`: a value without blanks;
* `Json.indented`: a value over several lines, two blanks for each level, empty containers closed
  at once.
-/

namespace ShapeCheck.Json

/-- One character of a string. -/
def escapedChar (c : Char) : List Char :=
  match c with
  | '"' => ['\\', '"']
  | '\\' => ['\\', '\\']
  | '\n' => ['\\', 'n']
  | '\r' => ['\\', 'r']
  | '\t' => ['\\', 't']
  | '\x08' => ['\\', 'b']
  | '\x0c' => ['\\', 'f']
  | c =>
    if c.toNat < 32 then
      ['\\', 'u', '0', '0', Nat.digitChar (c.toNat / 16), Nat.digitChar (c.toNat % 16)]
    else [c]

/-- A string in quotes. -/
def quoted (s : String) : String :=
  String.ofList ('"' :: (s.toList.flatMap escapedChar ++ ['"']))

/-- The text of a number. -/
def Number.text : Number → String
  | integer i _ => toString i
  | double x => x.documentText

/-- The text of a truth value. -/
def boolText (b : Bool) : String := if b then "true" else "false"

mutual

/-- A value without blanks. -/
def compact : Json → String
  | null => "null"
  | bool b => boolText b
  | number n => n.text
  | string s => quoted s
  | array xs => "[" ++ compactElements xs ++ "]"
  | object ms => "\x7b" ++ compactMembers ms ++ "\x7d"
termination_by structural j => j

/-- Elements with commas between. -/
def compactElements : List Json → String
  | [] => ""
  | x :: rest => compact x ++ (if rest.isEmpty then "" else ",") ++ compactElements rest
termination_by structural xs => xs

/-- Members with commas between. -/
def compactMembers : Members → String
  | [] => ""
  | (name, value) :: rest =>
    quoted name ++ ":" ++ compact value ++ (if rest.isEmpty then "" else ",") ++ compactMembers rest
termination_by structural ms => ms

end

/-- A line break and the blanks of a level. -/
def lineBreak (level : Nat) : String := "\n" ++ String.ofList (List.replicate (2 * level) ' ')

mutual

/-- A value over several lines, at a level. -/
def indentedAt (level : Nat) : Json → String
  | array xs =>
    if xs.isEmpty then "[]"
    else "[" ++ indentedElements (level + 1) xs ++ lineBreak level ++ "]"
  | object ms =>
    if ms.isEmpty then "\x7b\x7d"
    else "\x7b" ++ indentedMembers (level + 1) ms ++ lineBreak level ++ "\x7d"
  | null => "null"
  | bool b => boolText b
  | number n => n.text
  | string s => quoted s
termination_by structural j => j

/-- Elements, each on lines of its own. -/
def indentedElements (level : Nat) : List Json → String
  | [] => ""
  | x :: rest =>
    lineBreak level ++ indentedAt level x ++ (if rest.isEmpty then "" else ",") ++
      indentedElements level rest
termination_by structural xs => xs

/-- Members, each on lines of its own. -/
def indentedMembers (level : Nat) : Members → String
  | [] => ""
  | (name, value) :: rest =>
    lineBreak level ++ quoted name ++ ": " ++ indentedAt level value ++
      (if rest.isEmpty then "" else ",") ++ indentedMembers level rest
termination_by structural ms => ms

end

/-- A value over several lines. -/
def indented (j : Json) : String := indentedAt 0 j

end ShapeCheck.Json

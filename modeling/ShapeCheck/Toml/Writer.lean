import ShapeCheck.Toml.Text

/-!
# Writing TOML strings and names

* `writtenString`: a string in the simplest of six forms that can hold it;
* `writtenKey`: a name, bare if it can be;
* `writtenStrings`: an array of strings, each on a line of its own if there are several.

The forms are tried in order: on one line without escapes, in double or in single quotes; over
several lines without escapes, in double or in single quotes; and at last with escapes, over several
lines if the string has several.  A tab needs no escape, but between double quotes it gets one.
-/

namespace ShapeCheck.Toml

/-- A character that cannot be written without an escape in any form. -/
def isControl (c : Char) : Bool := (c.toNat < 32 && c ≠ '\t' && c ≠ '\n') || c.toNat = 127

/-- Whether there are at least three of a quote in a row, of which some have been seen already. -/
def hasThree (quote : Char) (seen : Nat) : List Char → Bool
  | [] => false
  | c :: rest =>
    if c = quote then decide (2 ≤ seen) || hasThree quote (seen + 1) rest
    else hasThree quote 0 rest

/-- Four digits to the base sixteen. -/
def fourHex (n : Nat) : List Char :=
  [n / 4096 % 16, n / 256 % 16, n / 16 % 16, n % 16].map fun d => (Nat.digitChar d).toUpper

/-- A character with an escape if it needs one between double quotes; quotes are seen to apart. -/
def escapedChar (c : Char) : List Char :=
  match c with
  | '\x08' => ['\\', 'b']
  | '\t' => ['\\', 't']
  | '\n' => ['\\', 'n']
  | '\x0c' => ['\\', 'f']
  | '\r' => ['\\', 'r']
  | '"' => ['\\', '"']
  | '\\' => ['\\', '\\']
  | c => if isControl c then '\\' :: 'u' :: fourHex c.toNat else [c]

/-- Text over several lines with escapes; `bare` more quotes in a row need none. -/
def escapedLines (bare : Nat) : List Char → List Char
  | [] => []
  | '"' :: rest =>
    match bare with
    | 0 => '\\' :: '"' :: escapedLines 2 rest
    | bare + 1 => '"' :: escapedLines bare rest
  | '\n' :: rest => '\n' :: escapedLines 2 rest
  | c :: rest => escapedChar c ++ escapedLines 2 rest

/-- Text between single quotes or double quotes. -/
def between (quote : Char) (body : List Char) : List Char := quote :: body ++ [quote]

/-- Text between three quotes on each side, starting on a line of its own if it has several. -/
def betweenThree (quote : Char) (body : List Char) : List Char :=
  let quotes := List.replicate 3 quote
  quotes ++ (if body.contains '\n' then ['\n'] else []) ++ body ++ quotes

/-- Whether a string can stand on one line between quotes, but for its tabs, as it is. -/
def fitsLine (quote : Char) (cs : List Char) : Bool :=
  !cs.any isControl && !cs.contains '\n' && !cs.contains quote &&
    (quote = '\'' || !cs.contains '\\')

/-- Whether a string can stand between three quotes on each side, but for its tabs, as it is. -/
def fitsLines (quote : Char) (cs : List Char) : Bool :=
  !cs.any isControl && !hasThree quote 0 cs && (quote = '\'' || !cs.contains '\\')

/-- A string. -/
def writtenChars (cs : List Char) : List Char :=
  if fitsLine '"' cs then between '"' (cs.flatMap escapedChar)
  else if fitsLine '\'' cs then between '\'' cs
  else if fitsLines '"' cs then betweenThree '"' (escapedLines 2 cs)
  else if fitsLines '\'' cs then betweenThree '\'' cs
  else if cs.contains '\n' then betweenThree '"' (escapedLines 2 cs)
  else between '"' (cs.flatMap escapedChar)

/-- A string. -/
def writtenString (s : String) : String := String.ofList (writtenChars s.toList)

/-- A name. -/
def writtenKey (name : String) : String :=
  let cs := name.toList
  if !cs.isEmpty && cs.all isBare then name
  else String.ofList <|
    if !fitsLine '"' cs && fitsLine '\'' cs then between '\'' cs
    else between '"' (cs.flatMap escapedChar)

/-- An array of strings. -/
def writtenStrings (ss : List String) : String :=
  match ss with
  | [] => "[]"
  | [s] => "[" ++ writtenString s ++ "]"
  | ss => "[" ++ String.join (ss.map fun s => "\n    " ++ writtenString s ++ ",") ++ "\n]"

end ShapeCheck.Toml

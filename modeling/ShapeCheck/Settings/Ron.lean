import ShapeCheck.Settings.Value
import ShapeCheck.Text.Items

/-!
# Settings in object notation

* `skip`: blanks and comments, of which those in blocks nest;
* `name?`: plain names, and names with a mark in front that allows more characters;
* `text?`: strings with escapes, strings without, and single characters;
* `number?`: integers to four bases, and floats;
* `Ron.read?`: the settings of a document; a document that is no table has none.

Each reader answers with what it has read and what follows it, or with nothing.
-/

namespace ShapeCheck.Ron

open Text (Read push after? charOfCode? digitOf? numberOf? ofBits? signed items?)

/-! ### Blanks and comments -/

/-- A blank or the end of a line. -/
def isBlank (c : Char) : Bool := c = ' ' || c = '\t' || c = '\n' || c = '\r'

/-- Where a reader is between two items; blocks are counted. -/
inductive Gap where
  | blank
  | line
  | block (outer : Nat)

/-- What follows blanks and comments.  Of a block without an end a slash is left, which nothing
begins with. -/
def skipFrom : Gap → List Char → List Char
  | .blank, '/' :: '/' :: rest => skipFrom .line rest
  | .blank, '/' :: '*' :: rest => skipFrom (.block 0) rest
  | .blank, c :: rest => if isBlank c then skipFrom .blank rest else c :: rest
  | .line, c :: rest => skipFrom (if c = '\n' then .blank else .line) rest
  | .block outer, '/' :: '*' :: rest => skipFrom (.block (outer + 1)) rest
  | .block 0, '*' :: '/' :: rest => skipFrom .blank rest
  | .block (outer + 1), '*' :: '/' :: rest => skipFrom (.block outer) rest
  | .block outer, _ :: rest => skipFrom (.block outer) rest
  | .block _, [] => ['/']
  | _, [] => []

/-- What follows blanks and comments. -/
def skip (cs : List Char) : List Char := skipFrom .blank cs

/-! ### Names -/

/-- A character that names can have. -/
def isNamed (c : Char) : Bool := c.isAlphanum || c = '_'

/-- A character that marked names can have. -/
def isMarked (c : Char) : Bool := isNamed c || c = '.' || c = '+' || c = '-'

/-- A name, in front of which `r#` may stand.  What starts a raw string is no name, and neither is
what only a marked name could be. -/
def name? (cs : List Char) : Read String :=
  match cs with
  | 'r' :: '"' :: _ => none
  | 'r' :: '#' :: rest =>
    let name := rest.takeWhile isMarked
    if name.isEmpty then none else some (String.ofList name, rest.drop name.length)
  | _ =>
    let name := cs.takeWhile isNamed
    if name.isEmpty || name.head?.any Char.isDigit || name ≠ cs.takeWhile isMarked then none
    else some (String.ofList name, cs.drop name.length)

/-- What follows a word, if it comes first and ends there. -/
def afterWord? (word : String) (cs : List Char) : Option (List Char) :=
  let rest := cs.drop word.length
  if word.toList.isPrefixOf cs && !rest.head?.any isNamed then some rest else none

/-! ### Texts -/

/-- Up to six hexadecimal digits in braces. -/
def codeInBraces? (cs : List Char) : Option (Char × List Char) := do
  let rest ← after? '\x7b' cs
  let ds := rest.takeWhile (· ≠ '\x7d')
  let rest ← after? '\x7d' (rest.drop ds.length)
  if ds.isEmpty || 6 < ds.length then none
  else some (← (numberOf? 16 ds).bind charOfCode?, rest)

/-- The character that an escape stands for. -/
def escape? : List Char → Read Char
  | '\'' :: rest => some ('\'', rest)
  | '"' :: rest => some ('"', rest)
  | '\\' :: rest => some ('\\', rest)
  | 'n' :: rest => some ('\n', rest)
  | 'r' :: rest => some ('\r', rest)
  | 't' :: rest => some ('\t', rest)
  | '0' :: rest => some ('\x00', rest)
  | 'x' :: a :: b :: rest => ((numberOf? 16 [a, b]).bind charOfCode?).map (·, rest)
  | 'u' :: rest => codeInBraces? rest
  | _ => none

/-- The characters of a string up to its closing quote; the fuel bounds their number. -/
def body? : Nat → List Char → Option (List Char × List Char)
  | 0, _ => none
  | fuel + 1, cs =>
    match cs with
    | [] => none
    | '"' :: rest => some ([], rest)
    | '\\' :: rest => do
      let (c, rest) ← escape? rest
      push (some c) (body? fuel rest)
    | c :: rest => push (some c) (body? fuel rest)

/-- The characters of a string without escapes, up to a quote with as many marks behind it as stood
in front. -/
def rawBody? (marks : List Char) : List Char → Read (List Char)
  | [] => none
  | c :: rest =>
    if c = '"' && marks.isPrefixOf rest then some ([], rest.drop marks.length)
    else push (some c) (rawBody? marks rest)

/-- A string, a string without escapes, or a single character. -/
def text? (cs : List Char) : Option (String × List Char) :=
  match cs with
  | '"' :: rest => (body? cs.length rest).map fun (s, rest) => (String.ofList s, rest)
  | 'r' :: rest => do
    let marks := rest.takeWhile (· = '#')
    let rest ← after? '"' (rest.drop marks.length)
    (rawBody? marks rest).map fun (s, rest) => (String.ofList s, rest)
  | '\'' :: '\\' :: rest => do
    let (c, rest) ← escape? rest
    some (String.ofList [c], ← after? '\'' rest)
  | '\'' :: c :: rest =>
    if c = '\'' then none else (after? '\'' rest).map fun rest => (String.ofList [c], rest)
  | _ => none

/-! ### Numbers -/

/-- A character that integers can have. -/
def isWhole (c : Char) : Bool := (digitOf? 16 c).isSome || c = '_'

/-- A character that floats can have. -/
def isFloating (c : Char) : Bool :=
  c.isDigit || c = '.' || c = 'e' || c = 'E' || c = '+' || c = '-' || c = '_'

/-- The base that stands in front of an integer, and what follows. -/
def base : List Char → Nat × List Char
  | '0' :: 'x' :: rest => (16, rest)
  | '0' :: 'o' :: rest => (8, rest)
  | '0' :: 'b' :: rest => (2, rest)
  | cs => (10, cs)

/-- A natural number; underscores may stand behind the first digit. -/
def natural? (cs : List Char) : Option (Nat × List Char) := do
  let (base, cs) := base cs
  let ds := cs.takeWhile isWhole
  if ds.isEmpty || ds.head? = some '_' then none
  else some (← numberOf? base (ds.filter (· ≠ '_')), cs.drop ds.length)

/-- An integer: of 64 bits with a sign, or else of 64 bits without, of which those that take all 64
become floats. -/
def integer? (cs : List Char) : Option (Setting × List Char) := do
  let (negative, body) := signed cs
  let (n, rest) ← natural? body
  if body.length < cs.length then
    some (.integer (← ofBits? (if negative then -n else n)), rest)
  else if n < 9223372036854775808 then some (.integer n, rest)
  else if n < 18446744073709551616 then some (.float (.ofScientific false n 0), rest)
  else none

/-- A float. -/
def float? (cs : List Char) : Option (Setting × List Char) := do
  let ds := cs.takeWhile isFloating
  some (.float (← Extended.ofText? (String.ofList ds)), cs.drop ds.length)

/-- A number.  It is a float if more characters at its start are those of floats than those of
integers, or if it is no integer. -/
def number? (cs : List Char) : Read Setting :=
  let body := (signed cs).2
  if (body.takeWhile isWhole).length < (body.takeWhile isFloating).length then float? cs
  else integer? cs <|> float? cs

/-! ### Values -/

/-- The words for values. -/
def words : List (String × Setting) := [
  ("true", .bool true),
  ("false", .bool false),
  ("None", .null),
  ("inf", .float (.infinite false)),
  ("-inf", .float (.infinite true)),
  ("NaN", .float .nan)]

/-- The value of a word at the start, and what follows it. -/
def word? (cs : List Char) : Read Setting :=
  words.findSome? fun (word, v) => (afterWord? word cs).map (v, ·)

/-- A name, a colon and a value. -/
def named? (name? : List Char → Read String) (value : List Char → Read Setting)
    (cs : List Char) : Option ((String × Setting) × List Char) := do
  let (name, rest) ← name? cs
  let rest ← after? ':' (skip rest)
  let (v, rest) ← value (skip rest)
  some ((name, v), rest)

/-- The table of entries; of those with one name the last one stays. -/
def tableOf (entries : List (String × Setting)) : Setting :=
  .table (entries.foldl (fun done (name, v) => put name v done) [])

/-- Whether the first item is one with a name. -/
def isNamedEntry (cs : List Char) : Bool :=
  match name? cs with
  | some (_, rest) => (skip rest).head? = some ':'
  | none => false

/-- What stands in parentheses, behind the opening one: entries with names or a list. -/
def group? (value : List Char → Read Setting) (cs : List Char) : Read Setting :=
  if isNamedEntry (skip cs) then
    (items? skip (named? name? value) ')' cs).map fun (es, rest) => (tableOf es, rest)
  else
    (items? skip value ')' cs).map fun (vs, rest) => (.list vs, rest)

/-- A single value in parentheses. -/
def wrapped? (value : List Char → Read Setting) (cs : List Char) :
    Option (Setting × List Char) := do
  let rest ← after? '(' (skip cs)
  let (v, rest) ← value (skip rest)
  let rest := skip rest
  some (v, ← after? ')' (skip ((after? ',' rest).getD rest)))

/-- A value that nests less deep than given. -/
def value? : Nat → List Char → Read Setting
  | 0, _ => none
  | depth + 1, cs =>
    match cs, word? cs, afterWord? "Some" cs, name? cs with
    | _, some r, _, _ => some r
    | _, none, some rest, _ => wrapped? (value? depth) rest
    | _, none, none, some (_, rest) =>
      match after? '(' (skip rest) with
      | some inner => group? (value? depth) inner
      | none => some (.null, skip rest)
    | '(' :: ')' :: rest, none, none, none => some (.null, rest)
    | '(' :: rest, none, none, none => group? (value? depth) rest
    | '[' :: rest, none, none, none =>
      (items? skip (value? depth) ']' rest).map fun (vs, rest) => (.list vs, rest)
    | '\x7b' :: rest, none, none, none =>
      (items? skip (named? text? (value? depth)) '\x7d' rest).map fun (es, rest) =>
        (tableOf es, rest)
    | cs, none, none, none =>
      (text? cs).map (fun (s, rest) => (.text s, rest)) <|> number? cs

/-- The deepest nesting that is read. -/
def maxDepth : Nat := 128

/-! ### Documents -/

/-- The extensions of the notation that a document may ask for. -/
def extensions : List String := ["unwrap_newtypes", "implicit_some", "unwrap_variant_newtypes"]

/-- The name of an extension. -/
def extension? (cs : List Char) : Read String :=
  (name? cs).filter fun (name, _) => extensions.contains name

/-- What follows words with blanks behind each. -/
def afterAll? : List String → List Char → Option (List Char)
  | [], cs => some cs
  | word :: words, cs =>
    if word.toList.isPrefixOf cs then afterAll? words (skip (cs.drop word.length)) else none

/-- What follows the attributes of a document, which ask for extensions; the fuel bounds their
number. -/
def afterAttributes? : Nat → List Char → Option (List Char)
  | 0, _ => none
  | fuel + 1, cs =>
    match cs with
    | '#' :: _ => do
      let rest ← afterAll? ["#", "!", "[", "enable", "("] cs
      let (names, rest) ← items? skip extension? ')' rest
      if names.isEmpty then none else afterAttributes? fuel (← afterAll? ["]"] (skip rest))
    | _ => some cs

/-- The value of a document. -/
def document? (cs : List Char) : Option Setting := do
  let (v, rest) ← value? maxDepth (← afterAttributes? (cs.length + 1) (skip cs))
  if (skip rest).isEmpty then some v else none

/-- The settings of a document. -/
def read? (text : String) : Option (List (String × Setting)) :=
  (document? text.toList).map Setting.entries

end ShapeCheck.Ron

import ShapeCheck.Settings.Value
import ShapeCheck.Text.Items
import ShapeCheck.Unicode.Property

/-!
# Settings in JSON5

* `skip`: blanks and comments;
* `string?`, `key?`: strings, and names with or without quotes;
* `number?`: integers to the base ten or sixteen, other numbers, and words for numbers;
* `Json5.read?`: the settings of a document, whose value is an object.

Each reader answers with what it has read and what follows it, or with nothing.
-/

namespace ShapeCheck.Json5

open Text (Read push numberOf? charOfCode? integer? items?)

/-! ### Blanks and comments -/

/-- The characters that end a line. -/
def isLineEnd (c : Char) : Bool := c = '\n' || c = '\r' || c = '\u2028' || c = '\u2029'

/-- A blank or the end of a line. -/
def isBlank (c : Char) : Bool :=
  isLineEnd c || ['\t', '\x0b', '\x0c', '\ufeff'].contains c ||
    Unicode.covers Unicode.spaceSeparator c.toNat

/-- Where a reader is between two items. -/
inductive Gap where
  | blank
  | line
  | block

/-- What follows blanks and comments.  Of a comment without an end a slash is left, which nothing
begins with. -/
def skipFrom : Gap → List Char → List Char
  | .blank, '/' :: '/' :: rest => skipFrom .line rest
  | .blank, '/' :: '*' :: rest => skipFrom .block rest
  | .blank, c :: rest => if isBlank c then skipFrom .blank rest else c :: rest
  | .line, c :: rest => if isLineEnd c then skipFrom .blank rest else skipFrom .line rest
  | .block, '*' :: '/' :: rest => skipFrom .blank rest
  | .block, _ :: rest => skipFrom .block rest
  | .block, [] => ['/']
  | _, [] => []

/-- What follows blanks and comments. -/
def skip (cs : List Char) : List Char := skipFrom .blank cs

/-! ### Strings and names -/

/-- The code of the character that an escape of one character stands for.  A character without a
meaning of its own stands for itself. -/
def escaped? : Char → Option Nat
  | '0' => some 0
  | 'b' => some 8
  | 't' => some 9
  | 'n' => some 10
  | 'v' => some 11
  | 'f' => some 12
  | 'r' => some 13
  | c => if c.isDigit || c = 'x' || c = 'u' then none else some c.toNat

/-- The codes of a string up to its closing quote. -/
def codes? (quote : Char) : List Char → Read (List Nat)
  | [] => none
  | '\\' :: '\r' :: '\n' :: rest => codes? quote rest
  | '\\' :: 'x' :: a :: b :: rest => push (numberOf? 16 [a, b]) (codes? quote rest)
  | '\\' :: 'u' :: a :: b :: c :: d :: rest =>
    push (numberOf? 16 [a, b, c, d]) (codes? quote rest)
  | '\\' :: c :: rest =>
    if isLineEnd c then codes? quote rest else push (escaped? c) (codes? quote rest)
  | c :: rest =>
    if c = quote then some ([], rest)
    else push (if c = '\\' || c = '\n' || c = '\r' then none else some c.toNat) (codes? quote rest)

/-- The code point of a leading and a trailing surrogate. -/
def joined (high low : Nat) : Nat := (high - 0xD800) * 0x400 + (low - 0xDC00) + 0x10000

/-- The characters of codes; surrogates must stand in pairs. -/
def chars? : List Nat → Option (List Char)
  | [] => some []
  | [n] => (charOfCode? n).map ([·])
  | n :: m :: rest =>
    if 0xD800 ≤ n ∧ n ≤ 0xDBFF ∧ 0xDC00 ≤ m ∧ m ≤ 0xDFFF then do
      some ((← charOfCode? (joined n m)) :: (← chars? rest))
    else do
      some ((← charOfCode? n) :: (← chars? (m :: rest)))

/-- The text of codes that have been read. -/
def text? (r : Read (List Nat)) : Option (String × List Char) := do
  let (codes, rest) ← r
  some (String.ofList (← chars? codes), rest)

/-- A character with which a name may start. -/
def startsName (c : Char) : Bool :=
  c = '$' || c = '_' ||
    (Unicode.letterNumber :: Unicode.letter).any fun runs => Unicode.covers runs c.toNat

/-- A character with which a name may go on. -/
def continuesName (c : Char) : Bool :=
  startsName c || c = '\u200c' || c = '\u200d' || Unicode.diacritic.has c.toNat ||
    [Unicode.nonspacingMark, Unicode.decimalNumber, Unicode.connectorPunctuation].any fun runs =>
      Unicode.covers runs c.toNat

/-- The codes of the longest name that comes first; `isNamed` tells the characters that may come
next. -/
def nameCodes (isNamed : Char → Bool) : List Char → List Nat × List Char
  | '\\' :: 'u' :: a :: b :: c :: d :: rest =>
    match numberOf? 16 [a, b, c, d] with
    | some n =>
      let (codes, rest) := nameCodes continuesName rest
      (n :: codes, rest)
    | none => ([], '\\' :: 'u' :: a :: b :: c :: d :: rest)
  | c :: rest =>
    if isNamed c then
      let (codes, rest) := nameCodes continuesName rest
      (c.toNat :: codes, rest)
    else ([], c :: rest)
  | [] => ([], [])

/-- A name of an entry: a name or a string. -/
def key? : List Char → Read String
  | '"' :: rest => text? (codes? '"' rest)
  | '\'' :: rest => text? (codes? '\'' rest)
  | cs =>
    let (codes, rest) := nameCodes startsName cs
    if codes.isEmpty then none else text? (some (codes, rest))

/-! ### Numbers -/

/-- The text of an exponent, which may be missing. -/
def exponent (cs : List Char) : List Char × List Char :=
  match cs with
  | [] => ([], [])
  | mark :: rest =>
    let sign := rest.takeWhile (fun c => c = '+' || c = '-') |>.take 1
    let ds := (rest.drop sign.length).takeWhile Char.isDigit
    if (mark = 'e' ∨ mark = 'E') ∧ ds ≠ [] then
      (mark :: sign ++ ds, rest.drop (sign.length + ds.length))
    else ([], cs)

/-- The whole digits of a number; nothing follows a zero. -/
def wholeDigits (cs : List Char) : List Char :=
  if cs.head? = some '0' then ['0'] else cs.takeWhile Char.isDigit

/-- The text of a decimal number without sign. -/
def decimal? (cs : List Char) : Read (List Char) :=
  let whole := wholeDigits cs
  match cs.drop whole.length with
  | '.' :: rest =>
    let fraction := rest.takeWhile Char.isDigit
    let (tail, rest) := exponent (rest.drop fraction.length)
    if whole.isEmpty && fraction.isEmpty then none
    else some (whole ++ '.' :: fraction ++ tail, rest)
  | rest =>
    let (tail, rest) := exponent rest
    if whole.isEmpty then none else some (whole ++ tail, rest)

/-- The value of the text of a decimal number with its sign: an integer of 64 bits if it has neither
a point nor an exponent, a finite double otherwise. -/
def decimalValue? (cs : List Char) : Option Setting :=
  if cs.any fun c => c = '.' || c = 'e' || c = 'E' then
    match Extended.ofText? (String.ofList cs) with
    | some (.finite x) => some (.float (.finite x))
    | _ => none
  else (integer? cs).map .integer

/-- An integer of 32 bits to the base sixteen. -/
def hexadecimal? (cs : List Char) : Option (Setting × List Char) := do
  let ds := cs.takeWhile fun c => (Text.digitOf? 16 c).isSome
  let n ← numberOf? 16 ds
  if ds.isEmpty || 4294967296 ≤ n then none else some (.integer n, cs.drop ds.length)

/-- The words for numbers, with the signs that they may have. -/
def numberWords : List (List Char × Extended) := [
  ("Infinity".toList, .infinite false),
  ("-Infinity".toList, .infinite true),
  ("NaN".toList, .nan),
  ("-NaN".toList, .nan)]

/-- The number of a word at the start, and what follows it. -/
def numberWord? (cs : List Char) : Read Setting :=
  numberWords.findSome? fun (word, x) =>
    if word.isPrefixOf cs then some (.float x, cs.drop word.length) else none

/-- A number. -/
def number? (cs : List Char) : Option (Setting × List Char) :=
  match cs with
  | '0' :: 'x' :: rest => hexadecimal? rest
  | '0' :: 'X' :: rest => hexadecimal? rest
  | _ =>
    match numberWord? cs with
    | some r => some r
    | none => do
      let sign := cs.takeWhile (fun c => c = '+' || c = '-') |>.take 1
      let (ds, rest) ← decimal? (cs.drop sign.length)
      some (← decimalValue? (sign ++ ds), rest)

/-! ### Values -/

/-- The words for values. -/
def words : List (List Char × Setting) := [
  ("null".toList, .null),
  ("true".toList, .bool true),
  ("false".toList, .bool false)]

/-- The value of a word at the start, and what follows it. -/
def word? (cs : List Char) : Read Setting :=
  words.findSome? fun (word, v) =>
    if word.isPrefixOf cs then some (v, cs.drop word.length) else none

/-- A name, a colon and a value. -/
def named? (value : List Char → Read Setting) (cs : List Char) :
    Option ((String × Setting) × List Char) := do
  let (name, rest) ← key? cs
  match skip rest with
  | ':' :: rest => do
    let (v, rest) ← value (skip rest)
    some ((name, v), rest)
  | _ => none

/-- The table of entries; of those with one name the last one stays. -/
def tableOf (entries : List (String × Setting)) : Setting :=
  .table (entries.foldl (fun done (name, v) => put name v done) [])

/-- A value that nests less deep than given. -/
def value? : Nat → List Char → Read Setting
  | 0, _ => none
  | depth + 1, cs =>
    match cs with
    | '[' :: rest => (items? skip (value? depth) ']' rest).map fun (vs, rest) => (.list vs, rest)
    | '\x7b' :: rest =>
      (items? skip (named? (value? depth)) '\x7d' rest).map fun (es, rest) => (tableOf es, rest)
    | '"' :: rest => (text? (codes? '"' rest)).map fun (s, rest) => (.text s, rest)
    | '\'' :: rest => (text? (codes? '\'' rest)).map fun (s, rest) => (.text s, rest)
    | cs => word? cs <|> number? cs

/-- The settings of a document. -/
def read? (text : String) : Option (List (String × Setting)) :=
  let cs := text.toList
  match value? (cs.length + 1) (skip cs) with
  | some (.table entries, rest) => if (skip rest).isEmpty then some entries else none
  | _ => none

end ShapeCheck.Json5

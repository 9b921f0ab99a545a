import ShapeCheck.Text.Basic

/-!
# Strings, names and blanks of TOML documents

* `skipBlank`, `skipLines`, `lineEnd?`: blanks, line ends and comments;
* `basicBody?`, `literalBody?`: strings on one line, with and without escapes;
* `basicLines?`, `literalLines?`: strings over several lines;
* `keyPath?`: names with dots between.

Each reader answers with what it has read and what follows it, or with nothing.
-/

namespace ShapeCheck.Toml

open Text (Read push numberOf? charOfCode?)

/-! ### Blanks -/

/-- A blank within a line. -/
def isBlank (c : Char) : Bool := c = ' ' || c = '\t'

/-- What follows the blanks. -/
def skipBlank (cs : List Char) : List Char := cs.dropWhile isBlank

/-- A character that may stand in comments and literal strings. -/
def isPlain (c : Char) : Bool := c = '\t' || (32 ≤ c.toNat && c.toNat ≠ 127)

/-- What follows blanks, line ends and comments; `comment` tells whether a comment is open. -/
def skipLines (comment : Bool) : List Char → List Char
  | [] => []
  | '\n' :: rest => skipLines false rest
  | '\r' :: '\n' :: rest => skipLines false rest
  | c :: rest =>
    if comment then if isPlain c then skipLines true rest else c :: rest
    else if isBlank c then skipLines false rest
    else if c = '#' then skipLines true rest
    else c :: rest

/-- What follows the end of a line, before which blanks and a comment may stand. -/
def lineEnd? (cs : List Char) : Option (List Char) :=
  let cs := match skipBlank cs with
    | '#' :: rest => rest.dropWhile isPlain
    | rest => rest
  match cs with
  | [] => some []
  | '\n' :: rest => some rest
  | '\r' :: '\n' :: rest => some rest
  | _ => none

/-! ### Strings -/

/-- A character if it may stand for itself. -/
def plain? (c : Char) : Option Char := if isPlain c then some c else none

/-- The character of hexadecimal digits. -/
def codePoint? (ds : List Char) : Option Char := (numberOf? 16 ds).bind charOfCode?

/-- The character of an escape of one letter. -/
def escaped? : Char → Option Char
  | 'b' => some '\x08'
  | 't' => some '\t'
  | 'n' => some '\n'
  | 'f' => some '\x0c'
  | 'r' => some '\r'
  | '"' => some '"'
  | '\\' => some '\\'
  | _ => none

/-- A string up to its closing quote, escapes replaced. -/
def basicBody? : List Char → Read (List Char)
  | [] => none
  | '"' :: rest => some ([], rest)
  | '\\' :: 'u' :: a :: b :: c :: d :: rest => push (codePoint? [a, b, c, d]) (basicBody? rest)
  | '\\' :: 'U' :: a :: b :: c :: d :: e :: f :: g :: h :: rest =>
    push (codePoint? [a, b, c, d, e, f, g, h]) (basicBody? rest)
  | '\\' :: c :: rest => push (escaped? c) (basicBody? rest)
  | c :: rest => push (plain? c) (basicBody? rest)

/-- A string up to its closing quote, with nothing replaced. -/
def literalBody? : List Char → Read (List Char)
  | [] => none
  | '\'' :: rest => some ([], rest)
  | c :: rest => push (plain? c) (literalBody? rest)

/-- What follows a line end at the very start. -/
def dropLineEnd : List Char → List Char
  | '\n' :: rest => rest
  | '\r' :: '\n' :: rest => rest
  | cs => cs

/-- Up to two further quotes after the three that close a string belong to it. -/
def closing (quote : Char) : List Char → List Char × List Char
  | a :: b :: rest =>
    if a = quote then if b = quote then ([a, b], rest) else ([a], b :: rest)
    else ([], a :: b :: rest)
  | [a] => if a = quote then ([a], []) else ([], [a])
  | [] => ([], [])

/-- Where a reader is in a string over several lines: in the text, before the line end that a
backslash has announced, or behind it, where blanks and line ends are left out. -/
inductive Place where
  | text
  | announced
  | skipping
  deriving DecidableEq

/-- A string over several lines up to its closing quotes, escapes replaced. -/
def basicLines? (place : Place) : List Char → Read (List Char)
  | [] => none
  | '\n' :: rest =>
    if place = .text then push '\n' (basicLines? .text rest) else basicLines? .skipping rest
  | '\r' :: '\n' :: rest =>
    if place = .text then push '\n' (basicLines? .text rest) else basicLines? .skipping rest
  | '"' :: '"' :: '"' :: rest =>
    if place = .announced then none else some (closing '"' rest)
  | '\\' :: 'u' :: a :: b :: c :: d :: rest =>
    if place = .announced then none
    else push (codePoint? [a, b, c, d]) (basicLines? .text rest)
  | '\\' :: 'U' :: a :: b :: c :: d :: e :: f :: g :: h :: rest =>
    if place = .announced then none
    else push (codePoint? [a, b, c, d, e, f, g, h]) (basicLines? .text rest)
  | '\\' :: '\r' :: '\n' :: rest =>
    if place = .announced then none else basicLines? .skipping rest
  | '\\' :: c :: rest =>
    if place = .announced then none
    else if isBlank c then basicLines? .announced rest
    else if c = '\n' then basicLines? .skipping rest
    else push (escaped? c) (basicLines? .text rest)
  | c :: rest =>
    if place ≠ .text ∧ isBlank c then basicLines? place rest
    else if place = .announced then none
    else push (plain? c) (basicLines? .text rest)

/-- A string over several lines up to its closing quotes, with nothing replaced. -/
def literalLines? : List Char → Read (List Char)
  | [] => none
  | '\n' :: rest => push '\n' (literalLines? rest)
  | '\r' :: '\n' :: rest => push '\n' (literalLines? rest)
  | '\'' :: '\'' :: '\'' :: rest => some (closing '\'' rest)
  | c :: rest => push (plain? c) (literalLines? rest)

/-- A string. -/
def string? : List Char → Read String
  | '"' :: '"' :: '"' :: rest =>
    (basicLines? .text (dropLineEnd rest)).map fun (cs, rest) => (String.ofList cs, rest)
  | '"' :: rest => (basicBody? rest).map fun (cs, rest) => (String.ofList cs, rest)
  | '\'' :: '\'' :: '\'' :: rest =>
    (literalLines? (dropLineEnd rest)).map fun (cs, rest) => (String.ofList cs, rest)
  | '\'' :: rest => (literalBody? rest).map fun (cs, rest) => (String.ofList cs, rest)
  | _ => none

/-! ### Names -/

/-- A character that a name can have without quotes. -/
def isBare (c : Char) : Bool := c.isAlphanum || c = '_' || c = '-'

/-- A single name, quoted on one line or bare. -/
def key? : List Char → Read String
  | '"' :: rest => (basicBody? rest).map fun (cs, rest) => (String.ofList cs, rest)
  | '\'' :: rest => (literalBody? rest).map fun (cs, rest) => (String.ofList cs, rest)
  | cs =>
    let name := cs.takeWhile isBare
    if name.isEmpty then none else some (String.ofList name, cs.dropWhile isBare)

/-- The most names that dots may join, and the deepest nesting of values. -/
def maxDepth : Nat := 79

/-- Names with dots between, at most as many as given, and what follows them and the blanks behind
them.  The last name is told apart from those on the way to it. -/
def dotted? : Nat → List Char → Option ((List String × String) × List Char)
  | 0, _ => none
  | most + 1, cs => do
    let (name, rest) ← key? (skipBlank cs)
    match skipBlank rest with
    | '.' :: rest => do
      let ((path, last), rest) ← dotted? most rest
      some ((name :: path, last), rest)
    | rest => some (([], name), rest)

/-- Names with dots between. -/
def keyPath? (cs : List Char) : Read (List String × String) := dotted? maxDepth cs

end ShapeCheck.Toml

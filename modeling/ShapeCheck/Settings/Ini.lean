import ShapeCheck.Settings.Value
import ShapeCheck.Unicode.Property

/-!
# Settings in sections

A document is a sequence of names with values, which lines of the form `[section]` divide.

* `span?`: characters up to a stop, escapes replaced;
* `value?`: a value, of which parts may be quoted;
* `Ini.read?`: the settings of a document: texts by name, and for each section a table of texts.
-/

namespace ShapeCheck.Ini

open Text (Read push charOfCode? numberOf?)

/-! ### Characters -/

/-- A blank or the end of a line. -/
def isBlank (c : Char) : Bool := Unicode.whiteSpace.has c.toNat

/-- The characters that end a line. -/
def isLineEnd (c : Char) : Bool := c = '\n' || c = '\r'

/-- Characters without the blanks at their end. -/
def trimEnd (cs : List Char) : List Char := (cs.reverse.dropWhile isBlank).reverse

/-- Characters without the blanks around them. -/
def trim (cs : List Char) : List Char := trimEnd (cs.dropWhile isBlank)

/-- The character that an escape of one character stands for. -/
def escaped : Char → Char
  | '0' => '\x00'
  | 'a' => '\x07'
  | 'b' => '\x08'
  | 't' => '\t'
  | 'r' => '\r'
  | 'n' => '\n'
  | c => c

/-- The character of four hexadecimal digits, in place of the first of which a sign may stand. -/
def ofCode? : List Char → Option Char
  | '+' :: ds => (numberOf? 16 ds).bind charOfCode?
  | ds => (numberOf? 16 ds).bind charOfCode?

/-- Characters up to a stop, escapes replaced, and what follows them; `openEnd` tells whether the
end of the text is a stop as well.  A backslash hides the end of a line. -/
def span? (stops : Char → Bool) (openEnd : Bool) : List Char → Read (List Char)
  | [] => if openEnd then some ([], []) else none
  | '\\' :: '\n' :: rest => span? stops openEnd rest
  | '\\' :: 'x' :: a :: b :: c :: d :: rest =>
    push (ofCode? [a, b, c, d]) (span? stops openEnd rest)
  | '\\' :: c :: rest =>
    push (if c = 'x' then none else some (escaped c)) (span? stops openEnd rest)
  | c :: rest =>
    if stops c then some ([], c :: rest)
    else push (if c = '\\' then none else some c) (span? stops openEnd rest)

/-! ### Values -/

/-- The parts of a value: quoted ones, and then the rest of the line without the blanks at its end.
The fuel bounds their number. -/
def parts? : Nat → List Char → Option (List Char × List Char)
  | 0, _ => none
  | fuel + 1, cs =>
    match cs with
    | [] => some ([], [])
    | c :: rest =>
      if c = '"' || c = '\'' then do
        let (part, rest) ← span? (· = c) false rest
        let (more, rest) ← parts? fuel (rest.drop 1)
        some (part ++ more, rest)
      else (span? isLineEnd true cs).map fun (part, rest) => (trimEnd part, rest)

/-- A value, and what follows it. -/
def value? (cs : List Char) : Read (List Char) :=
  let cs := cs.dropWhile fun c => isBlank c && !isLineEnd c
  match cs with
  | '"' :: _ => parts? (cs.length + 1) cs
  | '\'' :: _ => parts? (cs.length + 1) cs
  | _ => (parts? (cs.length + 1) cs).map fun (part, rest) => (trim part, rest)

/-! ### Documents -/

/-- The settings of a document up to some place, in reverse: sections come first, the last one
being open, and then the settings in no section. -/
structure Draft where
  sections : List (String × List (String × Setting))
  plain : List (String × Setting)

namespace Draft

/-- Nothing. -/
def empty : Draft := ⟨[], []⟩

/-- A section opened. -/
def openSection (d : Draft) (name : String) : Draft :=
  { d with sections := (name, []) :: d.sections }

/-- A setting put into the open section; one of that name is replaced. -/
def store (d : Draft) (name : String) (value : Setting) : Draft :=
  match d.sections with
  | [] => { d with plain := put name value d.plain }
  | (title, entries) :: rest => { d with sections := (title, put name value entries) :: rest }

/-- The settings.  Of sections with one name, and of a section and a setting, the last one stays. -/
def settings (d : Draft) : List (String × Setting) :=
  d.sections.reverse.foldl (fun done (title, entries) => put title (.table entries) done) d.plain

end Draft

/-- Where a reader of documents is: the character in front, and the name that waits for a value. -/
structure Place where
  before : Char
  name : String

/-- The settings of a document, after those of a draft; the fuel bounds the number of pieces. -/
def pieces? : Nat → Place → Draft → List Char → Option Draft
  | 0, _, _, _ => none
  | fuel + 1, place, d, cs =>
    let blanks := cs.takeWhile isBlank
    let before := blanks.getLast?.getD place.before
    match cs.drop blanks.length with
    | [] => some d
    | c :: rest =>
      if c = ';' || c = '#' then
        if before = '\n' then
          pieces? fuel { place with before := '\n' } d ((rest.dropWhile (· ≠ '\n')).drop 1)
        else none
      else if c = '[' then do
        let (title, rest) ← span? (· = ']') false rest
        pieces? fuel { place with before := ']' } (d.openSection (String.ofList (trim title)))
          (rest.drop 1)
      else if c = '=' || c = ':' then
        if place.name.isEmpty then none
        else do
          let (v, rest) ← value? rest
          pieces? fuel ⟨c, ""⟩ (d.store place.name (.text (String.ofList v))) rest
      else do
        let (name, rest) ← span? (fun c => c = '=' || c = ':') false (c :: rest)
        pieces? fuel ⟨c, String.ofList (trim name)⟩ d rest

/-- The settings of a document. -/
def read? (text : String) : Option (List (String × Setting)) :=
  (pieces? (text.length + 1) ⟨'\n', ""⟩ .empty text.toList).map Draft.settings

end ShapeCheck.Ini

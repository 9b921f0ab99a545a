/-!
# Places in YAML documents

* `Place`: what is left of a text, and where that is;
* `skip`, `take`, `nextLine`: what follows a blank, other characters, a line break;
* `skipToEnd?`: what follows the blanks and the comment at the end of a line;
* `atMarker`: whether a line comes next that marks the start or the end of a document.
-/

namespace ShapeCheck.Yaml

/-! ### Characters -/

/-- A blank within a line. -/
def isBlank (c : Char) : Bool := c = ' ' || c = '\t'

/-- A character that ends a line. -/
def isBreak (c : Char) : Bool := c = '\n' || c = '\r'

/-- A bracket, a brace or a comma. -/
def isFlow (c : Char) : Bool := [',', '[', ']', '\x7b', '\x7d'].contains c

/-- A character of the names of handles and directives. -/
def isWord (c : Char) : Bool := c.isAlphanum || c = '_' || c = '-'

/-- Whether a line ends here. -/
def endsLine (cs : List Char) : Bool := cs.head?.all isBreak

/-- Whether a word ends here. -/
def endsWord (cs : List Char) : Bool := cs.head?.all fun c => isBlank c || isBreak c

/-! ### Places -/

/-- What is left of a text and where that is.  Lines and columns are counted from zero, and
`leading` tells whether nothing but blanks stands in front on the line. -/
structure Place where
  rest : List Char
  index : Nat
  line : Nat
  column : Nat
  leading : Bool

namespace Place

/-- The start of a text. -/
def start (cs : List Char) : Place := ⟨cs, 0, 0, 0, true⟩

/-- Behind blanks. -/
def skip (p : Place) (n : Nat) : Place :=
  { p with rest := p.rest.drop n, index := p.index + n, column := p.column + n }

/-- Behind characters that are no blanks. -/
def take (p : Place) (n : Nat) : Place :=
  if n = 0 then p else { p.skip n with leading := false }

/-- Behind a line break. -/
def nextLine (p : Place) : Place :=
  match p.rest with
  | '\r' :: '\n' :: rest => ⟨rest, p.index + 2, p.line + 1, 0, true⟩
  | _ :: rest => ⟨rest, p.index + 1, p.line + 1, 0, true⟩
  | [] => p

/-- Behind everything on the line. -/
def skipLine (p : Place) : Place := p.take (p.rest.takeWhile (!isBreak ·)).length

/-- Behind blanks and a comment, in front of which a blank must stand; and the blanks. -/
def skipToEnd? (p : Place) : Option (List Char × Place) :=
  let blanks := p.rest.takeWhile isBlank
  let q := p.skip blanks.length
  if q.rest.head? = some '#' then if blanks.isEmpty then none else some (blanks, q.skipLine)
  else some (blanks, q)

/-- Whether a line comes next that starts with a mark. -/
def atMark (mark : String) (p : Place) : Bool :=
  p.column = 0 && mark.toList.isPrefixOf p.rest && endsWord (p.rest.drop mark.length)

/-- Whether a line comes next that marks the start or the end of a document. -/
def atMarker (p : Place) : Bool := p.atMark "---" || p.atMark "..."

end Place

end ShapeCheck.Yaml

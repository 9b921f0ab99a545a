import ShapeCheck.Yaml.Scalar
import ShapeCheck.Yaml.Token

/-!
# The tokens of a text

* `Lexer`: the tokens found so far, and what is known of the lines around the place reached;
* `Lexer.token?`: the lexer behind the next token;
* `tokens?`: all tokens of a text.

That a scalar or a bracket is a key shows only at the colon behind it.  Until then the place is kept
as a `Candidate`, and the token of the key is put in there later.
-/

namespace ShapeCheck.Yaml

/-- Where a key would start: the tokens in front, its place, and whether it must be a key. -/
structure Candidate where
  tokens : Nat
  index : Nat
  line : Nat
  column : Nat
  required : Bool

/-- The indentation around an indented part, and whether a token has to close that part. -/
structure Indent where
  outer : Int
  closes : Bool

/-- The tokens found so far with their columns, the candidate for a key at each level of brackets,
whether a key may start, the indentation, where a value needs no blank behind its colon, and whether
a table in brackets has begun, or one that stands in a list without brackets of its own. -/
structure Lexer where
  place : Place
  tokens : Array (Token × Nat)
  candidate : Option Candidate
  outer : List (Option Candidate)
  keyAllowed : Bool
  indent : Int
  indents : List Indent
  adjacent : Option Nat
  tableBegun : Bool
  bareTable : Bool

namespace Lexer

/-- The lexer at the start of a text. -/
def start (cs : List Char) : Lexer :=
  { place := .start cs, tokens := #[], candidate := none, outer := [], keyAllowed := true,
    indent := -1, indents := [], adjacent := none, tableBegun := false, bareTable := false }

/-- Whether the place is in brackets. -/
def inFlow (s : Lexer) : Bool := !s.outer.isEmpty

/-! ### Moves -/

/-- A token behind the others. -/
def push (s : Lexer) (t : Token) (column : Nat) : Lexer :=
  { s with tokens := s.tokens.push (t, column) }

/-- A token in front of those from a number on. -/
def insert (s : Lexer) (t : Token) (number column : Nat) : Lexer :=
  { s with tokens := s.tokens.insertIdxIfInBounds number (t, column) }

/-- Behind blanks and a comment at the end of the line. -/
def skipToEnd? (s : Lexer) : Option Lexer :=
  s.place.skipToEnd?.map fun (_, p) => { s with place := p }

/-- At the next token.  Tabs do not indent a line that is not empty; a line break outside of
brackets allows for a key.  The fuel bounds the number of characters. -/
def skipGap? : Nat → Lexer → Option Lexer
  | 0, _ => none
  | fuel + 1, s =>
    match s.place.rest with
    | [] => some s
    | c :: _ =>
      if c = '\t' ∧ !s.indents.isEmpty ∧ s.place.leading ∧ s.place.column < s.indent then do
        let s ← s.skipToEnd?
        if endsLine s.place.rest then skipGap? fuel s else none
      else if isBlank c then skipGap? fuel { s with place := s.place.skip 1 }
      else if isBreak c then
        skipGap? fuel { s with place := s.place.nextLine, keyAllowed := s.keyAllowed || !s.inFlow }
      else if c = '#' then skipGap? fuel { s with place := s.place.skipLine }
      else some s

/-! ### Keys -/

/-- The farthest that a colon may be from the start of its key. -/
def maxKey : Nat := 1024

/-- The lexer with a candidate at its place, if a key may start there.  It must be a key if a table
goes on in this column. -/
def candidateHere (s : Lexer) : Lexer :=
  if s.keyAllowed then
    { s with candidate := some {
        tokens := s.tokens.size
        index := s.place.index
        line := s.place.line
        column := s.place.column
        required :=
          !s.inFlow && s.indent == s.place.column && s.indents.head?.any Indent.closes } }
  else s

/-- The lexer without the candidate; one that must be a key may not be dropped. -/
def dropCandidate? (s : Lexer) : Option Lexer :=
  if s.candidate.any Candidate.required then none else some { s with candidate := none }

/-- The lexer without a candidate that is too far away or on another line. -/
def dropStale? (s : Lexer) : Option Lexer :=
  match s.candidate with
  | none => some s
  | some k =>
    if !s.inFlow && (k.line < s.place.line || k.index + maxKey < s.place.index) then
      s.dropCandidate?
    else some s

/-! ### Indentation -/

/-- Out of all parts that are indented more than a column. -/
def unroll (s : Lexer) (column : Int) : Lexer :=
  if s.inFlow then s else go s.indents s
where
  /-- Out of some of the parts. -/
  go : List Indent → Lexer → Lexer
    | [], s => s
    | i :: rest, s =>
      if column < s.indent then
        let s := { s with indent := i.outer, indents := rest }
        go rest (if i.closes then s.push .blockEnd s.place.column else s)
      else s

/-- Out of the parts that no token closes. -/
def unrollOpen (s : Lexer) : Lexer := go s.indents s
where
  /-- Out of some of the parts. -/
  go : List Indent → Lexer → Lexer
    | i :: rest, s => if i.closes then s else go rest { s with indent := i.outer, indents := rest }
    | [], s => s

/-- Into a part at a column, unless the place is in brackets or in that part already.  Its token
goes in front of those from a number on. -/
def roll (s : Lexer) (t : Token) (number column : Nat) : Lexer :=
  if s.inFlow then s
  else
    let s : Lexer :=
      match s.indents with
      | i :: rest =>
        if s.indent ≤ column ∧ !i.closes then { s with indent := i.outer, indents := rest } else s
      | [] => s
    if s.indent < (column : Int) then
      let s := { s with indent := column, indents := ⟨s.indent, true⟩ :: s.indents }
      if number < s.tokens.size then s.insert t number column else s.push t column
    else s

/-- Into a part of one column that no token closes. -/
def rollOne (s : Lexer) : Lexer :=
  if !s.inFlow && s.indents.head?.any Indent.closes then
    { s with indent := s.indent + 1, indents := ⟨s.indent, false⟩ :: s.indents }
  else s

/-! ### Directives and marks of documents -/

/-- Behind all indented parts, where no key may start. -/
def leave? (s : Lexer) : Option Lexer :=
  (s.unroll (-1)).dropCandidate?.map fun s => { s with keyAllowed := false }

/-- The mark of a document. -/
def mark? (s : Lexer) (t : Token) : Option Lexer :=
  s.leave?.map fun s => { s.push t s.place.column with place := s.place.take 3 }

/-- What follows a number of at most nine digits. -/
def afterNumber? (p : Place) : Option Place :=
  let ds := p.rest.takeWhile Char.isDigit
  if ds.isEmpty || 9 < ds.length then none else some (p.take ds.length)

/-- What follows a version: two numbers with a point between. -/
def afterVersion? (p : Place) : Option Place := do
  let p ← afterNumber? p
  if p.rest.head? = some '.' then afterNumber? (p.take 1) else none

/-- Behind blanks. -/
def afterBlanks (p : Place) : Place := p.skip (p.rest.takeWhile isBlank).length

/-- A handle: marks around a name, of which the second one may be missing outside of directives. -/
def handle? (directive : Bool) (p : Place) : Option (List Char × Place) :=
  match p.rest with
  | '!' :: rest =>
    let name := rest.takeWhile isWord
    if (rest.drop name.length).head? = some '!' then
      some ('!' :: name ++ ['!'], p.take (name.length + 2))
    else if directive ∧ !name.isEmpty then none
    else some ('!' :: name, p.take (name.length + 1))
  | _ => none

/-- A character of resource names. -/
def isResource (c : Char) : Bool :=
  c.isAlphanum || "-#;/?:@&=+$,_.!~*'()[]%".toList.contains c

/-- A character of tags. -/
def isTag (c : Char) : Bool := isResource c && !isFlow c && c ≠ '!'

/-- How many bytes the character has whose first byte is given. -/
def byteCount? (n : Nat) : Option Nat :=
  if n < 0x80 then some 1
  else if n / 0x20 = 6 then some 2
  else if n / 0x10 = 14 then some 3
  else if n / 0x08 = 30 then some 4
  else none

/-- A byte behind a percent sign. -/
def byte? : List Char → Option (Nat × List Char)
  | '%' :: a :: b :: rest => (Text.numberOf? 16 [a, b]).map (·, rest)
  | _ => none

/-- So many further bytes of a character, after the value of those in front. -/
def moreBytes? : Nat → Nat → List Char → Option (Nat × List Char)
  | 0, n, cs => some (n, cs)
  | count + 1, n, cs => do
    let (b, cs) ← byte? cs
    if b / 0x40 = 2 then moreBytes? count (n * 0x40 + b % 0x40) cs else none

/-- A character whose bytes stand behind percent signs. -/
def bytes? (cs : List Char) : Option (Char × List Char) := do
  let (b, cs) ← byte? cs
  let count ← byteCount? b
  let first := if count = 1 then b else if count = 2 then b % 0x20 else if count = 3 then b % 0x10
    else b % 0x08
  let (n, cs) ← moreBytes? (count - 1) first cs
  some (← Text.charOfCode? n, cs)

/-- The longest run of characters of a class, bytes behind percent signs read; the fuel bounds its
length. -/
def resource? (isPart : Char → Bool) : Nat → List Char → Option (List Char × List Char)
  | 0, _ => none
  | fuel + 1, cs =>
    match cs with
    | [] => some ([], [])
    | c :: rest =>
      if !isPart c then some ([], cs)
      else do
        let (c, rest) ← if c = '%' then bytes? cs else some (c, rest)
        let (more, rest) ← resource? isPart fuel rest
        some (c :: more, rest)

/-- A run of characters of a class and the place behind it. -/
def resourceAt? (isPart : Char → Bool) (p : Place) : Option (List Char × Place) :=
  (resource? isPart (p.rest.length + 1) p.rest).map fun (cs, rest) =>
    (cs, p.take (p.rest.length - rest.length))

/-- The handle and its expansion of a directive. -/
def handleDirective? (p : Place) : Option (Token × Place) := do
  let (name, p) ← handle? true (afterBlanks p)
  let p := afterBlanks p
  if !p.rest.head?.any (fun c => c = '!' || isTag c) then none
  else
    let (expansion, p) ← resourceAt? isResource p
    if endsWord p.rest then some (.handle (String.ofList name) (String.ofList expansion), p)
    else none

/-- A directive.  One that is not known counts as one for an empty handle. -/
def directive? (s : Lexer) : Option Lexer := do
  let s ← s.leave?
  let p := s.place.take 1
  let name := p.rest.takeWhile isWord
  let p := p.take name.length
  if name.isEmpty || !endsWord p.rest then none
  else
    let (t, p) ←
      if name = "YAML".toList then (afterVersion? (afterBlanks p)).map (Token.version, ·)
      else if name = "TAG".toList then handleDirective? p
      else some (.handle "" "", p.skipLine)
    let (_, p) ← p.skipToEnd?
    if endsLine p.rest then some { s.push t 0 with place := p.nextLine } else none

/-! ### Brackets and entries -/

/-- The deepest nesting of brackets. -/
def maxDepth : Nat := 255

/-- An opening bracket. -/
def opening? (s : Lexer) (t : Token) : Option Lexer :=
  let s := s.candidateHere.rollOne
  if maxDepth ≤ s.outer.length then none
  else
    let column := s.place.column
    let s : Lexer := { s with
      candidate := none
      outer := s.candidate :: s.outer
      keyAllowed := true
      place := s.place.take 1
      tableBegun := s.tableBegun || t == .tableStart }
    s.skipToEnd?.map (·.push t column)

/-- The end of a table that stands in a list without brackets. -/
def endBare (s : Lexer) : Lexer :=
  if s.bareTable then
    { s.push .tableEnd s.place.column with bareTable := false, tableBegun := false }
  else s

/-- A closing bracket. -/
def closing? (s : Lexer) (t : Token) : Option Lexer := do
  let s ← s.dropCandidate?
  let s : Lexer :=
    match s.outer with
    | k :: rest => { s with candidate := k, outer := rest }
    | [] => s
  let s := endBare { s with keyAllowed := false }
  let column := s.place.column
  let s ← { s with place := s.place.take 1 }.skipToEnd?
  let s := if s.inFlow then { s with adjacent := some s.place.index } else s
  some (s.push t column)

/-- A comma. -/
def comma? (s : Lexer) : Option Lexer := do
  let s ← s.dropCandidate?
  let s := endBare { s with keyAllowed := true }
  let column := s.place.column
  let s ← { s with place := s.place.take 1 }.skipToEnd?
  some (s.push .flowEntry column)

/-- A dash in front of an entry. -/
def dash? (s : Lexer) : Option Lexer :=
  let column := s.place.column
  let misplaced := match s.tokens.back? with
    | some (t, 0) => t.isProperty && column = 0 && -1 < s.indent
    | _ => false
  if s.inFlow || !s.keyAllowed || misplaced then none
  else do
    let s := { s with place := s.place.take 1 }.roll .blockList s.tokens.size column
    let (blanks, p) ← s.place.skipToEnd?
    if blanks.contains '\t' && p.rest.head? = some '-' && endsWord (p.rest.drop 1) then none
    else
      let s := { s with place := p }
      let s := if p.rest.head?.any fun c => isBreak c || isFlow c then s.rollOne else s
      let s ← s.dropCandidate?
      some ({ s with keyAllowed := true }.push .blockEntry s.place.column)

/-- Behind the blanks, line breaks and comments after the mark of a key, of which there must be one;
the fuel bounds their number. -/
def afterKey? : Nat → Lexer → Option Lexer
  | 0, _ => none
  | fuel + 1, s =>
    match s.place.rest with
    | ' ' :: _ => afterKey? fuel { s with place := s.place.skip 1 }
    | '#' :: _ => afterKey? fuel { s with place := s.place.skipLine }
    | '\t' :: _ => none
    | c :: _ =>
      if isBreak c then
        afterKey? fuel { s with place := s.place.nextLine, keyAllowed := s.keyAllowed || !s.inFlow }
      else some s
    | [] => some s

/-- The mark of a key. -/
def key? (s : Lexer) : Option Lexer := do
  let column := s.place.column
  let s ←
    if s.inFlow then some { s with tableBegun := true }
    else if s.keyAllowed then some (s.roll .blockTable s.tokens.size column)
    else none
  let s ← s.dropCandidate?
  let s := { s with keyAllowed := !s.inFlow, place := s.place.take 1 }
  if s.place.rest.isEmpty then none
  else (afterKey? (s.place.rest.length + 1) s).map (·.push .key column)

/-- The place behind a colon.  A tab alone does not divide it from a word. -/
def afterColon? (p : Place) : Option Place :=
  let p := p.take 1
  if p.rest.head? = some '\t' then do
    let (blanks, q) ← p.skipToEnd?
    if !blanks.contains ' ' && q.rest.head?.any isWord then none else some q
  else some p

/-- A colon in front of a value.  In front of it there is a key, which may be missing. -/
def value? (s : Lexer) : Option Lexer := do
  let start := s.place
  let bare := s.inFlow && !s.tableBegun
  let s := { s with bareTable := bare, place := ← afterColon? start }
  match s.candidate with
  | some k =>
    let s := s.insert .key k.tokens k.column
    if bare && k.line < start.line then none
    else
      let s := if bare then s.insert .tableStart k.tokens k.column else s
      let s := (s.roll .blockTable k.tokens k.column).rollOne
      some ({ s with candidate := none, keyAllowed := false }.push .value start.column)
  | none =>
    let s := if bare then s.push .tableStart start.column else s
    if !s.inFlow && !s.keyAllowed then none
    else
      let s := (s.roll .blockTable s.tokens.size start.column).rollOne
      some ({ s with keyAllowed := !s.inFlow }.push .value start.column)

/-! ### Properties and scalars -/

/-- A character of the names of anchors. -/
def isAnchor (c : Char) : Bool := !isBlank c && !isBreak c && !isFlow c && c ≠ '\ufeff'

/-- An anchor or an alias. -/
def anchor? (s : Lexer) (t : String → Token) : Option Lexer :=
  let s := { s.candidateHere with keyAllowed := false }
  let name := (s.place.rest.drop 1).takeWhile isAnchor
  if name.isEmpty then none
  else
    some { s.push (t (String.ofList name)) s.place.column with
      place := s.place.take (name.length + 1) }

/-- The handle and the suffix of a tag in full. -/
def fullTag? (p : Place) : Option ((List Char × List Char) × Place) := do
  let (suffix, p) ← resourceAt? isResource (p.take 2)
  if p.rest.head? = some '>' then some (([], suffix), p.take 1) else none

/-- The handle and the suffix of a tag. -/
def shortTag? (p : Place) : Option ((List Char × List Char) × Place) := do
  let (handle, p) ← handle? false p
  let (rest, p) ← resourceAt? isTag p
  if 2 ≤ handle.length ∧ handle.getLast? = some '!' then
    if rest.isEmpty then none else some ((handle, rest), p)
  else
    let suffix := handle.drop 1 ++ rest
    some (if suffix.isEmpty then ([], ['!']) else (['!'], suffix), p)

/-- A tag. -/
def tag? (s : Lexer) : Option Lexer := do
  let s := { s.candidateHere with keyAllowed := false }
  let ((handle, suffix), p) ←
    if (s.place.rest.drop 1).head? = some '<' then fullTag? s.place else shortTag? s.place
  if endsWord p.rest || (s.inFlow && p.rest.head?.any isFlow) then
    some { s.push (.tag (String.ofList handle) (String.ofList suffix)) s.place.column with
      place := p }
  else none

/-- A scalar without quotes.  A key may follow it on another line. -/
def plain? (s : Lexer) : Option Lexer := do
  let s := { s.candidateHere with keyAllowed := false }
  let column := s.place.column
  let s := s.unrollOpen
  let (text, p) ← Yaml.plain? s.inFlow (s.indent + 1) s.place
  let s := { s with place := p, keyAllowed := p.leading }
  some (s.push (.scalar true (String.ofList text)) column)

/-- A scalar in quotes.  In brackets its value may follow without a blank. -/
def quoted? (s : Lexer) (single : Bool) : Option Lexer := do
  let s := { s.candidateHere with keyAllowed := false }
  let start := s.place
  let (text, p) ← Yaml.quoted? single s.indent (start.take 1)
  let (_, p) ← p.skipToEnd?
  let closed := match p.rest with
    | ':' :: _ => s.inFlow || start.line = p.line
    | rest => endsLine rest || (s.inFlow && rest.head?.any [',', ']', '\x7d'].contains)
  if !closed then none
  else
    let s ← skipGap? (p.rest.length + 1) { s with place := p }
    some ({ s with adjacent := some s.place.index }.push (.scalar false (String.ofList text))
      start.column)

/-- A scalar in indented lines. -/
def block? (s : Lexer) (literal : Bool) : Option Lexer := do
  let s := { s.candidateHere with keyAllowed := true }
  let column := s.place.column
  let s := { s with place := s.place.take 1 }.unrollOpen
  let (text, p) ← Yaml.block? literal s.indent s.place
  some ({ s with place := p }.push (.scalar false (String.ofList text)) column)

/-! ### All tokens -/

/-- Whether a colon comes first that stands in front of a value. -/
def atValue (s : Lexer) (rest : List Char) : Bool :=
  endsWord rest ||
    (s.inFlow && (rest.head?.any isFlow || s.adjacent == some s.place.index))

/-- Behind the token that starts with a character. -/
def tokenFrom? (s : Lexer) (c : Char) (rest : List Char) : Option Lexer :=
  match c with
  | '[' => s.opening? .listStart
  | '\x7b' => s.opening? .tableStart
  | ']' => s.closing? .listEnd
  | '\x7d' => s.closing? .tableEnd
  | ',' => s.comma?
  | '-' => if endsWord rest then s.dash? else s.plain?
  | '?' => if endsWord rest then s.key? else s.plain?
  | ':' => if s.atValue rest then s.value? else s.plain?
  | '*' => s.anchor? .alias
  | '&' => s.anchor? .anchor
  | '!' => s.tag?
  | '|' => if s.inFlow then s.plain? else s.block? true
  | '>' => if s.inFlow then s.plain? else s.block? false
  | '\'' => s.quoted? true
  | '"' => s.quoted? false
  | '%' => none
  | '@' => none
  | '\x60' => none
  | _ => s.plain?

/-- Behind the next token, which starts here. -/
def token? (s : Lexer) : Option Lexer :=
  match s.place.rest with
  | [] => some s
  | c :: rest =>
    if s.place.column = 0 && c = '%' then s.directive?
    else if s.place.atMark "---" then s.mark? .documentStart
    else if s.place.atMark "..." then do
      let s ← (← s.mark? .documentEnd).skipToEnd?
      if endsLine s.place.rest then some s else none
    else if s.place.column < s.indent then none
    else s.tokenFrom? c rest

/-- Behind the last token. -/
def finish? (s : Lexer) : Option Lexer :=
  if s.outer.any fun k => k.any Candidate.required then none else s.leave?

/-- Behind all tokens; the fuel bounds their number. -/
def run? : Nat → Lexer → Option Lexer
  | 0, _ => none
  | fuel + 1, s => do
    let s ← skipGap? (s.place.rest.length + 1) s
    let s := (← s.dropStale?).unroll s.place.column
    if s.place.rest.isEmpty then s.finish? else run? fuel (← s.token?)

end Lexer

/-- The tokens of a text, which a null character ends. -/
def tokens? (text : String) : Option (List Token) :=
  let cs := text.toList.takeWhile (· ≠ '\x00')
  (Lexer.run? (cs.length + 1) (.start cs)).map fun s => (s.tokens.map Prod.fst).toList

end ShapeCheck.Yaml

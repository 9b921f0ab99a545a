import ShapeCheck.Pattern.Regex
import ShapeCheck.Text.Basic
import ShapeCheck.Unicode.Names

/-!
# Escapes in patterns

* `Flags`: how the pattern is to be read at a place;
* `skipSpace`: in verbose mode, blanks and comments are no part of a pattern;
* `Primitive`: what a backslash and the characters after it stand for;
* `escape?`: the primitive after a backslash, and what follows it.
-/

namespace ShapeCheck.Pattern

open Text (digitOf? numberOf? charOfCode?)

/-- How a pattern is to be read. -/
structure Flags where
  ignoreCase : Bool := false
  multiLine : Bool := false
  dotAll : Bool := false
  unicode : Bool := true
  crlf : Bool := false
  verbose : Bool := false
  swapGreed : Bool := false
  deriving DecidableEq, Repr

/-- White space. -/
def isSpace (c : Char) : Bool := Unicode.whiteSpace.has c.toNat

/-- The characters after blanks and comments; a comment goes to the end of its line. -/
def dropComments (inComment : Bool) : List Char → List Char
  | [] => []
  | c :: rest =>
    if inComment then dropComments (c ≠ '\n') rest
    else if isSpace c then dropComments false rest
    else if c = '#' then dropComments true rest
    else c :: rest

/-- The characters after what verbose mode ignores. -/
def Flags.skipSpace (flags : Flags) (cs : List Char) : List Char :=
  if flags.verbose then dropComments false cs else cs

/-- The classes of a single letter. -/
inductive LetterClass where
  | digit
  | space
  | word
  deriving DecidableEq, Repr

/-- A character, a class or a condition; `raw` marks a character given by a byte. -/
inductive Primitive where
  | char (c : Char) (raw : Bool)
  | letterClass (kind : LetterClass) (negated : Bool)
  | property (p : Unicode.Coverage) (negated : Bool)
  | look (l : Look)

/-- Characters with a meaning in patterns. -/
def isMeta (c : Char) : Bool :=
  ['\\', '.', '+', '*', '?', '(', ')', '|', '[', ']', '\x7b', '\x7d', '^', '$', '#', '&', '-',
    '~'].contains c

/-- Characters that stand for themselves after a backslash. -/
def isEscapable (c : Char) : Bool :=
  isMeta c || (c.toNat < 128 && !c.isAlphanum && c ≠ '<' && c ≠ '>')

/-- A fixed number of hexadecimal digits. -/
def fixedHex? (flags : Flags) : Nat → Nat → List Char → Option (Nat × List Char)
  | 0, n, cs => some (n, cs)
  | _ + 1, _, [] => none
  | count + 1, n, c :: rest => do
    let d ← digitOf? 16 c
    fixedHex? flags count (n * 16 + d) (flags.skipSpace rest)

/-- Hexadecimal digits up to a brace; the fuel bounds their number. -/
def bracedHex? (flags : Flags) : Nat → List Char → List Char → Option (List Char × List Char)
  | 0, _, _ => none
  | fuel + 1, digits, cs =>
    match flags.skipSpace cs with
    | [] => none
    | '\x7d' :: rest => some (digits.reverse, flags.skipSpace rest)
    | c :: rest => if (digitOf? 16 c).isSome then bracedHex? flags fuel (c :: digits) rest else none

/-- The code point after `\x`, `\u` or `\U`, with the number of digits that each takes. -/
def codePoint? (flags : Flags) (mark : Char) (cs : List Char) :
    Option (Primitive × List Char) :=
  match flags.skipSpace cs with
  | [] => none
  | '\x7b' :: rest => do
    let (digits, rest) ← bracedHex? flags (rest.length + 1) [] rest
    if digits.isEmpty then none
    else
      let c ← (numberOf? 16 digits).bind charOfCode?
      some (.char c false, rest)
  | cs => do
    let count := if mark = 'x' then 2 else if mark = 'u' then 4 else 8
    let (n, rest) ← fixedHex? flags count 0 cs
    let c ← charOfCode? n
    some (.char c (mark = 'x'), rest)

/-- The characters up to a brace; the fuel bounds their number. -/
def bracedName? (flags : Flags) : Nat → List Char → List Char → Option (List Char × List Char)
  | 0, _, _ => none
  | fuel + 1, name, cs =>
    match flags.skipSpace cs with
    | [] => none
    | '\x7d' :: rest => some (name.reverse, rest)
    | c :: rest => bracedName? flags fuel (c :: name) rest

/-- A text cut at the first place where a mark stands. -/
def cutAt? (mark : List Char) : List Char → Option (List Char × List Char)
  | [] => none
  | c :: rest =>
    if mark.isPrefixOf (c :: rest) then some ([], (c :: rest).drop mark.length)
    else (cutAt? mark rest).map fun (before, after) => (c :: before, after)

/-- The property of a text between braces, a name or a name and a value, and whether it is negated
by the mark between them. -/
def namedProperty? (text : List Char) : Option (Unicode.Coverage × Bool) :=
  let withValue (negated : Bool) (parts : List Char × List Char) :=
    (Unicode.propertyValue? (Unicode.normalizedName parts.1)
      (Unicode.normalizedName parts.2)).map (·, negated)
  match cutAt? ['!', '='] text with
  | some parts => withValue true parts
  | none =>
    match (cutAt? [':'] text).or (cutAt? ['='] text) with
    | some parts => withValue false parts
    | none => (Unicode.property? (Unicode.normalizedName text)).map (·, false)

/-- The property after `\p` or `\P`. -/
def property? (flags : Flags) (negated : Bool) (cs : List Char) :
    Option (Primitive × List Char) :=
  match flags.skipSpace cs with
  | [] => none
  | '\x7b' :: rest => do
    let (name, rest) ← bracedName? flags (rest.length + 1) [] rest
    let (p, inverted) ← namedProperty? name
    some (.property p (negated != inverted), rest)
  | c :: rest => do
    let p ← if c = '\\' then none else Unicode.property? (Unicode.normalizedName [c])
    some (.property p negated, flags.skipSpace rest)

/-- The letters and hyphens of the name of a boundary; the fuel bounds their number. -/
def boundaryName (flags : Flags) : Nat → List Char → List Char → List Char × List Char
  | 0, name, cs => (name.reverse, cs)
  | fuel + 1, name, cs =>
    match cs with
    | [] => (name.reverse, [])
    | c :: rest =>
      if c.isAlpha || c = '-' then boundaryName flags fuel (c :: name) (flags.skipSpace rest)
      else (name.reverse, c :: rest)

/-- The condition after `\b`.  A brace and a letter or hyphen begin the name of a boundary. -/
def boundary? (flags : Flags) (cs : List Char) : Option (Primitive × List Char) :=
  let plain : Primitive := .look (.boundary flags.unicode)
  match cs with
  | '\x7b' :: rest =>
    match flags.skipSpace rest with
    | [] => none
    | c :: more =>
      if c.isAlpha || c = '-' then
        match boundaryName flags (more.length + 1) [] (c :: more) with
        | (name, '\x7d' :: rest) =>
          if name = "start".toList then some (.look (.wordStart flags.unicode), rest)
          else if name = "end".toList then some (.look (.wordEnd flags.unicode), rest)
          else if name = "start-half".toList then some (.look (.wordStartHalf flags.unicode), rest)
          else if name = "end-half".toList then some (.look (.wordEndHalf flags.unicode), rest)
          else none
        | _ => none
      else some (plain, cs)
  | _ => some (plain, cs)

/-- What the characters after a backslash stand for, and what follows them. -/
def escape? (flags : Flags) (cs : List Char) : Option (Primitive × List Char) :=
  match cs with
  | [] => none
  | c :: rest =>
    if c = 'x' || c = 'u' || c = 'U' then codePoint? flags c rest
    else if c = 'p' then property? flags false rest
    else if c = 'P' then property? flags true rest
    else if isEscapable c then some (.char c false, rest)
    else
      match c with
      | 'd' => some (.letterClass .digit false, rest)
      | 'D' => some (.letterClass .digit true, rest)
      | 's' => some (.letterClass .space false, rest)
      | 'S' => some (.letterClass .space true, rest)
      | 'w' => some (.letterClass .word false, rest)
      | 'W' => some (.letterClass .word true, rest)
      | 'a' => some (.char '\x07' false, rest)
      | 'f' => some (.char '\x0c' false, rest)
      | 't' => some (.char '\t' false, rest)
      | 'n' => some (.char '\n' false, rest)
      | 'r' => some (.char '\r' false, rest)
      | 'v' => some (.char '\x0b' false, rest)
      | 'A' => some (.look .textStart, rest)
      | 'z' => some (.look .textEnd, rest)
      | 'b' => boundary? flags rest
      | 'B' => some (.look (.notBoundary flags.unicode), rest)
      | '<' => some (.look (.wordStart flags.unicode), rest)
      | '>' => some (.look (.wordEnd flags.unicode), rest)
      | _ => none

end ShapeCheck.Pattern

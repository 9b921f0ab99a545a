import ShapeCheck.Text.Basic
import ShapeCheck.Yaml.Place

/-!
# The text of YAML scalars

* `plain?`: scalars without quotes;
* `quoted?`: scalars in single or double quotes;
* `block?`: scalars in indented lines.

Where scalars take several lines, `Gap` says what becomes of the blanks and line breaks between
their words.  Each reader answers with the characters of a scalar and the place behind it.
-/

namespace ShapeCheck.Yaml

open Text (charOfCode? numberOf?)

/-! ### Gaps between words -/

/-- What becomes of the first line break of a gap: there is none, it is folded into a space, or it
is hidden. -/
inductive Fold where
  | none
  | folded
  | hidden
  deriving DecidableEq

/-- The blanks in front of the first line break, and the number of further line breaks. -/
structure Gap where
  blanks : List Char
  fold : Fold
  breaks : Nat

namespace Gap

/-- Nothing. -/
def empty : Gap := ⟨[], .none, 0⟩

/-- The gap with a blank in it. -/
def blank (g : Gap) (c : Char) : Gap := { g with blanks := g.blanks ++ [c] }

/-- The gap with a line break in it, which may be the first one. -/
def lineBreak (g : Gap) (first : Bool) : Gap :=
  if first then { g with fold := .folded } else { g with breaks := g.breaks + 1 }

/-- Line breaks. -/
def lines (n : Nat) : List Char := List.replicate n '\n'

/-- What a gap comes to: blanks stand for themselves, a line break for a space, and of several line
breaks all but the first one stay. -/
def text (g : Gap) : List Char :=
  match g.fold with
  | .none => g.blanks
  | .folded => if g.breaks = 0 then [' '] else lines g.breaks
  | .hidden => lines g.breaks

end Gap

/-! ### Scalars without quotes -/

/-- Whether a character comes first that can belong to a scalar without quotes.  A colon must have a
character behind it. -/
def continuesPlain (flow : Bool) : List Char → Bool
  | [] => false
  | ':' :: rest => !endsWord rest && !(flow && rest.head?.any isFlow)
  | c :: _ => !isBlank c && !isBreak c && !(flow && isFlow c)

/-- The longest word without blanks. -/
def plainWord (flow : Bool) : List Char → List Char
  | [] => []
  | c :: rest => if continuesPlain flow (c :: rest) then c :: plainWord flow rest else []

/-- The gap behind a word, with what has been found of it.  Tabs do not indent a line that is not
empty.  The fuel bounds the number of characters. -/
def plainGap? (indent : Int) : Nat → Gap → Place → Option (Gap × Place)
  | 0, _, _ => none
  | fuel + 1, g, p =>
    match p.rest with
    | [] => some (g, p)
    | c :: _ =>
      if isBreak c then plainGap? indent fuel (g.lineBreak !p.leading) p.nextLine
      else if !isBlank c then some (g, p)
      else if !p.leading then plainGap? indent fuel (g.blank c) (p.skip 1)
      else if c = '\t' ∧ p.column < indent then do
        let (_, q) ← p.skipToEnd?
        if endsLine q.rest then plainGap? indent fuel g q else none
      else plainGap? indent fuel g (p.skip 1)

/-- The words of a scalar with the gaps between them; the fuel bounds their number. -/
def plainWords? (flow : Bool) (indent : Int) : Nat → Place → Option (List Char × Place)
  | 0, _ => none
  | fuel + 1, p =>
    if p.atMarker || p.rest.head? = some '#' then some ([], p)
    else if flow && p.rest.head? = some '-' && (p.rest.drop 1).head?.any isFlow then none
    else
      let word := plainWord flow p.rest
      let q := p.take word.length
      if q.rest.isEmpty || !endsWord q.rest then some (word, q)
      else do
        let (g, q) ← plainGap? indent (q.rest.length + 1) .empty q
        if !flow ∧ q.column < indent then some (word, q)
        else
          let (more, q) ← plainWords? flow indent fuel q
          some (if more.isEmpty then word else word ++ g.text ++ more, q)

/-- A scalar without quotes, in brackets or not, whose lines are indented by at least so much. -/
def plain? (flow : Bool) (indent : Int) (p : Place) : Option (List Char × Place) :=
  if flow ∧ p.column < indent then none else plainWords? flow indent (p.rest.length + 1) p

/-! ### Scalars in quotes -/

/-- The character that an escape stands for, and how many characters it takes. -/
def escape? : List Char → Option (Char × Nat)
  | '0' :: _ => some ('\x00', 1)
  | 'a' :: _ => some ('\x07', 1)
  | 'b' :: _ => some ('\x08', 1)
  | 't' :: _ => some ('\t', 1)
  | '\t' :: _ => some ('\t', 1)
  | 'n' :: _ => some ('\n', 1)
  | 'v' :: _ => some ('\x0b', 1)
  | 'f' :: _ => some ('\x0c', 1)
  | 'r' :: _ => some ('\r', 1)
  | 'e' :: _ => some ('\x1b', 1)
  | ' ' :: _ => some (' ', 1)
  | '"' :: _ => some ('"', 1)
  | '/' :: _ => some ('/', 1)
  | '\\' :: _ => some ('\\', 1)
  | 'N' :: _ => some ('\u0085', 1)
  | '_' :: _ => some ('\u00a0', 1)
  | 'L' :: _ => some ('\u2028', 1)
  | 'P' :: _ => some ('\u2029', 1)
  | 'x' :: rest => hex 2 rest
  | 'u' :: rest => hex 4 rest
  | 'U' :: rest => hex 8 rest
  | _ => none
where
  /-- The character of so many hexadecimal digits. -/
  hex (n : Nat) (cs : List Char) : Option (Char × Nat) :=
    if cs.length < n then none
    else ((numberOf? 16 (cs.take n)).bind charOfCode?).map (·, n + 1)

/-- The quote around a scalar. -/
def quote (single : Bool) : Char := if single then '\'' else '"'

/-- Characters up to a blank, a line break or a quote, and whether a hidden line break came next.
The fuel bounds their number. -/
def quotedWord? (single : Bool) : Nat → Place → Option ((List Char × Bool) × Place)
  | 0, _ => none
  | fuel + 1, p =>
    let go (c : Char) (n : Nat) : Option ((List Char × Bool) × Place) :=
      (quotedWord? single fuel (p.take n)).map fun ((cs, hidden), q) => ((c :: cs, hidden), q)
    match single, p.rest with
    | _, [] => some (([], false), p)
    | true, '\'' :: '\'' :: _ => go '\'' 2
    | false, '\\' :: rest =>
      if !rest.isEmpty && endsLine rest then some (([], true), (p.take 1).nextLine)
      else do
        let (c, n) ← escape? rest
        go c (n + 1)
    | single, c :: _ =>
      if c = quote single || isBlank c || isBreak c then some (([], false), p) else go c 1

/-- The gap behind a word, with what has been found of it.  Tabs do not indent a line.  The fuel
bounds the number of characters. -/
def quotedGap? (indent : Int) : Nat → Gap → Place → Option (Gap × Place)
  | 0, _, _ => none
  | fuel + 1, g, p =>
    match p.rest with
    | [] => some (g, p)
    | c :: _ =>
      if isBreak c then quotedGap? indent fuel (g.lineBreak (g.fold = .none)) p.nextLine
      else if !isBlank c then some (g, p)
      else if g.fold = .none then quotedGap? indent fuel (g.blank c) (p.skip 1)
      else if c = '\t' ∧ p.column < indent then none
      else quotedGap? indent fuel g (p.skip 1)

/-- The words of a scalar with the gaps between them, up to its closing quote; the fuel bounds their
number. -/
def quotedWords? (single : Bool) (indent : Int) : Nat → Place → Option (List Char × Place)
  | 0, _ => none
  | fuel + 1, p =>
    if p.atMarker || p.rest.isEmpty || p.column < indent then none
    else do
      let ((word, hidden), q) ← quotedWord? single (p.rest.length + 1) p
      if q.rest.head? = some (quote single) then some (word, q.take 1)
      else
        let (g, q) ← quotedGap? indent (q.rest.length + 1)
          { Gap.empty with fold := if hidden then .hidden else .none } q
        let (more, q) ← quotedWords? single indent fuel q
        some (word ++ g.text ++ more, q)

/-- A scalar in quotes, behind the opening one, whose lines are indented by at least so much. -/
def quoted? (single : Bool) (indent : Int) (p : Place) : Option (List Char × Place) :=
  quotedWords? single indent (p.rest.length + 1) p

/-! ### Scalars in indented lines -/

/-- What becomes of the line breaks at the end. -/
inductive Chomp where
  | strip
  | clip
  | keep
  deriving DecidableEq

/-- What the header asks for at the end, and what follows that. -/
def chomp? (p : Place) : Option (Chomp × Place) :=
  match p.rest with
  | '+' :: _ => some (.keep, p.take 1)
  | '-' :: _ => some (.strip, p.take 1)
  | _ => none

/-- The indentation that the header asks for, zero if none, and what follows that. -/
def width? (p : Place) : Option (Nat × Place) :=
  match p.rest with
  | c :: _ =>
    if c = '0' then none
    else if c.isDigit then some (Text.digitValue c, p.take 1)
    else some (0, p)
  | [] => some (0, p)

/-- The header: what becomes of the end, and the indentation, in either order. -/
def header? (p : Place) : Option ((Chomp × Nat) × Place) :=
  match chomp? p with
  | some (chomp, p) => (width? p).map fun (width, p) => ((chomp, width), p)
  | none => do
    let (width, p) ← width? p
    match if width = 0 then none else chomp? p with
    | some (chomp, p) => some ((chomp, width), p)
    | none => some ((.clip, width), p)

/-- The number of empty lines, and the next line behind its indentation.  The fuel bounds the number
of lines. -/
def emptyLines (indent : Nat) : Nat → Place → Nat × Place
  | 0, p => (0, p)
  | fuel + 1, p =>
    let q := p.skip ((p.rest.takeWhile (· = ' ')).take (indent - p.column)).length
    if !q.rest.isEmpty && endsLine q.rest then
      let (n, q) := emptyLines indent fuel q.nextLine
      (n + 1, q)
    else (0, q)

/-- The number of empty lines, the widest indentation of those and of the next line, and the next
line behind its indentation.  The fuel bounds the number of lines. -/
def firstLines : Nat → Place → (Nat × Nat) × Place
  | 0, p => ((0, 0), p)
  | fuel + 1, p =>
    let q := p.skip (p.rest.takeWhile (· = ' ')).length
    if !q.rest.isEmpty && endsLine q.rest then
      let ((n, width), r) := firstLines fuel q.nextLine
      ((n + 1, max q.column width), r)
    else ((0, q.column), q)

/-- The end of lines that have been read: whether a line break has yet to be written, how many empty
lines follow it, and whether the line in front started with a blank. -/
structure Tail where
  lineBreak : Bool
  breaks : Nat
  blank : Bool

namespace Tail

/-- The line breaks. -/
def text (t : Tail) : List Char := Gap.lines ((if t.lineBreak then 1 else 0) + t.breaks)

/-- What the tail comes to in front of a line, which may start with a blank: where lines are folded,
line breaks between lines without blanks at their start are. -/
def textBefore (t : Tail) (literal blank : Bool) : List Char :=
  if !literal && t.lineBreak && !t.blank && !blank then Gap.text ⟨[], .folded, t.breaks⟩ else t.text

end Tail

/-- The lines with an indentation and their tail; the fuel bounds their number. -/
def blockLines (literal : Bool) (indent : Nat) : Nat → Tail → Place → (List Char × Tail) × Place
  | 0, t, p => (([], t), p)
  | fuel + 1, t, p =>
    if p.column ≠ indent || p.rest.isEmpty then (([], t), p)
    else
      let blank := p.rest.head?.any isBlank
      let line := t.textBefore literal blank ++ p.rest.takeWhile (!isBreak ·)
      let q := p.skipLine
      if q.rest.isEmpty then ((line, ⟨false, 0, blank⟩), q)
      else
        let (n, q) := emptyLines indent (q.rest.length + 1) q.nextLine
        let ((more, t), q) := blockLines literal indent fuel ⟨true, n, blank⟩ q
        ((line ++ more, t), q)

/-- The text of a scalar without lines. -/
def noLines (chomp : Chomp) (lineBreak : Bool) (breaks : Nat) : List Char :=
  match chomp with
  | .strip => []
  | .clip => if lineBreak then ['\n'] else []
  | .keep => if lineBreak then Gap.lines (max breaks 1) else []

/-- The lines of a scalar behind its header, whose indentation is known, after empty lines. -/
def blockBody? (literal : Bool) (chomp : Chomp) (outer : Int) (indent breaks : Nat)
    (lineBreak : Bool) (p : Place) : Option (List Char × Place) :=
  if p.rest.isEmpty then some (noLines chomp lineBreak breaks, p)
  else if p.column < indent ∧ outer < p.column then none
  else
    let ((text, t), q) :=
      blockLines literal indent (p.rest.length + 1) ⟨false, breaks, false⟩ p
    let last := if q.rest.isEmpty && max indent 1 ≤ q.column then ['\n'] else []
    let first := if t.lineBreak then ['\n'] else []
    let ending :=
      match chomp with
      | .strip => []
      | .clip => first ++ last
      | .keep => first ++ last ++ Gap.lines t.breaks
    some (text ++ ending, q)

/-- A scalar in lines that are indented more than what is around it, behind its mark. -/
def block? (literal : Bool) (outer : Int) (p : Place) : Option (List Char × Place) := do
  let ((chomp, width), p) ← header? p
  let (_, p) ← p.skipToEnd?
  if !endsLine p.rest then none
  else
    let lineBreak := !p.rest.isEmpty
    let p := p.nextLine
    if p.rest.head? = some '\t' then none
    else if width = 0 then
      let ((n, widest), p) := firstLines (p.rest.length + 1) p
      let indent := max widest (outer + 1).toNat
      blockBody? literal chomp outer indent n lineBreak p
    else
      let indent := (max outer 0).toNat + width
      let (n, p) := emptyLines indent (p.rest.length + 1) p
      blockBody? literal chomp outer indent n lineBreak p

end ShapeCheck.Yaml

import ShapeCheck.Pattern.Bracket
import ShapeCheck.Pattern.Machine
import ShapeCheck.Unicode.Current

/-!
# Reading patterns

* `Level`: the alternatives and the items that are open within one group;
* `State`: the flags in force, the open levels and the names given to groups;
* `step?`: one more item, bracket, bar or repetition;
* `regex?`: the regular expression of a pattern, unless the pattern is refused.

Flags set in a group last to its end, across its bars.  A repetition needs an item before it, and
a setting of flags is none.  Nesting is limited, and so is the size of the machines that match.
-/

namespace ShapeCheck.Pattern

/-- An expression with its outline and the height of its syntax tree. -/
structure Piece where
  regex : Regex Atom
  outline : Outline
  height : Nat

/-- The piece of an atom. -/
def Piece.ofAtom (a : Atom) (height : Nat) : Piece :=
  ⟨.atom a, match a with | .look l => .look l | .one s => .set s, height⟩

/-- What stands in a sequence: an expression, or a setting of flags. -/
inductive Item where
  | piece (p : Piece)
  | setting

/-- The height of an item. -/
def Item.height : Item → Nat
  | piece p => p.height
  | setting => 0

/-- The piece of an item, if it is one. -/
def Item.piece? : Item → Option Piece
  | piece p => some p
  | setting => none

/-- The finished alternatives and the items of the open one, both in reverse. -/
structure Level where
  branches : List Piece
  items : List Item

namespace Level

/-- The level of a group that has just been opened. -/
def empty : Level := ⟨[], []⟩

/-- The height of a node over parts; a single part needs no node. -/
def nodeHeight (heights : List Nat) : Nat :=
  match heights with
  | [] => 0
  | [h] => h
  | heights => heights.foldl max 0 + 1

/-- The open alternative. -/
def sequence (l : Level) : Piece :=
  let pieces := l.items.reverse.filterMap Item.piece?
  ⟨.seqAll (pieces.map (·.regex)), .seq (pieces.map (·.outline)),
    nodeHeight (l.items.map Item.height)⟩

/-- The level after a bar. -/
def bar (l : Level) : Level := ⟨l.sequence :: l.branches, []⟩

/-- The whole level. -/
def close (l : Level) : Piece :=
  let branches := (l.sequence :: l.branches).reverse
  ⟨.altAll (branches.map (·.regex)), .alt (branches.map (·.outline)),
    nodeHeight (branches.map (·.height))⟩

/-- One more item. -/
def add (l : Level) (i : Item) : Level := { l with items := i :: l.items }

end Level

/-- A group that is open: the level around it, the flags in force there, and whether the group is
kept track of in a match. -/
structure OpenGroup where
  level : Level
  flags : Flags
  captures : Bool

/-- What is in force and open at a place of the pattern. -/
structure State where
  flags : Flags
  level : Level
  outer : List OpenGroup
  names : List (List Char)

namespace State

/-- One more item. -/
def add (st : State) (i : Item) : State := { st with level := st.level.add i }

/-- One more atom. -/
def addAtom (st : State) (a : Atom) (height : Nat) : State := st.add (.piece (.ofAtom a height))

/-- The state within a new group. -/
def openGroup (st : State) (inner : Flags) (captures : Bool) : State :=
  { st with
    flags := inner
    level := .empty
    outer := ⟨st.level, st.flags, captures⟩ :: st.outer }

/-- The state after a group. -/
def closeGroup? (st : State) : Option State :=
  match st.outer with
  | [] => none
  | here :: outer =>
    let body := st.level.close
    let outline := if here.captures then .group body.outline else body.outline
    some { st with
      flags := here.flags
      level := here.level.add (.piece ⟨body.regex, outline, body.height + 1⟩)
      outer := outer }

/-- The state with its last item repeated. -/
def repeatLast? (st : State) (least : Nat) (most : Option Nat) (greedy : Bool) : Option State :=
  match st.level.items with
  | .piece p :: rest =>
    let again : Piece :=
      ⟨.times p.regex least most, .times p.outline least most (greedy != st.flags.swapGreed),
        p.height + 1⟩
    some { st with level := { st.level with items := .piece again :: rest } }
  | _ => none

end State

/-! ### Groups -/

/-- The flags by their letters. -/
inductive Flag where
  | ignoreCase
  | multiLine
  | dotAll
  | swapGreed
  | unicode
  | crlf
  | verbose
  deriving DecidableEq

/-- The flag of a letter. -/
def flag? (c : Char) : Option Flag :=
  match c with
  | 'i' => some .ignoreCase
  | 'm' => some .multiLine
  | 's' => some .dotAll
  | 'U' => some .swapGreed
  | 'u' => some .unicode
  | 'R' => some .crlf
  | 'x' => some .verbose
  | _ => none

/-- Flags with one of them set. -/
def Flags.set (flags : Flags) (f : Flag) (value : Bool) : Flags :=
  match f with
  | .ignoreCase => { flags with ignoreCase := value }
  | .multiLine => { flags with multiLine := value }
  | .dotAll => { flags with dotAll := value }
  | .swapGreed => { flags with swapGreed := value }
  | .unicode => { flags with unicode := value }
  | .crlf => { flags with crlf := value }
  | .verbose => { flags with verbose := value }

/-- Letters of flags with their values, the mark that ends them and what follows.  Each flag and
the minus stand at most once, and a flag follows the minus. -/
def flagItems? (negated dangling : Bool) (done : List (Flag × Bool)) :
    List Char → Option (List (Flag × Bool) × Char × List Char)
  | [] => none
  | c :: rest =>
    if c = ':' || c = ')' then
      if dangling then none else some (done.reverse, c, rest)
    else if c = '-' then
      if negated then none else flagItems? true true done rest
    else
      match flag? c with
      | none => none
      | some f =>
        if done.any (·.1 = f) then none
        else flagItems? negated false ((f, !negated) :: done) rest

/-- The first character of a group name. -/
def isNameStart (c : Char) : Bool := c = '_' || Unicode.Current.alphabetic.has c.toNat

/-- A character of a group name. -/
def isNameChar (c : Char) : Bool :=
  isNameStart c || c = '.' || c = '[' || c = ']' || Unicode.Current.number.has c.toNat

/-- A group name and what follows its bracket. -/
def groupName? (cs : List Char) : Option (List Char × List Char) :=
  match cs.dropWhile (· ≠ '>') with
  | '>' :: rest =>
    match cs.takeWhile (· ≠ '>') with
    | [] => none
    | first :: more =>
      if isNameStart first && more.all isNameChar then some (first :: more, rest) else none
  | _ => none

/-- The state within a group with a name. -/
def openNamed? (st : State) (cs : List Char) : Option (State × List Char) := do
  let (name, rest) ← groupName? cs
  if st.names.contains name then none
  else some ({ st with names := name :: st.names }.openGroup st.flags true, rest)

/-- A setting of flags, or a group with flags of its own. -/
def openFlags? (st : State) (cs : List Char) : Option (State × List Char) := do
  let (items, mark, rest) ← flagItems? false false [] cs
  let flags := items.foldl (fun flags item => flags.set item.1 item.2) st.flags
  if mark = ':' then some (st.openGroup flags false, rest)
  else if items.isEmpty then none
  else some ({ st with flags := flags }.add .setting, rest)

/-- A group after its bracket; conditions on the text around are refused. -/
def openGroup? (st : State) (cs : List Char) : Option (State × List Char) :=
  match st.flags.skipSpace cs with
  | '?' :: '=' :: _ => none
  | '?' :: '!' :: _ => none
  | '?' :: '<' :: '=' :: _ => none
  | '?' :: '<' :: '!' :: _ => none
  | '?' :: 'P' :: '<' :: rest => openNamed? st rest
  | '?' :: '<' :: rest => openNamed? st rest
  | '?' :: rest => openFlags? st rest
  | rest => some (st.openGroup st.flags true, rest)

/-! ### Repetitions -/

/-- Whether a repetition is greedy, which it is unless a question mark follows; it matches the same
texts. -/
def greed : List Char → Bool × List Char
  | '?' :: rest => (false, rest)
  | cs => (true, cs)

/-- The largest bound of a repetition. -/
def maxCount : Nat := 4294967295

/-- Decimal digits; the fuel bounds their number. -/
def countDigits (flags : Flags) : Nat → List Char → List Char → List Char × List Char
  | 0, digits, cs => (digits.reverse, cs)
  | fuel + 1, digits, cs =>
    match cs with
    | [] => (digits.reverse, [])
    | c :: rest =>
      if c.isDigit then countDigits flags fuel (c :: digits) (flags.skipSpace rest)
      else (digits.reverse, c :: rest)

/-- A bound of a repetition, with blanks around it. -/
def count? (flags : Flags) (cs : List Char) : Option (Nat × List Char) :=
  match countDigits flags (cs.length + 1) [] (cs.dropWhile isSpace) with
  | ([], _) => none
  | (digits, rest) =>
    let n := Text.decimalValue digits
    if n ≤ maxCount then some (n, flags.skipSpace (rest.dropWhile isSpace)) else none

/-- The bounds of a repetition after its brace, and what follows the other brace. -/
def bounds? (flags : Flags) (cs : List Char) : Option (Nat × Option Nat × List Char) := do
  let (least, rest) ← count? flags (flags.skipSpace cs)
  let (most, rest) ← match rest with
    | ',' :: rest =>
      match flags.skipSpace rest with
      | '\x7d' :: rest => some (none, '\x7d' :: rest)
      | rest => do
        let (most, rest) ← count? flags rest
        if least ≤ most then some (some most, rest) else none
    | rest => some (some least, rest)
  match rest with
  | '\x7d' :: rest => some (least, most, flags.skipSpace rest)
  | _ => none

/-! ### The whole pattern -/

/-- The set that matches one character regardless of case, if that is wanted. -/
def charSet (flags : Flags) (c : Char) : CharSet :=
  if !flags.ignoreCase then .single c.toNat
  else if flags.unicode then .ofCodes (Unicode.orbit c.toNat).eraseDups
  else .ofCodes (asciiOrbit c.toNat)

/-- The atom of an escape or a character outside of classes. -/
def primitiveAtom? (flags : Flags) : Primitive → Option Atom
  | .char c raw =>
    if raw && !flags.unicode && 127 < c.toNat then none else some (.one (charSet flags c))
  | .letterClass kind negated => (letterSet? flags kind negated).map .one
  | .property p negated => (propertySet? flags p negated).map .one
  | .look l => some (.look l)

/-- Any character, or any but a line break; without Unicode mode it is refused. -/
def dotAtom? (flags : Flags) : Option Atom :=
  if !flags.unicode then none
  else if flags.dotAll then some (.one (.range 0 0x10FFFF))
  else if flags.crlf then some (.one (.compl (.ofCodes [0x0A, 0x0D])))
  else some (.one (.compl (.single 0x0A)))

/-- The condition of `^`. -/
def startLook (flags : Flags) : Look :=
  if !flags.multiLine then .textStart else if flags.crlf then .crlfStart else .lineStart

/-- The condition of `$`. -/
def endLook (flags : Flags) : Look :=
  if !flags.multiLine then .textEnd else if flags.crlf then .crlfEnd else .lineEnd

/-- The state with its last item repeated, and what follows the mark for greed. -/
def repeated? (st : State) (least : Nat) (most : Option Nat) (rest : List Char) :
    Option (State × List Char) :=
  let (greedy, rest) := greed rest
  (st.repeatLast? least most greedy).map (·, rest)

/-- One more part of the pattern; the characters do not start with space to be skipped. -/
def step? (st : State) (c : Char) (rest : List Char) : Option (State × List Char) :=
  match c with
  | '(' => openGroup? st rest
  | ')' => st.closeGroup?.map (·, rest)
  | '|' => some ({ st with level := st.level.bar }, rest)
  | '[' => (bracket? st.flags rest).map fun (s, rest) =>
      (st.addAtom (.one s.value) s.height, rest)
  | '?' => repeated? st 0 (some 1) rest
  | '*' => repeated? st 0 none rest
  | '+' => repeated? st 1 none rest
  | '\x7b' => do
    let (least, most, rest) ← bounds? st.flags rest
    repeated? st least most rest
  | '\\' => do
    let (p, rest) ← escape? st.flags rest
    let a ← primitiveAtom? st.flags p
    some (st.addAtom a 0, rest)
  | '.' => (dotAtom? st.flags).map fun a => (st.addAtom a 0, rest)
  | '^' => some (st.addAtom (.look (startLook st.flags)) 0, rest)
  | '$' => some (st.addAtom (.look (endLook st.flags)) 0, rest)
  | c => some (st.addAtom (.one (charSet st.flags c)) 0, rest)

/-- The whole pattern from a state on; the fuel bounds the number of parts. -/
def run? : Nat → State → List Char → Option Piece
  | 0, _, _ => none
  | fuel + 1, st, cs =>
    match st.flags.skipSpace cs with
    | [] => if st.outer.isEmpty then some st.level.close else none
    | c :: rest => do
      let (st, rest) ← step? st c rest
      run? fuel st rest

/-- The greatest height of a syntax tree. -/
def maxHeight : Nat := 250

/-- The regular expression of a pattern, unless the pattern is refused. -/
def regex? (source : String) : Option (Regex Atom) := do
  let cs := source.toList
  let p ← run? (cs.length + 1) ⟨{}, .empty, [], []⟩ cs
  if p.height ≤ maxHeight ∧ p.outline.fits then some p.regex else none

end ShapeCheck.Pattern

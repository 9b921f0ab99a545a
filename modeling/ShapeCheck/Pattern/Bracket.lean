import ShapeCheck.Pattern.Escape
import ShapeCheck.Text.Basic

/-!
# Bracketed classes

* `Sized`: a set of characters with the height of its syntax tree;
* `letterSet?`, `propertySet?`, `namedAscii?`: the sets of escapes and of names such as
  `[:alpha:]`;
* `bracket?`: the set of a bracketed class, after its bracket.

Classes hold characters, ranges, escapes, names and nested classes; `&&`, `--` and `~~` combine
what stands on their two sides, from left to right.  Without Unicode mode a class consists of bytes,
and one that goes beyond ASCII is refused.  Case is ignored before a class is negated.
-/

namespace ShapeCheck.Pattern

/-- A value with the height of its syntax tree. -/
structure Sized (α : Type) where
  value : α
  height : Nat

/-- A set closed under case, if case is to be ignored. -/
def Flags.close (flags : Flags) (s : CharSet) : CharSet :=
  if !flags.ignoreCase then s else if flags.unicode then .folded s else .foldedAscii s

/-- A set closed under case and then negated, if wanted; sets of bytes cannot be negated. -/
def Flags.finish? (flags : Flags) (negated : Bool) (s : CharSet) : Option CharSet :=
  if !negated then some (flags.close s)
  else if flags.unicode then some (.compl (flags.close s))
  else none

/-- The ASCII characters of a class of a single letter. -/
def LetterClass.ascii : LetterClass → CharSet
  | digit => .range 0x30 0x39
  | space => .unionAll [.range 0x09 0x0D, .single 0x20]
  | word => .unionAll [.range 0x30 0x39, .range 0x41 0x5A, .single 0x5F, .range 0x61 0x7A]

/-- All characters of a class of a single letter. -/
def LetterClass.unicode : LetterClass → CharSet
  | digit => .coverage ⟨[Unicode.decimalNumber], []⟩
  | space => .coverage Unicode.whiteSpace
  | word => .coverage Unicode.word

/-- The set of a class of a single letter; these are closed under case already. -/
def letterSet? (flags : Flags) (kind : LetterClass) (negated : Bool) : Option CharSet :=
  if flags.unicode then some (if negated then .compl kind.unicode else kind.unicode)
  else if negated then none
  else some kind.ascii

/-- The set of a property, which needs Unicode mode. -/
def propertySet? (flags : Flags) (p : Unicode.Coverage) (negated : Bool) : Option CharSet :=
  if flags.unicode then flags.finish? negated (.coverage p) else none

/-- The classes of ASCII characters by name. -/
def asciiClasses : List (String × CharSet) := [
  ("alnum", .unionAll [.range 0x30 0x39, .range 0x41 0x5A, .range 0x61 0x7A]),
  ("alpha", .unionAll [.range 0x41 0x5A, .range 0x61 0x7A]),
  ("ascii", .range 0x00 0x7F),
  ("blank", .unionAll [.single 0x09, .single 0x20]),
  ("cntrl", .unionAll [.range 0x00 0x1F, .single 0x7F]),
  ("digit", .range 0x30 0x39),
  ("graph", .range 0x21 0x7E),
  ("lower", .range 0x61 0x7A),
  ("print", .range 0x20 0x7E),
  ("punct", .unionAll [.range 0x21 0x2F, .range 0x3A 0x40, .range 0x5B 0x60, .range 0x7B 0x7E]),
  ("space", .unionAll [.range 0x09 0x0D, .single 0x20]),
  ("upper", .range 0x41 0x5A),
  ("word", .unionAll [.range 0x30 0x39, .range 0x41 0x5A, .single 0x5F, .range 0x61 0x7A]),
  ("xdigit", .unionAll [.range 0x30 0x39, .range 0x41 0x46, .range 0x61 0x66])]

/-- A name such as `:alpha:]` or `:^alpha:]`: its class, whether it is negated, what follows. -/
def namedAscii? (cs : List Char) : Option (CharSet × Bool × List Char) :=
  match cs with
  | ':' :: rest =>
    let (negated, rest) := match rest with
      | '^' :: more => (true, more)
      | more => (false, more)
    match rest.dropWhile (· ≠ ':') with
    | ':' :: ']' :: after =>
      (asciiClasses.lookup (String.ofList (rest.takeWhile (· ≠ ':')))).map fun s =>
        (s, negated, after)
    | _ => none
  | _ => none

/-- The operations on classes. -/
inductive SetOp where
  | inter
  | diff
  | symmDiff

/-- A class on the way: the operation that waits for its right side, and the items so far in
reverse. -/
structure ClassState where
  pending : Option (SetOp × Sized CharSet)
  items : List (Sized CharSet)

namespace ClassState

/-- The greatest height. -/
def maxHeight (items : List (Sized CharSet)) : Nat := items.foldl (fun h i => max h i.height) 0

/-- The union of the items. -/
def union (items : List (Sized CharSet)) : Sized CharSet :=
  match items with
  | [] => ⟨.none, 0⟩
  | [i] => i
  | items => ⟨.unionAll (items.reverse.map (·.value)), maxHeight items + 1⟩

/-- The items joined, and the waiting operation done. -/
def settle (flags : Flags) (st : ClassState) : Sized CharSet :=
  let right := union st.items
  match st.pending with
  | none => right
  | some (op, left) =>
    let a := flags.close left.value
    let b := flags.close right.value
    let value := match op with
      | .inter => CharSet.inter a b
      | .diff => CharSet.diff a b
      | .symmDiff => CharSet.symmDiff a b
    ⟨value, max left.height right.height + 1⟩

/-- One more item. -/
def add (st : ClassState) (s : CharSet) (height : Nat) : ClassState :=
  { st with items := ⟨s, height⟩ :: st.items }

/-- The state after an operation. -/
def operate (flags : Flags) (st : ClassState) (op : SetOp) : ClassState :=
  ⟨some (op, st.settle flags), []⟩

end ClassState

/-- The code of a character of a class; without Unicode mode it must be ASCII. -/
def classCode? (flags : Flags) : Primitive → Option Nat
  | .char c _ => if flags.unicode || c.toNat < 128 then some c.toNat else none
  | _ => none

/-- The set of an item that is not part of a range. -/
def itemSet? (flags : Flags) (p : Primitive) : Option CharSet :=
  match p with
  | .char _ _ => (classCode? flags p).map CharSet.single
  | .letterClass kind negated => letterSet? flags kind negated
  | .property p negated => propertySet? flags p negated
  | .look _ => none

/-- One character or escape of a class. -/
def classPrimitive? (flags : Flags) : List Char → Option (Primitive × List Char)
  | [] => none
  | '\\' :: rest => escape? flags rest
  | c :: rest => some (.char c false, rest)

/-- The character that is taken to stand behind a hyphen. -/
def peekSpace (flags : Flags) (cs : List Char) : Option Char :=
  if flags.verbose then
    match cs.dropWhile isSpace with
    | [] => cs.head?
    | '#' :: rest => ((rest.dropWhile isSpace).head?).or cs.head?
    | c :: _ => some c
  else cs.head?

/-- A character, an escape or a range. -/
def classItem? (flags : Flags) (cs : List Char) : Option (CharSet × List Char) := do
  let (first, rest) ← classPrimitive? flags cs
  match flags.skipSpace rest with
  | [] => none
  | '-' :: more =>
    if peekSpace flags more = some ']' ∨ peekSpace flags more = some '-' then
      let s ← itemSet? flags first
      some (s, '-' :: more)
    else
      let (last, rest) ← classPrimitive? flags (flags.skipSpace more)
      let a ← classCode? flags first
      let b ← classCode? flags last
      if a ≤ b then some (.range a b, rest) else none
  | rest =>
    let s ← itemSet? flags first
    some (s, rest)

/-- The hyphens at the start of a class; the fuel bounds their number. -/
def openHyphens (flags : Flags) : Nat → ClassState → List Char → ClassState × List Char
  | 0, st, cs => (st, cs)
  | fuel + 1, st, cs =>
    match cs with
    | '-' :: rest => openHyphens flags fuel (st.add (.single '-'.toNat) 0) (flags.skipSpace rest)
    | cs => (st, cs)

/-- The start of a class: whether it is negated, its first items and what follows. -/
def openClass (flags : Flags) (cs : List Char) : Bool × ClassState × List Char :=
  let (negated, cs) := match flags.skipSpace cs with
    | '^' :: rest => (true, flags.skipSpace rest)
    | cs => (false, cs)
  let (st, cs) := openHyphens flags (cs.length + 1) ⟨none, []⟩ cs
  match st.items, cs with
  | [], ']' :: rest => (negated, st.add (.single ']'.toNat) 0, rest)
  | _, cs => (negated, st, cs)

/-- The items of a class up to its bracket; the fuel bounds the number of items and classes. -/
def classItems? (flags : Flags) :
    Nat → Bool → ClassState → List Char → Option (Sized CharSet × List Char)
  | 0, _, _, _ => none
  | fuel + 1, negated, st, cs =>
    match flags.skipSpace cs with
    | [] => none
    | ']' :: rest => do
      let inner := st.settle flags
      let s ← flags.finish? negated inner.value
      some (⟨s, inner.height + 1⟩, rest)
    | '[' :: rest =>
      match namedAscii? rest with
      | some (s, inverted, after) => do
        let s ← flags.finish? inverted s
        classItems? flags fuel negated (st.add s 0) after
      | none => do
        let (inverted, inner, after) := openClass flags rest
        let (s, after) ← classItems? flags fuel inverted inner after
        classItems? flags fuel negated (st.add s.value s.height) after
    | '&' :: '&' :: rest => classItems? flags fuel negated (st.operate flags .inter) rest
    | '-' :: '-' :: rest => classItems? flags fuel negated (st.operate flags .diff) rest
    | '~' :: '~' :: rest => classItems? flags fuel negated (st.operate flags .symmDiff) rest
    | cs => do
      let (s, rest) ← classItem? flags cs
      classItems? flags fuel negated (st.add s 0) rest

/-- The set of a bracketed class, after its bracket. -/
def bracket? (flags : Flags) (cs : List Char) : Option (Sized CharSet × List Char) :=
  let (negated, st, rest) := openClass flags cs
  classItems? flags (cs.length + 1) negated st rest

end ShapeCheck.Pattern

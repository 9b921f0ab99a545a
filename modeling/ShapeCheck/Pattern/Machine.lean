import ShapeCheck.Pattern.Plan
import Std.Data.HashMap

/-!
# Machines of patterns and their size

A pattern is matched by a machine that reads bytes forward, and by one that reads them backward.
Both are built from states; how many there are, and how many edges they have, is limited.

* `Meter`: what has been built so far;
* `Part`: the building of a part of a machine;
* `Part.chain`, `Part.alternatives`, `Part.repeated`: parts put together;
* `Part.ofSet`: characters of a set, with states shared where the same bytes follow or come before;
* `Part.ofLiterals`: literals as alternatives, with their common beginnings shared;
* `Plan.meter`: the whole machine of a plan;
* `Outline.fits`: whether both machines of an outline are small enough.

States are numbered as they are built.  What is shared is found in a table with a limited number of
places, where an entry gives way to a later one, so that what is shared depends on these numbers.
-/

namespace ShapeCheck.Pattern

/-- The states built so far, and the bytes that their edges take. -/
structure Meter where
  states : Nat
  edgeBytes : Nat
  deriving DecidableEq, Repr

namespace Meter

/-- The bytes of all states. -/
def bytes (m : Meter) : Nat := 32 * m.states + m.edgeBytes

/-- The greatest size of a machine. -/
def maxBytes : Nat := 10485760

/-- Whether a machine is too large. -/
def isOver (m : Meter) : Bool := maxBytes < m.bytes

/-- One more state, with edges of some bytes. -/
def state (m : Meter) (edgeBytes : Nat) : Meter := ⟨m.states + 1, m.edgeBytes + edgeBytes⟩

/-- The end of a part linked to the next part.  A fork gets one edge more; other states have had
room for it from the start. -/
def link (m : Meter) (fork : Bool) : Meter :=
  if fork then { m with edgeBytes := m.edgeBytes + 4 } else m

end Meter

/-- A part of a machine: how it is built after what has been built so far, and whether it then ends
in a fork. -/
structure Part where
  build : Meter → Meter × Bool

namespace Part

/-- A single state with edges of some bytes. -/
def state (edgeBytes : Nat) : Part := ⟨fun m => (m.state edgeBytes, false)⟩

/-- States in a row. -/
def states (n : Nat) : Part := ⟨fun m => (⟨m.states + n, m.edgeBytes⟩, false)⟩

/-- One part after another. -/
def append (a b : Part) : Part where
  build m :=
    let (m, fork) := a.build m
    let (m, fork') := b.build m
    (m.link fork, fork')

/-- Parts one after the other. -/
def chain : List Part → Part
  | [] => state 0
  | a :: rest => rest.foldl append a

/-- A part within a group, which is marked if groups count. -/
def group (marked : Bool) (a : Part) : Part :=
  if marked then append (append (state 0) a) (state 0) else a

/-- Parts as alternatives.  The fork is built after the first two. -/
def alternatives : List Part → Part
  | [] => state 0
  | [a] => a
  | a :: b :: rest =>
    { build := fun m =>
        let (m, fork) := a.build m
        let (m, fork') := b.build m
        let m := (((m.state 8).state 0).link fork).link fork'
        (rest.foldl (fun m c =>
          let (m, fork) := c.build m
          (m.link true).link fork) m, false) }

/-! ### Repetitions -/

/-- More copies of a part, after something that may end in a fork, unless there is no room. -/
def copies (a : Part) : Nat → Meter → Bool → Meter × Bool
  | 0, m, fork => (m, fork)
  | n + 1, m, fork =>
    if m.isOver then (m, fork)
    else
      let (m, fork') := a.build m
      copies a n (m.link fork) fork'

/-- A number of copies of a part. -/
def exactly (a : Part) : Nat → Part
  | 0 => state 0
  | n + 1 =>
    { build := fun m =>
        let (m, fork) := a.build m
        copies a n m fork }

/-- More copies of a part, each behind a fork that may leave it out. -/
def optionals (a : Part) : Nat → Meter → Bool → Meter × Bool
  | 0, m, fork => (m, fork)
  | n + 1, m, fork =>
    if m.isOver then (m, fork)
    else
      let (m, fork') := a.build (m.state 8)
      optionals a n (m.link fork) fork'

/-- Copies of a part between two numbers. -/
def between (a : Part) (least most : Nat) : Part where
  build m :=
    let (m, fork) := (exactly a least).build m
    let (m, fork) := optionals a (most - least) (m.state 0) fork
    (m.link fork, false)

/-- A part or nothing. -/
def optional (a : Part) : Part where
  build m :=
    let (m, fork) := a.build (m.state 8)
    ((m.state 0).link fork, false)

/-- Any number of copies of a part, none included. -/
def many (a : Part) (takes : Bool) : Part where
  build m :=
    if takes then
      let (m, fork) := a.build (m.state 4)
      (m.link fork, true)
    else
      let (m, fork) := a.build m
      ((((m.link fork).state 8).state 8).state 0, false)

/-- A number of copies of a part, and the last one any number of times more. -/
def more (a : Part) (least : Nat) : Part where
  build m :=
    if least = 1 then
      let (m, fork) := a.build m
      ((m.link fork).state 4, true)
    else
      let (m, fork) := (exactly a (least - 1)).build m
      let (m, fork') := a.build m
      (((m.link fork).link fork').state 4, true)

/-- A part repeated; `takes` tells whether it always takes a character. -/
def repeated (a : Part) (takes : Bool) (least : Nat) (most : Option Nat) : Part :=
  match most with
  | none => if least = 0 then many a takes else more a least
  | some most =>
    if least = 0 ∧ most = 1 then optional a
    else if least = most then exactly a least
    else between a least most

/-! ### Sets -/

/-- Bytes, and the number of the state that they lead to. -/
structure Edge where
  bytes : ByteRange
  target : Nat
  deriving DecidableEq, Repr

/-- A number mixed into a hash. -/
def mix (h : UInt64) (v : Nat) : UInt64 := (h ^^^ UInt64.ofNat v) * 1099511628211

/-- Bytes and a number mixed into a hash. -/
def mixEdge (h : UInt64) (e : Edge) : UInt64 :=
  mix (mix (mix h e.bytes.first) e.bytes.last) e.target

/-- The hash of nothing. -/
def hashStart : UInt64 := 14695981039346656037

/-- A machine under construction with the table of the states that can be shared. -/
structure Shared (α : Type) where
  meter : Meter
  table : Std.HashMap Nat (α × Nat)

namespace Shared

/-- Nothing to be shared yet. -/
def start {α : Type} (m : Meter) : Shared α := ⟨m, ∅⟩

/-- The state for a key: the one at its place in the table if that has the key, or a new one. -/
def intern {α : Type} [DecidableEq α] (s : Shared α) (key : α) (place edgeBytes : Nat) :
    Nat × Shared α :=
  match s.table[place]? with
  | some (known, n) =>
    if known = key then (n, s)
    else
      (s.meter.states, ⟨s.meter.state edgeBytes, s.table.insert place (key, s.meter.states)⟩)
  | none =>
    (s.meter.states, ⟨s.meter.state edgeBytes, s.table.insert place (key, s.meter.states)⟩)

end Shared

/-- The sequences by their first range, which is left out. -/
def byFirst (seqs : List (List ByteRange)) : List (ByteRange × List (List ByteRange)) :=
  seqs.foldr (fun seq groups =>
    match seq, groups with
    | [], groups => groups
    | r :: tail, (r', tails) :: more =>
      if r = r' then (r, tail :: tails) :: more else (r, [tail]) :: (r', tails) :: more
    | r :: tail, [] => [(r, [tail])]) []

/-- The state from which sequences of a length lead to a target, built after the states behind
it. -/
def trie (target : Nat) : Nat → List (List ByteRange) → Shared (List Edge) →
    Nat × Shared (List Edge)
  | 0, _, s => (target, s)
  | n + 1, seqs, s =>
    let (edges, s) := (byFirst seqs).foldl (fun (edges, s) (r, tails) =>
      let (next, s) := if tails = [[]] then (target, s) else trie target n tails s
      (⟨r, next⟩ :: edges, s)) (([] : List Edge), s)
    let edges := edges.reverse
    s.intern edges ((edges.foldl mixEdge hashStart % 10000).toNat) (8 * edges.length)

/-- Sequences to be read forward: equal states are shared. -/
def forward (seqs : List (List ByteRange)) : Part where
  build m := ((trie m.states 4 seqs (.start (m.state 0))).2.meter, false)

/-- The state from which a sequence read backward leads to a target. -/
def backwardOne (target : Nat) (s : Shared (Nat × ByteRange)) (seq : List ByteRange) :
    Shared (Nat × ByteRange) :=
  (seq.foldl (fun (target, s) r =>
    s.intern (target, r) ((mix (mix (mix hashStart target) r.first) r.last % 1000).toNat) 0)
    (target, s)).2

/-- Sequences to be read backward: states with the same bytes before them are shared. -/
def backward (seqs : List (List ByteRange)) : Part where
  build m :=
    let s := seqs.foldl (fun (s : Shared (Nat × ByteRange)) seq =>
      let s := backwardOne (m.states + 1) s seq
      { s with meter := s.meter.link true }) (.start ((m.state 0).state 0))
    (s.meter, false)

/-- The characters of a set. -/
def ofSet (reversed : Bool) (rs : List CodeRange) : Part :=
  if rs.all (·.last < 0x80) then append (state 0) (state (8 * rs.length))
  else
    let seqs := rs.flatMap (·.sequences)
    if reversed then backward seqs else forward seqs

/-! ### Literals -/

/-- A tree of literals.  Where a literal ends, the edges of a node so far are closed off from those
that come later. -/
inductive LiteralTree where
  | node (closed : List (List (Nat × LiteralTree))) (active : List (Nat × LiteralTree))

namespace LiteralTree

/-- The tree without literals. -/
def empty : LiteralTree := node [] []

/-- Edges with the one for a byte replaced or added. -/
def setEdge (b : Nat) (t : LiteralTree) : List (Nat × LiteralTree) → List (Nat × LiteralTree)
  | [] => [(b, t)]
  | edge :: rest => if edge.1 = b then (b, t) :: rest else edge :: setEdge b t rest

/-- The tree with one more literal. -/
def insert : List Nat → LiteralTree → LiteralTree
  | [], node closed active =>
    if active.isEmpty && !closed.isEmpty && closed.all List.isEmpty then node closed active
    else node (closed ++ [active]) []
  | b :: rest, node closed active =>
    node closed (setEdge b (insert rest ((active.lookup b).getD empty)) active)

/-- The edges of a part of a node: none, a single one, or several in one state. -/
def edgeState (n : Nat) (m : Meter) : Meter :=
  if n = 0 then m else if n = 1 then (m.state 0).link true else (m.state (8 * n)).link true

mutual

/-- The states of a tree; what ends a literal needs none. -/
def meter : LiteralTree → Meter → Meter
  | node closed active, m =>
    if active.isEmpty && closed.all List.isEmpty then m
    else
      let m := edgesMeter active (closedMeter closed m)
      edgeState active.length (m.state (4 * closed.length))

/-- The states of the edges that are closed off. -/
def closedMeter : List (List (Nat × LiteralTree)) → Meter → Meter
  | [], m => m
  | edges :: rest, m => closedMeter rest (edgeState edges.length (edgesMeter edges m))

/-- The states behind edges. -/
def edgesMeter : List (Nat × LiteralTree) → Meter → Meter
  | [], m => m
  | (_, t) :: rest, m => edgesMeter rest (t.meter m)

end

end LiteralTree

/-- Literals as alternatives. -/
def ofLiterals (literals : List (List Nat)) : Part :=
  let tree := literals.foldl (fun t bytes => t.insert bytes) LiteralTree.empty
  ⟨fun m => (tree.meter (m.state 0), false)⟩

end Part

/-! ### Whole machines -/

namespace Plan

/-- The bytes of a literal. -/
def bytes? : Plan → Option (List Nat)
  | literal cs => some (cs.flatMap encoded)
  | _ => none

mutual

/-- The building of the machine of a plan. -/
def part (reversed : Bool) : Plan → Part
  | empty => .state 0
  | literal cs => .states (cs.flatMap encoded).length
  | set rs => .ofSet reversed rs
  | look _ => .state 0
  | times p least most _ =>
    .repeated (p.part reversed) (p.shortest? = some true) least most
  | group p => .group (!reversed) (p.part reversed)
  | seq ps => .chain (if reversed then (partAll reversed ps).reverse else partAll reversed ps)
  | alt ps =>
    match ps.mapM bytes? with
    | some literals =>
      .ofLiterals (if reversed then literals.map List.reverse else literals)
    | none => .alternatives (partAll reversed ps)

/-- The building of the machines of plans. -/
def partAll (reversed : Bool) : List Plan → List Part
  | [] => []
  | p :: ps => p.part reversed :: partAll reversed ps

end

/-- The whole machine of a plan.  Unless every match begins at the end of the text where reading
starts, the machine first skips bytes. -/
def meter (reversed : Bool) (p : Plan) : Meter :=
  let start : Meter :=
    if p.requires reversed (if reversed then .textEnd else .textStart) then ⟨1, 0⟩ else ⟨3, 16⟩
  let (m, fork) := (Part.group (!reversed) (p.part reversed)).build start
  (m.state 0).link fork

/-- Whether both machines of a plan are small enough. -/
def fits (p : Plan) : Bool := !(p.meter false).isOver && !(p.meter true).isOver

end Plan

/-- Whether the machines of an outline are small enough.  They need not be built if the bound on
their size says so. -/
def Outline.fits (o : Outline) : Bool :=
  o.bound + 256 ≤ Meter.maxBytes || (Plan.ofOutline o).fits

end ShapeCheck.Pattern

import ShapeCheck.Pattern.CharSet
import ShapeCheck.Pattern.Look

/-!
# Outlines of patterns

* `Outline`: a pattern as it is written: sequences, alternatives, groups and repetitions;
* `Outline.bound`: a number of bytes that the machine of a pattern never exceeds.

The bound takes each set of characters at its worst, so that it can be had without writing out the
set.  A set is measured by an `Extent`.
-/

namespace ShapeCheck.Pattern

/-- A pattern as it is written.  A repetition prefers more copies if it is greedy. -/
inductive Outline where
  | empty
  | set (s : CharSet)
  | look (l : Look)
  | times (o : Outline) (least : Nat) (most : Option Nat) (greedy : Bool)
  | group (o : Outline)
  | seq (os : List Outline)
  | alt (os : List Outline)

/-! ### Sets -/

/-- How many ranges and characters a set has at most, and the bytes that its ranges take. -/
structure Extent where
  ranges : Nat
  bytes : Nat
  chars : Nat

namespace Extent

/-- The bytes that no range exceeds. -/
def widest : Nat := 5200

/-- The bytes that a range takes at most. -/
def rangeBytes (first last : Nat) : Nat :=
  if last < 0x80 then 80
  else if first / 64 = last / 64 then 320
  else if first / 4096 = last / 4096 then 960
  else widest

/-- The extent of nothing. -/
def zero : Extent := ⟨0, 0, 0⟩

/-- The extent of two sets together. -/
def add (a b : Extent) : Extent := ⟨a.ranges + b.ranges, a.bytes + b.bytes, a.chars + b.chars⟩

/-- The extent of a run. -/
def ofRun (r : Unicode.Run) : Extent :=
  let n := (r.last - r.first) / r.step + 1
  if r.step = 1 then ⟨1, rangeBytes r.first r.last, n⟩ else ⟨n, n * 320, n⟩

/-- The extent of tables. -/
def ofTables (tables : List (List Unicode.Run)) : Extent :=
  tables.foldl (fun a table => table.foldl (fun a r => a.add (ofRun r)) a) zero

/-- The extent with ranges cut out. -/
def cut (a : Extent) (ranges : Nat) : Extent :=
  ⟨a.ranges + ranges, a.bytes + ranges * widest, a.chars⟩

/-- The extent with up to three characters more for each, but no more than there are. -/
def close (a : Extent) (all : Nat) : Extent :=
  let n := min (3 * a.chars) all
  ⟨a.ranges + n, a.bytes + 320 * n, a.chars + n⟩

end Extent

/-- The extent of a set. -/
def CharSet.extent : CharSet → Extent
  | none => .zero
  | range first last => ⟨1, Extent.rangeBytes first last, last + 1 - first⟩
  | coverage p => (Extent.ofTables p.tables).cut (Extent.ofTables p.except).ranges
  | union a b => a.extent.add b.extent
  | inter a b => a.extent.add b.extent
  | diff a b => a.extent.cut b.extent.ranges
  | symmDiff a b => (a.extent.add b.extent).cut (a.extent.ranges + b.extent.ranges)
  | compl a => Extent.cut ⟨1, Extent.widest, 0x110000⟩ a.extent.ranges
  | folded a => a.extent.close 3000
  | foldedAscii a => a.extent.close 52

/-! ### Whole outlines -/

namespace Outline

mutual

/-- A number of bytes that the machine of an outline never exceeds. -/
def bound : Outline → Nat
  | empty => 32
  | set s => 136 + s.extent.bytes
  | look _ => 32
  | times o least most _ => (most.getD (max least 1)) * (o.bound + 44) + 128
  | group o => o.bound + 68
  | seq os => boundAll os + 32
  | alt os => boundAll os + 64

/-- The bound of outlines together, with the links between them. -/
def boundAll : List Outline → Nat
  | [] => 0
  | o :: rest => o.bound + 8 + boundAll rest

end

end Outline

end ShapeCheck.Pattern

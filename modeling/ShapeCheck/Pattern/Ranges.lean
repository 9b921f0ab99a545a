import ShapeCheck.Pattern.CharSet

/-!
# Sets of characters as ranges

* `CodeRange`: code points from a first to a last one;
* `CodeRange.normal`: ranges in ascending order, with a gap between any two;
* `CharSet.ranges`: the ranges of a set, surrogates left out;
* `CodeRange.sequences`: the encoded characters of a range, as sequences of ranges of bytes.

A range of characters is cut where the number of bytes changes, and then until all bytes of a part
but the first ones that are equal run through all their values.
-/

namespace ShapeCheck.Pattern

/-- Code points from a first to a last one. -/
structure CodeRange where
  first : Nat
  last : Nat
  deriving DecidableEq, Repr

namespace CodeRange

/-- Ascending ranges after a first one, joined where they meet. -/
def joinAfter (r : CodeRange) : List CodeRange → List CodeRange
  | [] => [r]
  | s :: rest =>
    if s.first ≤ r.last + 1 then joinAfter ⟨r.first, max r.last s.last⟩ rest
    else r :: joinAfter s rest

/-- Ranges in ascending order, joined where they meet. -/
def normal (rs : List CodeRange) : List CodeRange :=
  match rs.mergeSort fun r s => decide (r.first ≤ s.first) with
  | [] => []
  | r :: rest => joinAfter r rest

/-- What lies between ascending ranges, from a code point on. -/
def gaps (next : Nat) : List CodeRange → List CodeRange
  | [] => if next ≤ 0x10FFFF then [⟨next, 0x10FFFF⟩] else []
  | r :: rest =>
    if next < r.first then ⟨next, r.first - 1⟩ :: gaps (r.last + 1) rest
    else gaps (r.last + 1) rest

/-- All that is not in ascending ranges. -/
def compl (rs : List CodeRange) : List CodeRange := gaps 0 rs

/-- What is in one of two lists of ranges. -/
def union (rs ss : List CodeRange) : List CodeRange := normal (rs ++ ss)

/-- What is in both of two lists of ranges. -/
def inter (rs ss : List CodeRange) : List CodeRange := compl (union (compl rs) (compl ss))

/-- What is in the first of two lists of ranges only. -/
def diff (rs ss : List CodeRange) : List CodeRange := compl (union (compl rs) ss)

/-- Membership in one of some ranges. -/
def covered (rs : List CodeRange) (c : Nat) : Bool :=
  rs.any fun r => r.first ≤ c && c ≤ r.last

/-- The ranges of a run. -/
def ofRun (r : Unicode.Run) : List CodeRange :=
  if r.step = 1 then [⟨r.first, r.last⟩]
  else (List.range ((r.last - r.first) / r.step + 1)).map fun i =>
    ⟨r.first + i * r.step, r.first + i * r.step⟩

/-- The ranges of tables. -/
def ofTables (tables : List (List Unicode.Run)) : List CodeRange :=
  normal (tables.flatMap (·.flatMap ofRun))

/-- The ranges of a coverage. -/
def ofCoverage (p : Unicode.Coverage) : List CodeRange :=
  diff (ofTables p.tables) (ofTables p.except)

/-- The code points that others differ from in case only. -/
def casedCodes : List Nat :=
  Unicode.foldRuns.flatMap fun r =>
    (List.range ((r.last - r.first) / r.step + 1)).flatMap fun i =>
      [r.first + i * r.step, r.image + i * r.step]

/-- Ranges with all code points that differ from a member in case only, as `orbit` says. -/
def close (orbit : Nat → List Nat) (codes : List Nat) (rs : List CodeRange) : List CodeRange :=
  union rs ((codes.filter fun c => (orbit c).any (covered rs)).map fun c => ⟨c, c⟩)

/-- The letters of ASCII. -/
def asciiLetters : List Nat := (List.range 26).flatMap fun i => [0x41 + i, 0x61 + i]

/-- The code points that no character has. -/
def surrogates : CodeRange := ⟨0xD800, 0xDFFF⟩

end CodeRange

namespace CharSet

/-- The code points of a set as ranges. -/
def codeRanges : CharSet → List CodeRange
  | none => []
  | range first last => if first ≤ last then [⟨first, last⟩] else []
  | coverage p => CodeRange.ofCoverage p
  | union a b => CodeRange.union a.codeRanges b.codeRanges
  | inter a b => CodeRange.inter a.codeRanges b.codeRanges
  | diff a b => CodeRange.diff a.codeRanges b.codeRanges
  | symmDiff a b =>
    CodeRange.union (CodeRange.diff a.codeRanges b.codeRanges)
      (CodeRange.diff b.codeRanges a.codeRanges)
  | compl a => CodeRange.compl a.codeRanges
  | folded a => CodeRange.close Unicode.orbit CodeRange.casedCodes a.codeRanges
  | foldedAscii a => CodeRange.close asciiOrbit CodeRange.asciiLetters a.codeRanges

/-- The characters of a set as ranges. -/
def ranges (s : CharSet) : List CodeRange :=
  CodeRange.diff s.codeRanges [CodeRange.surrogates]

end CharSet

/-! ### Encoded characters -/

/-- Bytes from a first to a last one. -/
structure ByteRange where
  first : Nat
  last : Nat
  deriving DecidableEq, Repr

/-- The bytes of an encoded character. -/
def encoded (c : Nat) : List Nat :=
  if c < 0x80 then [c]
  else if c < 0x800 then [0xC0 + c / 64, 0x80 + c % 64]
  else if c < 0x10000 then [0xE0 + c / 4096, 0x80 + c / 64 % 64, 0x80 + c % 64]
  else [0xF0 + c / 262144, 0x80 + c / 4096 % 64, 0x80 + c / 64 % 64, 0x80 + c % 64]

namespace CodeRange

/-- The end of the first part when a range is cut at the borders of units of some sizes. -/
def unitEnd? (a b : Nat) : List Nat → Option Nat
  | [] => none
  | n :: more =>
    if a / n = b / n then unitEnd? a b more
    else if a % n ≠ 0 then some (a - a % n + (n - 1))
    else if b % n ≠ n - 1 then some (b - b % n - 1)
    else unitEnd? a b more

/-- The end of the first part of a range that has to be cut. -/
def cutEnd? (a b : Nat) : Option Nat :=
  match [0x7F, 0x7FF, 0xFFFF].find? fun n => decide (a ≤ n ∧ n < b) with
  | some n => some n
  | none => if b < 0x80 then none else unitEnd? a b [64, 4096, 262144]

/-- The sequences of the characters between two; the fuel bounds the number of cuts. -/
def sequencesWithin : Nat → Nat → Nat → List (List ByteRange)
  | 0, _, _ => []
  | fuel + 1, a, b =>
    match cutEnd? a b with
    | some n => sequencesWithin fuel a n ++ sequencesWithin fuel (n + 1) b
    | none => [List.zipWith ByteRange.mk (encoded a) (encoded b)]

/-- The encoded characters of a range without surrogates. -/
def sequences (r : CodeRange) : List (List ByteRange) := sequencesWithin 64 r.first r.last

end CodeRange

end ShapeCheck.Pattern

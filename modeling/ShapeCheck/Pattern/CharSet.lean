import ShapeCheck.Unicode.CaseFold
import ShapeCheck.Unicode.Run

/-!
# Sets of characters

* `CharSet`: ranges and Unicode coverages, closed under the operations of bracketed classes;
* `CharSet.has`: membership of a code point;
* `CharSet.folded`: all that differs from a member in case only, by Unicode or by ASCII rules.
-/

namespace ShapeCheck.Pattern

/-- A set of characters, as written. -/
inductive CharSet where
  | none
  | range (first last : Nat)
  | coverage (p : Unicode.Coverage)
  | union (a b : CharSet)
  | inter (a b : CharSet)
  | diff (a b : CharSet)
  | symmDiff (a b : CharSet)
  | compl (a : CharSet)
  | folded (a : CharSet)
  | foldedAscii (a : CharSet)
  deriving DecidableEq

/-- The ASCII letters that differ from a code point in case only, itself included. -/
def asciiOrbit (c : Nat) : List Nat :=
  if 0x41 ≤ c ∧ c ≤ 0x5A then [c, c + 0x20]
  else if 0x61 ≤ c ∧ c ≤ 0x7A then [c, c - 0x20]
  else [c]

namespace CharSet

/-- Membership of a code point. -/
def has : CharSet → Nat → Bool
  | none, _ => false
  | range first last, c => first ≤ c && c ≤ last
  | coverage p, c => p.has c
  | union a b, c => a.has c || b.has c
  | inter a b, c => a.has c && b.has c
  | diff a b, c => a.has c && !b.has c
  | symmDiff a b, c => a.has c != b.has c
  | compl a, c => !a.has c
  | folded a, c => (Unicode.orbit c).any a.has
  | foldedAscii a, c => (asciiOrbit c).any a.has

/-- The set of one code point. -/
def single (c : Nat) : CharSet := range c c

/-- The union of sets. -/
def unionAll : List CharSet → CharSet
  | [] => none
  | [a] => a
  | a :: rest => union a (unionAll rest)

/-- The code points of a list. -/
def ofCodes (cs : List Nat) : CharSet := unionAll (cs.map single)

end CharSet

end ShapeCheck.Pattern

import ShapeCheck.Pattern.CharSet
import ShapeCheck.Pattern.Look

/-!
# Regular expressions and where they match

* `Regex`: regular expressions over atoms; an `Atom` is a condition or one character of a set;
* `Regex.ends`: the positions that a match can end at, from the positions it may start at.

A set of positions of a text is a number whose bits are its members.  `Mask` is what is left of an
atom once the text is known: the positions where it holds, and whether it goes one further.  The
ends are then computed all at once, by the structure of the expression.
-/

namespace ShapeCheck.Pattern

/-- A regular expression over atoms.  `times r least most` is at least `least` and at most `most`
copies of `r`. -/
inductive Regex (α : Type) where
  | empty
  | atom (a : α)
  | seq (r s : Regex α)
  | alt (r s : Regex α)
  | times (r : Regex α) (least : Nat) (most : Option Nat)
  deriving DecidableEq

/-- What a pattern is built from: a condition, or one character of a set. -/
inductive Atom where
  | look (l : Look)
  | one (s : CharSet)
  deriving DecidableEq

/-- The positions where an atom holds, and whether it takes a character. -/
structure Mask where
  positions : Nat
  advances : Bool
  deriving DecidableEq, Repr

/-- The positions of the characters that pass a test. -/
def positionsOf (test : Char → Bool) : List Char → Nat
  | [] => 0
  | c :: rest => 2 * positionsOf test rest + (test c).toNat

/-- The positions between two characters that pass a test. -/
def positionsBetween (test : Option Char → Option Char → Bool) (before : Option Char) :
    List Char → Nat
  | [] => (test before none).toNat
  | c :: rest => 2 * positionsBetween test (some c) rest + (test before (some c)).toNat

/-- The mask of an atom on a text. -/
def Atom.mask (text : List Char) : Atom → Mask
  | look l => ⟨positionsBetween l.holds none text, false⟩
  | one s => ⟨positionsOf (fun c => s.has c.toNat) text, true⟩

/-- The positions behind a mask. -/
def Mask.ends (m : Mask) (starts : Nat) : Nat :=
  if m.advances then (starts &&& m.positions) <<< 1 else starts &&& m.positions

/-- A function applied a number of times, or until nothing changes. -/
def iterate (f : Nat → Nat) : Nat → Nat → Nat
  | 0, s => s
  | n + 1, s => if f s = s then s else iterate f n (f s)

/-- The positions reached in a number of rounds or less. -/
def spread (f : Nat → Nat) : Nat → Nat → Nat
  | 0, s => s
  | n + 1, s => if s ||| f s = s then s else spread f n (s ||| f s)

namespace Regex

/-- The expression with every atom replaced. -/
def map {α β : Type} (f : α → β) : Regex α → Regex β
  | empty => empty
  | atom a => atom (f a)
  | seq r s => seq (r.map f) (s.map f)
  | alt r s => alt (r.map f) (s.map f)
  | times r least most => times (r.map f) least most

/-- The positions that a match can end at, from those it may start at, in a text of `n`
characters. -/
def ends (n : Nat) : Regex Mask → Nat → Nat
  | empty, starts => starts
  | atom m, starts => m.ends starts
  | seq r s, starts => s.ends n (r.ends n starts)
  | alt r s, starts => r.ends n starts ||| s.ends n starts
  | times r least most, starts =>
    let rounds := match most with
      | none => n + 1
      | some most => most - least
    spread (r.ends n) rounds (iterate (r.ends n) least starts)

/-- Whether the expression matches somewhere in a text. -/
def isMatch (r : Regex Atom) (text : List Char) : Bool :=
  let n := text.length
  (r.map (Atom.mask text)).ends n (1 <<< (n + 1) - 1) != 0

/-- The expressions of a list one after the other. -/
def seqAll {α : Type} : List (Regex α) → Regex α
  | [] => empty
  | [r] => r
  | r :: rest => seq r (seqAll rest)

/-- The expressions of a list as alternatives; there should be one at least. -/
def altAll {α : Type} : List (Regex α) → Regex α
  | [] => empty
  | [r] => r
  | r :: rest => alt r (altAll rest)

end Regex

end ShapeCheck.Pattern

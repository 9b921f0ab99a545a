/-!
# Runs of code points

Tables of Unicode data are lists of runs in ascending order.

* `Run`: code points from a first to a last one, at a fixed distance from each other;
* `covers`: membership in a table;
* `Coverage`: what some tables cover and some others do not.
-/

namespace ShapeCheck.Unicode

/-- The code points `first`, `first + step`, and so on up to `last`. -/
structure Run where
  first : Nat
  last : Nat
  step : Nat
  deriving DecidableEq, Repr

/-- Membership in a table of ascending runs. -/
def covers : List Run → Nat → Bool
  | [], _ => false
  | r :: rest, c =>
    if c < r.first then false
    else if c ≤ r.last then (c - r.first) % r.step == 0
    else covers rest c

/-- What the tables of one list cover and those of another do not. -/
structure Coverage where
  tables : List (List Run)
  except : List (List Run)
  deriving DecidableEq, Repr

/-- Membership in a coverage. -/
def Coverage.has (p : Coverage) (c : Nat) : Bool :=
  p.tables.any (covers · c) && !p.except.any (covers · c)

/-- A run of code points and the image of its first one; the others keep their distance. -/
structure CaseRun where
  first : Nat
  last : Nat
  step : Nat
  image : Nat
  deriving DecidableEq, Repr

/-- The image of a code point under ascending runs; one that no run covers stays as it is. -/
def mapped : List CaseRun → Nat → Nat
  | [], c => c
  | r :: rest, c =>
    if c < r.first then c
    else if c ≤ r.last then
      if (c - r.first) % r.step = 0 then r.image + (c - r.first) else c
    else mapped rest c

/-- The code point that a run maps to a given one. -/
def CaseRun.preimage? (r : CaseRun) (c : Nat) : Option Nat :=
  if r.image ≤ c ∧ (c - r.image) % r.step = 0 ∧ r.first + (c - r.image) ≤ r.last then
    some (r.first + (c - r.image))
  else
    none

end ShapeCheck.Unicode

import ShapeCheck.Binary64.Basic

/-!
# The shortest decimal that reads back

* `Decimal`: a natural number of decimal digits and a decimal exponent;
* `Binary64.shortest`: the decimal of fewest digits whose nearest double is the given one, and of
  those the nearest to it; `Tie` says which one if two are equally near;
* `Decimal.plain`: positional digits, without a fraction when there is none;
* `Decimal.mixed`: positional digits with a fraction for exponents from `-5` to `15`, and
  scientific notation for all others.

The search runs over decimal grids: for one digit, two digits and so on, the two neighbours of the
value on the grid are tested against the interval of the reals that round to it.  If any point of
a grid lies in the interval then so does one of the two neighbours.
-/

namespace ShapeCheck

/-- `digits · 10 ^ exponent`. -/
structure Decimal where
  digits : Nat
  exponent : Int
  deriving DecidableEq, Repr

namespace Decimal

/-- The digits as text. -/
def text (d : Decimal) : List Char := (Nat.toDigits 10 d.digits)

/-- The exponent of the first digit. -/
def leading (d : Decimal) : Int := d.exponent + (d.text.length - 1 : Nat)

/-- The same number without zeros at the end of its digits; the fuel bounds their count. -/
def trim : Nat → Decimal → Decimal
  | 0, d => d
  | fuel + 1, d =>
    if d.digits % 10 = 0 ∧ d.digits ≠ 0 then trim fuel ⟨d.digits / 10, d.exponent + 1⟩ else d

/-- Positional digits; `fraction` is written after the point of a number that has no fraction. -/
def positional (fraction : List Char) (d : Decimal) : List Char :=
  if 0 ≤ d.exponent then
    d.text ++ List.replicate d.exponent.toNat '0' ++ fraction
  else
    let places := (-d.exponent).toNat
    let padded := List.replicate (places + 1 - d.text.length) '0' ++ d.text
    padded.take (padded.length - places) ++ '.' :: padded.drop (padded.length - places)

/-- The first digit, a point before the others if there are any, and a signed exponent. -/
def scientific (d : Decimal) : List Char :=
  let mantissa := match d.text with
    | first :: next :: rest => first :: '.' :: next :: rest
    | short => short
  let sign := if d.leading < 0 then '-' else '+'
  mantissa ++ 'e' :: sign :: Nat.toDigits 10 d.leading.natAbs

/-- Positional digits for every exponent. -/
def plain (d : Decimal) : List Char := d.positional []

/-- Positional with a fraction for a leading exponent from `-5` to `15`, else scientific. -/
def mixed (d : Decimal) : List Char :=
  if -5 ≤ d.leading ∧ d.leading ≤ 15 then d.positional ['.', '0'] else d.scientific

end Decimal

namespace Binary64

/-- Which of two decimals that are equally near is taken: the one with an even last digit, or the
one of greater magnitude. -/
inductive Tie where
  | toEven
  | away
  deriving DecidableEq, Repr

/-- Whether the lower of two neighbours is taken, given twice the distance to it and the distance of
the neighbours. -/
def Tie.takesLower (tie : Tie) (lower twice step : Nat) : Bool :=
  match tie with
  | toEven => twice < step || (twice = step && lower % 2 = 0)
  | away => twice < step

/-- All grids lie at or above `10 ^ -gridFloor`. -/
def gridFloor : Nat := 400

/-- The reals that round to a number, as ends in a common unit; the ends belong to it or not. -/
structure Interval where
  low : Nat
  high : Nat
  closed : Bool

/-- Membership of a point. -/
def Interval.has (i : Interval) (point : Nat) : Bool :=
  if i.closed then i.low ≤ point && point ≤ i.high else i.low < point && point < i.high

/-- The value, counted in quarters of a unit times `10 ^ -gridFloor`. -/
def scaled (x : Binary64) : Nat := 4 * x.magnitude * Nat.pow 10 gridFloor

/-- The interval of the reals that round to `x`, in the unit of `scaled`: half way to each
neighbour, the lower one being nearer at a power of two. -/
def interval (x : Binary64) : Interval :=
  let quarter := (1 <<< x.exponent) * Nat.pow 10 gridFloor
  let below := if x.significand = 1 <<< 52 ∧ 0 < x.exponent then quarter else 2 * quarter
  ⟨x.scaled - below, x.scaled + 2 * quarter, x.significand % 2 = 0⟩

/-- The better neighbour of the value on the grid `10 ^ (level - gridFloor)`, if one reads back. -/
def onGrid (tie : Tie) (x : Binary64) (level : Nat) : Option Decimal :=
  let step := (4 <<< 1074) * Nat.pow 10 level
  let lower := x.scaled / step
  let i := x.interval
  let pick (digits : Nat) : Option Decimal := some ⟨digits, (level : Int) - gridFloor⟩
  match i.has (lower * step), i.has ((lower + 1) * step) with
  | true, true =>
    if tie.takesLower lower (2 * (x.scaled % step)) step then pick lower else pick (lower + 1)
  | true, false => pick lower
  | false, true => pick (lower + 1)
  | false, false => none

/-- The first grid that has a point, from the coarsest level down. -/
def firstGrid (tie : Tie) (x : Binary64) : Nat → Decimal
  | 0 => ⟨0, 0⟩
  | level + 1 => (x.onGrid tie level).getD (x.firstGrid tie level)

/-- The level whose step is the power of ten at or below the value. -/
def topLevel (x : Binary64) : Nat :=
  (Nat.toDigits 10 (x.scaled / (4 <<< 1074))).length - 1

/-- The decimal of fewest digits that reads back, the nearest of those; zero has one digit. -/
def shortest (tie : Tie) (x : Binary64) : Decimal :=
  if x.significand = 0 then ⟨0, 0⟩ else (x.firstGrid tie (x.topLevel + 1)).trim 20

/-- A minus sign before the text of a negative number, zero included. -/
def withSign (x : Binary64) (text : List Char) : List Char :=
  if x.negative then '-' :: text else text

/-- The text of the number with positional digits only; a tie goes away from zero. -/
def plainText (x : Binary64) : String := String.ofList (x.withSign (x.shortest .away).plain)

/-- The text of the number in a document; a tie goes to the even digit. -/
def documentText (x : Binary64) : String := String.ofList (x.withSign (x.shortest .toEven).mixed)

end Binary64

end ShapeCheck

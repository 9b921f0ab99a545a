import ShapeCheck.Binary64.Shortest
import ShapeCheck.Text.Basic

/-!
# Doubles with infinities

* `Extended`: a finite double, one of the two infinities, or no number;
* `Extended.ofScientific`: the double nearest to a decimal number, an infinity beyond the largest;
* `Extended.ofText?`: the double that a text spells;
* `Extended.text`: all digits of a double.
-/

namespace ShapeCheck

open Text (decimalValue signed)

/-- A finite double, an infinity, or no number. -/
inductive Extended where
  | finite (x : Binary64)
  | infinite (negative : Bool)
  | nan
  deriving DecidableEq

namespace Extended

/-- The digits of a finite double without exponent, or a word. -/
def text : Extended → String
  | finite x => x.plainText
  | infinite negative => if negative then "-inf" else "inf"
  | nan => "NaN"

/-- One of the two zeros. -/
def isZero : Extended → Bool
  | finite x => x.eqv .zero
  | _ => false

/-- Zero with a sign. -/
def zero (negative : Bool) : Extended := finite { Binary64.zero with negative := negative }

/-- Numbers of magnitude `10 ^ magnitudeLimit` and more are beyond the largest double, and their
inverses round to zero. -/
def magnitudeLimit : Nat := 400

/-- The double nearest to `± digits · 10 ^ exponent`. -/
def ofScientific (negative : Bool) (digits : Nat) (exponent : Int) : Extended :=
  if digits = 0 then zero negative
  else
    let leading := exponent + (Nat.toDigits 10 digits).length
    if leading < -(magnitudeLimit : Int) then zero negative
    else if (magnitudeLimit : Int) < leading then infinite negative
    else
      let (num, den) :=
        if 0 ≤ exponent then (digits * Nat.pow 10 exponent.toNat, 1)
        else (digits, Nat.pow 10 (-exponent).toNat)
      match Binary64.nearest? negative (num <<< 1074) den with
      | some x => finite x
      | none => infinite negative

/-! ### Reading -/

/-- The exponent behind a mark, which must be the end of the text; no mark stands for zero. -/
def exponent? : List Char → Option Int
  | [] => some 0
  | mark :: rest =>
    if mark = 'e' ∨ mark = 'E' then
      let (negative, ds) := signed rest
      if !ds.isEmpty && ds.all Char.isDigit then
        some (if negative then -(decimalValue ds : Int) else decimalValue ds)
      else none
    else none

/-- The number of digits with a point, if there is one, and an exponent, if there is one. -/
def ofDigits? (negative : Bool) (cs : List Char) : Option Extended :=
  let whole := cs.takeWhile Char.isDigit
  let (fraction, tail) :=
    match cs.dropWhile Char.isDigit with
    | '.' :: rest => (rest.takeWhile Char.isDigit, rest.dropWhile Char.isDigit)
    | rest => ([], rest)
  if whole.isEmpty && fraction.isEmpty then none
  else do
    let exponent ← exponent? tail
    some (ofScientific negative (decimalValue (whole ++ fraction)) (exponent - fraction.length))

/-- The double that a text spells: digits on at least one side of a point, or a word. -/
def ofText? (s : String) : Option Extended :=
  let (negative, cs) := signed s.toList
  let word := String.ofList (cs.map Char.toLower)
  if word = "inf" ∨ word = "infinity" then some (infinite negative)
  else if word = "nan" then some nan
  else ofDigits? negative cs

end Extended

end ShapeCheck

import ShapeCheck.Text.Basic

/-!
# Lists of items in brackets

* `items?`: items with commas between, of which one may follow the last, up to a bracket.
-/

namespace ShapeCheck.Text

/-- What follows a bracket, if it comes first. -/
def after? (bracket : Char) : List Char → Option (List Char)
  | [] => none
  | c :: rest => if c = bracket then some rest else none

/-- Items with commas between up to a closing bracket.  `skip` leaves out what may stand between,
and the fuel bounds the number of items. -/
def itemsUpTo? {α : Type} (skip : List Char → List Char) (item : List Char → Read α)
    (close : Char) : Nat → List Char → Option (List α × List Char)
  | 0, _ => none
  | fuel + 1, cs =>
    match after? close (skip cs) with
    | some rest => some ([], rest)
    | none => do
      let (x, rest) ← item (skip cs)
      match skip rest with
      | ',' :: rest => push (some x) (itemsUpTo? skip item close fuel rest)
      | rest => (after? close rest).map fun rest => ([x], rest)

/-- Items with commas between, of which one may follow the last, up to a closing bracket. -/
def items? {α : Type} (skip : List Char → List Char) (item : List Char → Read α) (close : Char)
    (cs : List Char) : Read (List α) :=
  itemsUpTo? skip item close (cs.length + 1) cs

end ShapeCheck.Text

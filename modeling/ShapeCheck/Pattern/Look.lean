import ShapeCheck.Unicode.Property

/-!
# Conditions on the text around a position

* `Look`: a condition on the two characters around a position;
* `Look.holds`: whether it is met.
-/

namespace ShapeCheck.Pattern

/-- A condition on the characters before and after a position; where words matter, a word consists
of Unicode or of ASCII characters. -/
inductive Look where
  | textStart
  | textEnd
  | lineStart
  | lineEnd
  | crlfStart
  | crlfEnd
  | boundary (unicode : Bool)
  | notBoundary (unicode : Bool)
  | wordStart (unicode : Bool)
  | wordEnd (unicode : Bool)
  | wordStartHalf (unicode : Bool)
  | wordEndHalf (unicode : Bool)
  deriving DecidableEq, Repr

/-- Whether a character is part of a word. -/
def isWordChar (unicode : Bool) (c : Char) : Bool :=
  if unicode then Unicode.word.has c.toNat else c.isAlphanum || c = '_'

/-- Whether a condition holds between two characters; an end of the text has none. -/
def Look.holds (l : Look) (before after : Option Char) : Bool :=
  let wordBefore (unicode : Bool) : Bool := before.any (isWordChar unicode)
  let wordAfter (unicode : Bool) : Bool := after.any (isWordChar unicode)
  match l with
  | textStart => before.isNone
  | textEnd => after.isNone
  | lineStart => before.isNone || before == some '\n'
  | lineEnd => after.isNone || after == some '\n'
  | crlfStart =>
    before.isNone || before == some '\n' || (before == some '\r' && after != some '\n')
  | crlfEnd =>
    after.isNone || after == some '\r' || (after == some '\n' && before != some '\r')
  | boundary u => wordBefore u != wordAfter u
  | notBoundary u => wordBefore u == wordAfter u
  | wordStart u => !wordBefore u && wordAfter u
  | wordEnd u => wordBefore u && !wordAfter u
  | wordStartHalf u => !wordBefore u
  | wordEndHalf u => !wordAfter u

end ShapeCheck.Pattern

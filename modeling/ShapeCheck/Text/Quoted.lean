import ShapeCheck.Unicode.Current

/-!
# Quoted text

* `isPrintable`: characters that are shown as they are;
* `Text.quoted`: a text in quotes on one line, with escapes for quotes, backslashes and all that
  cannot be shown as it is.
-/

namespace ShapeCheck.Text

/-- Fillers of Hangul, which have no shape. -/
def fillers : List Char := ['\u115F', '\u1160', '\u3164', '\uFFA0']

/-- Marks of voiced sound that have a width of their own, although they extend what is before. -/
def soundMarks : List Char := ['\uFF9E', '\uFF9F']

/-- Characters that can be shown, other than fillers and what only shows beside others. -/
def isPrintable (c : Char) : Bool :=
  c = ' ' ||
    (Unicode.Current.visible.has c.toNat && !fillers.contains c &&
      (soundMarks.contains c || !Unicode.Current.graphemeExtend.has c.toNat))

/-- A character of a quoted text. -/
def quotedChar (c : Char) : List Char :=
  match c with
  | '\x00' => ['\\', '0']
  | '\t' => ['\\', 't']
  | '\r' => ['\\', 'r']
  | '\n' => ['\\', 'n']
  | '"' => ['\\', '"']
  | '\\' => ['\\', '\\']
  | c =>
    if isPrintable c then [c]
    else ['\\', 'u', '\x7b'] ++ Nat.toDigits 16 c.toNat ++ ['\x7d']

/-- A text in quotes. -/
def quoted (s : String) : String :=
  String.ofList ('"' :: (s.toList.flatMap quotedChar ++ ['"']))

end ShapeCheck.Text

import ShapeCheck.Pattern.Basic
import ShapeCheck.Table
import ShapeCheck.Text.Quoted

/-!
# Named formats

* `Format`: how a text is checked, by a pattern or by a predicate;
* `Formats`: formats by name, in order of registration;
* `Formats.check?`: whether a text has a format; unknown formats give no answer.
-/

namespace ShapeCheck

/-- How a text is checked. -/
inductive Format where
  | pattern (p : Pattern)
  | predicate (accepts : String → Bool)

namespace Format

/-- Whether a text has the format. -/
def accepts : Format → String → Bool
  | pattern p, s => p.isMatch s
  | predicate f, s => f s

/-- The format of a pattern text, unless the text is refused. -/
def ofSource? (source : String) : Option Format := (Pattern.compile? source).map pattern

/-- The format in words. -/
def describe : Format → String
  | pattern p => "Pattern(" ++ Text.quoted p.source ++ ")"
  | predicate _ => "Predicate(..)"

end Format

/-- Formats by name. -/
abbrev Formats := Table Format

/-- Whether a text has a format; unknown formats give no answer. -/
def Formats.check? (formats : Formats) (name text : String) : Option Bool :=
  (formats.get? name).map (·.accepts text)

end ShapeCheck

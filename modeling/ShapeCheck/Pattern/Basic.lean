import ShapeCheck.Pattern.Reader
import ShapeCheck.Text.Basic

/-!
# Patterns

A `Pattern` is a text together with the regular expression that it stands for, so that two
patterns are equal as soon as their texts are.

* `Pattern.compile?`: the pattern of a text, unless the text is refused;
* `Pattern.isMatch`: whether a pattern matches somewhere in a text.
-/

namespace ShapeCheck

/-- A pattern text that stands for a regular expression. -/
structure Pattern where
  source : String
  regex : Pattern.Regex Pattern.Atom
  compiled : Pattern.regex? source = some regex

namespace Pattern

/-- The pattern of a text, unless the text is refused. -/
def compile? (source : String) : Option Pattern :=
  match h : regex? source with
  | some regex => some ⟨source, regex, h⟩
  | none => none

/-- Whether a pattern matches somewhere in a text. -/
def isMatch (p : Pattern) (text : String) : Bool := p.regex.isMatch text.toList

/-- Patterns with one text are equal. -/
@[ext] theorem ext_source {p q : Pattern} (h : p.source = q.source) : p = q := by
  obtain ⟨s, r, hr⟩ := p
  obtain ⟨t, u, hu⟩ := q
  obtain rfl : s = t := h
  obtain rfl : r = u := Option.some.inj (hr.symm.trans hu)
  rfl

@[simp] theorem compile?_source (p : Pattern) : compile? p.source = some p := by
  unfold compile?
  split
  · rename_i r h
    exact congrArg some (ext_source rfl)
  · rename_i h
    simp [p.compiled] at h

end Pattern

end ShapeCheck

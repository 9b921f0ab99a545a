import ShapeCheck.Json.Basic
import ShapeCheck.Text.Quoted

/-!
# Custom validations

A custom validation is filed under a name and runs on every schema node that has a key of this
name, whatever the kind of the node.

* `Custom`: from the keys of a node and a value to a message, if the value is rejected;
* `Customs`: custom validations by name, in order of registration;
* `Customs.messages`: what they say about a value, silent and empty answers left out.
-/

namespace ShapeCheck

/-- From the keys of a node and a value to a message, if the value is rejected. -/
abbrev Custom := Json.Members → Json → Option String

/-- Custom validations by name. -/
abbrev Customs := Table Custom

namespace Customs

/-- The answer of one custom validation, if it applies and has something to say. -/
def message? (node : Json.Members) (value : Json) (entry : String × Custom) : Option String :=
  if (node.lookup entry.1).isSome then (entry.2 node value).filter (· ≠ "") else none

/-- The answers of all that apply, in order of registration. -/
def messages (customs : Customs) (node : Json.Members) (value : Json) : List String :=
  customs.entries.filterMap (message? node value)

/-- The names in words. -/
def describe (customs : Customs) : String :=
  "\x7b" ++ String.intercalate ", " (customs.names.map Text.quoted) ++ "\x7d"

end Customs

end ShapeCheck

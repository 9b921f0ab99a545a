import ShapeCheck.Binary64.Extended

/-!
# TOML values

* `Value`: the values of a TOML document; dates and times are kept as text.

A document is a table: a list of names, each once, with their values.
-/

namespace ShapeCheck.Toml

/-- A TOML value; a date or a time is kept as text. -/
inductive Value where
  | string (text : String)
  | integer (value : Int)
  | float (value : Extended)
  | bool (value : Bool)
  | datetime (text : String)
  | array (elements : List Value)
  | table (entries : List (String × Value))

instance : Inhabited Value := ⟨.bool false⟩

/-- Names with their values. -/
abbrev Entries := List (String × Value)

end ShapeCheck.Toml

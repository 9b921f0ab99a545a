/-!
# Tokens of YAML documents

* `Token`: directives, marks of documents, brackets that are written or that indentation stands for,
  marks of entries, keys and values, and scalars with their properties.
-/

namespace ShapeCheck.Yaml

/-- What a document is made of. -/
inductive Token where
  | version
  | handle (name expansion : String)
  | documentStart
  | documentEnd
  | blockList
  | blockTable
  | blockEnd
  | listStart
  | listEnd
  | tableStart
  | tableEnd
  | blockEntry
  | flowEntry
  | key
  | value
  | alias (name : String)
  | anchor (name : String)
  | tag (handle suffix : String)
  | scalar (plain : Bool) (text : String)
  deriving DecidableEq

/-- Whether a token is the name or the kind of a node. -/
def Token.isProperty : Token → Bool
  | anchor _ => true
  | tag _ _ => true
  | _ => false

end ShapeCheck.Yaml

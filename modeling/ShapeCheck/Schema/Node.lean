import ShapeCheck.Json.Basic
import ShapeCheck.Pattern.Basic

/-!
# Schema nodes

* `Kind`: the eight kinds of values that a schema can ask for;
* `TextRules`, `NumberRules`, `Bound`: the rules for leaves;
* `Node`: a well-formed schema, with the rules of its kind and the nodes below;
* `Node.kind`, `Node.source`: the kind of a node and its own keys as written.

A node is a structure of its parts (`Node.mk`); the rules of objects and arrays hold the nodes
below, so that functions on nodes are recursive in the nodes.
-/

namespace ShapeCheck

/-- The kinds of values. -/
inductive Kind where
  | string
  | number
  | integer
  | boolean
  | null
  | any
  | object
  | array
  deriving DecidableEq, Repr

namespace Kind

/-- All kinds, in the order in which they are listed. -/
def all : List Kind := [string, number, integer, boolean, null, any, object, array]

/-- The name of a kind. -/
def name : Kind → String
  | string => "string"
  | number => "number"
  | integer => "integer"
  | boolean => "boolean"
  | null => "null"
  | any => "any"
  | object => "object"
  | array => "array"

/-- The kind of a name. -/
def ofName? (s : String) : Option Kind := all.find? (·.name == s)

/-- The kind that a value spells: its name, or an object with its name for the only key and no
value. -/
def ofJson? : Json → Option Kind
  | .string s => ofName? s
  | .object [(s, .null)] => ofName? s
  | _ => none

@[simp] theorem ofName?_name (k : Kind) : ofName? k.name = some k := by cases k <;> rfl

theorem ofName?_eq_some_iff {s : String} {k : Kind} : ofName? s = some k ↔ s = k.name := by
  constructor
  · intro h
    rw [ofName?] at h
    have hk := List.find?_some h
    exact (eq_of_beq hk).symm
  · rintro rfl
    exact ofName?_name k

end Kind

/-- The rules for strings. -/
structure TextRules where
  minLength : Option Nat
  maxLength : Option Nat
  pattern : Option Pattern
  format : Option String
  allowed : Option (List String)

/-- A numeric limit, itself allowed or not. -/
structure Bound where
  limit : Binary64
  exclusive : Bool

/-- The rules for numbers. -/
structure NumberRules where
  minimum : Option Bound
  maximum : Option Bound
  allowed : Option (List Binary64)

mutual

/-- A well-formed schema: whether the member that it is about must be present, its own keys as
written, and its rules. -/
inductive Node where
  | mk (required : Bool) (source : Json.Members) (rules : Rules)

/-- The rules of each kind. -/
inductive Rules where
  | string (rules : TextRules)
  | number (rules : NumberRules)
  | integer (rules : NumberRules)
  | boolean
  | null
  | any
  | object (properties : List (String × Node)) (additional : Additional)
      (oneOf : Option (List Node))
  | array (items : Items) (minItems maxItems : Option Nat)

/-- What becomes of members that are not declared. -/
inductive Additional where
  | forbidden
  | allowed
  | schema (node : Node)

/-- What is asked of elements. -/
inductive Items where
  | free
  | single (node : Node)
  | alternatives (nodes : List Node)

end

/-- The kind of rules. -/
def Rules.kind : Rules → Kind
  | string _ => .string
  | number _ => .number
  | integer _ => .integer
  | boolean => .boolean
  | null => .null
  | any => .any
  | object _ _ _ => .object
  | array _ _ _ => .array

namespace Node

/-- Whether the member that holds the value must be present. -/
def required : Node → Bool
  | mk required _ _ => required

/-- The keys of the node as written, without those that hold nodes. -/
def source : Node → Json.Members
  | mk _ source _ => source

/-- The rules of the node. -/
def rules : Node → Rules
  | mk _ _ rules => rules

/-- The kind of the node. -/
def kind (n : Node) : Kind := n.rules.kind

/-- Whether the node takes null. -/
def isNullable (n : Node) : Bool := n.kind == .null || n.kind == .any

end Node

end ShapeCheck

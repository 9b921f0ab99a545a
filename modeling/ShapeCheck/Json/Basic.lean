import ShapeCheck.Binary64.Basic
import ShapeCheck.Table

/-!
# JSON values

* `Json.Number`: an integer of at most 64 bits, kept as written, or a double;
* `Json`: values whose objects keep the order of their members;
* `Json.same`: equality up to the order of members, with both zeros equal;
* `Json.typeName`: the name of a value's type.
-/

namespace ShapeCheck

/-- A number as read: an integer of at most 64 bits, or a double. -/
inductive Json.Number where
  | integer (value : Int) 
      (inRange : -9223372036854775808 ≤ value ∧ value < 18446744073709551616)
  | double (value : Binary64)
  deriving DecidableEq

/-- A JSON value. -/
inductive Json where
  | null
  | bool (value : Bool)
  | number (value : Json.Number)
  | string (value : String)
  | array (elements : List Json)
  | object (members : List (String × Json))

/-- The members of an object, in order. -/
abbrev Json.Members := List (String × Json)

namespace Json

instance : Inhabited Json := ⟨null⟩

namespace Number

/-- The number as a double: an integer is rounded to the nearest one. -/
def toBinary64 : Number → Binary64
  | integer i h => Binary64.ofInt i h
  | double x => x

/-- Equal as integers or equal as doubles; an integer never equals a double. -/
def same : Number → Number → Bool
  | integer i _, integer j _ => i == j
  | double x, double y => x.eqv y
  | _, _ => false

/-- A count, capped at the largest integer of 64 bits. -/
def ofNat (n : Nat) : Number :=
  integer (min n 18446744073709551615) (by omega)

end Number

/-- The value as a double, when it is a number. -/
def toBinary64? : Json → Option Binary64
  | number n => some n.toBinary64
  | _ => none

/-- The text, when it is a string. -/
def text? : Json → Option String
  | string s => some s
  | _ => none

/-- The truth value, when it is one. -/
def bool? : Json → Option Bool
  | bool b => some b
  | _ => none

/-- The elements, when it is an array. -/
def elements? : Json → Option (List Json)
  | array xs => some xs
  | _ => none

/-- The members, when it is an object. -/
def members? : Json → Option Members
  | object ms => some ms
  | _ => none

/-- Whether the value is null. -/
def isNull : Json → Bool
  | null => true
  | _ => false

/-- Whether the value is a list. -/
def isArray : Json → Bool
  | array _ => true
  | _ => false

/-- The name of the type of a value. -/
def typeName : Json → String
  | null => "null"
  | bool _ => "boolean"
  | number _ => "number"
  | string _ => "string"
  | array _ => "array"
  | object _ => "object"

mutual

/-- Equality up to the order of members. -/
def same : Json → Json → Bool
  | null, null => true
  | bool a, bool b => a == b
  | number a, number b => a.same b
  | string a, string b => a == b
  | array xs, array ys => sameElements xs ys
  | object ms, object ns => ms.length == ns.length && sameMembers ms ns
  | _, _ => false
termination_by structural a => a

/-- Equality element by element. -/
def sameElements : List Json → List Json → Bool
  | [], [] => true
  | x :: xs, y :: ys => same x y && sameElements xs ys
  | _, _ => false
termination_by structural xs => xs

/-- Every member of the first list has an equal value in the second. -/
def sameMembers : Members → Members → Bool
  | [], _ => true
  | (name, value) :: rest, ns =>
    (match ns.lookup name with
      | some other => same value other
      | none => false) && sameMembers rest ns
termination_by structural ms => ms

end

end Json

end ShapeCheck

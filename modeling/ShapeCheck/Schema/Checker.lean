import ShapeCheck.Format.Basic
import ShapeCheck.Report
import ShapeCheck.Schema.Node

/-!
# Checking schema documents

A schema document is checked against the rules of the kinds that it declares, and the node that it
stands for is built in the same pass.  There is a node exactly if there is nothing to report.

* `Checker`: the formats that may be named, and whether foreign keywords are refused;
* `count`, `bound`, `enumeration`, `pattern`, `format`, `flag`: the single keywords;
* `textRules`, `numberRules`: the keywords of leaves;
* `Checker.node`: a document at a locator.

A text stands for a node that has just this text for its kind.  Keywords of other kinds are ignored.
-/

namespace ShapeCheck

/-- What schema documents are checked with. -/
structure Checker where
  formats : Formats
  rejectUnsupported : Bool

namespace Checker

open Json (Members)

/-- The keywords that hold nodes. -/
def childKeywords : List String := ["properties", "additionalProperties", "oneOf", "items"]

/-- Keywords of related languages that are not supported. -/
def unsupportedKeywords : List String :=
  ["uniqueItems", "divisibleBy", "dependencies", "$ref", "extends", "patternProperties",
    "additionalItems", "disallow"]

/-- The keys that do not hold nodes. -/
def ownKeys (ms : Members) : Members := ms.filter fun m => !childKeywords.contains m.1

/-- The message for a value of the wrong type. -/
def typeMessage (name : String) : String := "must be of type [" ++ name ++ "]"

/-- The message for a number with a fraction where there should be none. -/
def wholeMessage : String := "must be of type [number] with no digits"

/-- The message for a value that is none of those listed. -/
def choiceMessage (choices : List String) : String :=
  "must be one of [" ++ String.intercalate " | " choices ++ "]"

/-! ### Keywords -/

/-- A truth value; false if the key is absent. -/
def flag (loc key : String) (ms : Members) : Checked Bool :=
  match ms.lookup key with
  | none => .ok false
  | some (.bool b) => .ok b
  | some v => .fail loc key (typeMessage "boolean") (.string v.typeName)

/-- Counts are capped at this number. -/
def maxCount : Nat := 18446744073709551615

/-- A whole number from zero on. -/
def count (loc key : String) (ms : Members) : Checked (Option Nat) :=
  match ms.lookup key with
  | none => .ok none
  | some v =>
    match v.toBinary64? with
    | some x =>
      if x.IsWhole ∧ 0 ≤ x.units then .ok (some (min x.wholePart maxCount))
      else .fail loc key (wholeMessage ++ " greater than or equal to 0") v
    | none => .fail loc key (wholeMessage ++ " greater than or equal to 0") v

/-- A number, a whole one if `integral` is set. -/
def number? (integral : Bool) (v : Json) : Option Binary64 :=
  v.toBinary64?.filter fun x => !integral || x.IsWhole

/-- The message for what is no such number. -/
def numberMessage (integral : Bool) : String :=
  if integral then wholeMessage else typeMessage "number"

/-- A limit; the key that makes it exclusive counts only if the limit is sound. -/
def bound (integral : Bool) (loc key exclusiveKey : String) (ms : Members) :
    Checked (Option Bound) :=
  match ms.lookup key with
  | none => .ok none
  | some v =>
    match number? integral v with
    | some limit => (flag loc exclusiveKey ms).map fun exclusive => some ⟨limit, exclusive⟩
    | none => .fail loc key (numberMessage integral) v

/-- The elements of an enumeration from an index on. -/
def enumElements {α : Type} (element : Json → Option α) (message base : String) :
    Nat → List Json → Checked (List α)
  | _, [] => .ok []
  | i, v :: rest =>
    let head : Checked α := match element v with
      | some a => .ok a
      | none => .fail (Locator.withIndex base i) "" message v
    (head.both (enumElements element message base (i + 1) rest)).map fun (a, more) => a :: more

/-- A list of allowed values. -/
def enumeration {α : Type} (element : Json → Option α) (message loc : String) (ms : Members) :
    Checked (Option (List α)) :=
  match ms.lookup "enum" with
  | none => .ok none
  | some (.array vs) => (enumElements element message (Locator.withKey loc "enum") 0 vs).map some
  | some v => .fail loc "enum" (typeMessage "array") (.string v.typeName)

/-- A pattern. -/
def pattern (loc : String) (ms : Members) : Checked (Option Pattern) :=
  match ms.lookup "pattern" with
  | none => .ok none
  | some (.string source) =>
    match Pattern.compile? source with
    | some p => .ok (some p)
    | none => .fail loc "pattern" "must be valid regular expression pattern" (.string source)
  | some v => .fail loc "pattern" (typeMessage "string") v

/-- The name of a known format. -/
def format (c : Checker) (loc : String) (ms : Members) : Checked (Option String) :=
  match ms.lookup "format" with
  | none => .ok none
  | some v =>
    match v.text?.filter c.formats.contains with
    | some name => .ok (some name)
    | none => .fail loc "format" (choiceMessage c.formats.names) v

/-- The keywords of strings. -/
def textRules (c : Checker) (loc : String) (ms : Members) : Checked TextRules :=
  let lengths := (count loc "minLength" ms).both (count loc "maxLength" ms)
  let names := (pattern loc ms).both (c.format loc ms)
  let allowed := enumeration Json.text? (typeMessage "string") loc ms
  (lengths.both (names.both allowed)).map fun ((least, most), (p, f), allowed) =>
    ⟨least, most, p, f, allowed⟩

/-- The keywords of numbers. -/
def numberRules (integral : Bool) (loc : String) (ms : Members) : Checked NumberRules :=
  let bounds := (bound integral loc "minimum" "exclusiveMinimum" ms).both
    (bound integral loc "maximum" "exclusiveMaximum" ms)
  let allowed := enumeration (number? integral) (numberMessage integral) loc ms
  (bounds.both allowed).map fun ((least, most), allowed) => ⟨least, most, allowed⟩

/-- The bounds on the number of elements. -/
def itemCounts (loc : String) (ms : Members) : Checked (Option Nat × Option Nat) :=
  (count loc "minItems" ms).both (count loc "maxItems" ms)

/-- The keywords that are not supported, if they are to be refused. -/
def unsupported (c : Checker) (loc : String) (ms : Members) : Report :=
  if c.rejectUnsupported then
    unsupportedKeywords.filterMap fun key =>
      (ms.lookup key).map fun v => ⟨loc, key, "unsupported keyword", v⟩
  else []

/-! ### Nodes -/

/-- The rules of the declared kind; those of objects and arrays are given by the nodes below. -/
def kindRules (c : Checker) (loc : String) (ms : Members) (declared : Json)
    (object array : Unit → Checked Rules) : Checked Rules :=
  match declared.text?.bind Kind.ofName? with
  | some .string => (c.textRules loc ms).map .string
  | some .number => (numberRules false loc ms).map .number
  | some .integer => (numberRules true loc ms).map .integer
  | some .boolean => .ok .boolean
  | some .null => .ok .null
  | some .any => .ok .any
  | some .object => object ()
  | some .array => array ()
  | none => .fail loc "kind" (choiceMessage (Kind.all.map Kind.name)) declared

/-- A node of its own keys and of the rules for the nodes below. -/
def assemble (c : Checker) (loc : String) (ms : Members) (object array : Unit → Checked Rules) :
    Checked Node :=
  match ms.lookup "kind" with
  | none => .fail loc "" "must contain [kind] property" .null
  | some declared =>
    let required := flag loc "required" ms
    let supported := Checked.ofReport () (c.unsupported loc ms)
    let rules := c.kindRules loc ms declared object array
    ((required.both supported).both rules).map fun ((required, _), rules) =>
      .mk required (ownKeys ms) rules

/-- The keys that a text stands for. -/
def shorthand (kind : String) : Members := [("kind", .string kind)]

mutual

/-- The node of a document at a locator. -/
def node (c : Checker) (loc : String) : Json → Checked Node
  | .string kind =>
    c.assemble loc (shorthand kind) (fun _ => .ok (.object [] .forbidden none))
      (fun _ => .ok (.array .free none none))
  | .object ms =>
    c.assemble loc ms
      (fun _ =>
        ((c.additional loc ms).both ((c.properties loc ms).both (c.oneOf loc ms))).map
          fun (additional, properties, oneOf) => .object properties additional oneOf)
      (fun _ =>
        ((c.items loc ms).both (itemCounts loc ms)).map
          fun (items, least, most) => .array items least most)
  | v => .fail loc "" "must be of type [object] and not null" (.string v.typeName)
termination_by structural v => v

/-- What becomes of members that are not declared. -/
def additional (c : Checker) (loc : String) : Members → Checked Additional
  | [] => .ok .forbidden
  | (name, v) :: rest =>
    if name = "additionalProperties" then
      match v.bool? with
      | some false => .ok .forbidden
      | some true => .ok .allowed
      | none => (c.node (Locator.withKey loc "additionalProperties") v).map .schema
    else c.additional loc rest
termination_by structural ms => ms

/-- The declared members. -/
def properties (c : Checker) (loc : String) : Members → Checked (List (String × Node))
  | [] => .ok []
  | (name, v) :: rest =>
    if name = "properties" then
      match v with
      | .object declared => c.memberNodes (Locator.withKey loc "properties") declared
      | _ => .fail loc "properties" (typeMessage "object") (.string v.typeName)
    else c.properties loc rest
termination_by structural ms => ms

/-- The alternatives. -/
def oneOf (c : Checker) (loc : String) : Members → Checked (Option (List Node))
  | [] => .ok none
  | (name, v) :: rest =>
    if name = "oneOf" then
      match v with
      | .array vs => (c.elementNodes (Locator.withKey loc "oneOf") 0 vs).map some
      | _ => .fail loc "oneOf" (typeMessage "array") (.string v.typeName)
    else c.oneOf loc rest
termination_by structural ms => ms

/-- What is asked of elements. -/
def items (c : Checker) (loc : String) : Members → Checked Items
  | [] => .ok .free
  | (name, v) :: rest =>
    if name = "items" then
      if v.isArray then (c.listNodes (Locator.withKey loc "items") v).map .alternatives
      else (c.node (Locator.withKey loc "items") v).map .single
    else c.items loc rest
termination_by structural ms => ms

/-- The nodes of the elements of a value, if it is a list. -/
def listNodes (c : Checker) (base : String) : Json → Checked (List Node)
  | .array vs => c.elementNodes base 0 vs
  | _ => .ok []
termination_by structural v => v

/-- The nodes of the members of an object. -/
def memberNodes (c : Checker) (base : String) : Members → Checked (List (String × Node))
  | [] => .ok []
  | (name, v) :: rest =>
    ((c.node (Locator.withKey base name) v).both (c.memberNodes base rest)).map
      fun (n, more) => (name, n) :: more
termination_by structural ms => ms

/-- The nodes of the elements of a list, from an index on. -/
def elementNodes (c : Checker) (base : String) (i : Nat) : List Json → Checked (List Node)
  | [] => .ok []
  | v :: rest =>
    ((c.node (Locator.withIndex base i) v).both (c.elementNodes base (i + 1) rest)).map
      fun (n, more) => n :: more
termination_by structural vs => vs

end

/-- The node of a document, or what is wrong with it. -/
def check (c : Checker) (document : Json) : Checked Node := c.node Locator.root document

end Checker

/-- A well-formed schema with the document that it comes from. -/
structure Schema where
  root : Node
  document : Json

namespace Schema

/-- The schema of a document, or what is wrong with it. -/
def compile (c : Checker) (document : Json) : Checked Schema :=
  (c.check document).map fun root => ⟨root, document⟩

/-- The kind of the root. -/
def kind (s : Schema) : Kind := s.root.kind

end Schema

end ShapeCheck

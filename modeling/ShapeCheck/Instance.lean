import ShapeCheck.Custom
import ShapeCheck.Schema.Checker

/-!
# Validating values

A value is walked together with the node that it should conform to, and every violation is
reported.

* `Environment`: the formats and custom validations in force;
* `textViolations`, `numberViolations`: the rules for leaves;
* `Environment.violations`: all violations of a node by a value at a locator.

Alternatives, nodes for members that are not declared and lists of nodes for elements are tried:
what they report is kept whole or dropped.
-/

namespace ShapeCheck

open Checker (typeMessage choiceMessage numberMessage)

/-- What values are judged with. -/
structure Environment where
  formats : Formats
  customs : Customs

/-! ### Leaves -/

/-- A violation of the value at a locator as a whole, if there is one. -/
def violationIf (broken : Bool) (loc message : String) (actual : Json) : Report :=
  if broken then [⟨loc, "", message, actual⟩] else []

/-- A value of the wrong type. -/
def wrongType (loc message : String) (v : Json) : Report := [⟨loc, "", message, .string v.typeName⟩]

/-- The violation of a rule that is given and broken. -/
def ruleViolation {α : Type} (rule : Option α) (broken : α → Bool) (loc : String)
    (message : α → String) (actual : Json) : Report :=
  match rule with
  | none => []
  | some a => violationIf (broken a) loc (message a) actual

/-- The violations of the rules for strings; formats that are not known match nothing. -/
def textViolations (formats : Formats) (r : TextRules) (loc : String) (s : String) : Report :=
  let actual := Json.string s
  ruleViolation r.minLength (fun least => decide (s.length < least)) loc (fun least =>
    "length must be greater than or equal to [" ++ toString least ++ "]") actual ++
  ruleViolation r.maxLength (fun most => decide (most < s.length)) loc (fun most =>
    "length must be less than or equal to [" ++ toString most ++ "]") actual ++
  ruleViolation r.pattern (fun p => !p.isMatch s) loc (fun p =>
    "must match against the regular expression [" ++ p.source ++ "]") actual ++
  ruleViolation r.format (fun f => formats.check? f s != some true) loc (fun f =>
    "must match against the format [" ++ f ++ "]") actual ++
  ruleViolation r.allowed (fun allowed => !allowed.contains s) loc choiceMessage actual

/-- Whether a number is below a limit, or is the limit and this is excluded. -/
def Bound.isAbove (b : Bound) (x : Binary64) : Bool :=
  if b.exclusive then x ≤ b.limit else x < b.limit

/-- Whether a number is above a limit, or is the limit and this is excluded. -/
def Bound.isBelow (b : Bound) (x : Binary64) : Bool :=
  if b.exclusive then b.limit ≤ x else b.limit < x

/-- The message for a number on the wrong side of a limit. -/
def Bound.message (b : Bound) (side : String) : String :=
  "must be " ++ side ++ " than " ++ (if b.exclusive then "" else "or equal to ") ++
    "[" ++ b.limit.plainText ++ "]"

/-- The violations of the rules for numbers. -/
def numberViolations (r : NumberRules) (loc : String) (actual : Json) (x : Binary64) : Report :=
  ruleViolation r.minimum (·.isAbove x) loc (·.message "greater") actual ++
  ruleViolation r.maximum (·.isBelow x) loc (·.message "less") actual ++
  ruleViolation r.allowed (fun allowed => !allowed.any (·.eqv x)) loc (fun allowed =>
    choiceMessage (allowed.map Binary64.plainText)) actual

/-- The violations by a value that should be a number, a whole one if `integral` is set. -/
def numericViolations (integral : Bool) (r : NumberRules) (loc : String) (v : Json) : Report :=
  match Checker.number? integral v with
  | some x => numberViolations r loc v x
  | none => wrongType loc (numberMessage integral) v

/-- The violations of the bounds on the number of elements. -/
def countViolations (least most : Option Nat) (loc : String) (n : Nat) : Report :=
  let actual := Json.number (.ofNat n)
  ruleViolation least (fun least => decide (n < least)) loc (fun least =>
    "need at least [" ++ toString least ++ "] items") actual ++
  ruleViolation most (fun most => decide (most < n)) loc (fun most =>
    "need at most [" ++ toString most ++ "] items") actual

/-- The members that must be present and are not. -/
def missingViolations (properties : List (String × Node)) (ms : Json.Members) (loc : String) :
    Report :=
  properties.filterMap fun (name, n) =>
    if n.required && (ms.lookup name).isNone then
      some ⟨loc, name, "property is required", .null⟩
    else none

/-- Nothing if one of the reports is empty, else all of them. -/
def firstClean (reports : List Report) : Report :=
  if reports.any List.isEmpty then [] else reports.flatten

namespace Environment

/-- What the custom validations of a node say about a value. -/
def customViolations (env : Environment) (source : Json.Members) (loc : String) (v : Json) :
    Report :=
  (env.customs.messages source v).map fun message => ⟨loc, "", message, v⟩

mutual

/-- All violations of a node by a value at a locator. -/
def violations (env : Environment) (loc : String) : Node → Json → Report
  | .mk required source rules, v =>
    if v.isNull && !(Node.mk required source rules).isNullable then
      [⟨loc, "", "must not be null", .null⟩]
    else env.customViolations source loc v ++ env.ruleViolations loc rules v
termination_by structural n => n

/-- The violations of the rules of a kind. -/
def ruleViolations (env : Environment) (loc : String) : Rules → Json → Report
  | .string r, v =>
    match v with
    | .string s => textViolations env.formats r loc s
    | v => wrongType loc (typeMessage "string") v
  | .number r, v => numericViolations false r loc v
  | .integer r, v => numericViolations true r loc v
  | .boolean, v =>
    match v with
    | .bool _ => []
    | v => wrongType loc (typeMessage "boolean") v
  | .null, _ => []
  | .any, _ => []
  | .object properties additional oneOf, v =>
    match v with
    | .object ms =>
      match oneOf with
      | some nodes => firstClean (env.reports loc nodes (.object ms))
      | none =>
        missingViolations properties ms loc ++
          ms.flatMap fun (name, member) =>
            match env.declaredViolations (Locator.withKey loc name) properties name member with
            | some report => report
            | none => env.additionalViolations loc additional name member
    | v => wrongType loc (typeMessage "object") v
  | .array items least most, v =>
    match v with
    | .array vs =>
      countViolations least most loc vs.length ++
        vs.zipIdx.flatMap fun (x, i) => env.itemViolations (Locator.withIndex loc i) items x
    | v => wrongType loc (typeMessage "array") v
termination_by structural rules => rules

/-- What a declared member violates; nothing is said of other members. -/
def declaredViolations (env : Environment) (loc : String) :
    List (String × Node) → String → Json → Option Report
  | [], _, _ => none
  | (declared, n) :: rest, name, v =>
    if declared = name then some (env.violations loc n v)
    else env.declaredViolations loc rest name v
termination_by structural properties => properties

/-- What a member that is not declared violates, in the object at a locator. -/
def additionalViolations (env : Environment) (loc : String) :
    Additional → String → Json → Report
  | .allowed, _, _ => []
  | .forbidden, name, v => [⟨loc, name, "undefined property in schema", v⟩]
  | .schema n, name, v =>
    if (env.violations (Locator.withKey loc name) n v).isEmpty then []
    else
      [⟨loc, name, "undefined property in schema and not valid against additionalProperties", v⟩]
termination_by structural additional => additional

/-- What an element violates. -/
def itemViolations (env : Environment) (loc : String) : Items → Json → Report
  | .free, _ => []
  | .single n, v => env.violations loc n v
  | .alternatives nodes, v =>
    violationIf ((env.reports loc nodes v).all (!·.isEmpty)) loc
      "must match with schema of type [array]" v
termination_by structural items => items

/-- What each of some nodes reports. -/
def reports (env : Environment) (loc : String) : List Node → Json → List Report
  | [], _ => []
  | n :: rest, v => env.violations loc n v :: env.reports loc rest v
termination_by structural nodes => nodes

end

/-- All violations of a schema by a value. -/
def validate (env : Environment) (s : Schema) (v : Json) : Report :=
  env.violations Locator.root s.root v

end Environment

end ShapeCheck

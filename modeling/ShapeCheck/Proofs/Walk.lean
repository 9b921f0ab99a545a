import ShapeCheck.Instance
import ShapeCheck.Proofs.Tree

/-!
# The walk, without its companions

`Environment.violations` recurses through lists of members, elements and alternatives by companion
functions.  Here each companion is written with the functions of lists, so that what is said of
nodes can be proved by induction on the nodes alone.

* `Node.RefusesNull`: the value is null and the node has no use for it;
* `violations_of_refusesNull`, `violations_of_not_refusesNull`: the two cases at a node;
* `ruleViolations_members`, `ruleViolations_oneOf`, `ruleViolations_array`: the rules that hold nodes;
* `ruleViolation_eq_nil_iff`, `firstClean_eq_nil_iff`: when a rule or a list of alternatives is silent.
-/

namespace ShapeCheck

theorem Json.isNull_iff {v : Json} : v.isNull = true ↔ v = .null := by
  cases v <;> simp [isNull]

namespace Node

/-- The value is null and the node does not take it. -/
def RefusesNull (n : Node) (v : Json) : Prop := v = .null ∧ n.isNullable = false

theorem isNullable_eq_false_iff {n : Node} :
    n.isNullable = false ↔ ¬ (n.kind = .null ∨ n.kind = .any) := by
  simp [isNullable]

theorem not_refusesNull_iff {n : Node} {v : Json} :
    ¬ n.RefusesNull v ↔ (v = .null → n.kind = .null ∨ n.kind = .any) := by
  rw [RefusesNull, isNullable_eq_false_iff, not_and, Classical.not_not]

instance (n : Node) (v : Json) : Decidable (n.RefusesNull v) :=
  decidable_of_iff (v.isNull = true ∧ n.isNullable = false) (and_congr_left fun _ => Json.isNull_iff)

end Node

/-! ### Silence -/

@[simp] theorem violationIf_eq_nil_iff {broken : Bool} {loc message : String} {actual : Json} :
    violationIf broken loc message actual = [] ↔ broken = false := by
  cases broken <;> simp [violationIf]

@[simp] theorem ruleViolation_eq_nil_iff {α : Type} {rule : Option α} {broken : α → Bool}
    {loc : String} {message : α → String} {actual : Json} :
    ruleViolation rule broken loc message actual = [] ↔ ∀ a, rule = some a → broken a = false := by
  cases rule <;> simp [ruleViolation]

@[simp] theorem wrongType_ne_nil (loc message : String) (v : Json) :
    wrongType loc message v ≠ [] := by
  simp [wrongType]

/-- Alternatives are silent if there are none, or if one of them is. -/
theorem firstClean_eq_nil_iff {reports : List Report} :
    firstClean reports = [] ↔ reports = [] ∨ [] ∈ reports := by
  unfold firstClean
  split
  · rename_i h
    obtain ⟨r, hr, he⟩ := List.any_eq_true.1 h
    obtain rfl := List.isEmpty_iff.1 he
    simp [hr]
  · rename_i h
    have hne : [] ∉ reports := fun hm => h (List.any_eq_true.2 ⟨[], hm, rfl⟩)
    cases reports with
    | nil => simp
    | cons r rest =>
      have hr : r ≠ [] := fun he => hne (he ▸ List.mem_cons_self)
      simp [hr, hne]

theorem firstClean_of_notMem {reports : List Report} (h : [] ∉ reports) :
    firstClean reports = reports.flatten := by
  refine if_neg fun ha => ?_
  obtain ⟨r, hr, he⟩ := List.any_eq_true.1 ha
  obtain rfl := List.isEmpty_iff.1 he
  exact h hr

namespace Environment

variable (env : Environment) (loc : String)

/-! ### Nodes -/

theorem violations_of_refusesNull {n : Node} {v : Json} (h : n.RefusesNull v) :
    env.violations loc n v = [⟨loc, "", "must not be null", .null⟩] := by
  obtain ⟨required, source, rules⟩ := n
  obtain ⟨rfl, hn⟩ := h
  simp [violations, Json.isNull, hn]

theorem violations_of_not_refusesNull {n : Node} {v : Json} (h : ¬ n.RefusesNull v) :
    env.violations loc n v =
      env.customViolations n.source loc v ++ env.ruleViolations loc n.rules v := by
  obtain ⟨required, source, rules⟩ := n
  have hc : (v.isNull && !(Node.mk required source rules).isNullable) = false := by
    rw [Bool.eq_false_iff]
    intro hb
    rw [Bool.and_eq_true, Bool.not_eq_true'] at hb
    exact h ⟨Json.isNull_iff.1 hb.1, hb.2⟩
  simp [violations, hc, Node.source, Node.rules]

/-! ### Companions -/

theorem reports_eq_map (nodes : List Node) (v : Json) :
    env.reports loc nodes v = nodes.map fun n => env.violations loc n v := by
  induction nodes with
  | nil => rfl
  | cons n rest ih => rw [reports, ih, List.map_cons]

theorem declaredViolations_eq_map (properties : List (String × Node)) (name : String) (v : Json) :
    env.declaredViolations loc properties name v =
      (properties.lookup name).map fun n => env.violations loc n v := by
  induction properties with
  | nil => rfl
  | cons entry rest ih =>
    obtain ⟨declared, n⟩ := entry
    rw [declaredViolations, lookup_entry, ih]
    by_cases h : declared = name
    · simp [h]
    · simp [h, Ne.symm h]

/-- What a member violates, in the object at a locator. -/
def memberViolations (properties : List (String × Node)) (additional : Additional)
    (name : String) (v : Json) : Report :=
  match properties.lookup name with
  | some n => env.violations (Locator.withKey loc name) n v
  | none => env.additionalViolations loc additional name v

theorem memberViolations_declared {properties : List (String × Node)} {name : String} {n : Node}
    (h : properties.lookup name = some n) (additional : Additional) (v : Json) :
    env.memberViolations loc properties additional name v =
      env.violations (Locator.withKey loc name) n v := by
  simp [memberViolations, h]

theorem memberViolations_undeclared {properties : List (String × Node)} {name : String}
    (h : properties.lookup name = none) (additional : Additional) (v : Json) :
    env.memberViolations loc properties additional name v =
      env.additionalViolations loc additional name v := by
  simp [memberViolations, h]

theorem additionalViolations_schema (n : Node) (name : String) (v : Json) :
    env.additionalViolations loc (.schema n) name v =
      if env.violations (Locator.withKey loc name) n v = [] then []
      else
        [⟨loc, name, "undefined property in schema and not valid against additionalProperties",
          v⟩] := by
  simp only [additionalViolations, List.isEmpty_iff]

/-! ### Rules that hold nodes -/

theorem ruleViolations_members (properties : List (String × Node)) (additional : Additional)
    (ms : Json.Members) :
    env.ruleViolations loc (.object properties additional none) (.object ms) =
      missingViolations properties ms loc ++
        ms.flatMap fun m => env.memberViolations loc properties additional m.1 m.2 := by
  simp only [ruleViolations, declaredViolations_eq_map]
  refine congrArg (_ ++ ·) (congrArg (List.flatMap · ms) (funext fun m => ?_))
  cases h : properties.lookup m.1 with
  | none => simp [memberViolations, h]
  | some n => simp [memberViolations, h]

theorem ruleViolations_oneOf (properties : List (String × Node)) (additional : Additional)
    (nodes : List Node) (ms : Json.Members) :
    env.ruleViolations loc (.object properties additional (some nodes)) (.object ms) =
      firstClean (nodes.map fun n => env.violations loc n (.object ms)) := by
  rw [← reports_eq_map]
  rfl

theorem ruleViolations_array (items : Items) (least most : Option Nat) (vs : List Json) :
    env.ruleViolations loc (.array items least most) (.array vs) =
      countViolations least most loc vs.length ++
        vs.zipIdx.flatMap fun x => env.itemViolations (Locator.withIndex loc x.2) items x.1 := rfl

theorem itemViolations_alternatives (nodes : List Node) (v : Json) :
    env.itemViolations loc (.alternatives nodes) v =
      violationIf (nodes.all fun n => !(env.violations loc n v).isEmpty) loc
        "must match with schema of type [array]" v := by
  simp [itemViolations, reports_eq_map, List.all_map, Function.comp_def]

end Environment

end ShapeCheck

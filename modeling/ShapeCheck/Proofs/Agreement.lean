import ShapeCheck.Proofs.Conformance
import ShapeCheck.Proofs.Reordering

/-!
# Nodes that report the same

Two walks can be told apart neither by the environments nor by the nodes that they start from, as
long as every part of the one reports what the corresponding part of the other does.

* `Node.Agree`: two nodes, each in an environment of its own, report the same of every value;
* `Rules.Agree`, `Additional.Agree`, `Items.Agree`: the same for the parts of a node;
* `Rules.Agree.text`, `Rules.Agree.object`, `Rules.Agree.array`: what the rules of a kind have to
  have in common.

Nodes for members that are not declared and alternatives for elements only have to accept the same
values (`Additional.Agree.schema`, `Items.Agree.alternatives`): nothing else that they report is
kept.
-/

namespace ShapeCheck

variable {env env' : Environment}

/-! ### Agreement -/

/-- Two nodes report the same of every value, each in its environment. -/
structure Node.Agree (env env' : Environment) (m n : Node) : Prop where
  required : m.required = n.required
  violations : ∀ loc v, env.violations loc m v = env'.violations loc n v

/-- The same for the rules of nodes, which have to be of one kind. -/
structure Rules.Agree (env env' : Environment) (r s : Rules) : Prop where
  kind : r.kind = s.kind
  violations : ∀ loc v, env.ruleViolations loc r v = env'.ruleViolations loc s v

/-- The same for what becomes of members that are not declared. -/
def Additional.Agree (env env' : Environment) (a b : Additional) : Prop :=
  ∀ loc name v, env.additionalViolations loc a name v = env'.additionalViolations loc b name v

/-- The same for what is asked of elements. -/
def Items.Agree (env env' : Environment) (a b : Items) : Prop :=
  ∀ loc v, env.itemViolations loc a v = env'.itemViolations loc b v

/-! ### Nodes and leaves -/

theorem Node.agree_mk {required : Bool} {source : Json.Members} {r s : Rules}
    (hm : ∀ v, env.customs.messages source v = env'.customs.messages source v)
    (h : r.Agree env env' s) :
    Node.Agree env env' (.mk required source r) (.mk required source s) := by
  refine ⟨rfl, fun loc v => ?_⟩
  have hr : (Node.mk required source r).RefusesNull v ↔
      (Node.mk required source s).RefusesNull v := by
    rw [RefusesNull, RefusesNull, isNullable, isNullable, kind, kind, rules, rules, h.kind]
  by_cases hn : (Node.mk required source r).RefusesNull v
  · rw [env.violations_of_refusesNull loc hn, env'.violations_of_refusesNull loc (hr.1 hn)]
  · rw [env.violations_of_not_refusesNull loc hn,
      env'.violations_of_not_refusesNull loc (mt hr.2 hn), Environment.customViolations,
      Environment.customViolations, Node.source, Node.source, hm v]
    exact congrArg (_ ++ ·) (h.violations loc v)

/-- Texts are judged alike if the format that is asked for, if any, is the same. -/
theorem Rules.Agree.text {r : TextRules}
    (hf : ∀ name, r.format = some name → env.formats.get? name = env'.formats.get? name) :
    Rules.Agree env env' (.string r) (.string r) := by
  have ht (loc s : String) :
      textViolations env.formats r loc s = textViolations env'.formats r loc s := by
    cases hr : r.format with
    | none => simp only [textViolations, hr, ruleViolation]
    | some name => simp only [textViolations, hr, ruleViolation, Formats.check?, hf name hr]
  refine ⟨rfl, fun loc v => ?_⟩
  cases v with
  | string s => exact ht loc s
  | _ => rfl

/-! ### Members -/

/-- A node for members that are not declared may be replaced by one that accepts the same values,
however differently it rejects the others. -/
theorem Additional.Agree.schema {m n : Node} (h : ∀ v, env.Conforms m v ↔ env'.Conforms n v) :
    Additional.Agree env env' (.schema m) (.schema n) := by
  intro loc name v
  rw [env.additionalViolations_schema, env'.additionalViolations_schema]
  simp only [Environment.violations_eq_nil_iff, h v]

theorem missingViolations_eq {ps qs : List (String × Node)}
    (h : List.Forall₂ (Named (Node.Agree env env')) ps qs) (ms : Json.Members) (loc : String) :
    missingViolations ps ms loc = missingViolations qs ms loc := by
  induction h with
  | nil => rfl
  | cons hn _ ih =>
    obtain ⟨hn⟩ := hn
    simp only [missingViolations, List.filterMap_cons, hn.required] at ih ⊢
    rw [ih]

theorem memberViolations_eq {ps qs : List (String × Node)} {a b : Additional}
    (hp : List.Forall₂ (Named (Node.Agree env env')) ps qs) (ha : a.Agree env env' b)
    (loc name : String) (v : Json) :
    env.memberViolations loc ps a name v = env'.memberViolations loc qs b name v := by
  have hl := lookup_of_forall₂ hp name
  rw [Environment.memberViolations, Environment.memberViolations]
  generalize ps.lookup name = o, qs.lookup name = o' at hl ⊢
  cases hl with
  | none => exact ha loc name v
  | some h => exact h.violations _ v

theorem map_violations_eq {nodes nodes' : List Node}
    (h : List.Forall₂ (Node.Agree env env') nodes nodes') (loc : String) (v : Json) :
    (nodes.map fun n => env.violations loc n v) = nodes'.map fun n => env'.violations loc n v := by
  induction h with
  | nil => rfl
  | cons hn _ ih => rw [List.map_cons, List.map_cons, hn.violations, ih]

theorem Rules.Agree.object {ps qs : List (String × Node)} {a b : Additional}
    {oneOf oneOf' : Option (List Node)} (hp : List.Forall₂ (Named (Node.Agree env env')) ps qs)
    (ha : a.Agree env env' b)
    (ho : Option.Rel (List.Forall₂ (Node.Agree env env')) oneOf oneOf') :
    Rules.Agree env env' (.object ps a oneOf) (.object qs b oneOf') := by
  refine ⟨rfl, fun loc v => ?_⟩
  cases v with
  | object ms =>
    cases ho with
    | none =>
      rw [env.ruleViolations_members, env'.ruleViolations_members, missingViolations_eq hp]
      simp only [memberViolations_eq hp ha]
    | some hn =>
      rw [env.ruleViolations_oneOf, env'.ruleViolations_oneOf, map_violations_eq hn]
  | _ => rfl

/-! ### Elements -/

theorem Items.Agree.single {m n : Node} (h : m.Agree env env' n) :
    Items.Agree env env' (.single m) (.single n) := h.violations

/-- Alternatives may be replaced by others, more or fewer, as long as elements for which one of them
will do are the same. -/
theorem Items.Agree.alternatives {nodes nodes' : List Node}
    (h : ∀ v, (∃ n ∈ nodes, env.Conforms n v) ↔ ∃ n ∈ nodes', env'.Conforms n v) :
    Items.Agree env env' (.alternatives nodes) (.alternatives nodes') := by
  have ha (env : Environment) (loc : String) (nodes : List Node) (v : Json) :
      (nodes.all fun n => !(env.violations loc n v).isEmpty) = true ↔
        ¬ ∃ n ∈ nodes, env.Conforms n v := by
    simp [Environment.violations_eq_nil_iff]
  intro loc v
  have hb : (nodes.all fun n => !(env.violations loc n v).isEmpty) =
      nodes'.all fun n => !(env'.violations loc n v).isEmpty := by
    rw [Bool.eq_iff_iff, ha env, ha env', h v]
  rw [env.itemViolations_alternatives, env'.itemViolations_alternatives, hb]

theorem Rules.Agree.array {items items' : Items} (h : items.Agree env env' items')
    (least most : Option Nat) :
    Rules.Agree env env' (.array items least most) (.array items' least most) := by
  refine ⟨rfl, fun loc v => ?_⟩
  cases v with
  | array vs =>
    rw [env.ruleViolations_array, env'.ruleViolations_array]
    simp only [h _ _]
  | _ => rfl

end ShapeCheck

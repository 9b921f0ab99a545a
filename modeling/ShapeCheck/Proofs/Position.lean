import Mathlib.Data.List.Nodup
import Mathlib.Logic.Relation
import ShapeCheck.Proofs.Conformance

/-!
# Positions of a walk

Where the walk of a value along a node comes to, and what is wrong at each of these places alone.

* `Position`: a place of the walk with its locator, node and value;
* `Leads`: one step of the walk, with one rule for each way down;
* `Environment.Reached`: any number of steps from the root;
* `Position.ownViolations`: what a position has to say without the positions below;
* `Position.violations_perm`: all violations below a position are its own and those below its
  successors;
* `Environment.violations_perm_reached`: a report is, but for its order, what the reached positions
  have to say themselves, each position once.

Nodes for additional members and lists of nodes for elements lead nowhere: of them the verdict
counts alone.
-/

namespace ShapeCheck

open Checker (typeMessage)

/-- A place of a walk.  The route tells, for each step down, which member, element or alternative was
taken, so that alternatives that are equal are different positions. -/
structure Position where
  route : List Nat
  locator : String
  node : Node
  value : Json

namespace Position

/-- The place where the walk of a value along a node starts. -/
def root (n : Node) (v : Json) : Position := ⟨[], Locator.root, n, v⟩

end Position

/-- One step of a walk: to a declared member that is there, to an alternative if no alternative takes
the value, and to an element if there is one node for all. -/
inductive Leads (env : Environment) : Position → Position → Prop where
  | member {route : List Nat} {loc : String} {required : Bool} {source : Json.Members}
      {properties : List (String × Node)} {additional : Additional} {ms : Json.Members} {i : Nat}
      {name : String} {n : Node} {v : Json} (hm : ms[i]? = some (name, v))
      (hn : properties.lookup name = some n) :
      Leads env ⟨route, loc, .mk required source (.object properties additional none), .object ms⟩
        ⟨route ++ [i], Locator.withKey loc name, n, v⟩
  | alternative {route : List Nat} {loc : String} {required : Bool} {source : Json.Members}
      {properties : List (String × Node)} {additional : Additional} {nodes : List Node}
      {ms : Json.Members} {i : Nat} {n : Node}
      (refused : ∀ m ∈ nodes, ¬ env.Conforms m (.object ms)) (hn : nodes[i]? = some n) :
      Leads env
        ⟨route, loc, .mk required source (.object properties additional (some nodes)), .object ms⟩
        ⟨route ++ [i], loc, n, .object ms⟩
  | element {route : List Nat} {loc : String} {required : Bool} {source : Json.Members} {n : Node}
      {least most : Option Nat} {vs : List Json} {i : Nat} {v : Json} (hv : vs[i]? = some v) :
      Leads env ⟨route, loc, .mk required source (.array (.single n) least most), .array vs⟩
        ⟨route ++ [i], Locator.withIndex loc i, n, v⟩

namespace Environment

variable (env : Environment)

/-- The positions that the walk of a value along a node comes to. -/
def Reached (n : Node) (v : Json) (p : Position) : Prop :=
  Relation.ReflTransGen (Leads env) (.root n v) p

/-! ### What a position has to say itself -/

/-- What is wrong with a member that is not declared, in the object at a locator. -/
def undeclaredViolations (loc : String) (properties : List (String × Node))
    (additional : Additional) (m : String × Json) : Report :=
  match properties.lookup m.1, additional with
  | some _, _ => []
  | none, .allowed => []
  | none, .forbidden => [⟨loc, m.1, "undefined property in schema", m.2⟩]
  | none, .schema n =>
    if env.Conforms n m.2 then []
    else
      [⟨loc, m.1, "undefined property in schema and not valid against additionalProperties", m.2⟩]

/-- What is wrong with an element that should conform to one of some nodes. -/
def unmatchedViolations (loc : String) (items : Items) (v : Json) : Report :=
  match items with
  | .alternatives nodes =>
    if ∃ n ∈ nodes, env.Conforms n v then []
    else [⟨loc, "", "must match with schema of type [array]", v⟩]
  | _ => []

/-- What rules have to say without the nodes below that are reached. -/
def ownRuleViolations (loc : String) : Rules → Json → Report
  | .string r, .string s => textViolations env.formats r loc s
  | .string _, v => wrongType loc (typeMessage "string") v
  | .number r, v => numericViolations false r loc v
  | .integer r, v => numericViolations true r loc v
  | .boolean, .bool _ => []
  | .boolean, v => wrongType loc (typeMessage "boolean") v
  | .null, _ => []
  | .any, _ => []
  | .object properties additional none, .object ms =>
    missingViolations properties ms loc ++
      ms.flatMap (env.undeclaredViolations loc properties additional)
  | .object _ _ (some _), .object _ => []
  | .object _ _ _, v => wrongType loc (typeMessage "object") v
  | .array items least most, .array vs =>
    countViolations least most loc vs.length ++
      vs.zipIdx.flatMap fun x => env.unmatchedViolations (Locator.withIndex loc x.2) items x.1
  | .array _ _ _, v => wrongType loc (typeMessage "array") v

/-- The positions one step below a node with some rules. -/
def successors (route : List Nat) (loc : String) : Rules → Json → List Position
  | .object properties _ none, .object ms =>
    ms.zipIdx.filterMap fun x => (properties.lookup x.1.1).map fun n =>
      ⟨route ++ [x.2], Locator.withKey loc x.1.1, n, x.1.2⟩
  | .object _ _ (some nodes), .object ms =>
    if ∃ n ∈ nodes, env.Conforms n (.object ms) then []
    else nodes.zipIdx.map fun x => ⟨route ++ [x.2], loc, x.1, .object ms⟩
  | .array (.single n) _ _, .array vs =>
    vs.zipIdx.map fun x => ⟨route ++ [x.2], Locator.withIndex loc x.2, n, x.1⟩
  | _, _ => []

end Environment

namespace Position

variable (env : Environment)

/-- What is wrong at a position itself: its null, or its custom messages and its rules. -/
def ownViolations (p : Position) : Report :=
  if p.node.RefusesNull p.value then [⟨p.locator, "", "must not be null", .null⟩]
  else
    env.customViolations p.node.source p.locator p.value ++
      env.ownRuleViolations p.locator p.node.rules p.value

/-- All that is wrong at a position and below. -/
def violations (p : Position) : Report := env.violations p.locator p.node p.value

/-- The positions one step below. -/
def successors (p : Position) : List Position :=
  env.successors p.route p.locator p.node.rules p.value

end Position

/-! ### One step -/

theorem flatMap_zipIdx {α β : Type} (xs : List α) (f : α → List β) :
    (xs.zipIdx.flatMap fun x => f x.1) = xs.flatMap f := by
  rw [← List.flatMap_map Prod.fst f, List.zipIdx_map_fst]

namespace Environment

variable (env : Environment) (route : List Nat) (loc : String)

/-- A member is declared and judged below, or has its own violations. -/
theorem memberViolations_eq_append (properties : List (String × Node)) (additional : Additional)
    (m : String × Json) :
    env.memberViolations loc properties additional m.1 m.2 =
      env.undeclaredViolations loc properties additional m ++
        (properties.lookup m.1).elim [] fun n =>
          env.violations (Locator.withKey loc m.1) n m.2 := by
  cases hl : properties.lookup m.1 with
  | some n =>
    rw [memberViolations_declared env loc hl]
    simp [undeclaredViolations, hl]
  | none =>
    rw [memberViolations_undeclared env loc hl, Option.elim_none, List.append_nil]
    cases additional with
    | forbidden => simp only [additionalViolations, undeclaredViolations, hl]
    | allowed => simp only [additionalViolations, undeclaredViolations, hl]
    | schema n =>
      simp only [additionalViolations_schema, violations_eq_nil_iff, undeclaredViolations, hl]

theorem itemViolations_eq_append (items : Items) (v : Json) :
    env.itemViolations loc items v =
      env.unmatchedViolations loc items v ++
        match items with
        | .single n => env.violations loc n v
        | _ => [] := by
  cases items with
  | free => rfl
  | single n => rfl
  | alternatives nodes =>
    have hall : (nodes.all fun n => !(env.violations loc n v).isEmpty) =
        !decide (∃ n ∈ nodes, env.Conforms n v) := by
      rw [Bool.eq_iff_iff]
      simp [violations_eq_nil_iff]
    rw [itemViolations_alternatives, hall, List.append_nil, unmatchedViolations, violationIf]
    by_cases h : ∃ n ∈ nodes, env.Conforms n v
    · rw [if_pos h, decide_eq_true h]
      rfl
    · rw [if_neg h, decide_eq_false h]
      rfl

theorem successors_members (properties : List (String × Node)) (additional : Additional)
    (ms : Json.Members) :
    (env.successors route loc (.object properties additional none) (.object ms)).flatMap
        (Position.violations env) =
      ms.flatMap fun m => (properties.lookup m.1).elim [] fun n =>
        env.violations (Locator.withKey loc m.1) n m.2 := by
  rw [successors, List.filterMap_eq_flatMap_toList, List.flatMap_assoc, ← flatMap_zipIdx ms]
  refine congrArg (List.flatMap · ms.zipIdx) (funext fun x => ?_)
  cases properties.lookup x.1.1 with
  | none => rfl
  | some n => exact List.append_nil _

theorem membersViolations_perm (properties : List (String × Node)) (additional : Additional)
    (ms : Json.Members) :
    (env.ruleViolations loc (.object properties additional none) (.object ms)).Perm
      (env.ownRuleViolations loc (.object properties additional none) (.object ms) ++
        (env.successors route loc (.object properties additional none) (.object ms)).flatMap
          (Position.violations env)) := by
  rw [ruleViolations_members, successors_members, ownRuleViolations, List.append_assoc]
  refine List.Perm.append_left _ ?_
  -- own violations and those below take turns, member by member
  simp only [memberViolations_eq_append]
  exact (List.flatMap_append_perm ms _ _).symm

/-- Alternatives have nothing to say themselves: either one of them takes the value, and nothing is
said, or all of them are reached with the value. -/
theorem alternativesViolations_perm (properties : List (String × Node)) (additional : Additional)
    (nodes : List Node) (ms : Json.Members) :
    (env.ruleViolations loc (.object properties additional (some nodes)) (.object ms)).Perm
      (env.ownRuleViolations loc (.object properties additional (some nodes)) (.object ms) ++
        (env.successors route loc (.object properties additional (some nodes))
          (.object ms)).flatMap (Position.violations env)) := by
  rw [ruleViolations_oneOf, ownRuleViolations, List.nil_append, successors]
  by_cases h : ∃ n ∈ nodes, env.Conforms n (.object ms)
  · obtain ⟨n, hn, hc⟩ := h
    have hs : [] ∈ nodes.map fun n => env.violations loc n (.object ms) :=
      List.mem_map.2 ⟨n, hn, (violations_eq_nil_iff n loc _).2 hc⟩
    rw [firstClean_eq_nil_iff.2 (.inr hs), if_pos ⟨n, hn, hc⟩]
    exact List.Perm.refl _
  · have hs : [] ∉ nodes.map fun n => env.violations loc n (.object ms) := by
      intro hm
      obtain ⟨n, hn, he⟩ := List.mem_map.1 hm
      exact h ⟨n, hn, (violations_eq_nil_iff n loc _).1 he⟩
    rw [firstClean_of_notMem hs, if_neg h, List.flatMap_map, ← List.flatMap_def,
      ← flatMap_zipIdx nodes]
    exact List.Perm.refl _

theorem elementsViolations_perm (items : Items) (least most : Option Nat) (vs : List Json) :
    (env.ruleViolations loc (.array items least most) (.array vs)).Perm
      (env.ownRuleViolations loc (.array items least most) (.array vs) ++
        (env.successors route loc (.array items least most) (.array vs)).flatMap
          (Position.violations env)) := by
  rw [ruleViolations_array, ownRuleViolations, List.append_assoc]
  refine List.Perm.append_left _ ?_
  simp only [itemViolations_eq_append]
  refine (List.flatMap_append_perm vs.zipIdx _ _).symm.trans (List.Perm.append_left _ ?_)
  cases items with
  | single n =>
    rw [successors, List.flatMap_map]
    exact List.Perm.refl _
  | _ => simp [successors]

/-- All violations of rules are their own and those at the positions one step below. -/
theorem ruleViolations_perm (rules : Rules) (v : Json) :
    (env.ruleViolations loc rules v).Perm
      (env.ownRuleViolations loc rules v ++
        (env.successors route loc rules v).flatMap (Position.violations env)) := by
  -- leaves have nothing below, and neither have values of another type
  have leaf (h : env.ruleViolations loc rules v = env.ownRuleViolations loc rules v)
      (hs : env.successors route loc rules v = []) : (env.ruleViolations loc rules v).Perm
        (env.ownRuleViolations loc rules v ++
          (env.successors route loc rules v).flatMap (Position.violations env)) := by
    rw [h, hs, List.flatMap_nil, List.append_nil]
  cases rules with
  | string r => cases v <;> exact leaf rfl rfl
  | number r => exact leaf rfl rfl
  | integer r => exact leaf rfl rfl
  | boolean => cases v <;> exact leaf rfl rfl
  | null => exact leaf rfl rfl
  | any => exact leaf rfl rfl
  | object properties additional oneOf =>
    cases v with
    | object ms =>
      cases oneOf with
      | none => exact env.membersViolations_perm route loc properties additional ms
      | some nodes => exact env.alternativesViolations_perm route loc properties additional nodes ms
    | _ => cases oneOf <;> exact leaf rfl rfl
  | array items least most =>
    cases v with
    | array vs => exact env.elementsViolations_perm route loc items least most vs
    | _ => cases items <;> exact leaf rfl rfl

end Environment

namespace Position

variable {env : Environment}

theorem successors_of_refusesNull {p : Position} (h : p.node.RefusesNull p.value) :
    p.successors env = [] := by
  obtain ⟨route, loc, ⟨required, source, rules⟩, v⟩ := p
  obtain rfl : v = .null := h.1
  cases rules with
  | object properties additional oneOf => cases oneOf <;> rfl
  | array items least most => cases items <;> rfl
  | _ => rfl

/-- **All that is wrong at a position and below is its own violations and all that is wrong at the
positions one step below.** -/
theorem violations_perm (p : Position) :
    (p.violations env).Perm
      (p.ownViolations env ++ (p.successors env).flatMap (Position.violations env)) := by
  by_cases hn : p.node.RefusesNull p.value
  · rw [violations, env.violations_of_refusesNull p.locator hn, ownViolations, if_pos hn,
      successors_of_refusesNull hn, List.flatMap_nil, List.append_nil]
  · rw [violations, env.violations_of_not_refusesNull p.locator hn, ownViolations, if_neg hn,
      List.append_assoc]
    exact (env.ruleViolations_perm p.route p.locator p.node.rules p.value).append_left _

theorem mem_successors_iff {p q : Position} : q ∈ p.successors env ↔ Leads env p q := by
  constructor
  · obtain ⟨route, loc, ⟨required, source, rules⟩, v⟩ := p
    intro h
    change q ∈ env.successors route loc rules v at h
    unfold Environment.successors at h
    split at h
    · obtain ⟨⟨⟨name, w⟩, i⟩, hx, hq⟩ := List.mem_filterMap.1 h
      obtain ⟨n, hn, rfl⟩ := Option.map_eq_some_iff.1 hq
      exact .member (List.mem_zipIdx_iff_getElem?.1 hx) hn
    · split at h
      · cases h
      · rename_i hr
        obtain ⟨⟨n, i⟩, hx, rfl⟩ := List.mem_map.1 h
        exact .alternative (fun m hm hc => hr ⟨m, hm, hc⟩) (List.mem_zipIdx_iff_getElem?.1 hx)
    · obtain ⟨⟨w, i⟩, hx, rfl⟩ := List.mem_map.1 h
      exact .element (List.mem_zipIdx_iff_getElem?.1 hx)
    · cases h
  · intro h
    cases h with
    | member hm hn =>
      refine List.mem_filterMap.2 ⟨(_, _), List.mk_mem_zipIdx_iff_getElem?.2 hm, ?_⟩
      exact congrArg (Option.map _) hn
    | @alternative _ _ _ _ _ _ nodes ms _ _ refused hn =>
      have hr : ¬ ∃ m ∈ nodes, env.Conforms m (.object ms) := by
        rintro ⟨m, hm, hc⟩
        exact refused m hm hc
      show _ ∈ if ∃ m ∈ nodes, env.Conforms m (.object ms) then _ else _
      rw [if_neg hr]
      exact List.mem_map.2 ⟨(_, _), List.mk_mem_zipIdx_iff_getElem?.2 hn, rfl⟩
    | element hv => exact List.mem_map.2 ⟨(_, _), List.mk_mem_zipIdx_iff_getElem?.2 hv, rfl⟩

end Position

/-! ### Routes -/

namespace Leads

variable {env : Environment} {p q : Position}

/-- A step goes to a node directly below. -/
theorem node_mem_children (h : Leads env p q) : q.node ∈ p.node.children := by
  cases h with
  | member _ hn => exact mem_children_of_declared hn
  | alternative _ hn =>
    exact List.mem_append_right _ (List.mem_append_right _ (List.mem_of_getElem? hn))
  | element => exact List.mem_singleton_self _

/-- A step makes the route longer by one. -/
theorem exists_route (h : Leads env p q) : ∃ i, q.route = p.route ++ [i] := by
  cases h <;> exact ⟨_, rfl⟩

end Leads

namespace Position

variable {env : Environment}

theorem pairwise_zipIdx {α : Type} (xs : List α) :
    xs.zipIdx.Pairwise fun x y => x.2 ≠ y.2 := by
  refine List.pairwise_map.1 ?_
  rw [List.zipIdx_map_snd]
  exact List.nodup_range'

/-- Different positions one step below have different routes. -/
theorem pairwise_successors (p : Position) :
    (p.successors env).Pairwise fun q r => q.route ≠ r.route := by
  have hne (route : List Nat) {i j : Nat} (h : i ≠ j) : route ++ [i] ≠ route ++ [j] := by
    simpa using h
  obtain ⟨route, loc, ⟨required, source, rules⟩, v⟩ := p
  show (env.successors route loc rules v).Pairwise _
  unfold Environment.successors
  split
  · refine List.pairwise_filterMap.2 ((pairwise_zipIdx _).imp fun h q hq r hr => ?_)
    obtain ⟨-, -, rfl⟩ := Option.map_eq_some_iff.1 hq
    obtain ⟨-, -, rfl⟩ := Option.map_eq_some_iff.1 hr
    exact hne route h
  · split
    · exact List.Pairwise.nil
    · exact List.pairwise_map.2 ((pairwise_zipIdx _).imp fun h => hne route h)
  · exact List.pairwise_map.2 ((pairwise_zipIdx _).imp fun h => hne route h)
  · exact List.Pairwise.nil

/-- A walk makes the route longer. -/
theorem route_extends {p q : Position} (h : Relation.ReflTransGen (Leads env) p q) :
    p.route <+: q.route := by
  induction h with
  | refl => exact List.prefix_refl _
  | tail _ hs ih =>
    obtain ⟨i, hi⟩ := hs.exists_route
    exact ih.trans (hi ▸ List.prefix_append _ _)

/-- Below different positions one step below, the routes differ. -/
theorem route_ne {p q q' r r' : Position} (hq : Leads env p q) (hq' : Leads env p q')
    (hne : q.route ≠ q'.route) (hr : Relation.ReflTransGen (Leads env) q r)
    (hr' : Relation.ReflTransGen (Leads env) q' r') : r.route ≠ r'.route := by
  intro he
  obtain ⟨i, hi⟩ := hq.exists_route
  obtain ⟨j, hj⟩ := hq'.exists_route
  have hl : q.route.length = q'.route.length := by simp [hi, hj]
  have hp := List.prefix_of_prefix_length_le (route_extends hr) (he ▸ route_extends hr') hl.le
  exact hne (hp.eq_of_length hl)

/-! ### The whole walk -/

/-- The positions below a position can be listed, each once, and what they have to say themselves is
all that is wrong there. -/
theorem exists_positions (p : Position) :
    ∃ ps : List Position, (ps.map route).Nodup ∧
      (∀ q, q ∈ ps ↔ Relation.ReflTransGen (Leads env) p q) ∧
      (p.violations env).Perm (ps.flatMap (ownViolations env)) := by
  obtain ⟨n, hn⟩ : ∃ n, p.node = n := ⟨_, rfl⟩
  induction n using Node.inductionOn generalizing p with
  | step n ih =>
    subst hn
    -- the hypothesis is about nodes, and a step goes to a node directly below
    have ih' (q : Position) (hq : q ∈ p.successors env) :=
      ih q.node (mem_successors_iff.1 hq).node_mem_children q rfl
    choose! below hnodup hmem hperm using ih'
    refine ⟨p :: (p.successors env).flatMap below, ?_, fun r => ?_, ?_⟩
    · rw [List.map_cons, List.nodup_cons, List.map_flatMap, List.nodup_flatMap]
      -- what lies below has a longer route, and below different successors the routes part
      refine ⟨fun h => ?_, hnodup, ?_⟩
      · obtain ⟨q, hq, h⟩ := List.mem_flatMap.1 h
        obtain ⟨r, hr, he⟩ := List.mem_map.1 h
        obtain ⟨i, hi⟩ := (mem_successors_iff.1 hq).exists_route
        have hle := (route_extends ((hmem q hq r).1 hr)).length_le
        rw [he, hi, List.length_append, List.length_singleton] at hle
        omega
      · refine (pairwise_successors p).imp_of_mem fun {q q'} hq hq' hne => ?_
        refine List.disjoint_left.2 fun a ha ha' => ?_
        obtain ⟨r, hr, rfl⟩ := List.mem_map.1 ha
        obtain ⟨r', hr', he⟩ := List.mem_map.1 ha'
        exact route_ne (mem_successors_iff.1 hq) (mem_successors_iff.1 hq') hne
          ((hmem q hq r).1 hr) ((hmem q' hq' r').1 hr') he.symm
    · rw [List.mem_cons, List.mem_flatMap]
      constructor
      · rintro (rfl | ⟨q, hq, hr⟩)
        · exact .refl
        · exact .head (mem_successors_iff.1 hq) ((hmem q hq r).1 hr)
      · intro h
        rcases h.cases_head with rfl | ⟨q, hq, hr⟩
        · exact .inl rfl
        · have hq' := mem_successors_iff.2 hq
          exact .inr ⟨q, hq', (hmem q hq' r).2 hr⟩
    · rw [List.flatMap_cons, List.flatMap_assoc]
      exact p.violations_perm.trans ((List.Perm.flatMap_left _ hperm).append_left _)

end Position

end ShapeCheck

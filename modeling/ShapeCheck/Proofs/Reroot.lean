import ShapeCheck.Proofs.Grammar
import ShapeCheck.Proofs.Walk

/-!
# Reports below another locator

Locators are only ever extended, never looked at: what is found below a locator is what is found
below the empty one, with the locator in front.

* `Violation.under`: a violation with a text in front of its locator;
* `Violation.reroot`: a violation with its root replaced by a locator;
* `Environment.violations_append`: values judged at a locator that has a text in front;
* `Checker.node_append`: documents checked at a locator that has a text in front;
* `Environment.violations_eq_map_reroot`, `Checker.errors_node_eq_map_reroot`: any locator for the
  root;
* `Checker.value?_node`: the node does not depend on the locator.
-/

namespace ShapeCheck

open Json (Members)

/-! ### Texts in front of locators -/

namespace Locator

theorem extend_append (p loc : String) (s : Segment) : extend (p ++ loc) s = p ++ extend loc s := by
  by_cases h : s.IsEmpty
  · rw [extend, extend, if_pos h, if_pos h]
  · rw [extend_of_not_isEmpty h, extend_of_not_isEmpty h, String.append_assoc]

theorem withKey_append (p loc name : String) : withKey (p ++ loc) name = p ++ withKey loc name :=
  extend_append p loc _

theorem withIndex_append (p loc : String) (i : Nat) :
    withIndex (p ++ loc) i = p ++ withIndex loc i :=
  extend_append p loc _

/-- What follows the root in a locator. -/
def afterRoot (locator : String) : String := String.ofList (locator.toList.drop root.length)

@[simp] theorem afterRoot_root_append (rest : String) : afterRoot (root ++ rest) = rest := by
  rw [afterRoot, String.toList_append, String.length, List.drop_left, String.ofList_toList]

end Locator

namespace Violation

/-- A violation with a text in front of its locator. -/
def under (p : String) (r : Violation) : Violation := { r with locator := p ++ r.locator }

/-- A violation with the root of its locator replaced. -/
def reroot (p : String) (r : Violation) : Violation :=
  { r with locator := p ++ Locator.afterRoot r.locator }

@[simp] theorem reroot_under_root (p : String) (r : Violation) :
    (r.under Locator.root).reroot p = r.under p := by
  rw [reroot, under, under, Locator.afterRoot_root_append]

theorem exists_of_mem_map_under {p : String} {report : Report} :
    ∀ r ∈ report.map (under p), ∃ rest, r.locator = p ++ rest := by
  rw [List.forall_mem_map]
  exact fun r _ => ⟨r.locator, rfl⟩

end Violation

namespace Checked

variable {α β : Type}

/-- A check with a text in front of the locators of its violations. -/
def under (p : String) : Checked α → Checked α
  | ok a => ok a
  | bad first rest => bad (first.under p) (rest.map (Violation.under p))

theorem under_map (p : String) (f : α → β) (c : Checked α) :
    (c.map f).under p = (c.under p).map f := by
  cases c <;> rfl

theorem under_both (p : String) (c : Checked α) (d : Checked β) :
    (c.both d).under p = (c.under p).both (d.under p) := by
  cases c <;> cases d <;> simp [both, under]

theorem under_ofReport (p : String) (a : α) (r : Report) :
    (ofReport a r).under p = ofReport a (r.map (Violation.under p)) := by
  cases r <;> rfl

@[simp] theorem value?_under (p : String) (c : Checked α) : (c.under p).value? = c.value? := by
  cases c <;> rfl

@[simp] theorem errors_under (p : String) (c : Checked α) :
    (c.under p).errors = c.errors.map (Violation.under p) := by
  cases c <;> rfl

end Checked

/-! ### Judging leaves -/

section Leaves

variable (p loc : String)

theorem violationIf_append (broken : Bool) (message : String) (actual : Json) :
    violationIf broken (p ++ loc) message actual =
      (violationIf broken loc message actual).map (Violation.under p) := by
  cases broken <;> rfl

theorem ruleViolation_append {α : Type} (rule : Option α) (broken : α → Bool)
    (message : α → String) (actual : Json) :
    ruleViolation rule broken (p ++ loc) message actual =
      (ruleViolation rule broken loc message actual).map (Violation.under p) := by
  cases rule with
  | none => rfl
  | some a => exact violationIf_append p loc _ _ _

theorem textViolations_append (formats : Formats) (r : TextRules) (s : String) :
    textViolations formats r (p ++ loc) s =
      (textViolations formats r loc s).map (Violation.under p) := by
  simp only [textViolations, ruleViolation_append, List.map_append]

theorem numericViolations_append (integral : Bool) (r : NumberRules) (v : Json) :
    numericViolations integral r (p ++ loc) v =
      (numericViolations integral r loc v).map (Violation.under p) := by
  unfold numericViolations
  split
  · simp only [numberViolations, ruleViolation_append, List.map_append]
  · rfl

theorem countViolations_append (least most : Option Nat) (n : Nat) :
    countViolations least most (p ++ loc) n =
      (countViolations least most loc n).map (Violation.under p) := by
  simp only [countViolations, ruleViolation_append, List.map_append]

theorem missingViolations_append (properties : List (String × Node)) (ms : Members) :
    missingViolations properties ms (p ++ loc) =
      (missingViolations properties ms loc).map (Violation.under p) := by
  rw [missingViolations, missingViolations, List.map_filterMap]
  refine congrArg (List.filterMap · properties) (funext fun m => ?_)
  dsimp only
  split <;> rfl

end Leaves

theorem firstClean_map (f : Violation → Violation) (reports : List Report) :
    firstClean (reports.map (List.map f)) = (firstClean reports).map f := by
  have h : (reports.map (List.map f)).any List.isEmpty = reports.any List.isEmpty := by
    rw [List.any_map]
    exact congrArg reports.any (funext fun r => List.isEmpty_map)
  rw [firstClean, firstClean, h]
  split
  · rfl
  · rw [List.map_flatten]

/-! ### Judging values -/

namespace Environment

variable (env : Environment) (p : String)

/-- A text in front of the locator stays in front of all that a node reports. -/
def Shifts (n : Node) : Prop :=
  ∀ loc v, env.violations (p ++ loc) n v = (env.violations loc n v).map (Violation.under p)

variable {env p}

theorem memberViolations_append {properties : List (String × Node)} {additional : Additional}
    {oneOf : Option (List Node)}
    (ih : ∀ n ∈ (Rules.object properties additional oneOf).children, env.Shifts p n)
    (loc name : String) (v : Json) :
    env.memberViolations (p ++ loc) properties additional name v =
      (env.memberViolations loc properties additional name v).map (Violation.under p) := by
  cases hl : properties.lookup name with
  | some n =>
    rw [memberViolations_declared env _ hl, memberViolations_declared env _ hl,
      Locator.withKey_append]
    exact ih n (mem_children_of_declared hl) _ v
  | none =>
    rw [memberViolations_undeclared env _ hl, memberViolations_undeclared env _ hl]
    cases additional with
    | allowed | forbidden => rfl
    | schema n =>
      have hn : n ∈ (Rules.object properties (.schema n) oneOf).children :=
        mem_children_of_additional (List.mem_singleton_self n)
      -- the verdict alone counts, and it is the same under the text
      rw [additionalViolations_schema, additionalViolations_schema, Locator.withKey_append]
      simp only [ih n hn _ v, List.map_eq_nil_iff]
      split <;> rfl

theorem itemViolations_append {items : Items} (ih : ∀ n ∈ items.children, env.Shifts p n)
    (loc : String) (v : Json) :
    env.itemViolations (p ++ loc) items v =
      (env.itemViolations loc items v).map (Violation.under p) := by
  cases items with
  | free => rfl
  | single n => exact ih n (List.mem_singleton_self n) loc v
  | alternatives nodes =>
    have hall : (nodes.all fun n => !(env.violations (p ++ loc) n v).isEmpty) =
        nodes.all fun n => !(env.violations loc n v).isEmpty := by
      rw [Bool.eq_iff_iff, List.all_eq_true, List.all_eq_true]
      refine forall₂_congr fun n hn => ?_
      rw [ih n hn, List.isEmpty_map]
    rw [itemViolations_alternatives, itemViolations_alternatives, hall, violationIf_append]

theorem objectViolations_append {properties : List (String × Node)} {additional : Additional}
    {oneOf : Option (List Node)}
    (ih : ∀ n ∈ (Rules.object properties additional oneOf).children, env.Shifts p n)
    (loc : String) (ms : Members) :
    env.ruleViolations (p ++ loc) (.object properties additional oneOf) (.object ms) =
      (env.ruleViolations loc (.object properties additional oneOf) (.object ms)).map
        (Violation.under p) := by
  cases oneOf with
  | none =>
    rw [ruleViolations_members, ruleViolations_members, List.map_append, List.map_flatMap,
      missingViolations_append]
    simp only [memberViolations_append ih]
  | some nodes =>
    have hn (n : Node) (h : n ∈ nodes) : env.Shifts p n :=
      ih n (mem_children_of_oneOf h)
    rw [ruleViolations_oneOf, ruleViolations_oneOf, ← firstClean_map, List.map_map]
    exact congrArg firstClean (List.map_congr_left fun n h => hn n h loc _)

theorem arrayViolations_append {items : Items} {least most : Option Nat}
    (ih : ∀ n ∈ items.children, env.Shifts p n) (loc : String) (vs : List Json) :
    env.ruleViolations (p ++ loc) (.array items least most) (.array vs) =
      (env.ruleViolations loc (.array items least most) (.array vs)).map (Violation.under p) := by
  rw [ruleViolations_array, ruleViolations_array, List.map_append, List.map_flatMap,
    countViolations_append]
  simp only [Locator.withIndex_append, itemViolations_append ih]

theorem ruleViolations_append {rules : Rules} (ih : ∀ n ∈ rules.children, env.Shifts p n)
    (loc : String) (v : Json) :
    env.ruleViolations (p ++ loc) rules v =
      (env.ruleViolations loc rules v).map (Violation.under p) := by
  cases rules with
  | string r =>
    cases v with
    | string s => exact textViolations_append p loc env.formats r s
    | _ => rfl
  | number r | integer r => exact numericViolations_append p loc _ r v
  | boolean => cases v <;> rfl
  | null | any => rfl
  | object properties additional oneOf =>
    cases v with
    | object ms => exact objectViolations_append ih loc ms
    | _ => rfl
  | array items least most =>
    cases v with
    | array vs => exact arrayViolations_append ih loc vs
    | _ => rfl

/-- A text in front of the locator stays in front of all that is reported. -/
theorem violations_append (env : Environment) (p loc : String) (n : Node) (v : Json) :
    env.violations (p ++ loc) n v = (env.violations loc n v).map (Violation.under p) := by
  induction n using Node.inductionOn generalizing loc v with
  | step n ih =>
    by_cases hn : n.RefusesNull v
    · rw [violations_of_refusesNull env _ hn, violations_of_refusesNull env _ hn]
      rfl
    · rw [violations_of_not_refusesNull env _ hn, violations_of_not_refusesNull env _ hn,
        List.map_append]
      have hc : env.customViolations n.source (p ++ loc) v =
          (env.customViolations n.source loc v).map (Violation.under p) := by
        rw [customViolations, customViolations, List.map_map]
        rfl
      rw [hc, ruleViolations_append fun child h loc v => ih child h loc v]

/-- What is reported at a locator is what is reported without one, under the locator. -/
theorem violations_eq_map_under (env : Environment) (p : String) (n : Node) (v : Json) :
    env.violations p n v = (env.violations "" n v).map (Violation.under p) := by
  rw [← violations_append, String.append_empty]

theorem violations_eq_map_reroot (env : Environment) (p : String) (n : Node) (v : Json) :
    env.violations p n v = (env.violations Locator.root n v).map (Violation.reroot p) := by
  rw [violations_eq_map_under env p, violations_eq_map_under env Locator.root, List.map_map]
  exact List.map_congr_left fun r _ => (Violation.reroot_under_root p r).symm

end Environment

/-! ### Checking keywords -/

namespace Checker

section Keywords

variable (p loc key : String) (ms : Members) (integral : Bool)

theorem flag_append : flag (p ++ loc) key ms = (flag loc key ms).under p := by
  unfold flag
  split <;> rfl

theorem count_append : count (p ++ loc) key ms = (count loc key ms).under p := by
  unfold count
  split
  · rfl
  · split
    · split <;> rfl
    · rfl

theorem bound_append (exclusiveKey : String) :
    bound integral (p ++ loc) key exclusiveKey ms =
      (bound integral loc key exclusiveKey ms).under p := by
  unfold bound
  split
  · rfl
  · split
    · rw [flag_append, Checked.under_map]
    · rfl

theorem enumElements_append {α : Type} (element : Json → Option α) (message base : String) (i : Nat)
    (vs : List Json) :
    enumElements element message (p ++ base) i vs =
      (enumElements element message base i vs).under p := by
  induction vs generalizing i with
  | nil => rfl
  | cons v rest ih =>
    rw [enumElements, enumElements, Checked.under_map, Checked.under_both, ih,
      Locator.withIndex_append]
    cases element v <;> rfl

theorem enumeration_append {α : Type} (element : Json → Option α) (message : String) :
    enumeration element message (p ++ loc) ms = (enumeration element message loc ms).under p := by
  unfold enumeration
  split
  · rfl
  · rw [Locator.withKey_append, enumElements_append, Checked.under_map]
  · rfl

theorem pattern_append : pattern (p ++ loc) ms = (pattern loc ms).under p := by
  unfold pattern
  split
  · rfl
  · split <;> rfl
  · rfl

theorem format_append (c : Checker) : c.format (p ++ loc) ms = (c.format loc ms).under p := by
  unfold format
  split
  · rfl
  · split <;> rfl

theorem textRules_append (c : Checker) :
    c.textRules (p ++ loc) ms = (c.textRules loc ms).under p := by
  simp only [textRules, count_append, pattern_append, format_append, enumeration_append,
    Checked.under_map, Checked.under_both]

theorem numberRules_append :
    numberRules integral (p ++ loc) ms = (numberRules integral loc ms).under p := by
  simp only [numberRules, bound_append, enumeration_append, Checked.under_map, Checked.under_both]

theorem itemCounts_append : itemCounts (p ++ loc) ms = (itemCounts loc ms).under p := by
  simp only [itemCounts, count_append, Checked.under_both]

theorem unsupported_append (c : Checker) :
    c.unsupported (p ++ loc) ms = (c.unsupported loc ms).map (Violation.under p) := by
  unfold unsupported
  split
  · rw [List.map_filterMap]
    refine congrArg (List.filterMap · unsupportedKeywords) (funext fun key => ?_)
    rw [Option.map_map]
    rfl
  · rfl

end Keywords

/-! ### Checking documents -/

section Nodes

variable {c : Checker} {p loc : String} {ms : Members}

theorem kindRules_append {declared : Json} {object array object' array' : Unit → Checked Rules}
    (ho : object' () = (object ()).under p) (ha : array' () = (array ()).under p) :
    c.kindRules (p ++ loc) ms declared object' array' =
      (c.kindRules loc ms declared object array).under p := by
  unfold kindRules
  split
  · rw [textRules_append, Checked.under_map]
  · rw [numberRules_append, Checked.under_map]
  · rw [numberRules_append, Checked.under_map]
  · rfl
  · rfl
  · rfl
  · exact ho
  · exact ha
  · rfl

theorem assemble_append {object array object' array' : Unit → Checked Rules}
    (ho : object' () = (object ()).under p) (ha : array' () = (array ()).under p) :
    c.assemble (p ++ loc) ms object' array' = (c.assemble loc ms object array).under p := by
  unfold assemble
  split
  · rfl
  · simp only [flag_append, unsupported_append, kindRules_append ho ha, Checked.under_map,
      Checked.under_both, Checked.under_ofReport]

/-- A text in front of the locator stays in front of all that is reported about a document. -/
def Shifts (c : Checker) (p : String) (v : Json) : Prop :=
  ∀ loc, c.node (p ++ loc) v = (c.node loc v).under p

theorem memberNodes_append (ih : ∀ name v, (name, v) ∈ ms → c.Shifts p v) (base : String) :
    c.memberNodes (p ++ base) ms = (c.memberNodes base ms).under p := by
  induction ms with
  | nil => rfl
  | cons m rest hr =>
    obtain ⟨name, v⟩ := m
    rw [memberNodes, memberNodes, Locator.withKey_append, ih name v List.mem_cons_self,
      hr fun other w h => ih other w (List.mem_cons_of_mem _ h), Checked.under_map,
      Checked.under_both]

theorem elementNodes_append {vs : List Json} (ih : ∀ v ∈ vs, c.Shifts p v) (base : String)
    (i : Nat) : c.elementNodes (p ++ base) i vs = (c.elementNodes base i vs).under p := by
  induction vs generalizing i with
  | nil => rfl
  | cons v rest hr =>
    rw [elementNodes, elementNodes, Locator.withIndex_append, ih v List.mem_cons_self,
      hr fun w h => ih w (List.mem_cons_of_mem _ h), Checked.under_map, Checked.under_both]

section Below

/-! The keywords that hold nodes, given that the text stays in front below them. -/

variable {v : Json}

theorem additionalOf_append (ih : c.Shifts p v) (loc : String) :
    c.additionalOf (p ++ loc) v = (c.additionalOf loc v).under p := by
  unfold additionalOf
  split
  · rfl
  · rfl
  · rw [Locator.withKey_append, ih, Checked.under_map]

theorem propertiesOf_append (ih : ∀ w ∈ v.children, c.Shifts p w) (loc : String) :
    c.propertiesOf (p ++ loc) v = (c.propertiesOf loc v).under p := by
  cases v with
  | object declared =>
    rw [propertiesOf, propertiesOf, Locator.withKey_append]
    exact memberNodes_append (fun name w h => ih w (Json.mem_children_of_mem h)) _
  | _ => rfl

theorem oneOfOf_append (ih : ∀ w ∈ v.children, c.Shifts p w) (loc : String) :
    c.oneOfOf (p ++ loc) v = (c.oneOfOf loc v).under p := by
  cases v with
  | array vs =>
    have hvs : ∀ w ∈ vs, c.Shifts p w := ih
    rw [oneOfOf, oneOfOf, Locator.withKey_append, elementNodes_append hvs, Checked.under_map]
  | _ => rfl

theorem itemsOf_append (ih : c.Shifts p v) (ihc : ∀ w ∈ v.children, c.Shifts p w) (loc : String) :
    c.itemsOf (p ++ loc) v = (c.itemsOf loc v).under p := by
  unfold itemsOf
  split
  · rename_i vs
    have hvs : ∀ w ∈ vs, c.Shifts p w := ihc
    rw [Locator.withKey_append, elementNodes_append hvs, Checked.under_map]
  · rw [Locator.withKey_append, ih, Checked.under_map]

/-- A keyword that holds nodes. -/
theorem elim_append {α : Type} {key : String} {absent : α} {read read' : Json → Checked α}
    (h : ∀ v, ms.lookup key = some v → read' v = (read v).under p) :
    (ms.lookup key).elim (.ok absent) read' = ((ms.lookup key).elim (.ok absent) read).under p := by
  cases hl : ms.lookup key with
  | none => rfl
  | some v => exact h v hl

end Below

theorem shifts_of_children {d : Json}
    (ih : ∀ v ∈ d.children, c.Shifts p v ∧ ∀ w ∈ v.children, c.Shifts p w) : c.Shifts p d := by
  intro loc
  cases d with
  | string s =>
    rw [node, node]
    exact assemble_append rfl rfl
  | object ms =>
    have hv {key : String} {v : Json} (hl : ms.lookup key = some v) :=
      ih v (Json.mem_children_of_lookup hl)
    rw [node, node]
    refine assemble_append ?_ ?_
    · simp only [additional_eq, properties_eq, oneOf_eq, Checked.under_map, Checked.under_both]
      rw [elim_append fun v hl => additionalOf_append (hv hl).1 loc,
        elim_append fun v hl => propertiesOf_append (hv hl).2 loc,
        elim_append fun v hl => oneOfOf_append (hv hl).2 loc]
    · simp only [items_eq, itemCounts_append, Checked.under_map, Checked.under_both]
      rw [elim_append fun v hl => itemsOf_append (hv hl).1 (hv hl).2 loc]
  | _ => rfl

/-- A text in front of the locator stays in front of all that is reported about a document. -/
theorem node_append (c : Checker) (p loc : String) (d : Json) :
    c.node (p ++ loc) d = (c.node loc d).under p := by
  induction d using Json.inductionOnTwo generalizing loc with
  | step d ih => exact shifts_of_children ih loc

/-- What is found at a locator is what is found without one, under the locator. -/
theorem node_eq_under (c : Checker) (p : String) (d : Json) :
    c.node p d = (c.node "" d).under p := by
  rw [← node_append, String.append_empty]

/-- The node does not depend on the locator. -/
theorem value?_node (c : Checker) (p : String) (d : Json) :
    (c.node p d).value? = (c.check d).value? := by
  rw [check, node_eq_under c p, node_eq_under c Locator.root, Checked.value?_under,
    Checked.value?_under]

theorem errors_node_eq_map_reroot (c : Checker) (p : String) (d : Json) :
    (c.node p d).errors = (c.check d).errors.map (Violation.reroot p) := by
  rw [check, node_eq_under c p, node_eq_under c Locator.root, Checked.errors_under,
    Checked.errors_under, List.map_map]
  exact List.map_congr_left fun r _ => (Violation.reroot_under_root p r).symm

end Nodes

end Checker

end ShapeCheck

import ShapeCheck.Format.Builtin
import ShapeCheck.Proofs.Walk

/-!
# Alternatives

An object node with a list of alternatives asks only that one of them take the object; an array
node with a list of nodes asks the same for each element.

* `Environment.violations_oneOf`: what such an object node reports, if no custom validation objects;
* `Environment.itemViolations_alternatives_eq_nil_iff`: when an element is taken;
* `Environment.alternatives_decide`: one alternative that is silent is enough, and if there is none
  then all of them are heard, in order.

The two lists differ where they are empty: every object is taken, and no element is.
-/

namespace ShapeCheck

namespace Environment

variable {env : Environment} {loc : String} {required : Bool} {source ms : Json.Members}
  {properties : List (String × Node)} {additional : Additional} {nodes : List Node}

theorem customViolations_of_silent {v : Json} (h : env.customs.messages source v = []) :
    env.customViolations source loc v = [] := by
  rw [customViolations, h, List.map_nil]

/-- An object node with alternatives reports what they report, unless one of them is silent. -/
theorem violations_oneOf (h : env.customs.messages source (.object ms) = []) :
    env.violations loc (.mk required source (.object properties additional (some nodes)))
        (.object ms) =
      firstClean (nodes.map fun n => env.violations loc n (.object ms)) := by
  have hn : ¬ (Node.mk required source (.object properties additional (some nodes))).RefusesNull
      (.object ms) := by
    rintro ⟨hv, -⟩
    cases hv
  rw [violations_of_not_refusesNull env loc hn, Node.source, Node.rules,
    customViolations_of_silent h, List.nil_append, ruleViolations_oneOf]

/-- An element is taken if one of the nodes takes it. -/
theorem itemViolations_alternatives_eq_nil_iff {v : Json} :
    env.itemViolations loc (.alternatives nodes) v = [] ↔
      ∃ n ∈ nodes, env.violations loc n v = [] := by
  rw [itemViolations_alternatives, violationIf_eq_nil_iff, List.all_eq_false]
  simp

/-- **One alternative that takes the object is enough.** An object node with alternatives is silent
if one of them is, and also if there are none; otherwise it reports what they report, one after the
other. Unless there are none, its verdict on the object is that of a list of nodes on an element. -/
theorem alternatives_decide (env : Environment) (loc : String)
    (h : env.customs.messages source (.object ms) = []) :
    (env.violations loc (.mk required source (.object properties additional (some nodes)))
          (.object ms) = [] ↔
        nodes = [] ∨ ∃ n ∈ nodes, env.violations loc n (.object ms) = []) ∧
      ((∀ n ∈ nodes, env.violations loc n (.object ms) ≠ []) →
        env.violations loc (.mk required source (.object properties additional (some nodes)))
          (.object ms) = nodes.flatMap fun n => env.violations loc n (.object ms)) ∧
      (nodes ≠ [] →
        (env.violations loc (.mk required source (.object properties additional (some nodes)))
            (.object ms) = [] ↔
          env.itemViolations loc (.alternatives nodes) (.object ms) = [])) := by
  have hs : env.violations loc (.mk required source (.object properties additional (some nodes)))
      (.object ms) = [] ↔ nodes = [] ∨ ∃ n ∈ nodes, env.violations loc n (.object ms) = [] := by
    rw [violations_oneOf h, firstClean_eq_nil_iff, List.map_eq_nil_iff, List.mem_map]
  refine ⟨hs, fun hr => ?_, fun hne => ?_⟩
  · have hm : [] ∉ nodes.map fun n => env.violations loc n (.object ms) := by
      intro hm
      obtain ⟨n, hn, he⟩ := List.mem_map.1 hm
      exact hr n hn he
    rw [violations_oneOf h, firstClean_of_notMem hm, List.flatMap_def]
  · rw [hs, itemViolations_alternatives_eq_nil_iff, or_iff_right hne]

/-- Two alternatives that take no object: a text, and alternatives again. -/
def scalarNodes : List Node :=
  [.mk false [] (.string ⟨none, none, none, none, none⟩),
    .mk false [] (.object [] .forbidden (some [.mk false [] (.number ⟨none, none, none⟩),
      .mk false [] .boolean]))]

theorem scalarNodes_decide :
    Customs.messages .empty [] (.object []) = [] ∧
      (∀ n ∈ scalarNodes, violations ⟨.empty, .empty⟩ "$['a']" n (.object []) ≠ []) ∧
      violations ⟨.empty, .empty⟩ "$['a']"
          (.mk false [] (.object [] .allowed (some scalarNodes))) (.object []) =
        scalarNodes.flatMap fun n => violations ⟨.empty, .empty⟩ "$['a']" n (.object []) := by
  have hr : ∀ n ∈ scalarNodes, violations ⟨.empty, .empty⟩ "$['a']" n (.object []) ≠ [] := by
    intro n hn
    rw [scalarNodes, List.mem_cons, List.mem_singleton] at hn
    rcases hn with rfl | rfl <;> exact List.cons_ne_nil _ _
  exact ⟨rfl, hr, (alternatives_decide ⟨.empty, .empty⟩ "$['a']" rfl).2.1 hr⟩

-- All that is wrong with each alternative is heard, also with those of an alternative.
example : (violations ⟨.empty, .empty⟩ "$['a']"
    (.mk false [] (.object [] .allowed (some scalarNodes))) (.object [])).map Violation.message =
      ["must be of type [string]", "must be of type [number]", "must be of type [boolean]"] := rfl

/-- An object without alternatives to choose from. -/
def emptyChoice : Json := .object [("kind", .string "object"), ("oneOf", .array [])]

/-- What the document is compiled to. -/
def emptyChoiceNode : Node :=
  .mk false [("kind", .string "object")] (.object [] .forbidden (some []))

/-- Without alternatives there is none that takes the object, and the object is taken; an element
is not. -/
theorem emptyChoice_takes_object :
    Checker.check ⟨.builtin, true⟩ emptyChoice = .ok emptyChoiceNode ∧
      emptyChoiceNode.rules = .object [] .forbidden (some []) ∧
      Customs.messages .empty emptyChoiceNode.source (.object []) = [] ∧
      ¬ (violations ⟨.builtin, .empty⟩ Locator.root emptyChoiceNode (.object []) = [] ↔
        ∃ n ∈ ([] : List Node),
          violations ⟨.builtin, .empty⟩ Locator.root n (.object []) = []) ∧
      itemViolations ⟨.builtin, .empty⟩ Locator.root (.alternatives []) (.object []) ≠ [] := by
  refine ⟨rfl, rfl, rfl, fun h => ?_, List.cons_ne_nil _ _⟩
  obtain ⟨n, hn, -⟩ := h.1 rfl
  exact List.not_mem_nil hn

end Environment

end ShapeCheck
